import ModemLink.Proofs.Session.Execution
import ModemLink.Session.Enumeration

/-!
# The header that is checked

A configuration descriptor is read twice. The first answer has the header that is checked, and the
second answer is what is used, header included. Its length is the one that the checked header
announces (`readConfigDescriptor_ok`). Its header is the checked one if the device gives the same
header both times (`header_of_configure`), and need not even be valid otherwise
(`unchecked_header_is_used`).
-/

namespace ModemLink

namespace ConfigHeader

theorem parse_take {bytes : Bytes} {header : ConfigHeader}
    (parsed : parse (bytes.take size) = .ok header) : parse bytes = .ok header := by
  rw [← List.take_append_drop size bytes]
  revert parsed
  unfold parse
  split
  · rename_i shape
    rw [shape]
    exact id
  · nofun

theorem exists_parse {bytes : Bytes} (long : size ≤ bytes.length) :
    ∃ header, parse bytes = .ok header := by
  match bytes, long with
  | _ :: _ :: _ :: _ :: _ :: _ :: _ :: _ :: _ :: _, _ => exact ⟨_, rfl⟩

theorem size_le_of_isValid {header : ConfigHeader} (valid : header.isValid = true) :
    size ≤ header.totalLength.toNat := by
  simp only [isValid, Bool.and_eq_true, decide_eq_true_eq] at valid
  exact valid.1.1.2

end ConfigHeader

namespace Session

open Act

variable {η α β : Type} {session after : Session η} {b : β}

theorem exec_orRefuse_bind {result : Except DescriptorFault α} {next : α → Act η β}
    (done : (orRefuse result >>= next).exec session = (.ok b, after)) :
    ∃ a, result = .ok a ∧ (next a).exec session = (.ok b, after) := by
  cases result with
  | ok a => exact ⟨a, rfl, done⟩
  | error fault => cases done

variable [Host η] {index : UInt8} {raw : Bytes}

/-- An action that has got past reading a descriptor. -/
theorem exec_getDescriptor_bind {kind : DescriptorKind} {language : UInt16} {length : Nat}
    {next : Bytes → Act η β}
    (done : (Act.getDescriptor kind index language length >>= fun answer =>
      orTransport answer >>= next).exec session = (.ok b, after)) :
    ∃ (bytes : Bytes) (middle : Session η),
      Host.getDescriptor kind index language length session.host = (.ok bytes, middle.host) ∧
      (next (bytes.take length)).exec middle = (.ok b, after) := by
  obtain ⟨answer, middle, asked, rest⟩ := exec_bind_succeeded done
  have ended : answer =
        (Host.getDescriptor kind index language length session.host).1.map (·.take length) ∧
      middle.host = (Host.getDescriptor kind index language length session.host).2 := by
    cases asked
    exact ⟨rfl, rfl⟩
  obtain ⟨rfl, reached⟩ := ended
  cases answered : Host.getDescriptor kind index language length session.host with
  | mk result host =>
      rw [answered] at reached rest
      cases result with
      | ok bytes => exact ⟨bytes, middle, by rw [reached], rest⟩
      | error e => cases rest

/-- The first answer has a valid header, and the second one is as long as that header says. -/
theorem readConfigDescriptor_ok
    (read : (readConfigDescriptor index).exec session = (.ok raw, after)) :
    ∃ first second header between,
      Host.getDescriptor .configuration index 0 ConfigHeader.size session.host =
        (.ok first, between) ∧
      ConfigHeader.parse (first.take ConfigHeader.size) = .ok header ∧ header.isValid = true ∧
      (Host.getDescriptor .configuration index 0 header.totalLength.toNat between).1 = .ok second ∧
      raw = second.take header.totalLength.toNat ∧ raw.length = header.totalLength.toNat := by
  obtain ⟨first, middle, answered, checked⟩ := exec_getDescriptor_bind read
  obtain ⟨header, parsed, checked⟩ := exec_orRefuse_bind checked
  dsimp only at checked
  split at checked
  · cases checked
  · rename_i valid
    obtain ⟨second, final, answered', used⟩ := exec_getDescriptor_bind checked
    split at used
    · cases used
    · rename_i long
      cases used
      refine ⟨first, second, header, middle.host, answered, parsed, by simpa using valid,
        by rw [answered'], rfl, ?_⟩
      exact Nat.le_antisymm (List.length_take_le ..) (Nat.le_of_not_lt long)

/-- What is used has a header, which is the checked one if both answers begin alike. -/
theorem header_of_readConfigDescriptor
    (read : (readConfigDescriptor index).exec session = (.ok raw, after)) :
    ∃ first checked used,
      (Host.getDescriptor .configuration index 0 ConfigHeader.size session.host).1 = .ok first ∧
      ConfigHeader.parse (first.take ConfigHeader.size) = .ok checked ∧ checked.isValid = true ∧
      raw.length = checked.totalLength.toNat ∧ ConfigHeader.parse raw = .ok used ∧
      (raw.take ConfigHeader.size = first.take ConfigHeader.size → used = checked) := by
  obtain ⟨first, second, checked, between, answered, parsed, valid, -, -, long⟩ :=
    readConfigDescriptor_ok read
  obtain ⟨used, parsed'⟩ := ConfigHeader.exists_parse (long ▸ ConfigHeader.size_le_of_isValid valid)
  refine ⟨first, checked, used, by rw [answered], parsed, valid, long, parsed', fun alike => ?_⟩
  have whole := ConfigHeader.parse_take (alike ▸ parsed)
  exact Except.ok.inj (parsed'.symm.trans whole)

/-- The value of the configuration and its remote wakeup are those of the header that is used. -/
theorem header_of_configure {mux : MuxConfig} {config : UsbConfiguration}
    (done : (configure index mux).exec session = (.ok config, after)) :
    ∃ raw first checked used,
      (Host.getDescriptor .configuration index 0 ConfigHeader.size session.host).1 = .ok first ∧
      ConfigHeader.parse (first.take ConfigHeader.size) = .ok checked ∧ checked.isValid = true ∧
      raw.length = checked.totalLength.toNat ∧ ConfigHeader.parse raw = .ok used ∧
      config.value = used.value ∧ config.remoteWakeup = used.remoteWakeup ∧
      (raw.take ConfigHeader.size = first.take ConfigHeader.size → used = checked) := by
  obtain ⟨raw, middle, read, rest⟩ := exec_bind_succeeded done
  obtain ⟨first, checked, used, answered, parsed, valid, long, parsed', alike⟩ :=
    header_of_readConfigDescriptor read
  obtain ⟨header, same, rest⟩ := exec_orRefuse_bind rest
  obtain rfl : used = header := Except.ok.inj (parsed'.symm.trans same)
  obtain ⟨plan, between, planned, rest⟩ := exec_bind_succeeded rest
  obtain ⟨selected, reached, asked, rest⟩ := exec_bind_succeeded rest
  obtain ⟨pipes, built⟩ : ∃ pipes, UsbConfiguration.build used plan pipes mux = .ok config := by
    cases selected with
    | error e =>
        obtain ⟨_, _, _, thrown⟩ := exec_bind_succeeded rest
        cases thrown
    | ok pipes =>
        dsimp only at rest
        split at rest
        · rename_i built
          cases rest
          exact ⟨pipes, built⟩
        · obtain ⟨_, _, _, thrown⟩ := exec_bind_succeeded rest
          cases thrown
  obtain ⟨infos, -, -, rfl⟩ := UsbConfiguration.build_ok built
  exact ⟨raw, first, checked, used, answered, parsed, valid, long, parsed', rfl, rfl, alike⟩

end Session

/-- A device whose second configuration descriptor has a header that is not valid. -/
structure Turncoat where
  asked : Bool := false

namespace Turncoat

def first : Bytes := [9, 2, 9, 0, 1, 1, 0, 0x80, 0xFA]

def second : Bytes := [0, 2, 9, 0, 1, 7, 0, 0xA0, 0xFA]

instance : Host Turncoat where
  getDescriptor _ _ _ _ host := (.ok (if host.asked then second else first), ⟨true⟩)
  selectConfiguration _ _ host := (.ok [], host)
  releaseInterfaces host := host
  bulkIn _ _ _ host := (.error .timeout, host)
  bulkOut _ data _ host := (.ok data.length, host)
  interruptIn _ _ _ host := (.error .timeout, host)
  resetPipe _ host := (.ok (), host)
  controlOut _ host := (.ok (), host)
  setIdle _ host := (.ok (), host)
  speed _ := .high
  startLoop _ host := (.ok (), host)
  stopLoop _ _ _ host := (.ok (), host)

end Turncoat

theorem Session.unchecked_header_is_used (key : AdapterKey) (store : Store)
    (options : SessionOptions) :
    ((readConfigDescriptor 0).exec (Session.create key ({} : Turncoat) store options)).1 =
        .ok Turncoat.second ∧
      ∃ used, ConfigHeader.parse Turncoat.second = .ok used ∧ used.isValid = false ∧
        used.value = 7 ∧ used.remoteWakeup = true :=
  ⟨rfl, _, rfl, rfl, rfl, rfl⟩

end ModemLink
