import ModemLink.Codec.FlowControl
import ModemLink.Codec.Frame
import ModemLink.Report.Basic

/-!
# Reports of frames and flow-control messages
-/

namespace ModemLink

def FrameKind.name : FrameKind → String
  | control => "Control"
  | uih => "Uih"
  | ui => "Ui"

namespace Decoded

def name : Decoded → String
  | passthrough _ => "Passthrough"
  | payload _ _ => "Payload"
  | notAFrame _ => "NotAFrame"
  | dropped _ => "Dropped"

/-- What is reported of one outcome only. -/
def details : Decoded → List (String × Report)
  | passthrough _ => []
  | payload dlci _ => [("dlci", report dlci)]
  | notAFrame length => [("len", report length)]
  | dropped .controlChannel => [("reason", report "ControlChannel")]
  | dropped (.dlciMismatch expected found) =>
      [("reason", report "DlciMismatch"), ("expected", report expected), ("found", report found)]
  | dropped .truncated => [("reason", report "Truncated")]
  | dropped .fcsMismatch => [("reason", report "FcsMismatch")]

instance : Reportable Decoded :=
  ⟨fun d => .fields ([("kind", report d.name), ("payload", report d.data?),
    ("effective_len", report d.effectiveLength)] ++ d.details)⟩

end Decoded

instance : Reportable Channels :=
  ⟨fun c => .fields [("control_dlci", report c.control), ("data_dlci", report c.data)]⟩

instance : Reportable FlowControl :=
  ⟨fun m => .fields [
    ("mux_id", report m.muxId), ("command", report m.command.name),
    ("transaction_id", report m.transaction), ("cmd_type", report m.type),
    ("flow_ctrl_seq_num_ip", report m.sequence), ("qos_id", report m.qos),
    ("is_request", report m.isRequest), ("code", report m.command.code),
    ("bytes", report m.encode), ("ack", report m.ack.encode)]⟩

end ModemLink
