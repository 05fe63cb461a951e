/-!
# Command-line arguments

Options take their value attached (`--vid=0x1`, `-lwarn`) or from the next argument, which does not
begin with a dash. Nothing may be given twice.
-/

namespace ModemLink

structure Arguments where
  config : Option String := none
  saveConfig : Bool := false
  listDevices : Bool := false
  logLevel : Option String := none
  vendorId : Option String := none
  productId : Option String := none
  «open» : Bool := false
  deriving DecidableEq, Repr

inductive Invocation where
  | run (arguments : Arguments)
  | shortHelp
  | longHelp
  | version
  | invalid
  deriving DecidableEq, Repr

namespace Arguments

inductive Valued where
  | config
  | logLevel
  | vendorId
  | productId
  deriving DecidableEq, Repr

inductive Flag where
  | saveConfig
  | listDevices
  | «open»
  deriving DecidableEq, Repr

inductive Name where
  | valued (option : Valued)
  | flag (flag : Flag)
  | answer (invocation : Invocation)

def long? : String → Option Name
  | "config" => some (.valued .config)
  | "log-level" => some (.valued .logLevel)
  | "vid" => some (.valued .vendorId)
  | "pid" => some (.valued .productId)
  | "save-config" => some (.flag .saveConfig)
  | "list-devices" => some (.flag .listDevices)
  | "open" => some (.flag .open)
  | "help" => some (.answer .longHelp)
  | "version" => some (.answer .version)
  | _ => none

def short? : Char → Option Name
  | 'c' => some (.valued .config)
  | 'l' => some (.valued .logLevel)
  | 'h' => some (.answer .shortHelp)
  | 'V' => some (.answer .version)
  | _ => none

def get (arguments : Arguments) : Valued → Option String
  | .config => arguments.config
  | .logLevel => arguments.logLevel
  | .vendorId => arguments.vendorId
  | .productId => arguments.productId

/-- An option given for the first time. A path is not empty. -/
def set? (arguments : Arguments) (option : Valued) (value : String) : Option Arguments :=
  if (arguments.get option).isSome then none
  else
    match option with
    | .config => if value.isEmpty then none else some { arguments with config := some value }
    | .logLevel => some { arguments with logLevel := some value }
    | .vendorId => some { arguments with vendorId := some value }
    | .productId => some { arguments with productId := some value }

/-- A flag given for the first time. -/
def raise? (arguments : Arguments) : Flag → Option Arguments
  | .saveConfig => if arguments.saveConfig then none else some { arguments with saveConfig := true }
  | .listDevices =>
      if arguments.listDevices then none else some { arguments with listDevices := true }
  | .open => if arguments.open then none else some { arguments with «open» := true }

/-- What follows a letter or a name, without the equals sign. -/
def attached : List Char → Option String
  | [] => none
  | '=' :: value => some (String.ofList value)
  | value => some (String.ofList value)

/-- The option that an argument names, with an attached value. Only an option takes a value, but a
letter that asks for an answer gets it whatever follows. -/
def option? (argument : String) : Option (Name × Option String) :=
  match argument.toList with
  | '-' :: '-' :: cs =>
      let (name, rest) := cs.span (· != '=')
      match long? (String.ofList name), attached rest with
      | some (.valued option), value => some (.valued option, value)
      | some name, none => some (name, none)
      | _, _ => none
  | '-' :: letter :: rest => (short? letter).map fun name => (name, attached rest)
  | _ => none

/-- Arguments that can be the value of the option before them. -/
def isValue (argument : String) : Bool := !argument.startsWith "-" || argument.length = 1

def collect (arguments : Arguments) : List String → Invocation
  | [] => .run arguments
  | argument :: rest =>
      if argument = "--" then if rest.isEmpty then .run arguments else .invalid
      else
        match option? argument with
        | none => .invalid
        | some (.answer invocation, _) => invocation
        | some (.flag flag, _) =>
            match arguments.raise? flag with
            | some arguments => collect arguments rest
            | none => .invalid
        | some (.valued option, some value) =>
            match arguments.set? option value with
            | some arguments => collect arguments rest
            | none => .invalid
        | some (.valued option, none) =>
            match rest with
            | [] => .invalid
            | value :: rest =>
                if !isValue value then .invalid
                else
                  match arguments.set? option value with
                  | some arguments => collect arguments rest
                  | none => .invalid

end Arguments

def Invocation.ofArguments (arguments : List String) : Invocation :=
  Arguments.collect {} arguments

end ModemLink
