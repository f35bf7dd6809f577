/-! How much is logged. -/
namespace RuntimeHandover.Settings

inductive LogLevel where
  | trace
  | debug
  | info
  | warn
  | error
  deriving DecidableEq, Repr

namespace LogLevel

instance : Inhabited LogLevel := ⟨.info⟩

def name : LogLevel → String
  | .trace => "trace"
  | .debug => "debug"
  | .info => "info"
  | .warn => "warn"
  | .error => "error"

def title (level : LogLevel) : String :=
  String.ofList (level.name.toList.map Char.toUpper)

/-- Only the letters of ASCII have a small form that occurs in a name. -/
def ofName? (name : String) : Option LogLevel :=
  match String.ofList (name.toList.map Char.toLower) with
  | "trace" => some .trace
  | "debug" => some .debug
  | "info" => some .info
  | "warn" => some .warn
  | "warning" => some .warn
  | "error" => some .error
  | _ => none

def parse (name : String) : Except String LogLevel :=
  match ofName? name with
  | some level => .ok level
  | none => .error s!"Invalid log level: {name}"

def shows (threshold level : LogLevel) : Bool :=
  rank level ≤ rank threshold
where
  rank : LogLevel → Nat
    | .error => 0
    | .warn => 1
    | .info => 2
    | .debug => 3
    | .trace => 4

end LogLevel

end RuntimeHandover.Settings
