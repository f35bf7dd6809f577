import RuntimeHandover.Failure
import RuntimeHandover.Files.Fault

/-! Where a log file goes: a directory and a name in it. -/
namespace RuntimeHandover.Settings
open Files Text

structure LogFile where
  directory : Path
  name : Name
  deriving DecidableEq, Repr

/-- A path without a directory stands in the working directory; one without a name
is no log file. -/
def LogFile.ofPath (path : Path) : Except Failure LogFile :=
  match path.fileName? with
  | none => .error ⟨.config, s!"invalid log file path {path.quoted}"⟩
  | some name =>
    let directory := (path.parent?.filter fun parent => !parent.isEmpty).getD ⟨dot⟩
    .ok ⟨directory, name⟩

/-- A log file cannot be opened when its directory or the file itself cannot be made. -/
inductive LogFault where
  | directory (fault : OsFault)
  | file (fault : OsFault)
  deriving DecidableEq, Repr

def LogFault.message : LogFault → String
  | .directory fault => unmade "failed to create log directory" fault
  | .file fault => unmade "failed to create log file" fault
where
  unmade (context : String) (fault : OsFault) : String :=
    "initializing rolling file appender failed: InitError " ++
      s!"\x7b context: {quoted context}, source: {fault.shown} \x7d"

end RuntimeHandover.Settings
