import RuntimeHandover.CommandLine.Program
import RuntimeHandover.Rehearsal.World

/-! The program in a rehearsed world. -/
namespace RuntimeHandover.Rehearsal
open CommandLine Files Settings

namespace World

def openForMore (disk : Disk) (path : Path) : Except OsFault Disk := do
  let spot ← SetupStep.writeSpot disk.tree disk.home path
  match disk.tree.at? spot with
  | some _ => .ok disk
  | none => .ok {disk with tree := disk.tree.put spot (.file 0o644 [])}

/-- A log file's directories are made when it cannot be opened without. -/
def openLog (file : LogFile) (disk : Disk) : Except LogFault Unit × Disk :=
  let path := file.directory.join ⟨file.name⟩
  match openForMore disk path with
  | .ok disk => (.ok (), disk)
  | .error _ =>
    match disk.makeDirectories noMishap file.directory with
    | (.error fault, disk) => (.error (.directory fault), disk)
    | (.ok (), disk) =>
      match openForMore disk path with
      | .ok disk => (.ok (), disk)
      | .error fault => (.error (.file fault), disk)

def host (build : Build) (environment : String → Option String)
    (panicked : String → String := panicText 1 "unknown") : Host World where
  build := build
  environment := environment
  text path := do return (← get).disk.text path
  openLog file := onPart (·.disk) (fun world disk => {world with disk}) (openLog file)
  panicked := panicked
  ensure := ensure environment

end World

end RuntimeHandover.Rehearsal
