import RuntimeHandover.Rehearsal.Host

/-! The program on this machine. The files and the environment that it may look at
are read beforehand; the handover itself is rehearsed, with no network and no engine. -/
namespace RuntimeHandover
open Cluster CommandLine Files Rehearsal Text

def readable (flags : Flags) : List String :=
  ["settings", "show-saved"].filterMap flags.get? ++
    ["namespace", "ca.crt", "token"].map fun name => (accountFile name).shown

/-- A file as it stands on this machine, put at its place in a rehearsal. What is there
and cannot be read stands as a directory. -/
def recalled (disk : Disk) (name : String) : IO Disk := do
  let path := Path.ofString name
  let above := (path.parent?.toList.filter fun parent => !parent.isEmpty).map
    SetupStep.makeDirectory
  try
    let contents ← IO.FS.readBinFile name
    pure (SetupStep.applyAll disk (above ++ [.write path contents.toList 0o644]))
  catch
    | .noFileOrDirectory .. => pure disk
    | _ => pure (SetupStep.applyAll disk (above ++ [.makeDirectory path]))

def workingDirectory : Spot := [bytesOf "work"]

def emptyDisk : Disk where
  tree := ⟨[(workingDirectory, .directory)]⟩
  home := workingDirectory
  tags attempt := bytesOf (toString (100000 + attempt))

def emptyWorld (disk : Disk) : World where
  disk := disk
  docker := { name := "docker", present := false }
  roster := { containers := [], ids := toString, made := 0, calls := [], refuse := fun _ _ => none }

def looked : List String := [hostVariable, portVariable, filterVariable]

end RuntimeHandover

open RuntimeHandover
def main (args : List String) : IO UInt32 := do
  let known ← looked.mapM fun name => do pure (name, ← IO.getEnv name)
  let environment name := (known.lookup name).join
  let disk ← (readable (CommandLine.Flags.ofArguments args)).foldlM recalled emptyDisk
  let host := Rehearsal.World.host {} environment
  let (report, _) := (CommandLine.program host args).run (emptyWorld disk)
  if let some config := report.logged then
    IO.println ("Running CRI proxy bootstrap with config: " ++ config)
  IO.print report.stdout
  IO.eprint report.stderr
  pure (UInt32.ofNat report.exit)
