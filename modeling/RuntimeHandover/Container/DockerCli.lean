import RuntimeHandover.Container.Engine
import RuntimeHandover.Text.Blank
import RuntimeHandover.Text.Utf8

/-! An engine reached through the docker command line. Each call runs the program
once; what it wrote to its standard error is the reason when it fails. -/
namespace RuntimeHandover.Container
open Text

structure Output where
  exit : Int
  stdout : List UInt8
  stderr : List UInt8
  deriving DecidableEq, Repr

def Output.succeeded (output : Output) : Bool := output.exit = 0

/-- A program by its name and how to run it; a program that cannot be run gives the
system's reason. -/
structure Program (σ : Type) where
  name : String
  run : List String → StateM σ (Except String Output)

def trimmed (bytes : List UInt8) : String :=
  String.ofList (trim (Utf8.lossy bytes))

def createArgs (spec : Spec) : List String :=
  ["create", "--name", spec.name, "--network", spec.networkMode,
    "--restart", spec.restartPolicy] ++
  spec.labels.flatMap (fun label => ["--label", label.1 ++ "=" ++ label.2]) ++
  spec.env.flatMap (fun setting => ["--env", setting]) ++
  spec.binds.flatMap (fun bind => ["--volume", bind]) ++
  spec.image :: spec.cmd

def listedIds (stdout : List UInt8) : List String :=
  (((lines (Utf8.lossy stdout)).map trim).filter fun id => !id.isEmpty).map String.ofList

/-- The lines of a stream, without the line feeds that end them and the carriage
returns before those. -/
def streamLines (bytes : List UInt8) : List (List UInt8) :=
  let runs := pieces (· == 0x0A) bytes
  let withoutReturn (line : List UInt8) : List UInt8 :=
    if line.getLast? = some 0x0D then line.dropLast else line
  runs.dropLast.map withoutReturn ++ (runs.getLast?.filter fun last => !last.isEmpty).toList

def streamFlaw? (bytes : List UInt8) : Option Utf8.Flaw :=
  (streamLines bytes).findSome? Utf8.flaw?

namespace DockerCli

variable {σ : Type}

def demand (program : Program σ) (host : String) (args : List String) (kind : FailureKind)
    (unspawned failed : String) : Act σ Output := do
  match ← (program.run (["--host", host] ++ args) : StateM σ _) with
  | .error reason => throw ⟨kind, s!"{unspawned}: {reason}"⟩
  | .ok output =>
    if output.succeeded then pure output
    else throw ⟨kind, s!"{failed}: {trimmed output.stderr}"⟩

def list (program : Program σ) (host label : String) : Act σ (List String) := do
  let words := "failed to list containers"
  let output ← demand program host
    ["ps", "--all", "--quiet", "--no-trunc", "--filter", "label=" ++ label] .container words words
  pure (listedIds output.stdout)

def remove (program : Program σ) (host id : String) : Act σ Unit := do
  let words := s!"failed to remove {id}"
  let _ ← demand program host ["rm", "--force", id] .container words words

/-- The progress of a pull is read as text, line by line; a standard error that is
no text says nothing. -/
def pull (program : Program σ) (host image : String) : Act σ Unit := do
  match ← (program.run ["--host", host, "pull", image] : StateM σ _) with
  | .error reason => throw ⟨.imagePull, s!"running docker pull: {reason}"⟩
  | .ok output =>
    match streamFlaw? output.stdout with
    | some flaw =>
      throw ⟨.imagePull, s!"error decoding pull progress for {image}: {flaw.message}"⟩
    | none =>
      if output.succeeded then pure ()
      else
        let said := (decodeText? output.stderr).getD ""
        throw ⟨.imagePull, s!"pulling {image}: {String.ofList (trim said.toList)}"⟩

def create (program : Program σ) (host : String) (spec : Spec) : Act σ String := do
  let words := "failed to create CRI proxy container"
  let output ← demand program host (createArgs spec) .container words words
  let id := trimmed output.stdout
  if id = "" then throw ⟨.container, "docker create returned no container ID"⟩
  pure id

def start (program : Program σ) (host id : String) : Act σ Unit := do
  let words := "failed to start CRI proxy container"
  let _ ← demand program host ["start", id] .container words words

def engine (program : Program σ) (host : String) : Engine σ where
  list := list program host
  remove := remove program host
  pull := pull program host
  create := create program host
  start := start program host

def connect (program : Program σ) : Connector σ := fun host => do
  let _ ← demand program host ["version", "--format", "\x7b\x7b.Server.Version\x7d\x7d"]
    .engineUnreachable s!"running {program.name}" s!"docker at {host}"
  pure (engine program host)

end DockerCli

end RuntimeHandover.Container
