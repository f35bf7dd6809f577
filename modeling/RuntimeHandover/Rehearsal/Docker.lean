import RuntimeHandover.Container.DockerCli
import RuntimeHandover.Files.Disk
import RuntimeHandover.Rehearsal.Setup

/-! A docker program that says what it was told to say. -/
namespace RuntimeHandover.Rehearsal
open Container Files Text

structure Reply where
  output : Output
  link : Option (Path × Path) := none
  deriving DecidableEq, Repr

structure Docker where
  name : String
  present : Bool := true
  replies : List (String × Reply) := []
  ran : List (List String) := []

namespace Docker

def command (args : List String) : String := (args.drop 2).headD ""

def silence : Reply := ⟨⟨0, [], []⟩, none⟩

def reply (docker : Docker) (args : List String) : Reply :=
  (docker.replies.lookup (command args)).getD silence

def retold (docker : Docker) (replies : List (String × Reply)) : Docker :=
  {docker with replies := replies ++ docker.replies}

def relink (disk : Disk) : Option (Path × Path) → Disk
  | none => disk
  | some (path, target) => SetupStep.applyAll disk [.remove path, .link path target]

def unspawned (disk : Disk) (name : String) : OsFault :=
  let path := Path.ofString name
  if path.bytes.contains slash then
    match disk.tree.resolve disk.home path with
    | .ok _ => .permissionDenied
    | .error fault => fault
  else if path.bytes = dot ∨ path.bytes = dotDot then .permissionDenied
  else .notFound

def spawn (name : String) (args : List String) (docker : Docker) (disk : Disk) :
    Except String Output × Docker × Disk :=
  if (name :: args).any fun text => text.toList.contains '\x00' then
    (.error "nul byte found in provided data", docker, disk)
  else if name = docker.name ∧ docker.present then
    let reply := docker.reply args
    (.ok reply.output, {docker with ran := docker.ran ++ [args]}, relink disk reply.link)
  else (.error (unspawned disk name).message, docker, disk)

end Docker

end RuntimeHandover.Rehearsal
