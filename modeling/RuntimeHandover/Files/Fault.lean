import RuntimeHandover.Files.Path

/-! Why the system or the file layer refuses. -/
namespace RuntimeHandover.Files
open Text

inductive OsFault where
  | notFound
  | noDevice
  | permissionDenied
  | busy
  | alreadyExists
  | notDirectory
  | isDirectory
  | noSpace
  | nameTooLong
  | notEmpty
  | tooManyLinks
  | nulByte
  | other (text : String)
  deriving DecidableEq, Repr

namespace OsFault

def words : OsFault → String
  | .notFound => "No such file or directory"
  | .noDevice => "No such device or address"
  | .permissionDenied => "Permission denied"
  | .busy => "Device or resource busy"
  | .alreadyExists => "File exists"
  | .notDirectory => "Not a directory"
  | .isDirectory => "Is a directory"
  | .noSpace => "No space left on device"
  | .nameTooLong => "File name too long"
  | .notEmpty => "Directory not empty"
  | .tooManyLinks => "Too many levels of symbolic links"
  | .nulByte => "file name contained an unexpected NUL byte"
  | .other text => text

def system? : OsFault → Option (Nat × String)
  | .notFound => some (2, "NotFound")
  | .noDevice => some (6, "Uncategorized")
  | .permissionDenied => some (13, "PermissionDenied")
  | .busy => some (16, "ResourceBusy")
  | .alreadyExists => some (17, "AlreadyExists")
  | .notDirectory => some (20, "NotADirectory")
  | .isDirectory => some (21, "IsADirectory")
  | .noSpace => some (28, "StorageFull")
  | .nameTooLong => some (36, "InvalidFilename")
  | .notEmpty => some (39, "DirectoryNotEmpty")
  | .tooManyLinks => some (40, "FilesystemLoop")
  | .nulByte | .other _ => none

def message (fault : OsFault) : String :=
  match fault.system? with
  | some (number, _) => s!"{fault.words} (os error {number})"
  | none => fault.words

def shown (fault : OsFault) : String :=
  match fault.system?, fault with
  | some (number, kind), _ =>
    s!"Os \x7b code: {number}, kind: {kind}, message: {quoted fault.words} \x7d"
  | none, .nulByte => s!"Error \x7b kind: InvalidInput, message: {quoted fault.words} \x7d"
  | none, _ => s!"Custom \x7b kind: Other, error: {quoted fault.words} \x7d"

end OsFault

inductive FileFault where
  | os (fault : OsFault)
  | sibling (fault : OsFault) (path : Path)
  | notText (flaw : Utf8.Flaw)
  deriving DecidableEq, Repr

def FileFault.message : FileFault → String
  | .os fault => fault.message
  | .sibling fault path => s!"{fault.message} at path {path.quoted}"
  | .notText flaw => flaw.message

end RuntimeHandover.Files
