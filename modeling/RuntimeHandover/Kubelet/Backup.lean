import RuntimeHandover.Files.Disk
import RuntimeHandover.Kubelet.Patch

/-! The backup of a live configuration: a private file that holds it as it was. -/
namespace RuntimeHandover.Kubelet
open Files Text

def backupFailure (path : Path) (fault : FileFault) : Failure :=
  let cause : Failure := ⟨.io, fault.message⟩
  ⟨.persistence, s!"error writing {path.quoted}: {cause.message}"⟩

def writeBackup (mishap : Mishap) (path : Path) (live : LiveConfig) (disk : Disk) :
    Except Failure Unit × Disk :=
  let (result, disk) := disk.writePrivate mishap path (bytesOf live.pretty)
  (result.mapError (backupFailure path), disk)

end RuntimeHandover.Kubelet
