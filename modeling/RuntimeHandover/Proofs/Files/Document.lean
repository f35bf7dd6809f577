import Mathlib
import RuntimeHandover.Kubelet.Backup
import RuntimeHandover.Proofs.Files.Private
import RuntimeHandover.Proofs.Kubelet.LiveConfig
import RuntimeHandover.Proofs.Text.Utf8
import RuntimeHandover.Settings.Reader

/-! JSON documents in private files. What was read from a text and then written is what the
file gives back. -/
namespace RuntimeHandover.Files.Disk
open Json Kubelet Text

def writeJson (mishap : Mishap) (path : Path) (value : Value) (disk : Disk) :
    Except FileFault Unit × Disk :=
  disk.writePrivate mishap path (bytesOf value.pretty)

def readJson {α : Type} (read : String → Except Fault α) (path : Path) (disk : Disk) :
    Except Failure α := do
  let text ← (disk.text path).mapError fun fault => ⟨.io, fault.message⟩
  (read text).mapError fun fault => ⟨.json, fault.message⟩

def anyValue (text : String) : Except Fault Value := parseValue (symbolsOf text)

theorem load_eq (path : Path) (disk : Disk) :
    Settings.load disk path = disk.readJson Settings.parse path := rfl

variable {mishap : Mishap} {disk written : Disk} {path : Path}

theorem writeBackup_eq_ok {live : LiveConfig}
    (ok : writeBackup mishap path live disk = (.ok (), written)) :
    disk.writeJson mishap path live.toValue = (.ok (), written) := by
  change ((disk.writeJson mishap path live.toValue).1.mapError (backupFailure path),
    (disk.writeJson mishap path live.toValue).2) = _ at ok
  rcases wrote : disk.writeJson mishap path live.toValue with ⟨fault | _, after⟩
  · rw [wrote] at ok
    cases ok
  · rw [wrote] at ok
    cases ok
    rfl

/-- A backup that cannot be written is a private file that cannot. -/
theorem writeBackup_eq_error {live : LiveConfig} {failure : Failure}
    (failed : writeBackup mishap path live disk = (.error failure, written)) :
    ∃ fault, failure = backupFailure path fault ∧
      disk.writePrivate mishap path (bytesOf live.pretty) = (.error fault, written) := by
  unfold writeBackup at failed
  dsimp only at failed
  rcases wrote : disk.writePrivate mishap path (bytesOf live.pretty) with ⟨fault | _, after⟩
  · rw [wrote] at failed
    cases failed
    exact ⟨fault, rfl, rfl⟩
  · rw [wrote] at failed
    cases failed

theorem text_of_contents {text : String} (held : disk.contents path = .ok (bytesOf text)) :
    disk.text path = .ok text := by
  have noFlaw : Utf8.flaw? (bytesOf text) = none := Utf8.flaw?_encode text.toList
  simp only [Disk.text, held, bind, Except.bind, noFlaw, Utf8.lossyText_bytesOf]

/-- The text of a private file that was just written. -/
theorem text_written {text : String}
    (ok : disk.writePrivate mishap path (bytesOf text) = (.ok (), written)) :
    written.text path =
      if (disk.makeParents mishap path).2.passesItself path then .error (.os .notDirectory)
      else .ok text := by
  obtain ⟨directory, name, wrote⟩ := writePrivate_wrote ok
  have contents := contents_written wrote
  split
  next through =>
    rw [if_pos through] at contents
    unfold Disk.text
    rw [contents]
    rfl
  next direct =>
    rw [if_neg direct] at contents
    exact text_of_contents contents

def Filed (mishap : Mishap) (disk written : Disk) (path : Path) (text : String) : Prop :=
  let made := (disk.makeParents mishap path).2
  ∃ directory name, made.tree.target made.home path = .ok (.name directory name false) ∧
    written.tree.at? (directory ++ [name]) = some (.file privateMode (bytesOf text)) ∧
    (made.passesItself path = false → written.text path = .ok text)

theorem filed_written {text : String}
    (ok : disk.writePrivate mishap path (bytesOf text) = (.ok (), written)) :
    Filed mishap disk written path text := by
  obtain ⟨directory, name, wrote⟩ := writePrivate_wrote ok
  refine ⟨directory, name, wrote.named, ?_, ?_⟩
  · rw [wrote.entries, if_pos rfl]
  · intro direct
    rw [text_written ok, direct]
    rfl

private theorem readJson_written {α : Type} {read : String → Except Fault α} {a : α} {value : Value}
    (back : read value.pretty = .ok a)
    (ok : disk.writeJson mishap path value = (.ok (), written)) :
    written.readJson read path =
      if (disk.makeParents mishap path).2.passesItself path
      then .error ⟨.io, "Not a directory (os error 20)"⟩
      else .ok a := by
  have text := text_written ok
  unfold readJson
  rw [text]
  split
  · rfl
  · simp only [Except.mapError, bind, Except.bind, back]

/-- A document that was read from a text is the same after it was written to a private file
and read from there, as a live configuration and as any value. A path that goes through the
link which the write replaces leads nowhere afterwards. -/
theorem json_read_back (mishap : Mishap) (disk written : Disk) (path : Path) (text : String) :
    (∀ live, LiveConfig.parse text = .ok live →
      disk.writeJson mishap path live.toValue = (.ok (), written) →
      written.readJson LiveConfig.parse path =
        if (disk.makeParents mishap path).2.passesItself path
        then .error ⟨.io, "Not a directory (os error 20)"⟩
        else .ok live) ∧
    (∀ value, anyValue text = .ok value →
      disk.writeJson mishap path value = (.ok (), written) →
      written.readJson anyValue path =
        if (disk.makeParents mishap path).2.passesItself path
        then .error ⟨.io, "Not a directory (os error 20)"⟩
        else .ok value) := by
  refine ⟨?_, ?_⟩
  · intro live parsed ok
    exact readJson_written (LiveConfig.parse_pretty (LiveConfig.sound_of_parse parsed)) ok
  · intro value parsed ok
    exact readJson_written (parseValue_pretty (parseValue_readable parsed)) ok

def bare : Disk := ⟨.empty, [], fun n => List.replicate n 0x78⟩

/-- A text with a repeated key, below a directory that is made for the file. -/
theorem json_read_back_bare :
    let path := Path.ofString "var/saved.json"
    let value : Value := .object [("b", .number "2"), ("a", .object [])]
    let written := (bare.writeJson noMishap path value).2
    written.readJson LiveConfig.parse path = .ok (.ofMembers [("b", .number "2"), ("a", .object [])]) ∧
      written.readJson anyValue path = .ok value := by
  have asLive : LiveConfig.parse "\x7b\"b\":1,\"a\":\x7b\x7d,\"b\":2\x7d" =
      .ok (.ofMembers [("b", .number "2"), ("a", .object [])]) := by cbv
  have asValue : anyValue "\x7b\"b\":1,\"a\":\x7b\x7d,\"b\":2\x7d" =
      .ok (.object [("b", .number "2"), ("a", .object [])]) := by cbv
  have fine : (bare.writeJson noMishap (.ofString "var/saved.json")
      (.object [("b", .number "2"), ("a", .object [])])).1 = .ok () := by cbv
  have direct : (bare.makeParents noMishap (.ofString "var/saved.json")).2.passesItself
      (.ofString "var/saved.json") = false := by cbv
  obtain ⟨live, value⟩ := json_read_back noMishap bare (bare.writeJson noMishap
    (.ofString "var/saved.json") (.object [("b", .number "2"), ("a", .object [])])).2
    (.ofString "var/saved.json") "\x7b\"b\":1,\"a\":\x7b\x7d,\"b\":2\x7d"
  have liveBack := live _ asLive (Prod.ext fine rfl)
  have valueBack := value _ asValue (Prod.ext fine rfl)
  rw [direct] at liveBack valueBack
  exact ⟨liveBack, valueBack⟩

def linked : Disk :=
  ⟨⟨[([bytesOf "d"], .directory), ([bytesOf "l"], .link (.ofString "d"))]⟩, [],
    fun n => List.replicate n 0x78⟩

/-- The path `l/../l` goes through the link `l` to the name `l`. The file takes the place of
the link, and the path leads nowhere. -/
theorem json_not_read_back : ¬ ∀ (mishap : Mishap) (disk written : Disk) (path : Path)
    (text : String) (live : LiveConfig), LiveConfig.parse text = .ok live →
      disk.writeJson mishap path live.toValue = (.ok (), written) →
      written.readJson LiveConfig.parse path = .ok live := by
  intro back
  have parsed : LiveConfig.parse "\x7b\"a\":1\x7d" = .ok (.ofMembers [("a", .number "1")]) := by cbv
  have fine : (linked.writeJson noMishap (.ofString "l/../l") (.object [("a", .number "1")])).1 =
      .ok () := by cbv
  have stopped : (linked.writeJson noMishap (.ofString "l/../l")
      (.object [("a", .number "1")])).2.readJson LiveConfig.parse (.ofString "l/../l") =
        .error ⟨.io, "Not a directory (os error 20)"⟩ := by cbv
  have read := back noMishap linked _ (.ofString "l/../l") _ _ parsed (Prod.ext fine rfl)
  have clash := stopped.symm.trans read
  cases clash

end RuntimeHandover.Files.Disk
