import RuntimeHandover.Container.DockerCli
import RuntimeHandover.Proofs.Act
import RuntimeHandover.Proofs.Files.Path
import RuntimeHandover.Proofs.Text.Utf8

/-! What is told of a run of the program that failed. The reason is read for every stage in
the same way but for a pull, whose progress is followed while it runs: there the standard error
is either text from end to end or counts for nothing. -/
namespace RuntimeHandover.Text.Utf8

/-- The bytes of a text are cut where the text is, at a character coded in one byte. -/
private theorem pieces_encode (single : Char) (code : UInt8)
    (coded : String.utf8EncodeChar single = [code]) (low : code.toNat < 0x80)
    (text : List Char) :
    pieces (· == code) (encode text) = (pieces (· == single) text).map encode := by
  induction text with
  | nil => rfl
  | cons c text ih =>
    rw [encode_cons]
    by_cases same : c = single
    · subst same
      simp [coded, pieces, ih]
    · have plain : ∀ b ∈ String.utf8EncodeChar c, (b == code) = false := by
        intro b inside
        refine beq_eq_false_iff_ne.mpr ?_
        rintro rfl
        exact same (eq_of_mem_encodeChar coded low inside)
      rw [pieces_append_plain plain, ih]
      cases runs : pieces (· == single) text with
      | nil => exact absurd runs (pieces_ne_nil _ text)
      | cons first others => simp [pieces, same, runs, encode_cons]

end RuntimeHandover.Text.Utf8

namespace RuntimeHandover.Container
open Text

section progress

/-- The lines of a stream that is text are text. -/
private theorem text_of_mem_streamLines {text : List Char} {line : List UInt8}
    (inside : line ∈ streamLines (Utf8.encode text)) : ∃ kept, line = Utf8.encode kept := by
  have cut := Utf8.pieces_encode '\n' 0x0A rfl (by decide) text
  simp only [streamLines, cut] at inside
  rcases List.mem_append.mp inside with early | last
  · obtain ⟨piece, among, rfl⟩ := List.mem_map.mp early
    obtain ⟨run, -, rfl⟩ := List.mem_map.mp (List.dropLast_subset _ among)
    split
    next ended =>
      obtain ⟨kept, rfl⟩ := Utf8.ends_in_char '\r' rfl (by decide) ended
      rw [Utf8.encode_append]
      exact ⟨kept, List.dropLast_concat⟩
    next => exact ⟨run, rfl⟩
  · obtain ⟨found, -⟩ := Option.mem_filter_iff.mp (Option.mem_toList.mp last)
    obtain ⟨run, -, rfl⟩ := List.mem_map.mp (List.mem_of_getLast? found)
    exact ⟨run, rfl⟩

private theorem streamFlaw?_bytesOf (text : String) : streamFlaw? (bytesOf text) = none := by
  rw [streamFlaw?, List.findSome?_eq_none_iff]
  intro line inside
  obtain ⟨kept, rfl⟩ := text_of_mem_streamLines inside
  exact Utf8.flaw?_encode kept

end progress

section reasons

variable {σ α : Type}

inductive Invokes (program : Program σ) (host : String) :
    {α : Type} → List String → Act σ α → Prop
  | version : Invokes program host ["version", "--format", "\x7b\x7b.Server.Version\x7d\x7d"]
      (DockerCli.connect program host)
  | list (label : String) : Invokes program host
      ["ps", "--all", "--quiet", "--no-trunc", "--filter", "label=" ++ label]
      ((DockerCli.engine program host).list label)
  | remove (id : String) :
      Invokes program host ["rm", "--force", id] ((DockerCli.engine program host).remove id)
  | pull (image : String) :
      Invokes program host ["pull", image] ((DockerCli.engine program host).pull image)
  | create (spec : Spec) :
      Invokes program host (createArgs spec) ((DockerCli.engine program host).create spec)
  | start (id : String) :
      Invokes program host ["start", id] ((DockerCli.engine program host).start id)

def Gives (failure : Failure) (reason : String) : Prop :=
  reason.toList <:+ failure.message.toList

private theorem gives_reason (kind : FailureKind) (words reason : String) :
    Gives ⟨kind, s!"{words}: {reason}"⟩ reason := by
  refine ⟨(s!"{kind.title}: {words}: ").toList, ?_⟩
  simp [Failure.message, toString]

/-- Bytes that are text show as the text. -/
private theorem trimmed_of_decoded {bytes : List UInt8} {text : String}
    (decoded : decodeText? bytes = some text) :
    trimmed bytes = String.ofList (trim text.toList) := by
  obtain ⟨chars, read, rfl⟩ := Option.map_eq_some_iff.mp decoded
  rw [trimmed, Utf8.decode?_eq_some_iff.mp read, Utf8.lossy_encode, String.toList_ofList]

variable {program : Program σ} {host : String} {args : List String} {s after : σ}
  {output : Output}

private theorem demand_failed (ran : program.run (["--host", host] ++ args) s = (.ok output, after))
    (failed : output.exit ≠ 0) (kind : FailureKind) (unspawned words : String) :
    (DockerCli.demand program host args kind unspawned words).run s =
      (.error ⟨kind, s!"{words}: {trimmed output.stderr}"⟩, after) := by
  rw [DockerCli.demand, Act.run_bind_ok (Act.run_liftM_eq_ok.mpr ran)]
  simp [Output.succeeded, failed]

private theorem pull_failed {image progress : String}
    (ran : program.run ["--host", host, "pull", image] s = (.ok output, after))
    (failed : output.exit ≠ 0) (text : output.stdout = bytesOf progress) :
    let said := (decodeText? output.stderr).getD ""
    (DockerCli.pull program host image).run s =
      (.error ⟨.imagePull, s!"pulling {image}: {String.ofList (trim said.toList)}"⟩, after) := by
  rw [DockerCli.pull, Act.run_bind_ok (Act.run_liftM_eq_ok.mpr ran)]
  simp [text, streamFlaw?_bytesOf, Output.succeeded, failed]

/-- What a failure tells of a run: what the standard error says, but nothing of it when it is
a pull's and no text. -/
structure Told (args : List String) (stderr : List UInt8) (failure : Failure) : Prop where
  gives : (∀ image, args = ["pull", image] → (decodeText? stderr).isSome) →
    Gives failure (trimmed stderr)
  loses (image : String) : args = ["pull", image] → decodeText? stderr = none →
    failure.message = s!"Image pull error: pulling {image}: "

/-- Every run that fails with a readable progress makes the action that asked for it fail, and
its reason is told at the end of the message; a pull's reason that is no text is lost. -/
theorem told_of_failed {action : Act σ α} (invokes : Invokes program host args action)
    (ran : program.run (["--host", host] ++ args) s = (.ok output, after))
    (failed : output.exit ≠ 0) {said : String} (text : output.stdout = bytesOf said) :
    ∃ failure, action.run s = (.error failure, after) ∧ Told args output.stderr failure := by
  have told (kind : FailureKind) (words : String) (pulls : ∀ image, args ≠ ["pull", image]) :
      Told args output.stderr ⟨kind, s!"{words}: {trimmed output.stderr}"⟩ := by
    refine ⟨fun _ => gives_reason kind words _, ?_⟩
    intro image same
    exact absurd same (pulls image)
  cases invokes with
  | version =>
    exact ⟨_, Act.run_bind_error (demand_failed ran failed _ _ _), told _ _ (by simp)⟩
  | list label =>
    exact ⟨_, Act.run_bind_error (demand_failed ran failed _ _ _), told _ _ (by simp)⟩
  | remove id =>
    exact ⟨_, Act.run_bind_error (demand_failed ran failed _ _ _), told _ _ (by simp)⟩
  | pull image =>
    refine ⟨_, pull_failed ran failed text, ?_, ?_⟩
    · intro isText
      obtain ⟨reason, decoded⟩ := Option.isSome_iff_exists.mp (isText image rfl)
      rw [trimmed_of_decoded decoded, decoded]
      exact gives_reason ..
    · intro image same unread
      cases same
      rw [unread]
      exact String.toList_inj.mp (by simp [Failure.message, FailureKind.title, toString, trim,
        trimStart, trimEnd])
  | create spec =>
    exact ⟨_, Act.run_bind_error (demand_failed ran failed _ _ _), told _ _ (by simp [createArgs])⟩
  | start id =>
    exact ⟨_, Act.run_bind_error (demand_failed ran failed _ _ _), told _ _ (by simp)⟩

section complaining

def complaint : Output := ⟨1, [], [0xE9, 0x63, 0x68, 0x65, 0x63]⟩

def complaining : Program Unit where
  name := "docker"
  run _ := pure (.ok complaint)

theorem told_of_failed_complaining :
    Invokes complaining "h" ["start", "c"] ((DockerCli.engine complaining "h").start "c") ∧
    ∃ failure, ((DockerCli.engine complaining "h").start "c").run () = (.error failure, ()) ∧
      Told ["start", "c"] complaint.stderr failure := by
  have ran : complaining.run (["--host", "h"] ++ ["start", "c"]) () = (.ok complaint, ()) := rfl
  have text : complaint.stdout = bytesOf "" := rfl
  exact ⟨.start "c", told_of_failed (.start "c") ran (by decide) text⟩

/-- The reason of a failed pull is not told, though every other stage would tell it. -/
theorem pull_reason_lost :
    ∃ failure, ((DockerCli.engine complaining "h").pull "i").run () = (.error failure, ()) ∧
      failure.message = "Image pull error: pulling i: " ∧
      trimmed complaint.stderr = "\uFFFDchec" ∧
      ¬ (trimmed complaint.stderr).toList <:+: failure.message.toList := by
  refine ⟨_, rfl, ?_, ?_, ?_⟩
  all_goals decide +kernel

end complaining

end reasons

end RuntimeHandover.Container
