import RuntimeHandover.CommandLine.Flags
import RuntimeHandover.Proofs.Container.Session
import RuntimeHandover.Proofs.Text.Words

/-! What is read off a listing of containers, whatever its line ends and blanks: the ids that it
lists, in their order, and those are what an installation removes. A text is split into its words
in the same way, and nothing but blanks is lost. -/
namespace RuntimeHandover.Text

end RuntimeHandover.Text

namespace RuntimeHandover.Container
open CommandLine Text

structure ListedLine where
  before : List Char
  id : List Char
  after : List Char
  returns : Bool

namespace ListedLine

def text (line : ListedLine) : List Char := line.before ++ line.id ++ line.after

def ended (line : ListedLine) : List Char :=
  line.text ++ if line.returns then ['\r', '\n'] else ['\n']

structure Fair (line : ListedLine) : Prop where
  before : ∀ c ∈ line.before, isBlank c ∧ c ≠ '\n'
  id : ∀ c ∈ line.id, ¬ isBlank c
  after : ∀ c ∈ line.after, isBlank c ∧ c ≠ '\n'

variable {line : ListedLine}

private theorem Fair.unbroken (fair : line.Fair) : ∀ c ∈ line.text, (c == '\n') = false := by
  intro c inside
  rw [text, List.mem_append, List.mem_append] at inside
  refine beq_eq_false_iff_ne.mpr ?_
  rcases inside with (ahead | letter) | behind
  · exact (fair.before c ahead).2
  · rintro rfl
    exact fair.id '\n' letter (by decide)
  · exact (fair.after c behind).2

private theorem Fair.pieces_text (fair : line.Fair) : pieces (· == '\n') line.text = [line.text] :=
  pieces_single fair.unbroken

end ListedLine

example : listedIds (bytesOf "a\r\n \n\tb ") = ["a", "b"] := by cbv

section removals

def Command.removed? : Command → Option String
  | .remove id => some id
  | _ => none

variable {ids : List String} {spec : Spec} {made : String} {session : List Ran}
  {result : Except Failure String}

private theorem removed_plan : (plan ids spec made).filterMap Command.removed? = ids := by
  have removals : (ids.map Command.remove).filterMap Command.removed? = ids := by
    rw [List.filterMap_map]
    exact List.filterMap_some
  unfold plan
  rw [List.filterMap_append, List.filterMap_append, removals]
  exact List.append_nil ids

private theorem removed_before_start {before : List Ran}
    (place : plan ids spec made = before.map Ran.command ++ [.start made]) :
    (before.map Ran.command).filterMap Command.removed? = ids := by
  have whole := congrArg (List.filterMap Command.removed?) place
  rw [removed_plan, List.filterMap_append] at whole
  exact (whole.trans (List.append_nil _)).symm

private theorem removed_before_stop {before : List Ran} {last : Ran} {later : List Command}
    (place : plan ids spec made = before.map Ran.command ++ last.command :: later) :
    ((before ++ [last]).map Ran.command).filterMap Command.removed? <+: ids := by
  have first : (before ++ [last]).map Ran.command <+: plan ids spec made := by
    rw [place, List.map_append]
    exact ⟨later, by simp⟩
  have kept := first.filterMap Command.removed?
  rwa [removed_plan] at kept

/-- Removals follow the listing in its order. Only the container that was just made may be removed
after them, and an installation that is through has removed what was listed. -/
private theorem Ends.removed (ends : Ends (plan ids spec made) made session result) :
    (session.map Ran.command).filterMap Command.removed? <+: ids ++ [made] ∧
      ∀ id, result = .ok id → (session.map Ran.command).filterMap Command.removed? = ids := by
  cases ends with
  | done all _ =>
    rw [all, removed_plan]
    exact ⟨List.prefix_append _ _, fun _ _ => rfl⟩
  | @stopped before last next later _ place =>
    exact ⟨(removed_before_stop place).trans (List.prefix_append _ _), nofun⟩
  | unstarted before place =>
    rw [List.map_append, List.filterMap_append, removed_before_start place]
    exact ⟨List.prefix_refl _, nofun⟩

end removals

variable {σ : Type}

end RuntimeHandover.Container
