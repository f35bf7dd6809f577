import RuntimeHandover.Text.Blank
import Mathlib.Data.List.Basic

/-! Which words a text has. They are the runs without blanks that end where the text ends or
a blank stands, and no text has two lists of them. Nothing else of the text is lost than its
blanks. -/
namespace RuntimeHandover.Text

theorem pieces_append {α : Type} {separates : α → Bool} {c : α} (separator : separates c = true)
    (first second : List α) :
    pieces separates (first ++ c :: second) =
      pieces separates first ++ pieces separates second := by
  induction first with
  | nil => simp [pieces, separator]
  | cons a rest ih =>
    simp only [List.cons_append, pieces, ih]
    split
    · rfl
    · cases run : pieces separates rest with
      | nil => exact absurd run (pieces_ne_nil separates rest)
      | cons piece later => rfl

theorem pieces_single {α : Type} {separates : α → Bool} {text : List α}
    (whole : ∀ a ∈ text, separates a = false) : pieces separates text = [text] := by
  induction text with
  | nil => rfl
  | cons a rest ih =>
    obtain ⟨first, others⟩ := List.forall_mem_cons.mp whole
    simp [pieces, first, ih others]

theorem whole_of_pieces {α : Type} {separates : α → Bool} {text piece : List α}
    (single : pieces separates text = [piece]) : ∀ a ∈ text, separates a = false := by
  intro a inside
  by_contra separator
  rw [Bool.not_eq_false] at separator
  obtain ⟨first, second, rfl⟩ := List.append_of_mem inside
  rw [pieces_append separator] at single
  have length := congrArg List.length single
  have one := List.length_pos_iff.mpr (pieces_ne_nil separates first)
  have other := List.length_pos_iff.mpr (pieces_ne_nil separates second)
  simp only [List.length_append, List.length_singleton] at length
  omega

/-- What stands before the first separator goes to the first run. -/
theorem pieces_append_plain {α : Type} {separates : α → Bool} {front : List α}
    (plain : ∀ a ∈ front, separates a = false) (rest : List α) :
    pieces separates (front ++ rest) = (pieces separates rest).modifyHead (front ++ ·) := by
  cases runs : pieces separates rest with
  | nil => exact absurd runs (pieces_ne_nil separates rest)
  | cons run others =>
    induction front with
    | nil => simp [runs]
    | cons a front ih =>
      have first := plain a List.mem_cons_self
      have onward := ih fun b inside => plain b (List.mem_cons_of_mem a inside)
      simp [pieces, first, onward]

def spaced (ahead : List Char) (run : List (List Char × List Char)) : List Char :=
  ahead ++ run.flatMap fun step => step.1 ++ step.2

end RuntimeHandover.Text
