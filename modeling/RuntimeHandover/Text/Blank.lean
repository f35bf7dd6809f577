/-! Blanks, words and lines of a text. A blank is a character with the Unicode
White_Space property; a word is a longest run without one. -/
namespace RuntimeHandover.Text

def isBlank (c : Char) : Bool :=
  let n := c.toNat
  (9 ≤ n && n ≤ 13) || n == 0x20 || n == 0x85 || n == 0xA0 || n == 0x1680 ||
    (0x2000 ≤ n && n ≤ 0x200A) || n == 0x2028 || n == 0x2029 || n == 0x202F ||
    n == 0x205F || n == 0x3000

/-- The runs between separators, empty ones included; there is always one more
than there are separators. -/
def pieces {α : Type} (separates : α → Bool) : List α → List (List α)
  | [] => [[]]
  | c :: rest =>
    if separates c then [] :: pieces separates rest
    else match pieces separates rest with
      | [] => [[c]]
      | first :: others => (c :: first) :: others

def words (text : List Char) : List (List Char) :=
  (pieces isBlank text).filter fun word => !word.isEmpty

def trimStart (text : List Char) : List Char :=
  text.dropWhile isBlank

def trimEnd (text : List Char) : List Char :=
  (text.reverse.dropWhile isBlank).reverse

def trim (text : List Char) : List Char :=
  trimEnd (trimStart text)

def withoutReturn (line : List Char) : List Char :=
  match line.getLast? with
  | some '\r' => line.dropLast
  | _ => line

/-- Lines end with a line feed; what follows the last one counts when it is not empty. -/
def lines (text : List Char) : List (List Char) :=
  let runs := pieces (· == '\n') text
  (if runs.getLast? == some [] then runs.dropLast else runs).map withoutReturn

theorem pieces_ne_nil {α : Type} (separates : α → Bool) (text : List α) :
    pieces separates text ≠ [] := by
  cases text with
  | nil => simp [pieces]
  | cons c rest => simp only [pieces]; split <;> (try split) <;> simp

/-- Core's white space is blank. -/
theorem isBlank_of_isWhitespace (c : Char) (white : c.isWhitespace) : isBlank c := by
  simp only [Char.isWhitespace, Bool.or_eq_true, decide_eq_true_eq] at white
  rcases white with ((white | white) | white) | white <;> subst white <;> decide

end RuntimeHandover.Text
