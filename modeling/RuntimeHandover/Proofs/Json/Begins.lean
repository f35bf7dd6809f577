import RuntimeHandover.Proofs.Json.Image
import RuntimeHandover.Proofs.Text.Utf8

/-! Where reading a token succeeded, the input begins with a text that may be written for what was
read, and what follows that text is left. -/
namespace RuntimeHandover.Json
open Text

def Begins (input : List Symbol) (text : List Char) (left : List Symbol) : Prop :=
  input = chars text ++ left

namespace Begins

variable {input between left : List Symbol} {text more : List Char}

private theorem refl (input : List Symbol) : Begins input [] input := rfl

private theorem one (c : Char) (left : List Symbol) : Begins (.char c :: left) [c] left := rfl

theorem trans (first : Begins input text between) (second : Begins between more left) :
    Begins input (text ++ more) left := by
  rw [Begins, first, second, chars, chars, chars, List.map_append, List.append_assoc]

theorem cons (c : Char) (later : Begins between more left) :
    Begins (.char c :: between) (c :: more) left :=
  (one c between).trans later

end Begins

section tokens

variable {input left : List Symbol}

theorem skipSpace_begins (input : List Symbol) :
    ∃ blank, Blank blank ∧ Begins input blank (skipSpace input) := by
  induction input with
  | nil => exact ⟨[], .nil, .refl []⟩
  | cons symbol rest ih =>
    cases space : isSpace symbol with
    | false => exact ⟨[], .nil, (skipSpace_of_not space rest).symm⟩
    | true =>
      obtain ⟨blank, allBlank, begins⟩ := ih
      cases symbol with
      | stray bytes cut => cases space
      | char c =>
        refine ⟨c :: blank, List.forall_mem_cons.mpr ⟨space, allBlank⟩, ?_⟩
        rw [skipSpace, List.dropWhile_cons_of_pos space]
        exact begins.cons c

theorem readWord_begins {word : List Char} (read : readWord word input = .ok left) :
    Begins input word left := by
  induction word generalizing input with
  | nil =>
    rw [readWord] at read
    cases read
    exact .refl _
  | cons expected word ih =>
    unfold readWord at read
    split at read
    next same => cases same
    next => cases read
    next same =>
      cases same
      split at read
      next found =>
        rw [found]
        exact (ih read).cons expected
      next => cases read
    next => cases read

section strings

private theorem width_hex {digits : List Char} (all : ∀ c ∈ digits, (hexValue? c).isSome = true) :
    width (chars digits) = digits.length := by
  have short {c : Char} (digit : (hexValue? c).isSome = true) : c.utf8Size = 1 := by
    have ascii : c ≤ 'f' := by
      unfold hexValue? at digit
      split at digit
      next range => exact Char.le_trans range.2 (by decide)
      next =>
        split at digit
        next range => exact range.2
        next =>
          split at digit
          next range => exact Char.le_trans range.2 (by decide)
          next => cases digit
    exact Char.utf8Size_eq_one_iff.mpr (UInt32.le_trans ascii (by decide))
  induction digits with
  | nil => rfl
  | cons c digits ih =>
    obtain ⟨first, others⟩ := List.forall_mem_cons.mp all
    simp only [chars, List.map_cons, width, Symbol.width, List.length_cons] at ih ⊢
    rw [short first, ih others, Nat.add_comm]

private theorem hex_of_values {taken : List Symbol} {values : List Nat}
    (read : taken.mapM (fun symbol => symbol.char?.bind hexValue?) = some values) :
    ∃ digits, taken = chars digits ∧ (∀ c ∈ digits, (hexValue? c).isSome = true) ∧
      values = digits.map fun c => (hexValue? c).getD 0 := by
  induction taken generalizing values with
  | nil =>
    cases read
    exact ⟨[], rfl, nofun, rfl⟩
  | cons symbol taken ih =>
    rw [List.mapM_cons] at read
    obtain ⟨value, found, read⟩ := Option.bind_eq_some_iff.mp read
    obtain ⟨others, later, read⟩ := Option.bind_eq_some_iff.mp read
    obtain ⟨digits, rfl, all, rfl⟩ := ih later
    cases read
    obtain ⟨c, isChar, digit⟩ := Option.bind_eq_some_iff.mp found
    cases symbol with
    | stray bytes cut => cases isChar
    | char d =>
      cases isChar
      refine ⟨c :: digits, rfl, List.forall_mem_cons.mpr ⟨by simp [digit], all⟩, ?_⟩
      simp [digit]

private theorem hexFour_begins {n : Nat} (read : hexFour input = .ok n) :
    ∃ digits, FourHex digits n ∧ Begins input digits (input.drop 4) := by
  unfold hexFour at read
  split at read
  next => cases read
  next wide =>
    split at read
    next values found =>
      cases read
      obtain ⟨digits, same, all, rfl⟩ := hex_of_values found
      refine ⟨digits, ⟨?_, all, ?_⟩, ?_⟩
      · have size := congrArg List.length same
        rw [same, width_hex all] at wide
        simp only [List.length_take, chars, List.length_map] at size
        omega
      · rw [hexNumber, List.foldl_map]
      · rw [Begins, ← same, List.take_append_drop]
    next => cases read

private theorem trailingSurrogate_begins {n : Nat} (read : trailingSurrogate input = .ok n) :
    ∃ digits, FourHex digits n ∧ isTrailing n = true ∧
      Begins input ('\\' :: 'u' :: digits) (input.drop 6) := by
  unfold trailingSurrogate at read
  split at read
  next => cases read
  next => cases read
  next rest =>
    obtain ⟨m, four, read⟩ := bind_eq_ok_iff.mp read
    split at read
    next trailing =>
      cases read
      obtain ⟨digits, spelled, begins⟩ := hexFour_begins four
      exact ⟨digits, spelled, trailing, (begins.cons 'u').cons '\\'⟩
    next => cases read
  next => cases read
  next => cases read

/-- An escape that was read may stand before whatever may stand there without it. -/
private theorem readEscape_begins {c : Char} {taken : Nat}
    (read : readEscape input = .ok (c, taken)) :
    ∃ escape, Begins input escape (input.drop taken) ∧
      ∀ spelled text, Quotes spelled text → Quotes ('\\' :: (escape ++ spelled)) (c :: text) := by
  unfold readEscape at read
  split at read
  next => cases read
  next rest =>
    obtain ⟨n, four, read⟩ := bind_eq_ok_iff.mp read
    obtain ⟨high, first, begins⟩ := hexFour_begins four
    split at read
    next => cases read
    next untrailing =>
      split at read
      next leading =>
        obtain ⟨m, low, read⟩ := bind_eq_ok_iff.mp read
        obtain ⟨rfl, rfl⟩ := Prod.mk.inj (Except.ok.inj read)
        obtain ⟨digits, second, trailing, onward⟩ := trailingSurrogate_begins low
        rw [List.drop_drop] at onward
        refine ⟨_, (begins.cons 'u').trans onward, ?_⟩
        intro spelled text quotes
        have pair := Quotes.pair first second leading trailing quotes
        simpa using pair
      next unleading =>
        cases read
        refine ⟨_, begins.cons 'u', ?_⟩
        intro spelled text quotes
        exact .unicode first ⟨by simpa using untrailing, by simpa using unleading⟩ quotes
  next e rest _ =>
    split at read
    next meant named =>
      cases read
      exact ⟨[e], .one e rest, fun spelled text quotes => .short named quotes⟩
    next => cases read
  next => cases read

private theorem chars_eq_cons {symbol : Symbol} {rest : List Symbol} {text : List Char}
    (same : symbol :: rest = chars text) :
    ∃ c later, symbol = .char c ∧ text = c :: later ∧ rest = chars later := by
  obtain ⟨c, later, rfl, first, others⟩ := List.map_eq_cons_iff.mp same.symm
  exact ⟨c, later, first.symm, rfl, others.symm⟩

private theorem readPieces_begins {pieces : List Symbol} {text : List Char}
    (read : readPieces input = .ok (pieces, left)) (whole : pieces = chars text) :
    ∃ spelled, Quotes spelled text ∧ Begins input (spelled ++ ['"']) left := by
  induction input using readPieces.induct generalizing pieces text with
  | case1 => simp [readPieces] at read
  | case2 bytes cut rest stop failed => simp [readPieces, failed] at read
  | case3 bytes cut rest later after found =>
    simp only [readPieces, found, Except.ok.injEq, Prod.mk.injEq] at read
    obtain ⟨rfl, rfl⟩ := read
    obtain ⟨c, later, isChar, -⟩ := chars_eq_cons whole
    cases isChar
  | case4 rest =>
    rw [readPieces_quote] at read
    cases read
    rw [List.map_eq_nil_iff.mp whole.symm]
    exact ⟨[], .nil, .one '"' _⟩
  | case5 rest stop failed => simp [readPieces, failed] at read
  | case6 rest meant taken escaped stop failed => simp [readPieces, escaped, failed] at read
  | case7 rest meant taken escaped later after found _ ih =>
    simp only [readPieces, escaped, found] at read
    obtain ⟨rfl, rfl⟩ := Prod.mk.inj (Except.ok.inj read)
    obtain ⟨c, text, isChar, rfl, same⟩ := chars_eq_cons whole
    cases isChar
    obtain ⟨spelled, quotes, begins⟩ := ih found same
    obtain ⟨escape, before, spells⟩ := readEscape_begins escaped
    refine ⟨_, spells spelled text quotes, ?_⟩
    simpa using (before.trans begins).cons '\\'
  | case8 c rest unquoted plain low => simp [readPieces, unquoted, plain, low] at read
  | case9 c rest unquoted plain high stop failed =>
    simp [readPieces, unquoted, plain, high, failed] at read
  | case10 c rest unquoted plain high later after found ih =>
    simp only [readPieces, unquoted, plain, high, found, if_false] at read
    obtain ⟨rfl, rfl⟩ := Prod.mk.inj (Except.ok.inj read)
    obtain ⟨d, text, isChar, rfl, same⟩ := chars_eq_cons whole
    cases isChar
    obtain ⟨spelled, quotes, begins⟩ := ih found same
    exact ⟨_, .plain ⟨unquoted, plain, Nat.not_lt.mp high⟩ quotes, begins.cons c⟩

theorem readString_begins {text : List Char} (read : readString input = .ok (text, left)) :
    ∃ spelled, Quotes spelled text ∧ Begins input (spelled ++ ['"']) left := by
  unfold readString at read
  split at read
  next => cases read
  next pieces after found =>
    split at read
    next whole =>
      cases read
      exact readPieces_begins found (Utf8.mapM_char?_eq_some_iff.mp whole)
    next => cases read

end strings

section numbers

private theorem digit?_eq_some {symbol : Symbol} {c : Char} (found : digit? symbol = some c) :
    symbol = .char c := by
  unfold digit? at found
  split at found
  next =>
    split at found
    next => rw [Option.some.inj found]
    next => cases found
  next => cases found

private theorem readDigits_begins (input : List Symbol) :
    Begins input (readDigits input).1 (readDigits input).2 := by
  induction input with
  | nil => exact .refl []
  | cons symbol rest ih =>
    rw [readDigits]
    cases found : digit? symbol with
    | none => exact .refl _
    | some c =>
      rw [digit?_eq_some found]
      exact ih.cons c

private theorem readExponent_begins {exponent : List Char}
    (read : readExponent input = .ok (exponent, left)) :
    ∃ spelled, SpellsExponent spelled exponent ∧ Begins input spelled left := by
  unfold readExponent at read
  split at read
  next mark rest =>
    split at read
    next marked =>
      split at read
      next sign after signed =>
        -- A sign that is not there counts as a plus.
        have written : ∃ shown, (shown, sign) ∈ [([], '+'), (['+'], '+'), (['-'], '-')] ∧
            Begins rest shown after := by
          split at signed
          next =>
            cases signed
            exact ⟨['+'], by simp, .one '+' _⟩
          next =>
            cases signed
            exact ⟨['-'], by simp, .one '-' _⟩
          next =>
            cases signed
            exact ⟨[], by simp, .refl _⟩
        obtain ⟨shown, spells, begins⟩ := written
        split at read
        next => cases read
        next symbol more =>
          split at read
          next digit =>
            have all := readDigits_allDigits (symbol :: more)
            have nonempty := readDigits_nonempty digit more
            have onward := readDigits_begins (symbol :: more)
            cases read
            exact ⟨_, .some marked spells nonempty all, (begins.trans onward).cons mark⟩
          next => cases read
    next =>
      cases read
      exact ⟨[], .none, .refl _⟩
  next =>
    cases read
    exact ⟨[], .none, .refl _⟩

private theorem readFraction_begins {fraction : List Char}
    (read : readFraction input = .ok (fraction, left)) :
    ∃ spelled, SpellsFraction spelled fraction ∧ Begins input spelled left := by
  unfold readFraction at read
  split at read
  next rest =>
    have all := readDigits_allDigits rest
    have begins := readDigits_begins rest
    split at read
    next => cases read
    next => cases read
    next digits after _ nonempty same =>
      rw [same] at all begins
      obtain ⟨⟨exponent, after⟩, scaled, whole⟩ := bind_eq_ok_iff.mp read
      cases whole
      obtain ⟨spelled, spells, onward⟩ := readExponent_begins scaled
      exact ⟨_, .some nonempty all spells, (begins.cons '.').trans onward⟩
  next =>
    obtain ⟨spelled, spells, begins⟩ := readExponent_begins read
    exact ⟨spelled, .none spells, begins⟩

private theorem readMagnitude_begins {magnitude : List Char}
    (read : readMagnitude input = .ok (magnitude, left)) :
    ∃ spelled, SpellsMagnitude spelled magnitude ∧ Begins input spelled left := by
  unfold readMagnitude at read
  split at read
  next => cases read
  next symbol rest =>
    split at read
    next => cases read
    next first found =>
      have all := readDigits_allDigits rest
      have begins := readDigits_begins rest
      dsimp only at read
      split at read
      next => cases read
      next allowed =>
        obtain ⟨⟨fraction, after⟩, fractional, same⟩ := bind_eq_ok_iff.mp read
        cases same
        obtain ⟨spelled, spells, onward⟩ := readFraction_begins fractional
        have plain : first = '0' → (readDigits rest).1 = [] := fun zero =>
          Decidable.not_not.mp fun nonempty => allowed ⟨zero, nonempty⟩
        rw [digit?_eq_some found]
        exact ⟨_, .mk (digit?_isDigit found) all plain spells, (begins.cons first).trans onward⟩

theorem readNumber_begins {text : String} (read : readNumber input = .ok (text, left)) :
    ∃ spelled kept, SpellsNumber spelled kept ∧ text = String.ofList kept ∧
      Begins input spelled left := by
  unfold readNumber at read
  split at read
  next =>
    obtain ⟨⟨magnitude, after⟩, sized, same⟩ := bind_eq_ok_iff.mp read
    cases same
    obtain ⟨spelled, spells, begins⟩ := readMagnitude_begins sized
    exact ⟨_, _, .negative spells, rfl, begins.cons '-'⟩
  next =>
    obtain ⟨⟨magnitude, after⟩, sized, same⟩ := bind_eq_ok_iff.mp read
    cases same
    obtain ⟨spelled, spells, begins⟩ := readMagnitude_begins sized
    exact ⟨_, _, .positive spells, rfl, begins⟩

private theorem wholeNumber_spells {text : List Char} {number : String}
    (read : wholeNumber text = .ok number) :
    ∃ kept, SpellsNumber text kept ∧ number = String.ofList kept := by
  unfold wholeNumber at read
  dsimp only at read
  split at read
  next => cases read
  next symbol rest same =>
    split at read
    next =>
      split at read
      next found =>
        cases read
        obtain ⟨spelled, kept, spells, rfl, begins⟩ := readNumber_begins found
        rw [Begins, List.append_nil, ← same] at begins
        rw [(List.map_inj_right fun _ _ => Symbol.char.inj).mp begins]
        exact ⟨kept, spells, rfl⟩
      next => cases read
      next => cases read
      next =>
        split at read
        next => cases read
        next => cases read
      next => cases read
    next => cases read

end numbers

end tokens

section between

variable {input left : List Symbol} {first : Bool}

theorem nextItem_last (read : nextItem first input = .ok (false, left)) :
    ∃ blank, Blank blank ∧ Begins input blank left := by
  obtain ⟨blank, allBlank, begins⟩ := skipSpace_begins input
  unfold nextItem at read
  split at read
  next => cases read
  next same =>
    cases read
    exact ⟨blank, allBlank, same ▸ begins⟩
  next =>
    split at read
    next => cases read
    next =>
      split at read
      next =>
        split at read
        next => cases read
        next => cases read
        next => cases read
      next => cases read

theorem nextItem_more (read : nextItem first input = .ok (true, left)) :
    ∃ blank lead, Blank blank ∧ Blank lead ∧ (first = true → blank = []) ∧
      Begins input (blank ++ ((if first then [] else [',']) ++ lead)) left := by
  obtain ⟨blank, allBlank, begins⟩ := skipSpace_begins input
  unfold nextItem at read
  split at read
  next => cases read
  next => cases read
  next symbol rest _ same =>
    rw [same] at begins
    split at read
    next isFirst =>
      cases read
      refine ⟨[], blank, .nil, allBlank, fun _ => rfl, ?_⟩
      rw [if_pos isFirst]
      exact begins
    next later =>
      split at read
      next comma =>
        obtain ⟨lead, leading, onward⟩ := skipSpace_begins rest
        split at read
        next => cases read
        next => cases read
        next =>
          cases read
          refine ⟨blank, lead, allBlank, leading, fun isFirst => absurd isFirst later, ?_⟩
          rw [if_neg later]
          rw [comma] at begins
          exact begins.trans (onward.cons ',')
      next => cases read

private theorem readKey_begins {key? : Option String}
    (read : nextKey.key input = .ok (key?, left)) :
    ∃ key quoted, key? = some key ∧ Quotes quoted key.toList ∧
      Begins input (quoted ++ ['"']) left := by
  obtain ⟨⟨text, after⟩, found, same⟩ := bind_eq_ok_iff.mp read
  cases same
  obtain ⟨quoted, quotes, begins⟩ := readString_begins found
  exact ⟨_, quoted, rfl, by rwa [String.toList_ofList], begins⟩

theorem nextKey_last (read : nextKey first input = .ok (none, left)) :
    ∃ blank, Blank blank ∧ Begins input blank left := by
  obtain ⟨blank, allBlank, begins⟩ := skipSpace_begins input
  have keyed {rest : List Symbol} (read : nextKey.key rest = .ok (none, left)) : False := by
    obtain ⟨_, _, same, _⟩ := readKey_begins read
    cases same
  unfold nextKey at read
  split at read
  next => cases read
  next same =>
    cases read
    exact ⟨blank, allBlank, same ▸ begins⟩
  next =>
    split at read
    next =>
      split at read
      next => exact (keyed read).elim
      next => cases read
    next =>
      split at read
      next =>
        split at read
        next => cases read
        next => exact (keyed read).elim
        next => cases read
        next => cases read
      next => cases read

theorem nextKey_more {key : String} (read : nextKey first input = .ok (some key, left)) :
    ∃ blank lead quoted, Blank blank ∧ Blank lead ∧ (first = true → blank = []) ∧
      Quotes quoted key.toList ∧
      Begins input (blank ++ ((if first then [] else [',']) ++
        (lead ++ '"' :: (quoted ++ ['"'])))) left := by
  obtain ⟨blank, allBlank, begins⟩ := skipSpace_begins input
  unfold nextKey at read
  split at read
  next => cases read
  next => cases read
  next symbol rest _ same =>
    rw [same] at begins
    split at read
    next isFirst =>
      split at read
      next quote =>
        obtain ⟨_, quoted, found, quotes, onward⟩ := readKey_begins read
        cases found
        refine ⟨[], blank, quoted, .nil, allBlank, fun _ => rfl, quotes, ?_⟩
        rw [if_pos isFirst]
        rw [quote] at begins
        exact begins.trans (onward.cons '"')
      next => cases read
    next later =>
      split at read
      next comma =>
        obtain ⟨lead, leading, skipped⟩ := skipSpace_begins rest
        split at read
        next => cases read
        next quote =>
          obtain ⟨_, quoted, found, quotes, onward⟩ := readKey_begins read
          cases found
          refine ⟨blank, lead, quoted, allBlank, leading, fun isFirst => absurd isFirst later,
            quotes, ?_⟩
          rw [if_neg later]
          rw [comma] at begins
          rw [quote] at skipped
          exact begins.trans ((skipped.trans (onward.cons '"')).cons ',')
        next => cases read
        next => cases read
      next => cases read

theorem readColon_begins (read : readColon input = .ok left) :
    ∃ gap, Blank gap ∧ Begins input (gap ++ [':']) left := by
  obtain ⟨gap, allBlank, begins⟩ := skipSpace_begins input
  unfold readColon at read
  split at read
  next => cases read
  next same =>
    cases read
    rw [same] at begins
    exact ⟨gap, allBlank, begins.trans (.one ':' _)⟩
  next => cases read

theorem endItems_begins (read : endItems input = .ok left) :
    ∃ blank, Blank blank ∧ Begins input (blank ++ [']']) left := by
  obtain ⟨blank, allBlank, begins⟩ := skipSpace_begins input
  unfold endItems at read
  split at read
  next => cases read
  next same =>
    cases read
    rw [same] at begins
    exact ⟨blank, allBlank, begins.trans (.one ']' _)⟩
  next =>
    dsimp only at read
    split at read
    next => cases read
    next => cases read
  next => cases read

theorem endMembers_begins (read : endMembers input = .ok left) :
    ∃ blank, Blank blank ∧ Begins input (blank ++ ['\x7d']) left := by
  obtain ⟨blank, allBlank, begins⟩ := skipSpace_begins input
  unfold endMembers at read
  split at read
  next => cases read
  next same =>
    cases read
    rw [same] at begins
    exact ⟨blank, allBlank, begins.trans (.one '\x7d' _)⟩
  next => cases read
  next => cases read

theorem markedNumber_begins {number : String} (read : markedNumber input = .ok (number, left)) :
    ∃ blank spelled text kept, Blank blank ∧ Quotes spelled text ∧ SpellsNumber text kept ∧
      number = String.ofList kept ∧ Begins input (blank ++ '"' :: (spelled ++ ['"'])) left := by
  obtain ⟨blank, allBlank, begins⟩ := skipSpace_begins input
  unfold markedNumber at read
  split at read
  next => cases read
  next same =>
    rw [same] at begins
    split at read
    next => cases read
    next found =>
      split at read
      next whole =>
        cases read
        obtain ⟨spelled, quotes, onward⟩ := readString_begins found
        obtain ⟨kept, spells, rfl⟩ := wholeNumber_spells whole
        exact ⟨blank, spelled, _, kept, allBlank, quotes, spells, rfl,
          begins.trans (onward.cons '"')⟩
      next => cases read
  next => cases read

end between

end RuntimeHandover.Json
