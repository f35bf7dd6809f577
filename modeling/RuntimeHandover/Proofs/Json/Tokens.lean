import RuntimeHandover.Json.Printer
import RuntimeHandover.Json.Scan
import RuntimeHandover.Proofs.Act

/-! Strings and numbers read back as they were printed, whatever follows them. A number is
printed as its text, so what is shown of it is which texts reading ever gives. -/
namespace RuntimeHandover.Json
open Text

abbrev chars (text : List Char) : List Symbol := text.map .char

theorem skipSpace_of_blank {blank : List Char} (allBlank : ∀ c ∈ blank, isSpace (.char c) = true)
    (rest : List Symbol) : skipSpace (chars blank ++ rest) = skipSpace rest := by
  apply List.dropWhile_append_of_pos
  intro symbol inside
  obtain ⟨c, there, rfl⟩ := List.mem_map.mp inside
  exact allBlank c there

theorem skipSpace_of_not {symbol : Symbol} (solid : isSpace symbol = false) (rest : List Symbol) :
    skipSpace (symbol :: rest) = symbol :: rest := by
  rw [skipSpace, List.dropWhile_cons_of_neg]
  simp [solid]

section strings

def FourHex (digits : List Char) (n : Nat) : Prop :=
  digits.length = 4 ∧ (∀ c ∈ digits, (hexValue? c).isSome = true) ∧ hexNumber digits = n

inductive Quotes : List Char → List Char → Prop
  | nil : Quotes [] []
  | plain {c : Char} (quiet : c ≠ '"' ∧ c ≠ '\\' ∧ 32 ≤ c.toNat) {spelled text : List Char}
      (later : Quotes spelled text) : Quotes (c :: spelled) (c :: text)
  | short {e c : Char} (named : simpleEscape? e = some c) {spelled text : List Char}
      (later : Quotes spelled text) : Quotes ('\\' :: e :: spelled) (c :: text)
  | unicode {digits : List Char} {n : Nat} (four : FourHex digits n)
      (whole : isTrailing n = false ∧ isLeading n = false) {spelled text : List Char}
      (later : Quotes spelled text) :
      Quotes ('\\' :: 'u' :: (digits ++ spelled)) (Char.ofNat n :: text)
  | pair {high low : List Char} {n m : Nat} (first : FourHex high n) (second : FourHex low m)
      (leading : isLeading n = true) (trailing : isTrailing m = true) {spelled text : List Char}
      (later : Quotes spelled text) :
      Quotes ('\\' :: 'u' :: (high ++ '\\' :: 'u' :: (low ++ spelled)))
        (Char.ofNat (0x10000 + (n - 0xD800) * 0x400 + (m - 0xDC00)) :: text)

private theorem length_le_width (text : List Char) : text.length ≤ width (chars text) := by
  induction text with
  | nil => exact Nat.zero_le _
  | cons c text ih =>
    have size : 0 < c.utf8Size := c.utf8Size_pos
    simp only [chars, List.map_cons, width, Symbol.width, List.length_cons] at ih ⊢
    omega

theorem hexFour_four {digits : List Char} {n : Nat} (four : FourHex digits n)
    (rest : List Symbol) : hexFour (chars digits ++ rest) = .ok n := by
  obtain ⟨size, all, rfl⟩ := four
  have taken : (chars digits ++ rest).take 4 = chars digits :=
    List.take_left' (by rw [chars, List.length_map, size])
  have wide := length_le_width digits
  have values : (chars digits).mapM (fun symbol => symbol.char?.bind hexValue?) =
      some (digits.map fun c => (hexValue? c).getD 0) := by
    clear size taken wide
    induction digits with
    | nil => rfl
    | cons c digits ih =>
      obtain ⟨v, found⟩ := Option.isSome_iff_exists.mp (all c List.mem_cons_self)
      have later := ih fun d inside => all d (List.mem_cons_of_mem _ inside)
      have head : (Symbol.char c).char?.bind hexValue? = some v := found
      rw [chars, List.map_cons, List.mapM_cons, head, later]
      simp [found]
  unfold hexFour
  rw [taken, if_neg (by omega), values]
  simp only [List.foldl_map, hexNumber]

theorem drop_chars {digits : List Char} (size : digits.length = 4) (rest : List Symbol) :
    (chars digits ++ rest).drop 4 = rest :=
  List.drop_left' (by rw [chars, List.length_map, size])

private theorem readEscape_short {e c : Char} (named : simpleEscape? e = some c)
    (rest : List Symbol) :
    readEscape (.char e :: rest) = .ok (c, 1) := by
  unfold readEscape
  split
  next same => cases same
  next same =>
    cases same
    cases named
  next same =>
    cases same
    rw [named]
  next other => exact absurd rfl (other e rest)

private theorem readEscape_unicode {digits : List Char} {n : Nat} (four : FourHex digits n)
    (whole : isTrailing n = false ∧ isLeading n = false) (rest : List Symbol) :
    readEscape (.char 'u' :: (chars digits ++ rest)) = .ok (Char.ofNat n, 5) := by
  rw [readEscape, hexFour_four four]
  simp [bind, Except.bind, whole.1, whole.2]

private theorem readEscape_pair {high low : List Char} {n m : Nat} (first : FourHex high n)
    (second : FourHex low m) (leading : isLeading n = true) (trailing : isTrailing m = true)
    (rest : List Symbol) :
    readEscape (.char 'u' :: (chars high ++ .char '\\' :: .char 'u' :: (chars low ++ rest))) =
      .ok (Char.ofNat (0x10000 + (n - 0xD800) * 0x400 + (m - 0xDC00)), 11) := by
  have untrailing : isTrailing n = false := by
    simp only [isLeading, Bool.and_eq_true, decide_eq_true_eq] at leading
    simp only [isTrailing, Bool.and_eq_false_iff, decide_eq_false_iff_not]
    omega
  rw [readEscape, hexFour_four first]
  simp only [bind, Except.bind, untrailing, leading, Bool.false_eq_true, if_false, if_true,
    drop_chars first.1, trailingSurrogate, hexFour_four second, trailing]

theorem readPieces_quote (rest : List Symbol) :
    readPieces (.char '"' :: rest) = .ok ([], rest) := by
  rw [readPieces]
  rfl

private theorem readPieces_escape (escape : List Symbol) {meant : Char} {taken : Nat}
    (rest : List Symbol)
    (read : readEscape (escape ++ rest) = .ok (meant, taken)) (whole : taken = escape.length)
    {pieces left : List Symbol} (later : readPieces rest = .ok (pieces, left)) :
    readPieces (.char '\\' :: (escape ++ rest)) = .ok (.char meant :: pieces, left) := by
  rw [readPieces, if_neg (by decide), if_pos rfl, read]
  simp only
  rw [whole, List.drop_left, later]

private theorem readPieces_quotes {spelled text : List Char} (quotes : Quotes spelled text)
    (rest : List Symbol) :
    readPieces (chars spelled ++ .char '"' :: rest) = .ok (chars text, rest) := by
  induction quotes with
  | nil => exact readPieces_quote rest
  | @plain c quiet spelled text later ih =>
    simp only [chars, List.map_cons, List.cons_append] at ih ⊢
    rw [readPieces, if_neg quiet.1, if_neg quiet.2.1, if_neg (Nat.not_lt.mpr quiet.2.2), ih]
  | short named later ih => exact readPieces_escape [_] _ (readEscape_short named _) rfl ih
  | @unicode digits n four whole spelled text later ih =>
    have read := readPieces_escape (.char 'u' :: chars digits) _
      (readEscape_unicode four whole _) (by simp [chars, four.1]) ih
    simpa [chars] using read
  | @pair high low n m first second leading trailing spelled text later ih =>
    have escaped := readEscape_pair first second leading trailing
      (chars spelled ++ .char '"' :: rest)
    have read := readPieces_escape
      (.char 'u' :: (chars high ++ .char '\\' :: .char 'u' :: chars low)) _
      (by simpa using escaped) (by simp [chars, first.1, second.1]) ih
    simpa [chars] using read

theorem readString_quotes {spelled text : List Char} (quotes : Quotes spelled text)
    (rest : List Symbol) : readString (chars spelled ++ .char '"' :: rest) = .ok (text, rest) := by
  have all : (chars text).mapM Symbol.char? = some text := by
    clear quotes
    induction text with
    | nil => rfl
    | cons c text ih => simp [Symbol.char?, ih]
  rw [readString, readPieces_quotes quotes]
  simp only [all]

private theorem hexDigit_four :
    ∀ n < 16, hexValue? (hexDigit n) = some n := by decide

private theorem fourHex_control {n : Nat} (low : n < 32) :
    FourHex ['0', '0', hexDigit (n / 16), hexDigit (n % 16)] n := by
  have high := hexDigit_four (n / 16) (by omega)
  have unit := hexDigit_four (n % 16) (by omega)
  have zero : hexValue? '0' = some 0 := by decide
  refine ⟨rfl, ?_, ?_⟩
  · simp [zero, high, unit]
  · simp [hexNumber, zero, high, unit]
    omega

private theorem quotes_escapedChar (c : Char) {spelled text : List Char}
    (later : Quotes spelled text) :
    Quotes (escapedChar c ++ spelled) (c :: text) := by
  unfold escapedChar
  split
  · exact .short rfl later
  · exact .short rfl later
  · exact .short rfl later
  · exact .short rfl later
  · exact .short rfl later
  · exact .short rfl later
  · exact .short rfl later
  next notQuote notBackslash _ _ _ _ _ =>
    split
    next low =>
      have plain : isTrailing c.toNat = false ∧ isLeading c.toNat = false := by
        simp [isTrailing, isLeading]
        omega
      have spelled := Quotes.unicode (fourHex_control low) plain later
      rwa [Char.ofNat_toNat] at spelled
    next high => exact .plain ⟨notQuote, notBackslash, Nat.not_lt.mp high⟩ later

/-- The printed form is one of those. -/
theorem quotes_escaped (text : List Char) : Quotes (text.flatMap escapedChar) text := by
  induction text with
  | nil => exact .nil
  | cons c text ih => exact quotes_escapedChar c ih

end strings

section numbers

def AllDigits (text : List Char) : Prop := ∀ c ∈ text, c.isDigit = true

inductive IsExponent : List Char → Prop
  | none : IsExponent []
  | some {sign : Char} (signed : sign = '+' ∨ sign = '-') {digits : List Char}
      (nonempty : digits ≠ []) (all : AllDigits digits) : IsExponent ('e' :: sign :: digits)

inductive IsFraction : List Char → Prop
  | none {exponent : List Char} (scaled : IsExponent exponent) : IsFraction exponent
  | some {digits : List Char} (nonempty : digits ≠ []) (all : AllDigits digits)
      {exponent : List Char} (scaled : IsExponent exponent) :
      IsFraction ('.' :: digits ++ exponent)

inductive IsMagnitude : List Char → Prop
  | mk {first : Char} (digit : first.isDigit = true) {digits : List Char} (all : AllDigits digits)
      (plain : first = '0' → digits = []) {fraction : List Char} (fractional : IsFraction fraction) :
      IsMagnitude (first :: digits ++ fraction)

inductive IsNumber : List Char → Prop
  | positive {magnitude : List Char} (sized : IsMagnitude magnitude) : IsNumber magnitude
  | negative {magnitude : List Char} (sized : IsMagnitude magnitude) : IsNumber ('-' :: magnitude)

inductive SpellsExponent : List Char → List Char → Prop
  | none : SpellsExponent [] []
  | some {mark : Char} (marked : mark = 'e' ∨ mark = 'E') {written : List Char} {sign : Char}
      (signed : (written, sign) ∈ [([], '+'), (['+'], '+'), (['-'], '-')]) {digits : List Char}
      (nonempty : digits ≠ []) (all : AllDigits digits) :
      SpellsExponent (mark :: (written ++ digits)) ('e' :: sign :: digits)

inductive SpellsFraction : List Char → List Char → Prop
  | none {spelled exponent : List Char} (scaled : SpellsExponent spelled exponent) :
      SpellsFraction spelled exponent
  | some {digits : List Char} (nonempty : digits ≠ []) (all : AllDigits digits)
      {spelled exponent : List Char} (scaled : SpellsExponent spelled exponent) :
      SpellsFraction ('.' :: digits ++ spelled) ('.' :: digits ++ exponent)

inductive SpellsMagnitude : List Char → List Char → Prop
  | mk {first : Char} (digit : first.isDigit = true) {digits : List Char} (all : AllDigits digits)
      (plain : first = '0' → digits = []) {spelled fraction : List Char}
      (fractional : SpellsFraction spelled fraction) :
      SpellsMagnitude (first :: digits ++ spelled) (first :: digits ++ fraction)

inductive SpellsNumber : List Char → List Char → Prop
  | positive {spelled magnitude : List Char} (sized : SpellsMagnitude spelled magnitude) :
      SpellsNumber spelled magnitude
  | negative {spelled magnitude : List Char} (sized : SpellsMagnitude spelled magnitude) :
      SpellsNumber ('-' :: spelled) ('-' :: magnitude)

def Ends (rest : List Symbol) : Prop :=
  ∀ c more, rest = .char c :: more → c.isDigit = false ∧ c ≠ '.' ∧ c ≠ 'e' ∧ c ≠ 'E'

def Undigited (rest : List Symbol) : Prop :=
  ∀ symbol more, rest = symbol :: more → digit? symbol = none

variable {rest : List Symbol}

theorem Ends.undigited (ends : Ends rest) : Undigited rest := by
  intro symbol more same
  cases symbol with
  | stray => rfl
  | char c =>
    have other := (ends c more same).1
    simp [digit?, other]

private theorem undigited_cons {c : Char} (other : c.isDigit = false) (more : List Symbol) :
    Undigited (.char c :: more) := by
  intro symbol left same
  cases same
  simp [digit?, other]

theorem digit?_char {c : Char} (digit : c.isDigit = true) : digit? (.char c) = some c := by
  simp [digit?, digit]

theorem readDigits_all {digits : List Char} (all : AllDigits digits) (ended : Undigited rest) :
    readDigits (chars digits ++ rest) = (digits, rest) := by
  induction digits with
  | nil =>
    cases rest with
    | nil => rfl
    | cons symbol more => simp [readDigits, ended symbol more rfl]
  | cons c digits ih =>
    have later := ih fun d inside => all d (List.mem_cons_of_mem _ inside)
    have digit := digit?_char (all c List.mem_cons_self)
    simp only [chars, List.map_cons, List.cons_append] at later ⊢
    rw [readDigits, digit]
    simp only [later]

private theorem readExponent_none (ends : Ends rest) : readExponent rest = .ok ([], rest) := by
  unfold readExponent
  split
  next c more =>
    obtain ⟨-, -, small, large⟩ := ends c more rfl
    rw [if_neg]
    exact fun either => either.elim small large
  next => rfl

private theorem readExponent_spelled {spelled exponent : List Char}
    (scaled : SpellsExponent spelled exponent) (ends : Ends rest) :
    readExponent (chars spelled ++ rest) = .ok (exponent, rest) := by
  cases scaled with
  | none => exact readExponent_none ends
  | @some mark marked written sign signed digits nonempty all =>
    have read := readDigits_all all ends.undigited
    cases digits with
    | nil => exact absurd rfl nonempty
    | cons d digits =>
      have first := all d List.mem_cons_self
      have digit := digit?_char first
      have unsigned : d ≠ '+' ∧ d ≠ '-' := by
        constructor
        all_goals
          rintro rfl
          cases first
      simp only [List.mem_cons, Prod.mk.injEq, List.not_mem_nil, or_false] at signed
      simp only [chars, List.map_cons, List.map_append, List.cons_append] at read ⊢
      obtain ⟨rfl, rfl⟩ | ⟨rfl, rfl⟩ | ⟨rfl, rfl⟩ := signed
      · simp [readExponent, marked, unsigned, digit, read]
      · simp [readExponent, marked, digit, read]
      · simp [readExponent, marked, digit, read]

theorem exponent_undigited {spelled exponent : List Char}
    (scaled : SpellsExponent spelled exponent) (ends : Ends rest) :
    Undigited (chars spelled ++ rest) := by
  cases scaled with
  | none => exact ends.undigited
  | some marked =>
    obtain rfl | rfl := marked
    all_goals exact undigited_cons (by decide) _

theorem fraction_undigited {spelled fraction : List Char}
    (fractional : SpellsFraction spelled fraction) (ends : Ends rest) :
    Undigited (chars spelled ++ rest) := by
  cases fractional with
  | none scaled => exact exponent_undigited scaled ends
  | some nonempty all scaled => exact undigited_cons (by decide) _

private theorem readFraction_spelled {spelled fraction : List Char}
    (fractional : SpellsFraction spelled fraction) (ends : Ends rest) :
    readFraction (chars spelled ++ rest) = .ok (fraction, rest) := by
  cases fractional with
  | none scaled =>
    have read := readExponent_spelled scaled ends
    unfold readFraction
    split
    next more same =>
      cases scaled with
      | none => exact absurd rfl (ends '.' more same).2.1
      | some marked =>
        cases same
        simp at marked
    next => exact read
  | @some digits nonempty all spelled exponent scaled =>
    have read := readDigits_all all (exponent_undigited scaled ends)
    have later := readExponent_spelled scaled ends
    cases digits with
    | nil => exact absurd rfl nonempty
    | cons d digits =>
      simp only [chars, List.map_cons, List.map_append, List.cons_append, List.append_assoc] at read later ⊢
      simp [readFraction, read, later, bind, Except.bind]

private theorem readMagnitude_spelled {spelled magnitude : List Char}
    (sized : SpellsMagnitude spelled magnitude) (ends : Ends rest) :
    readMagnitude (chars spelled ++ rest) = .ok (magnitude, rest) := by
  cases sized with
  | @mk first digit digits all plain spelled fraction fractional =>
    have read := readDigits_all all (fraction_undigited fractional ends)
    have later := readFraction_spelled fractional ends
    have allowed : ¬ (first = '0' ∧ digits ≠ []) := fun both => both.2 (plain both.1)
    simp only [chars, List.map_cons, List.map_append, List.cons_append, List.append_assoc] at read later ⊢
    rw [readMagnitude, digit?_char digit]
    simp only [read, if_neg allowed, later]
    rfl

/-- A number is read to where its text ends. -/
theorem readNumber_spelled {spelled kept : List Char} (number : SpellsNumber spelled kept)
    (ends : Ends rest) : readNumber (chars spelled ++ rest) = .ok (String.ofList kept, rest) := by
  cases number with
  | positive sized =>
    have read := readMagnitude_spelled sized ends
    unfold readNumber
    split
    next more same =>
      cases sized with
      | mk digit all plain fractional =>
        cases same
        cases digit
    next =>
      rw [read]
      rfl
  | negative sized =>
    have read := readMagnitude_spelled sized ends
    simp only [chars, List.map_cons, List.cons_append] at read ⊢
    rw [readNumber, read]
    rfl

/-- What reading keeps of a number is one way to write it. -/
theorem IsNumber.spells {text : List Char} (number : IsNumber text) : SpellsNumber text text := by
  have exponent {exponent : List Char} (scaled : IsExponent exponent) :
      SpellsExponent exponent exponent := by
    cases scaled with
    | none => exact .none
    | @some sign signed digits nonempty all =>
      have written : SpellsExponent ('e' :: ([sign] ++ digits)) ('e' :: sign :: digits) := by
        refine .some (.inl rfl) ?_ nonempty all
        obtain rfl | rfl := signed
        all_goals simp
      exact written
  have fraction {fraction : List Char} (fractional : IsFraction fraction) :
      SpellsFraction fraction fraction := by
    cases fractional with
    | none scaled => exact .none (exponent scaled)
    | some nonempty all scaled => exact .some nonempty all (exponent scaled)
  have magnitude {magnitude : List Char} (sized : IsMagnitude magnitude) :
      SpellsMagnitude magnitude magnitude := by
    cases sized with
    | mk digit all plain fractional => exact .mk digit all plain (fraction fractional)
  cases number with
  | positive sized => exact .positive (magnitude sized)
  | negative sized => exact .negative (magnitude sized)

theorem digit?_isDigit {symbol : Symbol} {c : Char} (found : digit? symbol = some c) :
    c.isDigit = true := by
  unfold digit? at found
  split at found
  next =>
    split at found
    next digit =>
      cases found
      exact digit
    next => cases found
  next => cases found

theorem readDigits_allDigits (input : List Symbol) : AllDigits (readDigits input).1 := by
  induction input with
  | nil =>
    intro c inside
    cases inside
  | cons symbol input ih =>
    rw [readDigits]
    cases found : digit? symbol with
    | none =>
      intro c inside
      cases inside
    | some first =>
      intro c inside
      rcases List.mem_cons.mp inside with rfl | later
      · exact digit?_isDigit found
      · exact ih c later

theorem readDigits_nonempty {symbol : Symbol} (digit : (digit? symbol).isSome = true)
    (rest : List Symbol) : (readDigits (symbol :: rest)).1 ≠ [] := by
  obtain ⟨c, found⟩ := Option.isSome_iff_exists.mp digit
  rw [readDigits, found]
  exact List.cons_ne_nil _ _

private theorem readExponent_scaled {input left : List Symbol} {exponent : List Char}
    (read : readExponent input = .ok (exponent, left)) : IsExponent exponent := by
  unfold readExponent at read
  split at read
  next c rest =>
    split at read
    next =>
      split at read
      next sign after signed =>
        have written : sign = '+' ∨ sign = '-' := by
          split at signed
          all_goals
            cases signed
            simp
        split at read
        next => cases read
        next symbol more =>
          split at read
          next digit =>
            have all := readDigits_allDigits (symbol :: more)
            have nonempty := readDigits_nonempty digit more
            cases read
            exact .some written nonempty all
          next => cases read
    next =>
      cases read
      exact .none
  next =>
    cases read
    exact .none

private theorem readFraction_fractional {input left : List Symbol} {fraction : List Char}
    (read : readFraction input = .ok (fraction, left)) : IsFraction fraction := by
  unfold readFraction at read
  split at read
  next rest =>
    have all := readDigits_allDigits rest
    split at read
    next => cases read
    next => cases read
    next digits left _ nonempty same =>
      rw [same] at all
      obtain ⟨⟨exponent, after⟩, scaled, whole⟩ := bind_eq_ok_iff.mp read
      cases whole
      exact .some nonempty all (readExponent_scaled scaled)
  next => exact .none (readExponent_scaled read)

private theorem readMagnitude_sized {input left : List Symbol} {magnitude : List Char}
    (read : readMagnitude input = .ok (magnitude, left)) : IsMagnitude magnitude := by
  unfold readMagnitude at read
  split at read
  next => cases read
  next symbol rest =>
    split at read
    next => cases read
    next first found =>
      have all := readDigits_allDigits rest
      dsimp only at read
      split at read
      next => cases read
      next allowed =>
        obtain ⟨⟨fraction, after⟩, fractional, same⟩ := bind_eq_ok_iff.mp read
        cases same
        refine .mk (digit?_isDigit found) all ?_ (readFraction_fractional fractional)
        intro zero
        exact Decidable.not_not.mp fun nonempty => allowed ⟨zero, nonempty⟩

/-- Reading gives no other texts of numbers than those that are read back. -/
theorem readNumber_number {input left : List Symbol} {text : String}
    (read : readNumber input = .ok (text, left)) : IsNumber text.toList := by
  unfold readNumber at read
  split at read
  next =>
    obtain ⟨⟨magnitude, after⟩, sized, same⟩ := bind_eq_ok_iff.mp read
    cases same
    have negative := IsNumber.negative (readMagnitude_sized sized)
    simpa [numberText] using negative
  next =>
    obtain ⟨⟨magnitude, after⟩, sized, same⟩ := bind_eq_ok_iff.mp read
    cases same
    have positive := IsNumber.positive (readMagnitude_sized sized)
    simpa [numberText] using positive

theorem wholeNumber_number {text : List Char} {number : String}
    (read : wholeNumber text = .ok number) : IsNumber number.toList := by
  unfold wholeNumber at read
  dsimp only at read
  split at read
  next => cases read
  next =>
    split at read
    next =>
      split at read
      next whole =>
        cases read
        exact readNumber_number whole
      next => cases read
      next => cases read
      next =>
        split at read
        next => cases read
        next => cases read
      next => cases read
    next => cases read

end numbers

end RuntimeHandover.Json
