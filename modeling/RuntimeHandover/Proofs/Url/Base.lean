import RuntimeHandover.Proofs.Url.Ipv4
import RuntimeHandover.Url.Parser

/-! Web URLs with an address in dotted decimal for their host and plain segments for their path.
Such a URL is read part by part as it is written: nothing in it is coded, left out or taken for
something else. -/
namespace RuntimeHandover.Url
open Text

structure Base where
  secure : Bool
  host : Octets
  port : Option (List Char)
  segments : List (List Char)

namespace Base

def scheme (base : Base) : String := if base.secure then "https" else "http"

def portText (base : Base) : List Char := (base.port.map (':' :: ·)).getD []

def path (base : Base) : List Char := base.segments.flatMap ('/' :: ·)

def origin (base : Base) : List Char := base.host.text.toList ++ base.portText

def text (base : Base) (slashes : Nat) : String :=
  String.ofList (base.scheme.toList ++ "://".toList ++ base.origin ++ base.path ++
    List.replicate slashes '/')

def effectivePort (base : Base) : Nat :=
  (base.port.map (Nat.ofDigitChars 10 · 0)).getD (if base.secure then 443 else 80)

end Base

def unreserved (c : Char) : Bool :=
  c.isAlphanum || c = '-' || c = '_' || c = '~' || c = '.'

structure PlainSegment (segment : List Char) : Prop where
  some : segment ≠ []
  notDot : segment ≠ ['.']
  notDots : segment ≠ ['.', '.']
  letters : ∀ c ∈ segment, unreserved c = true

structure PlainPort (digits : List Char) : Prop where
  some : digits ≠ []
  decimal : ∀ c ∈ digits, c.isDigit = true
  fits : Nat.ofDigitChars 10 digits 0 ≤ 65535

structure Base.Plain (base : Base) : Prop where
  port : ∀ digits ∈ base.port, PlainPort digits
  segments : ∀ segment ∈ base.segments, PlainSegment segment

section letters

variable {c : Char}

private theorem unreserved_range (letter : unreserved c = true) :
    0x30 ≤ c.toNat ∧ c.toNat ≤ 0x39 ∨ 0x41 ≤ c.toNat ∧ c.toNat ≤ 0x5A ∨
      0x61 ≤ c.toNat ∧ c.toNat ≤ 0x7A ∨ c = '-' ∨ c = '_' ∨ c = '~' ∨ c = '.' := by
  simp only [unreserved, Char.isAlphanum, Char.isAlpha, Char.isUpper, Char.isLower, Char.isDigit,
    Bool.or_eq_true, Bool.and_eq_true, decide_eq_true_eq, UInt32.le_iff_toNat_le, ge_iff_le]
    at letter
  change ((((((0x41 ≤ c.toNat ∧ c.toNat ≤ 0x5A) ∨ (0x61 ≤ c.toNat ∧ c.toNat ≤ 0x7A)) ∨
    (0x30 ≤ c.toNat ∧ c.toNat ≤ 0x39)) ∨ c = '-') ∨ c = '_') ∨ c = '~') ∨ c = '.' at letter
  tauto

theorem ne_of_unreserved (letter : unreserved c = true) {other : Char}
    (reserved : unreserved other = false) : c ≠ other := by
  rintro rfl
  rw [letter] at reserved
  cases reserved

private theorem uncoded_of_unreserved (letter : unreserved c = true) : inPathSet c = false := by
  have away {other : Char} (reserved : unreserved other = false) := ne_of_unreserved letter reserved
  have range := unreserved_range letter
  have control : inControlSet c = false := by
    simp only [inControlSet, Bool.or_eq_false_iff, decide_eq_false_iff_not]
    rcases range with inside | inside | inside | rfl | rfl | rfl | rfl
    all_goals first | omega | decide
  simp only [inPathSet, inFragmentSet, control, Bool.false_or, Bool.or_eq_false_iff,
    List.contains_eq_mem, decide_eq_false_iff_not, List.mem_cons, List.not_mem_nil, or_false,
    not_or]
  refine ⟨⟨?_, ?_, ?_, ?_, ?_⟩, ?_, ?_, ?_, ?_⟩
  all_goals exact away (by decide)

end letters

section reading

/-- A text without controls and blanks is read as it is. -/
private theorem cleaned_shown {text : List Char} (shown : ∀ c ∈ text, 0x20 < c.toNat) :
    cleaned text = text := by
  have outer {part : List Char} (within : ∀ c ∈ part, 0x20 < c.toNat) :
      part.dropWhile (fun c => c.toNat ≤ 0x20) = part := by
    cases part with
    | nil => rfl
    | cons c rest =>
      have first := within c List.mem_cons_self
      exact List.dropWhile_cons_of_neg (by simpa using first)
  have kept : text.filter (fun c => c ≠ '\t' && c ≠ '\n' && c ≠ '\r') = text := by
    refine List.filter_eq_self.mpr fun c inside => ?_
    have high := shown c inside
    have tab : c ≠ '\t' := by rintro rfl; revert high; decide
    have feed : c ≠ '\n' := by rintro rfl; revert high; decide
    have back : c ≠ '\r' := by rintro rfl; revert high; decide
    simp [tab, feed, back]
  unfold cleaned
  dsimp only
  rw [outer shown, outer fun c inside => shown c (List.mem_reverse.mp inside), List.reverse_reverse]
  exact kept

private theorem readCredentials_none {special : Bool} {input : List Char} (none_ : '@' ∉ input) :
    readCredentials special input = .ok ("", "", input) := by
  unfold readCredentials
  dsimp only
  split
  next => rfl
  next user some_ =>
    refine absurd ?_ some_
    rw [List.reverse_eq_nil_iff, List.dropWhile_eq_nil_iff]
    intro c inside
    have among : c ∈ input := List.takeWhile_subset _ (List.mem_reverse.mp inside)
    have other : c ≠ '@' := by
      rintro rfl
      exact none_ among
    simpa using other

/-- A host without brackets reaches to the first character that ends it. -/
private theorem splitHost_plain {host : List Char}
    (plain : ∀ c ∈ host, c.isDigit = true ∨ c = '.') {rest : List Char}
    (ends : ∀ c ∈ rest.head?, c = ':' ∨ c = '/') :
    splitHost true false (host ++ rest) = (host, rest) := by
  induction host with
  | nil =>
    cases rest with
    | nil => rfl
    | cons c rest =>
      have stop : c = ':' ∨ c = '/' := ends c rfl
      rw [List.nil_append, splitHost, if_pos]
      rcases stop with rfl | rfl
      · simp
      · simp
  | cons c host ih =>
    obtain ⟨first, plain⟩ := List.forall_mem_cons.mp plain
    have away {other : Char}
        (apart : other.toNat < 0x2E ∨ other.toNat = 0x2F ∨ 0x39 < other.toNat) : c ≠ other := by
      rcases first with digit | rfl
      · exact ne_of_digit digit (by omega)
      · rintro rfl
        revert apart
        decide
    have colon : c ≠ ':' := away (by decide)
    have slash : c ≠ '/' := away (by decide)
    have query : c ≠ '?' := away (by decide)
    have fragment : c ≠ '#' := away (by decide)
    have back : c ≠ '\\' := away (by decide)
    have opens : c ≠ '[' := away (by decide)
    have closes : c ≠ ']' := away (by decide)
    rw [List.cons_append, splitHost, if_neg (by simp [colon, slash, query, fragment, back]),
      if_neg opens, if_neg closes]
    dsimp only
    rw [ih plain]

private theorem readPort_digits (scheme : String) {digits rest : List Char}
    (plain : PlainPort digits)
    (ends : ∀ c ∈ rest.head?, c = '/') :
    readPort scheme (digits ++ rest) =
      .ok (if defaultPort? scheme = some (Nat.ofDigitChars 10 digits 0) then none
        else some (Nat.ofDigitChars 10 digits 0), rest) := by
  obtain ⟨some_, decimal, fits⟩ := plain
  have taken : (digits ++ rest).takeWhile Char.isDigit = digits := by
    rw [List.takeWhile_append_of_pos decimal]
    cases rest with
    | nil => simp
    | cons c rest =>
      have slash : c = '/' := ends c rfl
      rw [slash]
      exact List.append_nil digits
  have left : (digits ++ rest).dropWhile Char.isDigit = rest := by
    rw [List.dropWhile_append_of_pos decimal]
    cases rest with
    | nil => rfl
    | cons c rest =>
      have slash : c = '/' := ends c rfl
      rw [slash]
      rfl
  unfold readPort
  dsimp only
  have given : digits.isEmpty = false := by simpa using some_
  have small : ¬ Nat.ofDigitChars 10 digits 0 > 65535 := Nat.not_lt.mpr fits
  have told (rest : List Char) :
      (if defaultPort? scheme = some (Nat.ofDigitChars 10 digits 0) then
        (Except.ok (none, rest) : Except Fault (Option Nat × List Char))
      else .ok (some (Nat.ofDigitChars 10 digits 0), rest)) =
        .ok (if defaultPort? scheme = some (Nat.ofDigitChars 10 digits 0) then none
          else some (Nat.ofDigitChars 10 digits 0), rest) := by
    split
    · rfl
    · rfl
  rw [taken, left, given]
  cases rest with
  | nil => simpa [small] using told []
  | cons c rest =>
    obtain rfl : c = '/' := ends c rfl
    simpa [small] using told ('/' :: rest)

section authority

variable {base : Base} {rest : List Char}

def Base.url (base : Base) (read : List String × List Char) : Url where
  scheme := base.scheme
  host := some (.ipv4 base.host.address)
  port := base.port.bind fun digits =>
    if defaultPort? base.scheme = some (Nat.ofDigitChars 10 digits 0) then none
    else some (Nat.ofDigitChars 10 digits 0)
  path := .segments read.1
  query := (readTail true read.2).1
  fragment := (readTail true read.2).2

private theorem Base.scheme_cases (base : Base) : base.scheme = "http" ∨ base.scheme = "https" := by
  unfold scheme
  split
  · exact .inr rfl
  · exact .inl rfl

private theorem Base.special (base : Base) :
    isSpecial base.scheme = true ∧ Manner.ofScheme base.scheme = .special ∧
      base.scheme ≠ "file" := by
  rcases base.scheme_cases with web | web
  all_goals
    rw [web]
    decide

private theorem not_mem_origin (port : ∀ digits ∈ base.port, PlainPort digits) {c : Char}
    (other : c.isDigit = false) (notDot : c ≠ '.') (notColon : c ≠ ':') : c ∉ base.origin := by
  intro inside
  rcases List.mem_append.mp inside with host | ported
  · rcases base.host.mem_text host with digit | rfl
    · rw [digit] at other
      cases other
    · exact notDot rfl
  · unfold Base.portText at ported
    cases given : base.port with
    | none =>
      rw [given] at ported
      cases ported
    | some digits =>
      rw [given] at ported
      rcases List.mem_cons.mp ported with rfl | digit
      · exact notColon rfl
      · rw [(port digits given).decimal c digit] at other
        cases other

private theorem readAuthority_origin (port : ∀ digits ∈ base.port, PlainPort digits)
    (plain : '@' ∉ rest) (ends : ∀ c ∈ rest.head?, c = '/') :
    readAuthority base.scheme (base.origin ++ rest) = .ok (base.url (readPath .special rest)) := by
  obtain ⟨special, manner, -⟩ := base.special
  have unnamed : '@' ∉ base.origin ++ rest :=
    List.not_mem_append (not_mem_origin port rfl (by decide) (by decide)) plain
  have some_ : base.host.text.toList.isEmpty = false := by
    simp [Octets.toList_text]
  have hosted : splitHost true false (base.origin ++ rest) =
      (base.host.text.toList, base.portText ++ rest) := by
    rw [Base.origin, List.append_assoc]
    refine splitHost_plain (fun c inside => base.host.mem_text inside) ?_
    intro c first
    unfold Base.portText at first
    cases given : base.port with
    | none =>
      rw [given] at first
      exact .inr (ends c first)
    | some digits =>
      rw [given] at first
      exact .inl (Option.some.inj first).symm
  unfold readAuthority
  simp only [special, readCredentials_none unnamed, bind, Except.bind, hosted, some_,
    specialHost_text, manner, Bool.false_eq_true, and_false, false_and, if_false, if_true]
  unfold Base.portText Base.url
  cases given : base.port with
  | none =>
    cases rest with
    | nil => rfl
    | cons c rest =>
      have slash : c = '/' := ends c rfl
      subst slash
      rfl
  | some digits =>
    have read := readPort_digits base.scheme (port digits given) ends
    simp only [Option.map_some, Option.getD_some, List.cons_append, read]
    rfl

end authority

section path

variable {segment : List Char}

/-- A letter is no capital one when its small form comes before the small letters. -/
private theorem toLower_of_before {c : Char} (before : c.toLower.toNat < 0x61) : c.toLower = c := by
  unfold Char.toLower at before ⊢
  split
  next upper =>
    obtain ⟨low, high⟩ := upper
    rw [dif_pos ⟨low, high⟩] at before
    change (c.val + ('a'.val - 'A'.val)).toNat < 0x61 at before
    have low : 0x41 ≤ c.val.toNat := UInt32.le_iff_toNat_le.mp low
    have high : c.val.toNat ≤ 0x5A := UInt32.le_iff_toNat_le.mp high
    have apart : ('a'.val - 'A'.val).toNat = 32 := by decide
    rw [UInt32.toNat_add, apart] at before
    omega
  next => rfl

private theorem eq_of_lower {dots : List Char} (before : ∀ c ∈ dots, c.toNat < 0x61)
    (lower : segment.map Char.toLower = dots) : segment = dots := by
  have kept : segment.map Char.toLower = segment.map id := by
    refine List.map_congr_left fun c inside => ?_
    refine toLower_of_before (before c.toLower ?_)
    rw [← lower]
    exact List.mem_map_of_mem inside
  rw [← lower, kept, List.map_id]

private theorem PlainSegment.percent_not_mem (plain : PlainSegment segment) :
    '%' ∉ segment.map Char.toLower := by
  intro inside
  obtain ⟨c, letter, lower⟩ := List.mem_map.mp inside
  have same := toLower_of_before (c := c) (by rw [lower]; decide)
  exact ne_of_unreserved (plain.letters c letter) (by decide) (same.symm.trans lower)

private theorem PlainSegment.lower_ne (plain : PlainSegment segment) {text : String}
    (coded : '%' ∈ text.toList) : String.ofList (segment.map Char.toLower) ≠ text := by
  rintro rfl
  rw [String.toList_ofList] at coded
  exact plain.percent_not_mem coded

private theorem PlainSegment.isSingleDot (plain : PlainSegment segment) :
    isSingleDot segment = false := by
  have dot : String.ofList (segment.map Char.toLower) ≠ "." := by
    intro same
    have lower := congrArg String.toList same
    rw [String.toList_ofList] at lower
    exact plain.notDot (eq_of_lower (by simp) lower)
  have coded : String.ofList (segment.map Char.toLower) ≠ "%2e" := plain.lower_ne (by decide)
  unfold Url.isSingleDot
  simp only [List.contains_eq_mem, List.mem_cons, List.not_mem_nil, or_false, dot, coded,
    decide_false]

private theorem PlainSegment.isDoubleDot (plain : PlainSegment segment) :
    isDoubleDot segment = false := by
  have dots : String.ofList (segment.map Char.toLower) ≠ ".." := by
    intro same
    have lower := congrArg String.toList same
    rw [String.toList_ofList] at lower
    exact plain.notDots (eq_of_lower (by simp) lower)
  have first : String.ofList (segment.map Char.toLower) ≠ "%2e." := plain.lower_ne (by decide)
  have second : String.ofList (segment.map Char.toLower) ≠ ".%2e" := plain.lower_ne (by decide)
  have both : String.ofList (segment.map Char.toLower) ≠ "%2e%2e" := plain.lower_ne (by decide)
  unfold Url.isDoubleDot
  simp only [List.contains_eq_mem, List.mem_cons, List.not_mem_nil, or_false, dots, first, second,
    both, decide_false]

private theorem percentEncode_plain {coded : Char → Bool} {text : List Char}
    (plain : ∀ c ∈ text, coded c = false) : percentEncode coded text = text := by
  induction text with
  | nil => rfl
  | cons c text ih =>
    obtain ⟨first, rest⟩ := List.forall_mem_cons.mp plain
    change percentChar coded c ++ percentEncode coded text = c :: text
    rw [percentChar, if_neg (by simp [first]), ih rest]
    rfl

private theorem PlainSegment.addSegment (plain : PlainSegment segment) (before : List String)
    (last : Bool) :
    addSegment .special before segment last = before ++ [String.ofList segment] := by
  have coded := percentEncode_plain fun c inside =>
    uncoded_of_unreserved (plain.letters c inside)
  unfold Url.addSegment
  rw [plain.isDoubleDot, plain.isSingleDot]
  simp [Manner.written, coded]

private theorem PlainSegment.unstopped (plain : PlainSegment segment) :
    ∀ c ∈ segment, (!(Manner.special.separates c || endsPath c)) = true := by
  intro c inside
  have away {other : Char} (reserved : unreserved other = false) :=
    ne_of_unreserved (plain.letters c inside) reserved
  have slash : c ≠ '/' := away (by decide)
  have back : c ≠ '\\' := away (by decide)
  have query : c ≠ '?' := away (by decide)
  have fragment : c ≠ '#' := away (by decide)
  simp [Manner.separates, isSeparator, endsPath, slash, back, query, fragment]

/-- Plain segments are read as they are written, each after a slash. -/
private theorem readSegments_plain {rest : List (List Char)} (plain : PlainSegment segment)
    (others : ∀ other ∈ rest, PlainSegment other) (before : List String) :
    readSegments .special before (segment ++ rest.flatMap ('/' :: ·)) =
      (before ++ (segment :: rest).map String.ofList, []) := by
  induction rest generalizing segment before with
  | nil =>
    rw [List.flatMap_nil, List.append_nil, readSegments]
    split
    next =>
      rw [List.takeWhile_eq_self_iff.mpr plain.unstopped, plain.addSegment]
      rfl
    next c after left =>
      rw [List.dropWhile_eq_nil_iff.mpr plain.unstopped] at left
      cases left
  | cons next rest ih =>
    obtain ⟨first, others⟩ := List.forall_mem_cons.mp others
    rw [List.flatMap_cons, List.cons_append, readSegments]
    split
    next left =>
      rw [List.dropWhile_append_of_pos plain.unstopped] at left
      cases left
    next c after left =>
      rw [List.dropWhile_append_of_pos plain.unstopped] at left
      obtain ⟨rfl, rfl⟩ : '/' = c ∧ next ++ rest.flatMap ('/' :: ·) = after := List.cons.inj left
      have taken : (segment ++ '/' :: (next ++ rest.flatMap ('/' :: ·))).takeWhile
          (fun c => !(Manner.special.separates c || endsPath c)) = segment := by
        rw [List.takeWhile_append_of_pos plain.unstopped]
        exact List.append_nil segment
      have separates : Manner.special.separates '/' = true := by decide
      rw [if_pos separates, taken, plain.addSegment, ih first others]
      simp

/-- Segments after slashes are a path of these segments. -/
private theorem readPath_plain {segments : List (List Char)} (some_ : segments ≠ [])
    (plain : ∀ segment ∈ segments, PlainSegment segment) :
    readPath .special (segments.flatMap ('/' :: ·)) = (segments.map String.ofList, []) := by
  obtain _ | ⟨segment, rest⟩ := segments
  · contradiction
  · obtain ⟨first, others⟩ := List.forall_mem_cons.mp plain
    exact readSegments_plain first others []

theorem Path.text_segments (segments : List (List Char)) :
    (Path.segments (segments.map String.ofList)).text =
      String.ofList (segments.flatMap ('/' :: ·)) := by
  simp only [Path.text, List.map_map]
  induction segments with
  | nil => rfl
  | cons segment rest ih =>
    rw [List.map_cons, String.join_cons, ih]
    apply String.toList_injective
    simp

end path

section whole

variable {base : Base}

theorem Base.origin_some (base : Base) : base.origin ≠ [] := by
  simp [Base.origin, Octets.toList_text]

theorem Base.slash_not_mem_origin (plain : base.Plain) : '/' ∉ base.origin :=
  not_mem_origin plain.port (by decide) (by decide) (by decide)

private theorem splitScheme?_base (base : Base) (rest : List Char) :
    splitScheme? (base.scheme.toList ++ "://".toList ++ rest) =
      some (base.scheme, '/' :: '/' :: rest) := by
  rcases base.scheme_cases with web | web
  all_goals
    rw [web]
    rfl

private theorem Base.shown_origin (plain : base.Plain) : ∀ c ∈ base.origin, 0x20 < c.toNat := by
  intro c inside
  by_contra low
  refine not_mem_origin plain.port ?_ ?_ ?_ inside
  · refine Bool.eq_false_iff.mpr fun digit => ?_
    have range := digit_range digit
    omega
  · rintro rfl
    exact low (by decide)
  · rintro rfl
    exact low (by decide)

/-- A base URL is read with its scheme, host and port, whatever path it has. -/
private theorem parse_base (plain : base.Plain) {rest : List Char}
    (shown : ∀ c ∈ rest, 0x20 < c.toNat)
    (unnamed : '@' ∉ rest) (starts : ∀ c ∈ rest.head?, c = '/') :
    parse (String.ofList (base.scheme.toList ++ "://".toList ++ base.origin ++ rest)) =
      .ok (base.url (readPath .special rest)) := by
  obtain ⟨special, -, notFile⟩ := base.special
  have clean : cleaned (base.scheme.toList ++ "://".toList ++ base.origin ++ rest) =
      base.scheme.toList ++ "://".toList ++ (base.origin ++ rest) := by
    rw [← List.append_assoc]
    refine cleaned_shown fun c inside => ?_
    rw [List.mem_append, List.mem_append, List.mem_append] at inside
    rcases inside with ((scheme | mark) | origin) | after
    · rcases base.scheme_cases with web | web
      · rw [web] at scheme
        exact (by simp : ∀ c ∈ "http".toList, 0x20 < c.toNat) c scheme
      · rw [web] at scheme
        exact (by simp : ∀ c ∈ "https".toList, 0x20 < c.toNat) c scheme
    · exact (by simp : ∀ c ∈ "://".toList, 0x20 < c.toNat) c mark
    · exact base.shown_origin plain c origin
    · exact shown c after
  have apart : dropSlashes ('/' :: '/' :: (base.origin ++ rest)) = base.origin ++ rest := by
    have slash := base.slash_not_mem_origin plain
    have back : '\\' ∉ base.origin :=
      not_mem_origin plain.port (by decide) (by decide) (by decide)
    obtain ⟨c, more, origin⟩ := List.exists_cons_of_ne_nil base.origin_some
    rw [origin] at slash back ⊢
    have solid : isSeparator true c = false := by
      simp only [List.mem_cons, not_or] at slash back
      simp [isSeparator, Ne.symm slash.1, Ne.symm back.1]
    change dropSlashes (c :: (more ++ rest)) = c :: (more ++ rest)
    exact List.dropWhile_cons_of_neg (Bool.eq_false_iff.mp solid)
  unfold parse
  rw [String.toList_ofList, clean]
  dsimp only
  rw [splitScheme?_base]
  dsimp only
  rw [readAfterScheme, if_neg notFile, if_pos special, apart,
    readAuthority_origin plain.port unnamed starts]

private theorem Base.path_letters (plain : base.Plain) :
    ∀ c ∈ base.path, c = '/' ∨ unreserved c = true := by
  intro c inside
  obtain ⟨segment, within, letter⟩ := List.mem_flatMap.mp inside
  rcases List.mem_cons.mp letter with slash | letter
  · exact .inl slash
  · exact .inr ((plain.segments segment within).letters c letter)

private theorem Base.path_head (base : Base) : ∀ c ∈ base.path.head?, c = '/' := by
  intro c first
  unfold path at first
  cases given : base.segments with
  | nil =>
    rw [given] at first
    cases first
  | cons segment rest =>
    rw [given] at first
    exact (Option.some.inj first).symm

/-- What ends a base URL: its segments, and slashes. -/
private theorem Base.ending (plain : base.Plain) (slashes : Nat) :
    (∀ c ∈ base.path ++ List.replicate slashes '/', 0x20 < c.toNat) ∧
      '@' ∉ base.path ++ List.replicate slashes '/' ∧
      ∀ c ∈ (base.path ++ List.replicate slashes '/').head?, c = '/' := by
  have letters : ∀ c ∈ base.path ++ List.replicate slashes '/', c = '/' ∨ unreserved c = true := by
    intro c inside
    rcases List.mem_append.mp inside with path | slash
    · exact base.path_letters plain c path
    · exact .inl (List.eq_of_mem_replicate slash)
  refine ⟨fun c inside => ?_, fun inside => ?_, fun c first => ?_⟩
  · rcases letters c inside with rfl | letter
    · decide
    · rcases unreserved_range letter with range | range | range | rfl | rfl | rfl | rfl
      all_goals first | omega | decide
  · rcases letters '@' inside with slash | letter
    · exact absurd slash (by decide)
    · exact absurd letter (by decide)
  · rw [List.head?_append] at first
    cases given : base.path.head? with
    | some c' =>
      rw [given] at first
      obtain rfl : c' = c := Option.some.inj first
      exact base.path_head c' given
    | none =>
      rw [given] at first
      exact List.eq_of_mem_replicate (List.mem_of_mem_head? first)

/-- A base URL is read with its scheme, host and port however many slashes it ends in. -/
theorem parse_text (plain : base.Plain) (slashes : Nat) :
    parse (base.text slashes) =
      .ok (base.url (readPath .special (base.path ++ List.replicate slashes '/'))) := by
  obtain ⟨shown, unnamed, starts⟩ := base.ending plain slashes
  rw [Base.text, List.append_assoc]
  exact parse_base plain shown unnamed starts

theorem parse_segments (plain : base.Plain) (some_ : base.segments ≠ []) :
    parse (base.text 0) = .ok (base.url (base.segments.map String.ofList, [])) := by
  rw [parse_text plain, List.replicate_zero, List.append_nil, Base.path,
    readPath_plain some_ plain.segments]

theorem Base.url_port (base : Base) (read : List String × List Char) :
    (base.url read).port.or (defaultPort? (base.url read).scheme) = some base.effectivePort := by
  have own : defaultPort? base.scheme = some (if base.secure then 443 else 80) := by
    unfold scheme
    split
    · rfl
    · rfl
  unfold Base.url Base.effectivePort
  dsimp only
  rw [own]
  cases base.port with
  | none => rfl
  | some digits =>
    by_cases same : (if base.secure then 443 else 80) = Nat.ofDigitChars 10 digits 0
    · simp [same]
    · simp [same]

end whole

end reading

end RuntimeHandover.Url
