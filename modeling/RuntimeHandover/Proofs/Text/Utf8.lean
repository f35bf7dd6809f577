import RuntimeHandover.Text.Utf8

/-! Text read back from its bytes. The range that a first byte asks of the next one holds
for every character, because none is coded in more bytes than it needs and none stands
for half of a surrogate pair. -/
namespace RuntimeHandover.Text.Utf8

section leads

variable {b : UInt8}

/-- The leads by the values of their bytes. -/
private theorem lead?_eq (b : UInt8) : lead? b =
    if b.toNat < 0xC2 then none
    else if b.toNat < 0xE0 then some ⟨b.toNat - 0xC0, 1, 0x80, 0xBF⟩
    else if b.toNat = 0xE0 then some ⟨0, 2, 0xA0, 0xBF⟩
    else if b.toNat = 0xED then some ⟨0xD, 2, 0x80, 0x9F⟩
    else if b.toNat < 0xF0 then some ⟨b.toNat - 0xE0, 2, 0x80, 0xBF⟩
    else if b.toNat = 0xF0 then some ⟨0, 3, 0x90, 0xBF⟩
    else if b.toNat < 0xF4 then some ⟨b.toNat - 0xF0, 3, 0x80, 0xBF⟩
    else if b.toNat = 0xF4 then some ⟨4, 3, 0x80, 0x8F⟩
    else none := by
  simp only [lead?, UInt8.lt_iff_toNat_lt, ← UInt8.toNat_inj]
  rfl

private theorem lead?_none (outside : b.toNat < 0xC2 ∨ 0xF4 < b.toNat) : lead? b = none := by
  rw [lead?_eq]
  rcases outside with small | large
  · rw [if_pos small]
  · rw [if_neg (by omega), if_neg (by omega), if_neg (by omega), if_neg (by omega),
      if_neg (by omega), if_neg (by omega), if_neg (by omega), if_neg (by omega)]

private theorem lead?_two (low : 0xC2 ≤ b.toNat) (high : b.toNat < 0xE0) :
    lead? b = some ⟨b.toNat - 0xC0, 1, 0x80, 0xBF⟩ := by
  rw [lead?_eq, if_neg (by omega), if_pos high]

/-- After a first byte of three the next is held back from what two bytes would do for,
and from surrogates. -/
private theorem lead?_three (low : 0xE0 ≤ b.toNat) (high : b.toNat < 0xF0) :
    ∃ least most : UInt8, lead? b = some ⟨b.toNat - 0xE0, 2, least, most⟩ ∧
      least.toNat = (if b.toNat = 0xE0 then 0xA0 else 0x80) ∧
      most.toNat = (if b.toNat = 0xED then 0x9F else 0xBF) := by
  rw [lead?_eq, if_neg (by omega), if_neg (by omega)]
  by_cases lowest : b.toNat = 0xE0
  · exact ⟨0xA0, 0xBF, by simp [lowest], by simp [lowest], by simp [lowest]⟩
  · by_cases surrogates : b.toNat = 0xED
    · exact ⟨0x80, 0x9F, by simp [surrogates], by simp [surrogates], by simp [surrogates]⟩
    · exact ⟨0x80, 0xBF, by simp [lowest, surrogates, high], by simp [lowest],
        by simp [surrogates]⟩

/-- After a first byte of four the next is held back from what three bytes would do for,
and from what is no character. -/
private theorem lead?_four (low : 0xF0 ≤ b.toNat) (high : b.toNat ≤ 0xF4) :
    ∃ least most : UInt8, lead? b = some ⟨b.toNat - 0xF0, 3, least, most⟩ ∧
      least.toNat = (if b.toNat = 0xF0 then 0x90 else 0x80) ∧
      most.toNat = (if b.toNat = 0xF4 then 0x8F else 0xBF) := by
  rw [lead?_eq, if_neg (by omega), if_neg (by omega), if_neg (by omega), if_neg (by omega),
    if_neg (by omega)]
  by_cases lowest : b.toNat = 0xF0
  · exact ⟨0x90, 0xBF, by simp [lowest], by simp [lowest], by simp [lowest]⟩
  · by_cases highest : b.toNat = 0xF4
    · exact ⟨0x80, 0x8F, by simp [highest], by simp [highest], by simp [highest]⟩
    · exact ⟨0x80, 0xBF, by simp [lowest, show b.toNat < 0xF4 by omega], by simp [lowest],
        by simp [highest]⟩

end leads

section continued

variable {seen rest : List UInt8} {value following : Nat} {low high b : UInt8}

private theorem continued_step (inside : low.toNat ≤ b.toNat ∧ b.toNat ≤ high.toNat) :
    continued seen value (following + 1) low high (b :: rest) =
      ((continued (seen ++ [b]) (value * 64 + (b.toNat - 0x80)) following 0x80 0xBF rest).1,
        (continued (seen ++ [b]) (value * 64 + (b.toNat - 0x80)) following 0x80 0xBF rest).2 + 1) := by
  rw [continued, if_pos ⟨UInt8.le_iff_toNat_le.mpr inside.1, UInt8.le_iff_toNat_le.mpr inside.2⟩]

private theorem firstSymbol_lead {lead : Lead} (high : 0x80 ≤ b.toNat)
    (found : lead? b = some lead) :
    firstSymbol b rest = continued [b] lead.payload lead.following lead.low lead.high rest := by
  have later : ¬ b < 0x80 := by
    rw [UInt8.lt_iff_toNat_lt]
    exact Nat.not_lt.mpr high
  rw [firstSymbol, if_neg later, found]

end continued

private theorem symbols_of_first {b : UInt8} {rest : List UInt8} {symbol : Symbol} {taken : Nat}
    (first : firstSymbol b rest = (symbol, taken)) :
    symbols (b :: rest) = symbol :: symbols (rest.drop taken) := by
  rw [symbols, first]

section sizes

variable {v : Nat} (rest : List UInt8)

private theorem symbols_one (high : v ≤ 0x7F) :
    symbols (UInt8.ofNat v :: rest) = .char (Char.ofNat v) :: symbols rest := by
  have b := UInt8.toNat_ofNat_of_lt' (show v < 256 by omega)
  have early : UInt8.ofNat v < 0x80 := by
    rw [UInt8.lt_iff_toNat_lt, b]
    exact Nat.lt_succ_of_le high
  have first : firstSymbol (UInt8.ofNat v) rest = (.char (Char.ofNat v), 0) := by
    rw [firstSymbol, if_pos early, b]
  exact symbols_of_first first

private theorem symbols_two (low : 0x7F < v) (high : v ≤ 0x7FF) :
    symbols (UInt8.ofNat (v / 64 % 0x20 + 0xC0) :: UInt8.ofNat (v % 0x40 + 0x80) :: rest) =
      .char (Char.ofNat v) :: symbols rest := by
  have b₀ := UInt8.toNat_ofNat_of_lt' (show v / 64 % 0x20 + 0xC0 < 256 by omega)
  have b₁ := UInt8.toNat_ofNat_of_lt' (show v % 0x40 + 0x80 < 256 by omega)
  have whole : (v / 64 % 0x20 + 0xC0 - 0xC0) * 64 + (v % 0x40 + 0x80 - 0x80) = v := by omega
  have lead := lead?_two (b := UInt8.ofNat (v / 64 % 0x20 + 0xC0)) (by omega) (by omega)
  have first : firstSymbol (UInt8.ofNat (v / 64 % 0x20 + 0xC0))
      (UInt8.ofNat (v % 0x40 + 0x80) :: rest) = (.char (Char.ofNat v), 1) := by
    rw [firstSymbol_lead (by omega) lead, continued_step (by simp; omega), continued, b₀, b₁, whole]
  exact symbols_of_first first

private theorem symbols_three (low : 0x7FF < v) (high : v ≤ 0xFFFF)
    (valid : v < 0xD800 ∨ 0xDFFF < v) :
    symbols (UInt8.ofNat (v / 4096 % 0x10 + 0xE0) :: UInt8.ofNat (v / 64 % 0x40 + 0x80) ::
      UInt8.ofNat (v % 0x40 + 0x80) :: rest) = .char (Char.ofNat v) :: symbols rest := by
  have b₀ := UInt8.toNat_ofNat_of_lt' (show v / 4096 % 0x10 + 0xE0 < 256 by omega)
  have b₁ := UInt8.toNat_ofNat_of_lt' (show v / 64 % 0x40 + 0x80 < 256 by omega)
  have b₂ := UInt8.toNat_ofNat_of_lt' (show v % 0x40 + 0x80 < 256 by omega)
  have whole : ((v / 4096 % 0x10 + 0xE0 - 0xE0) * 64 + (v / 64 % 0x40 + 0x80 - 0x80)) * 64 +
      (v % 0x40 + 0x80 - 0x80) = v := by omega
  obtain ⟨least, most, lead, isLeast, isMost⟩ :=
    lead?_three (b := UInt8.ofNat (v / 4096 % 0x10 + 0xE0)) (by omega) (by omega)
  have inside : least.toNat ≤ v / 64 % 0x40 + 0x80 ∧ v / 64 % 0x40 + 0x80 ≤ most.toNat := by
    rw [isLeast, isMost, b₀]
    split <;> split <;> omega
  have first : firstSymbol (UInt8.ofNat (v / 4096 % 0x10 + 0xE0))
      (UInt8.ofNat (v / 64 % 0x40 + 0x80) :: UInt8.ofNat (v % 0x40 + 0x80) :: rest) =
        (.char (Char.ofNat v), 2) := by
    rw [firstSymbol_lead (by omega) lead, continued_step (by rwa [b₁]),
      continued_step (by simp; omega), continued, b₀, b₁, b₂, whole]
  exact symbols_of_first first

private theorem symbols_four (low : 0xFFFF < v) (high : v < 0x110000) :
    symbols (UInt8.ofNat (v / 262144 % 0x08 + 0xF0) :: UInt8.ofNat (v / 4096 % 0x40 + 0x80) ::
      UInt8.ofNat (v / 64 % 0x40 + 0x80) :: UInt8.ofNat (v % 0x40 + 0x80) :: rest) =
        .char (Char.ofNat v) :: symbols rest := by
  have b₀ := UInt8.toNat_ofNat_of_lt' (show v / 262144 % 0x08 + 0xF0 < 256 by omega)
  have b₁ := UInt8.toNat_ofNat_of_lt' (show v / 4096 % 0x40 + 0x80 < 256 by omega)
  have b₂ := UInt8.toNat_ofNat_of_lt' (show v / 64 % 0x40 + 0x80 < 256 by omega)
  have b₃ := UInt8.toNat_ofNat_of_lt' (show v % 0x40 + 0x80 < 256 by omega)
  have whole : (((v / 262144 % 0x08 + 0xF0 - 0xF0) * 64 + (v / 4096 % 0x40 + 0x80 - 0x80)) * 64 +
      (v / 64 % 0x40 + 0x80 - 0x80)) * 64 + (v % 0x40 + 0x80 - 0x80) = v := by omega
  obtain ⟨least, most, lead, isLeast, isMost⟩ :=
    lead?_four (b := UInt8.ofNat (v / 262144 % 0x08 + 0xF0)) (by omega) (by omega)
  have inside : least.toNat ≤ v / 4096 % 0x40 + 0x80 ∧ v / 4096 % 0x40 + 0x80 ≤ most.toNat := by
    rw [isLeast, isMost, b₀]
    split <;> split <;> omega
  have first : firstSymbol (UInt8.ofNat (v / 262144 % 0x08 + 0xF0))
      (UInt8.ofNat (v / 4096 % 0x40 + 0x80) :: UInt8.ofNat (v / 64 % 0x40 + 0x80) ::
        UInt8.ofNat (v % 0x40 + 0x80) :: rest) = (.char (Char.ofNat v), 3) := by
    rw [firstSymbol_lead (by omega) lead, continued_step (by rwa [b₁]),
      continued_step (by simp; omega), continued_step (by simp; omega), continued, b₀, b₁, b₂, b₃,
      whole]
  exact symbols_of_first first

end sizes

/-- A character is read back from its bytes, whatever follows them. -/
private theorem symbols_encodeChar (c : Char) (rest : List UInt8) :
    symbols (String.utf8EncodeChar c ++ rest) = .char c :: symbols rest := by
  have valid : c.val.toNat < 0xD800 ∨ 0xDFFF < c.val.toNat ∧ c.val.toNat < 0x110000 := c.valid
  have whole : Char.ofNat c.val.toNat = c := Char.ofNat_toNat c
  unfold String.utf8EncodeChar
  dsimp only
  split
  next one =>
    exact (symbols_one rest one).trans (by rw [whole])
  next =>
    split
    next two => exact (symbols_two rest (by omega) two).trans (by rw [whole])
    next =>
      split
      next three => exact (symbols_three rest (by omega) three (by omega)).trans (by rw [whole])
      next => exact (symbols_four rest (by omega) (by omega)).trans (by rw [whole])

theorem encode_append (first second : List Char) :
    encode (first ++ second) = encode first ++ encode second :=
  List.flatMap_append

@[simp] theorem encode_nil : encode [] = [] := rfl

theorem encode_cons (c : Char) (text : List Char) :
    encode (c :: text) = String.utf8EncodeChar c ++ encode text :=
  List.flatMap_cons

/-- Text is read back from its bytes. -/
private theorem symbols_encode (text : List Char) : symbols (encode text) = text.map .char := by
  induction text with
  | nil => rw [encode_nil, symbols, List.map_nil]
  | cons c text ih =>
    rw [encode_cons, symbols_encodeChar]
    exact congrArg _ ih

private theorem flawAfter_text (index : Nat) (text : List Char) :
    flawAfter index (text.map .char) = none := by
  induction text generalizing index with
  | nil => rfl
  | cons c text ih => exact ih _

private theorem flawAfter_eq_none_iff (index : Nat) (symbols : List Symbol) :
    flawAfter index symbols = none ↔ (symbols.mapM Symbol.char?).isSome := by
  induction symbols generalizing index with
  | nil => simp [flawAfter]
  | cons symbol rest ih =>
    cases symbol with
    | char c =>
      rw [flawAfter, ih, List.mapM_cons]
      cases rest.mapM Symbol.char? <;> simp [Symbol.char?]
    | stray bytes cut => simp [flawAfter, Symbol.char?]

/-- Bytes without a flaw are those that read as text. -/
theorem flaw?_eq_none_iff (bytes : List UInt8) : flaw? bytes = none ↔ (decode? bytes).isSome :=
  flawAfter_eq_none_iff 0 (symbols bytes)

theorem flaw?_encode (text : List Char) : flaw? (encode text) = none := by
  rw [flaw?, symbols_encode, flawAfter_text]

theorem lossy_encode (text : List Char) : lossy (encode text) = text := by
  rw [lossy, symbols_encode, List.map_map]
  exact List.map_id' text

theorem symbols_bytesOf (text : String) : symbols (bytesOf text) = symbolsOf text :=
  symbols_encode text.toList

theorem lossyText_bytesOf (text : String) : lossyText (bytesOf text) = text := by
  rw [lossyText, bytesOf, lossy_encode, String.ofList_toList]

section back

variable {v : Nat} {seen rest : List UInt8} {value following taken : Nat}
  {low high b b₁ b₂ b₃ : UInt8} {c : Char}

/-- A byte below 0x80 codes the character of its value and stands in no other. -/
private theorem toNat_of_mem_encodeChar (inside : b ∈ String.utf8EncodeChar c)
    (low : b.toNat < 0x80) :
    c.toNat = b.toNat := by
  have high {n : Nat} (same : b = UInt8.ofNat n) (small : n < 256) (later : 0x80 ≤ n) : False := by
    rw [same, UInt8.toNat_ofNat_of_lt' small] at low
    omega
  unfold String.utf8EncodeChar at inside
  dsimp only at inside
  split at inside
  next one =>
    rw [List.mem_singleton.mp inside, UInt8.toNat_ofNat_of_lt' (show _ < 256 by omega)]
    rfl
  next =>
    split at inside
    next =>
      simp only [List.mem_cons, List.not_mem_nil, or_false] at inside
      rcases inside with same | same
      all_goals exact (high same (by omega) (by omega)).elim
    next =>
      split at inside
      next =>
        simp only [List.mem_cons, List.not_mem_nil, or_false] at inside
        rcases inside with same | same | same
        all_goals exact (high same (by omega) (by omega)).elim
      next =>
        simp only [List.mem_cons, List.not_mem_nil, or_false] at inside
        rcases inside with same | same | same | same
        all_goals exact (high same (by omega) (by omega)).elim

/-- A character coded in one byte is the only one whose code holds that byte. -/
theorem eq_of_mem_encodeChar {c single : Char} {code : UInt8}
    (coded : String.utf8EncodeChar single = [code]) (low : code.toNat < 0x80)
    (inside : code ∈ String.utf8EncodeChar c) : c = single := by
  have there := toNat_of_mem_encodeChar (c := single) (by rw [coded]; exact List.mem_cons_self) low
  exact Char.toNat_inj.mp ((toNat_of_mem_encodeChar inside low).trans there.symm)

/-- A text whose last byte codes a character ends in that character. -/
theorem ends_in_char (single : Char) {code : UInt8}
    (coded : String.utf8EncodeChar single = [code]) (low : code.toNat < 0x80) {text : List Char}
    (last : (encode text).getLast? = some code) : ∃ kept, text = kept ++ [single] := by
  rcases List.eq_nil_or_concat text with rfl | ⟨kept, c, rfl⟩
  · cases last
  · refine ⟨kept, ?_⟩
    have inside : code ∈ String.utf8EncodeChar c := by
      rw [List.concat_eq_append, encode_append, encode_cons, encode_nil, List.append_nil,
        List.getLast?_append] at last
      cases final : (String.utf8EncodeChar c).getLast? with
      | none => exact absurd (List.getLast?_eq_none_iff.mp final) (by simp)
      | some b =>
        rw [final] at last
        cases last
        exact List.mem_of_getLast? final
    rw [eq_of_mem_encodeChar coded low inside, List.concat_eq_append]

/-- A character that has still bytes to come goes on with one in its range. -/
private theorem continued_char
    (read : continued seen value (following + 1) low high rest = (.char c, taken)) :
    ∃ b after more, rest = b :: after ∧ (low.toNat ≤ b.toNat ∧ b.toNat ≤ high.toNat) ∧
      taken = more + 1 ∧
      continued (seen ++ [b]) (value * 64 + (b.toNat - 0x80)) following 0x80 0xBF after =
        (.char c, more) := by
  cases rest with
  | nil => cases read
  | cons b after =>
    rw [continued] at read
    split at read
    next inside =>
      obtain ⟨one, two⟩ := Prod.mk.inj read
      refine ⟨b, after, _, rfl, ?_, two.symm, Prod.ext one rfl⟩
      rwa [UInt8.le_iff_toNat_le, UInt8.le_iff_toNat_le] at inside
    next => cases read

private theorem continued_done (read : continued seen value 0 low high rest = (.char c, taken)) :
    c = Char.ofNat value ∧ taken = 0 := by
  rw [continued] at read
  cases read
  exact ⟨rfl, rfl⟩

private theorem toNat_ofNat (valid : v < 0xD800 ∨ 0xDFFF < v ∧ v < 0x110000) :
    (Char.ofNat v).val.toNat = v := by
  rw [Char.ofNat, dif_pos valid]
  exact UInt32.toNat_ofNatLT ..

private theorem byte_eq (b : UInt8) {n : Nat} (same : n = b.toNat) : UInt8.ofNat n = b := by
  rw [same, UInt8.ofNat_toNat]

private theorem encodeChar_one (high : b.toNat < 0x80) :
    String.utf8EncodeChar (Char.ofNat b.toNat) = [b] := by
  have whole := toNat_ofNat (v := b.toNat) (by omega)
  unfold String.utf8EncodeChar
  dsimp only
  rw [whole, if_pos (by omega), UInt8.ofNat_toNat]

private theorem encodeChar_two (lead : 0xC2 ≤ b.toNat ∧ b.toNat < 0xE0)
    (next : 0x80 ≤ b₁.toNat ∧ b₁.toNat ≤ 0xBF) :
    String.utf8EncodeChar (Char.ofNat ((b.toNat - 0xC0) * 64 + (b₁.toNat - 0x80))) = [b, b₁] := by
  have whole := toNat_ofNat (v := (b.toNat - 0xC0) * 64 + (b₁.toNat - 0x80)) (by omega)
  unfold String.utf8EncodeChar
  dsimp only
  rw [whole, if_neg (by omega), if_pos (by omega), byte_eq b (by omega),
    byte_eq b₁ (by omega)]

private theorem encodeChar_three (lead : 0xE0 ≤ b.toNat ∧ b.toNat < 0xF0)
    (next : 0x80 ≤ b₁.toNat ∧ b₁.toNat ≤ 0xBF) (last : 0x80 ≤ b₂.toNat ∧ b₂.toNat ≤ 0xBF)
    (least : b.toNat = 0xE0 → 0xA0 ≤ b₁.toNat) (most : b.toNat = 0xED → b₁.toNat ≤ 0x9F) :
    String.utf8EncodeChar (Char.ofNat (((b.toNat - 0xE0) * 64 + (b₁.toNat - 0x80)) * 64 +
      (b₂.toNat - 0x80))) = [b, b₁, b₂] := by
  have whole := toNat_ofNat
    (v := ((b.toNat - 0xE0) * 64 + (b₁.toNat - 0x80)) * 64 + (b₂.toNat - 0x80)) (by omega)
  unfold String.utf8EncodeChar
  dsimp only
  rw [whole, if_neg (by omega), if_neg (by omega), if_pos (by omega),
    byte_eq b (by omega), byte_eq b₁ (by omega), byte_eq b₂ (by omega)]

private theorem encodeChar_four (lead : 0xF0 ≤ b.toNat ∧ b.toNat ≤ 0xF4)
    (next : 0x80 ≤ b₁.toNat ∧ b₁.toNat ≤ 0xBF) (third : 0x80 ≤ b₂.toNat ∧ b₂.toNat ≤ 0xBF)
    (last : 0x80 ≤ b₃.toNat ∧ b₃.toNat ≤ 0xBF)
    (least : b.toNat = 0xF0 → 0x90 ≤ b₁.toNat) (most : b.toNat = 0xF4 → b₁.toNat ≤ 0x8F) :
    String.utf8EncodeChar (Char.ofNat ((((b.toNat - 0xF0) * 64 + (b₁.toNat - 0x80)) * 64 +
      (b₂.toNat - 0x80)) * 64 + (b₃.toNat - 0x80))) = [b, b₁, b₂, b₃] := by
  have whole := toNat_ofNat (v := (((b.toNat - 0xF0) * 64 + (b₁.toNat - 0x80)) * 64 +
    (b₂.toNat - 0x80)) * 64 + (b₃.toNat - 0x80)) (by omega)
  unfold String.utf8EncodeChar
  dsimp only
  rw [whole, if_neg (by omega), if_neg (by omega), if_neg (by omega),
    byte_eq b (by omega), byte_eq b₁ (by omega), byte_eq b₂ (by omega),
    byte_eq b₃ (by omega)]

/-- A character that was read is coded in the bytes that it was read from. -/
private theorem encode_firstSymbol (read : firstSymbol b rest = (.char c, taken)) :
    String.utf8EncodeChar c ++ rest.drop taken = b :: rest := by
  by_cases one : b.toNat < 0x80
  · rw [firstSymbol, if_pos (UInt8.lt_iff_toNat_lt.mpr one)] at read
    cases read
    rw [encodeChar_one one]
    rfl
  have later : 0x80 ≤ b.toNat := Nat.not_lt.mp one
  by_cases outside : b.toNat < 0xC2 ∨ 0xF4 < b.toNat
  · have early : ¬ b < 0x80 := fun early => one (UInt8.lt_iff_toNat_lt.mp early)
    rw [firstSymbol, if_neg early, lead?_none outside] at read
    cases read
  by_cases two : b.toNat < 0xE0
  · rw [firstSymbol_lead later (lead?_two (by omega) two)] at read
    obtain ⟨b₁, after, more, rfl, next, rfl, onward⟩ := continued_char read
    obtain ⟨same, rfl⟩ := continued_done onward
    rw [same, encodeChar_two ⟨by omega, two⟩ (by simpa using next)]
    rfl
  by_cases three : b.toNat < 0xF0
  · obtain ⟨least, most, lead, isLeast, isMost⟩ := lead?_three (b := b) (by omega) three
    rw [firstSymbol_lead later lead] at read
    obtain ⟨b₁, after, more, rfl, ⟨low₁, high₁⟩, rfl, onward⟩ := continued_char read
    obtain ⟨b₂, left, fewer, rfl, last, rfl, ended⟩ := continued_char onward
    obtain ⟨same, rfl⟩ := continued_done ended
    have atLeast : (if b.toNat = 0xE0 then 0xA0 else 0x80) ≤ b₁.toNat := isLeast ▸ low₁
    have atMost : b₁.toNat ≤ (if b.toNat = 0xED then 0x9F else 0xBF) := isMost ▸ high₁
    have within : 0x80 ≤ b₁.toNat ∧ b₁.toNat ≤ 0xBF := by
      constructor
      · split at atLeast <;> omega
      · split at atMost <;> omega
    rw [same, encodeChar_three ⟨by omega, three⟩ within (by simpa using last)
      (fun lowest => by rwa [if_pos lowest] at atLeast)
      (fun surrogates => by rwa [if_pos surrogates] at atMost)]
    rfl
  · obtain ⟨least, most, lead, isLeast, isMost⟩ := lead?_four (b := b) (by omega) (by omega)
    rw [firstSymbol_lead later lead] at read
    obtain ⟨b₁, after, more, rfl, ⟨low₁, high₁⟩, rfl, onward⟩ := continued_char read
    obtain ⟨b₂, left, fewer, rfl, third, rfl, further⟩ := continued_char onward
    obtain ⟨b₃, beyond, fewest, rfl, last, rfl, ended⟩ := continued_char further
    obtain ⟨same, rfl⟩ := continued_done ended
    have atLeast : (if b.toNat = 0xF0 then 0x90 else 0x80) ≤ b₁.toNat := isLeast ▸ low₁
    have atMost : b₁.toNat ≤ (if b.toNat = 0xF4 then 0x8F else 0xBF) := isMost ▸ high₁
    have within : 0x80 ≤ b₁.toNat ∧ b₁.toNat ≤ 0xBF := by
      constructor
      · split at atLeast <;> omega
      · split at atMost <;> omega
    rw [same, encodeChar_four ⟨by omega, by omega⟩ within (by simpa using third)
      (by simpa using last)
      (fun lowest => by rwa [if_pos lowest] at atLeast)
      (fun highest => by rwa [if_pos highest] at atMost)]
    rfl

/-- Bytes that are read as characters only are those of the characters. -/
private theorem encode_of_symbols {bytes : List UInt8} {text : List Char}
    (read : symbols bytes = text.map .char) : encode text = bytes := by
  induction bytes using symbols.induct generalizing text with
  | case1 =>
    cases text with
    | nil => rfl
    | cons c text =>
      rw [symbols] at read
      cases read
  | case2 b rest first =>
    rename_i ih
    cases text with
    | nil =>
      rw [symbols] at read
      cases read
    | cons c text =>
      rw [symbols] at read
      obtain ⟨same, onward⟩ := List.cons.inj read
      have whole : firstSymbol b rest = (.char c, (firstSymbol b rest).2) := Prod.ext same rfl
      rw [encode_cons, ih onward]
      exact encode_firstSymbol whole

theorem symbols_eq_chars_iff {bytes : List UInt8} {text : List Char} :
    symbols bytes = text.map .char ↔ bytes = encode text :=
  ⟨fun read => (encode_of_symbols read).symm, fun same => same ▸ symbols_encode text⟩

theorem mapM_char?_eq_some_iff {read : List Symbol} {text : List Char} :
    read.mapM Symbol.char? = some text ↔ read = text.map .char := by
  induction read generalizing text with
  | nil => cases text <;> simp
  | cons symbol read ih =>
    cases symbol with
    | char c =>
      cases rest : read.mapM Symbol.char? with
      | none => cases text <;> simp [List.mapM_cons, Symbol.char?, rest, ← ih]
      | some others => cases text <;> simp [List.mapM_cons, Symbol.char?, rest, ← ih]
    | stray bytes cut =>
      cases text with
      | nil => simp [List.mapM_cons, Symbol.char?]
      | cons d text => simp [List.mapM_cons, Symbol.char?]

theorem decode?_eq_some_iff {bytes : List UInt8} {text : List Char} :
    decode? bytes = some text ↔ bytes = encode text :=
  mapM_char?_eq_some_iff.trans symbols_eq_chars_iff

/-- What is no character ends before the last byte that it asks for. -/
private theorem continued_stray {bytes : List UInt8} {cut : Bool}
    (read : continued seen value following low high rest = (.stray bytes cut, taken)) :
    taken < following := by
  induction following generalizing seen value low high rest taken with
  | zero =>
    rw [continued] at read
    cases read
  | succ following ih =>
    cases rest with
    | nil =>
      rw [continued] at read
      cases read
      exact Nat.succ_pos _
    | cons b rest =>
      rw [continued] at read
      split at read
      next =>
        obtain ⟨one, two⟩ := Prod.mk.inj read
        rw [← two]
        exact Nat.succ_lt_succ (ih (Prod.ext one rfl))
      next =>
        cases read
        exact Nat.succ_pos _

private theorem firstSymbol_stray {bytes : List UInt8} {cut : Bool}
    (read : firstSymbol b rest = (.stray bytes cut, taken)) : taken < 3 := by
  unfold firstSymbol at read
  split at read
  next => cases read
  next =>
    split at read
    next =>
      cases read
      exact Nat.succ_pos _
    next lead found =>
      have within := continued_stray read
      have most : lead.following ≤ 3 := by grind [lead?]
      omega

private theorem encode_lossy_cons (b : UInt8) (rest : List UInt8) : encode (lossy (b :: rest)) =
    String.utf8EncodeChar (firstSymbol b rest).1.shown ++
      encode (lossy (rest.drop (firstSymbol b rest).2)) := by
  rw [lossy, symbols, List.map_cons, encode_cons]
  rfl

/-- A text that stands for bytes has the bytes that are text, and those of the replacement
character. -/
theorem mem_encode_lossy {bytes : List UInt8} (inside : b ∈ encode (lossy bytes)) :
    b ∈ bytes ∨ b ∈ String.utf8EncodeChar '\uFFFD' := by
  induction bytes using symbols.induct with
  | case1 =>
    rw [lossy, symbols] at inside
    cases inside
  | case2 first rest symbol ih =>
    rw [encode_lossy_cons] at inside
    rcases List.mem_append.mp inside with here | later
    · rcases read : firstSymbol first rest with ⟨c | ⟨stray, cut⟩, taken⟩
      · rw [read] at here
        left
        rw [← encode_firstSymbol read]
        exact List.mem_append_left _ here
      · rw [read] at here
        exact .inr here
    · rcases ih later with old | new
      · exact .inl (List.mem_cons_of_mem _ (List.mem_of_mem_drop old))
      · exact .inr new

/-- Replacing what is no text makes no text shorter. -/
theorem length_le_encode_lossy (bytes : List UInt8) : bytes.length ≤ (encode (lossy bytes)).length := by
  induction bytes using symbols.induct with
  | case1 => exact Nat.zero_le _
  | case2 first rest symbol ih =>
    rw [encode_lossy_cons, List.length_append]
    change (rest.drop (firstSymbol first rest).2).length ≤
      (encode (lossy (rest.drop (firstSymbol first rest).2))).length at ih
    rcases read : firstSymbol first rest with ⟨c | ⟨stray, cut⟩, taken⟩
    · have whole := congrArg List.length (encode_firstSymbol read)
      rw [read] at ih
      rw [List.length_append] at whole
      dsimp only [Symbol.shown] at ih ⊢
      omega
    · have few := firstSymbol_stray read
      rw [read, List.length_drop] at ih
      have three : (String.utf8EncodeChar '\uFFFD').length = 3 := by decide
      rw [List.length_cons]
      dsimp only [Symbol.shown] at ih ⊢
      omega

end back

end RuntimeHandover.Text.Utf8
