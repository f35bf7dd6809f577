import RuntimeHandover.Proofs.Json.Layout
import RuntimeHandover.Proofs.Json.Written

/-! Every value that reading gives is read back from its text, in either form. A value that
was read is never too deep, no object has a key twice or starts with the number mark, and
numbers are written as reading keeps them. -/
namespace RuntimeHandover.Json
open Text

inductive Readable : Nat → Value → Prop
  | null {depth : Nat} : Readable depth .null
  | bool {depth : Nat} (b : Bool) : Readable depth (.bool b)
  | number {depth : Nat} {text : String} (kept : IsNumber text.toList) :
      Readable depth (.number text)
  | string {depth : Nat} (text : String) : Readable depth (.string text)
  | array {depth : Nat} {items : List Value} (inner : ∀ item ∈ items, Readable (depth + 1) item) :
      Readable (depth + 2) (.array items)
  | object {depth : Nat} {members : List (String × Value)}
      (distinct : (Members.keys members).Nodup)
      (unmarked : (Members.keys members).head? ≠ some numberMark)
      (inner : ∀ member ∈ members, Readable (depth + 1) member.2) :
      Readable (depth + 2) (.object members)

theorem Readable.mono {depth depth' : Nat} {value : Value} (readable : Readable depth value)
    (above : depth ≤ depth') : Readable depth' value := by
  induction readable generalizing depth' with
  | null => exact .null
  | bool b => exact .bool b
  | number kept => exact .number kept
  | string text => exact .string text
  | array inner ih =>
    obtain ⟨more, rfl⟩ := Nat.exists_eq_add_of_le' (Nat.le_of_add_left_le above : 2 ≤ depth')
    apply Readable.array
    intro item inside
    exact ih item inside (by omega)
  | object distinct unmarked inner ih =>
    obtain ⟨more, rfl⟩ := Nat.exists_eq_add_of_le' (Nat.le_of_add_left_le above : 2 ≤ depth')
    refine .object distinct unmarked ?_
    intro member inside
    exact ih member inside (by omega)

variable (layout : Layout)

section laid

def laidItem (level : Nat) (value : Value) : Item where
  before := layout.item level
  text := layValue layout (level + 1) value
  after := []
  value := value

def laidMember (level : Nat) (member : String × Value) : Member where
  lead := layout.item level
  quoted := member.1.toList.flatMap escapedChar
  key := member.1
  gap := []
  item :=
    { before := layout.colon
      text := layValue layout (level + 1) member.2
      after := []
      value := member.2 }

theorem laidItem_padded (level : Nat) (value : Value) : (laidItem layout level value).Padded :=
  ⟨layout.item_blank level, .nil⟩

theorem laidMember_keyed (level : Nat) (member : String × Value) :
    (laidMember layout level member).Keyed :=
  ⟨layout.item_blank level, quotes_escaped _, .nil, layout.colon_blank, .nil⟩

theorem closing_blank (level : Nat) (first : Bool) : Blank (closing layout level first) := by
  unfold closing
  split
  · exact .nil
  · exact layout.ending_blank level

theorem layItems_eq (level : Nat) (first : Bool) (items : List Value) :
    layItems layout level first items =
      commaed first ((items.map (laidItem layout level)).map Item.spelled) ++
        (closing layout level (first && items.isEmpty) ++ [']']) := by
  induction items generalizing first with
  | nil => simp [layItems, commaed]
  | cons item items ih =>
    cases first <;> simp [layItems, ih false, separator, commaed, Item.spelled, laidItem]

theorem layMembers_eq (level : Nat) (first : Bool) (members : List (String × Value)) :
    layMembers layout level first members =
      commaed first ((members.map (laidMember layout level)).map Member.spelled) ++
        (closing layout level (first && members.isEmpty) ++ ['\x7d']) := by
  induction members generalizing first with
  | nil => simp [layMembers, commaed]
  | cons member members ih =>
    obtain ⟨key, value⟩ := member
    cases first <;> simp [layMembers, ih false, separator, commaed, Member.spelled, Item.spelled,
      laidMember, printString]

theorem values_laid (level : Nat) (items : List Value) :
    (items.map (laidItem layout level)).map Item.value = items := by
  rw [List.map_map]
  exact List.map_id items

theorem pairs_laid (level : Nat) (members : List (String × Value)) :
    (members.map (laidMember layout level)).map Member.pair = members := by
  rw [List.map_map]
  exact List.map_id members

theorem keys_laid (level : Nat) (members : List (String × Value)) :
    (members.map (laidMember layout level)).map Member.key = Members.keys members := by
  rw [List.map_map]
  rfl

end laid

/-- Every layout of what reading gives is a way to write it. -/
theorem Readable.written {depth : Nat} {value : Value} (readable : Readable depth value)
    (level : Nat) : Written depth (layValue layout level value) value := by
  induction readable generalizing level with
  | null => exact .null
  | bool b =>
    cases b with
    | true => exact .yes
    | false => exact .no
  | @number depth text kept =>
    have spelled : Written depth text.toList (.number (String.ofList text.toList)) :=
      .number kept.spells
    rwa [String.ofList_toList] at spelled
  | @string depth text =>
    have spelled : Written depth (printString text) (.string (String.ofList text.toList)) :=
      .string (quotes_escaped text.toList)
    rwa [String.ofList_toList] at spelled
  | @array depth items inner ih =>
    let laid := items.map (laidItem layout level)
    have padded : ∀ item ∈ laid, item.Padded :=
      List.forall_mem_map.mpr fun item _ => laidItem_padded layout level item
    have texts : ∀ item ∈ laid, Written (depth + 1) item.text item.value :=
      List.forall_mem_map.mpr fun item inside => ih item inside (level + 1)
    have written := Written.array padded texts (closing_blank layout level items.isEmpty)
    rw [values_laid] at written
    rw [layValue, layItems_eq]
    exact written
  | @object depth members distinct unmarked inner ih =>
    let laid := members.map (laidMember layout level)
    have keyed : ∀ member ∈ laid, member.Keyed :=
      List.forall_mem_map.mpr fun member _ => laidMember_keyed layout level member
    have texts : ∀ member ∈ laid, Written (depth + 1) member.item.text member.item.value :=
      List.forall_mem_map.mpr fun member inside => ih member inside (level + 1)
    have written := Written.object keyed (by rwa [keys_laid]) texts
      (closing_blank layout level members.isEmpty)
    rw [pairs_laid, Members.ofList_of_nodup distinct] at written
    rw [layValue, layMembers_eq]
    exact written

private theorem parseValue_laid {value : Value} (readable : Readable depthLimit value)
    (level : Nat) :
    parseValue (chars (layValue layout level value)) = .ok value := by
  have parsed := parseValue_written (readable.written layout level) .nil .nil
  rwa [List.nil_append, List.append_nil] at parsed

/-- The members of an object are read back whatever the first key is. -/
theorem objectMembers_laid {members : List (String × Value)}
    (distinct : (Members.keys members).Nodup)
    (readable : ∀ member ∈ members, Readable (depthLimit - 1) member.2) (level : Nat) :
    document objectMembers (chars (layValue layout level (.object members))) = .ok members := by
  let laid := members.map (laidMember layout level)
  have keyed : ∀ member ∈ laid, member.Keyed :=
    List.forall_mem_map.mpr fun member _ => laidMember_keyed layout level member
  have texts : ∀ member ∈ laid, Written (depthLimit - 1) member.item.text member.item.value :=
    List.forall_mem_map.mpr fun member inside =>
      (readable member inside).written layout (level + 1)
  have read := objectMembers_written keyed texts (closing_blank layout level members.isEmpty)
  rw [pairs_laid, Members.ofList_of_nodup distinct] at read
  rw [layValue, layMembers_eq]
  exact read

section texts

theorem symbolsOf_ofList (text : List Char) : symbolsOf (String.ofList text) = chars text := by
  unfold symbolsOf
  rw [String.toList_ofList]

theorem parseValue_compact {value : Value} (readable : Readable depthLimit value) :
    parseValue (symbolsOf value.compact) = .ok value := by
  unfold Value.compact
  rw [symbolsOf_ofList, printValue_eq 0]
  exact parseValue_laid .tight readable 0

theorem parseValue_pretty {value : Value} (readable : Readable depthLimit value) :
    parseValue (symbolsOf value.pretty) = .ok value := by
  unfold Value.pretty
  rw [symbolsOf_ofList, prettyValue_eq]
  exact parseValue_laid .lined readable 0

end texts

end RuntimeHandover.Json
