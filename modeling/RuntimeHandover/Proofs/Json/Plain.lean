import RuntimeHandover.Json.Mark
import RuntimeHandover.Proofs.Json.RoundTrip

/-! A value that was read and is then read as it stands is the same value: no key comes
twice in it, and no object in it is taken for a number that was carried as text. -/
namespace RuntimeHandover.Json
open Text

private theorem readValue_kept (fuel depth : Nat) (input : List Symbol) :
    readValue false (fuel + 1) (depth + 2) (.char '\x7b' :: input) = closed endMembers (do
      let (members, left) ← readMembers false (fuel + 1) (depth + 1) true input
      .ok (.object members, left)) := by
  rw [readValue, skipSpace_of_not rfl, readMembers]
  change closed endMembers _ = closed endMembers _
  congr 1
  rcases nextKey true input with stop | ⟨_ | key, left⟩
  · rfl
  · rfl
  · dsimp only [bind, Except.bind]
    rcases readColon left with stop | left
    · rfl
    · have level : depth + 2 - 1 = depth + 1 := rfl
      simp only [Bool.false_eq_true, false_and, if_false, level]
      rcases readValue false fuel (depth + 1) left with stop | ⟨value, left⟩
      · rfl
      · dsimp only
        rcases readMembers false fuel (depth + 1) false left with stop | ⟨members, left⟩
        · rfl
        · rfl

variable {depth : Nat} {value : Value}

/-- An object keeps all its members, whatever the first key is. -/
private theorem reads_object {members : List Member} (keyed : ∀ member ∈ members, member.Keyed)
    (starts : ∀ member ∈ members, Starts member.item.text)
    (reads : ∀ member ∈ members, Reads false (depth + 1) member.item.text member.item.value)
    {ending : List Char} (closing : Blank ending) :
    Reads false (depth + 2)
      ('\x7b' :: (commaed true (members.map Member.spelled) ++ (ending ++ ['\x7d'])))
      (.object (members.map Member.pair)) := by
  apply reads_of_step (by simp)
  intro fuel rest enough ends
  have read := readMembers_written keyed starts reads closing Blank.nil true
    (by simp at enough; omega : _ < fuel + 1) rest
  simp only [chars, List.map_cons, List.map_append, List.map_nil, List.append_assoc,
    List.cons_append, List.nil_append] at read ⊢
  rw [readValue_kept, read]
  rfl

/-- Every layout of what reading gives is read as it stands, too. -/
private theorem Readable.reads_kept (layout : Layout) (readable : Readable depth value)
    (level : Nat) :
    Reads false depth (layValue layout level value) value := by
  induction readable generalizing level with
  | null => exact reads_null
  | bool b =>
    cases b with
    | true => exact reads_yes
    | false => exact reads_no
  | @number depth text kept =>
    have reads : Reads false depth text.toList (.number (String.ofList text.toList)) :=
      reads_number kept.spells
    rwa [String.ofList_toList] at reads
  | @string depth text =>
    have reads : Reads false depth (printString text) (.string (String.ofList text.toList)) :=
      reads_string (quotes_escaped text.toList)
    rwa [String.ofList_toList] at reads
  | @array depth items inner ih =>
    let laid := items.map (laidItem layout level)
    have padded : ∀ item ∈ laid, item.Padded :=
      List.forall_mem_map.mpr fun item _ => laidItem_padded layout level item
    have starts : ∀ item ∈ laid, Starts item.text :=
      List.forall_mem_map.mpr fun item inside => ((inner item inside).written layout _).starts
    have texts : ∀ item ∈ laid, Reads false (depth + 1) item.text item.value :=
      List.forall_mem_map.mpr fun item inside => ih item inside (level + 1)
    have reads := reads_array padded starts texts (closing_blank layout level items.isEmpty)
    rw [values_laid] at reads
    rw [layValue, layItems_eq]
    exact reads
  | @object depth members distinct unmarked inner ih =>
    let laid := members.map (laidMember layout level)
    have keyed : ∀ member ∈ laid, member.Keyed :=
      List.forall_mem_map.mpr fun member _ => laidMember_keyed layout level member
    have starts : ∀ member ∈ laid, Starts member.item.text :=
      List.forall_mem_map.mpr fun member inside =>
        ((inner member inside).written layout _).starts
    have texts : ∀ member ∈ laid, Reads false (depth + 1) member.item.text member.item.value :=
      List.forall_mem_map.mpr fun member inside => ih member inside (level + 1)
    have reads := reads_object keyed starts texts (closing_blank layout level members.isEmpty)
    rw [pairs_laid] at reads
    rw [layValue, layMembers_eq]
    exact reads

theorem Readable.readValue_laid {layout : Layout} {level : Nat} {member : String × Value}
    (readable : Readable depth member.2) {rest : List Symbol} (ends : Ends rest) :
    readValue false (steps (chars (laidMember layout level member).item.spelled ++ rest)) depth
        (chars (laidMember layout level member).item.spelled ++ rest) = .ok (member.2, rest) := by
  have spelled : chars (laidMember layout level member).item.spelled ++ rest =
      chars layout.colon ++ (chars (layValue layout (level + 1) member.2) ++ rest) := by
    simp [Item.spelled, laidMember]
  obtain ⟨less, same⟩ : ∃ less,
    steps (chars (laidMember layout level member).item.spelled ++ rest) = less + 1 := ⟨_, rfl⟩
  have enough : (layValue layout (level + 1) member.2).length ≤ less + 1 := by
    rw [← same, spelled]
    simp [steps]
    omega
  rw [same, spelled, readValue_blank layout.colon_blank]
  exact readable.reads_kept layout (level + 1) (less + 1) rest enough ends

private theorem settleItems_eq {items : List Value}
    (settled : ∀ item ∈ items, settleMarks item = .ok item) : settleItems items = .ok items := by
  induction items with
  | nil => rfl
  | cons item rest ih =>
    obtain ⟨head, settled⟩ := List.forall_mem_cons.mp settled
    simp only [settleItems, head, ih settled, bind, Except.bind]

theorem settleMembers_eq {members : List (String × Value)}
    (settled : ∀ member ∈ members, settleMarks member.2 = .ok member.2) :
    settleMembers members = .ok members := by
  induction members with
  | nil => rfl
  | cons member rest ih =>
    obtain ⟨key, value⟩ := member
    obtain ⟨head, settled⟩ := List.forall_mem_cons.mp settled
    simp only [settleMembers, head, ih settled, bind, Except.bind]

/-- There is no number mark to settle in what reading gives. -/
theorem Readable.settleMarks (readable : Readable depth value) :
    Json.settleMarks value = .ok value := by
  induction readable with
  | null | bool | number | string => rfl
  | array inner ih => simp only [Json.settleMarks, settleItems_eq ih, bind, Except.bind]
  | @object depth members distinct unmarked inner ih =>
    cases members with
    | nil => rfl
    | cons member rest =>
      obtain ⟨key, value⟩ := member
      obtain ⟨head, ih⟩ := List.forall_mem_cons.mp ih
      have other : key ≠ numberMark := fun same => unmarked (congrArg some same)
      simp only [Json.settleMarks, if_neg other, head, settleMembers_eq ih, bind, Except.bind,
        Members.ofList_of_nodup distinct]

end RuntimeHandover.Json
