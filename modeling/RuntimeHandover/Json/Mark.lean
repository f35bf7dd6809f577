import RuntimeHandover.Json.Parser

/-! Number marks of values that were read as they stand: an object whose first key
is the mark becomes the number it carries, and of repeated keys the last counts. -/
namespace RuntimeHandover.Json
open Text

inductive MarkFault where
  | inText (fault : Fault)
  | because (cause : Cause)
  deriving DecidableEq, Repr

def MarkFault.stop (left : List Symbol) : MarkFault → Stop
  | .inText fault => ⟨fault.cause, .known fault.line fault.column⟩
  | .because cause => ⟨cause, .pending left⟩

def foundInMark : Value → Found
  | .null => .null
  | .bool b => .bool b
  | .number text => if foundNumber text = .number then .map else .integer text
  | .string text => .string text
  | .array _ => .sequence
  | .object _ => .map

mutual
def settleMarks : Value → Except MarkFault Value
  | .array items => do .ok (.array (← settleItems items))
  | .object ((key, value) :: rest) =>
    if key = numberMark then
      match value with
      | .string text =>
        match wholeNumber text.toList with
        | .error fault => .error (.inText fault)
        | .ok number =>
          if rest.isEmpty then .ok (.number number)
          else .error (.because (.stated
            s!"invalid length {rest.length + 1}, expected 1 element in map"))
      | other => .error (.because (.mismatch (foundInMark other) "string containing a number"))
    else do
      let value ← settleMarks value
      .ok (.object (Members.ofList ((key, value) :: (← settleMembers rest))))
  | value => .ok value

def settleItems : List Value → Except MarkFault (List Value)
  | [] => .ok []
  | item :: rest => do .ok ((← settleMarks item) :: (← settleItems rest))

def settleMembers : List (String × Value) → Except MarkFault (List (String × Value))
  | [] => .ok []
  | (key, value) :: rest => do .ok ((key, ← settleMarks value) :: (← settleMembers rest))
end

end RuntimeHandover.Json
