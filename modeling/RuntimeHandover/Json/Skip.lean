import RuntimeHandover.Json.Parser

/-! Passing over a value that nobody asked for. Any depth is let through, and of
strings and numbers only the shape is looked at. -/
namespace RuntimeHandover.Json
open Text

def skipString : List Symbol → Except Stop (List Symbol)
  | [] => .error (.here .endInString [])
  | .stray _ _ :: rest => skipString rest
  | .char c :: rest =>
    if c = '"' then .ok rest
    else if c = '\\' then
      match rest with
      | [] => .error (.here .endInString [])
      | .char 'u' :: rest =>
        match hexFour rest with
        | .error stop => .error stop
        | .ok _ => skipString (rest.drop 4)
      | .char c :: rest =>
        if (simpleEscape? c).isSome then skipString rest
        else .error (.taken .invalidEscape (.char c :: rest))
      | rest => .error (.taken .invalidEscape rest)
    else if c.toNat < 32 then .error (.here .controlCharacter (.char c :: rest))
    else skipString rest
termination_by input => input.length
decreasing_by all_goals simp only [List.length_drop, List.length_cons]; omega

def skipDigits (input : List Symbol) : List Symbol := (readDigits input).2

def skipExponent : List Symbol → Except Stop (List Symbol)
  | .char c :: rest =>
    if c = 'e' ∨ c = 'E' then
      let rest := match rest with
        | .char '+' :: rest => rest
        | .char '-' :: rest => rest
        | rest => rest
      match rest with
      | [] => .error (.here .invalidNumber [])
      | symbol :: _ =>
        if (digit? symbol).isSome then .ok (skipDigits rest)
        else .error (.taken .invalidNumber rest)
    else .ok (.char c :: rest)
  | input => .ok input

def skipMagnitude : List Symbol → Except Stop (List Symbol)
  | [] => .error (.here .invalidNumber [])
  | symbol :: rest =>
    match digit? symbol with
    | none => .error (.taken .invalidNumber (symbol :: rest))
    | some first =>
      let (digits, left) := readDigits rest
      if first = '0' ∧ digits ≠ [] then .error (.next .invalidNumber rest)
      else match left with
        | .char '.' :: rest =>
          match readDigits rest with
          | ([], left) => .error (.next .invalidNumber left)
          | (_, left) => skipExponent left
        | left => skipExponent left

inductive Frame where
  | items
  | members
  deriving DecidableEq, Repr

inductive SkipPhase where
  | value
  /-- Inside a container; a comma may stand here only after an item. -/
  | inside (comma : Bool)
  deriving DecidableEq, Repr

def skipKey (input : List Symbol) : Except Stop (List Symbol) :=
  match skipSpace input with
  | [] => .error (.next .endInObject [])
  | .char '"' :: rest => do readColon (← skipString rest)
  | rest => .error (.next .keyMustBeString rest)

def skipSteps (fuel : Nat) (phase : SkipPhase) (enclosing : List Frame) (input : List Symbol) :
    Except Stop (List Symbol) :=
  match fuel with
  | 0 => .error (.next .endInValue input)
  | fuel + 1 =>
    match phase, enclosing with
    | .value, _ =>
      match skipSpace input with
      | [] => .error (.next .endInValue [])
      | .char 'n' :: rest => do
        skipSteps fuel (.inside true) enclosing (← readWord ['u', 'l', 'l'] rest)
      | .char 't' :: rest => do
        skipSteps fuel (.inside true) enclosing (← readWord ['r', 'u', 'e'] rest)
      | .char 'f' :: rest => do
        skipSteps fuel (.inside true) enclosing (← readWord ['a', 'l', 's', 'e'] rest)
      | .char '"' :: rest => do skipSteps fuel (.inside true) enclosing (← skipString rest)
      | .char '[' :: rest => skipSteps fuel (.inside false) (.items :: enclosing) rest
      | .char '\x7b' :: rest => skipSteps fuel (.inside false) (.members :: enclosing) rest
      | .char '-' :: rest => do skipSteps fuel (.inside true) enclosing (← skipMagnitude rest)
      | symbol :: rest =>
        if startsNumber symbol then do
          skipSteps fuel (.inside true) enclosing (← skipMagnitude (symbol :: rest))
        else .error (.next .expectedValue (symbol :: rest))
    | .inside _, [] => .ok input
    | .inside comma, frame :: outer =>
      let next (rest : List Symbol) : Except Stop (List Symbol) :=
        match frame with
        | .items => skipSteps fuel .value (frame :: outer) rest
        | .members => do skipSteps fuel .value (frame :: outer) (← skipKey rest)
      match skipSpace input with
      | [] => .error (.next (if frame = .items then .endInList else .endInObject) [])
      | symbol :: rest =>
        if symbol = .char ',' ∧ comma then next rest
        else if symbol = .char ']' ∧ frame = .items ∨ symbol = .char '\x7d' ∧ frame = .members then
          skipSteps fuel (.inside true) outer rest
        else if comma then
          .error (.next (if frame = .items then .expectedListCommaOrEnd
            else .expectedObjectCommaOrEnd) (symbol :: rest))
        else next (symbol :: rest)

def skipValue (input : List Symbol) : Except Stop (List Symbol) :=
  skipSteps (3 * input.length + 3) .value [] input

end RuntimeHandover.Json
