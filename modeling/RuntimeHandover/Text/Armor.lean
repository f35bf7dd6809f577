import RuntimeHandover.Text.Base64
import RuntimeHandover.Text.Blank
import RuntimeHandover.Text.Quoted

/-! Data in armour: base 64 between a line that begins it and one that ends it, both
with the same label. What stands outside, and a block without an end, says nothing; nor
do blanks in the data. -/
namespace RuntimeHandover.Text.Armor

structure Block where
  label : String
  contents : List UInt8
  deriving DecidableEq, Repr

inductive Fault where
  | noBeginning
  | noEnd
  | mismatch (beginning ending : String)
  | contents (flaw : Base64.Flaw)
  | header (line : String)
  deriving DecidableEq, Repr

def Fault.message : Fault → String
  | .noBeginning => "missing BEGIN tag"
  | .noEnd => "missing END tag"
  | .mismatch beginning ending =>
    "mismatching BEGIN (\"" ++ beginning ++ "\") and END (\"" ++ ending ++ "\") tags"
  | .contents flaw => s!"invalid data: {flaw.message}"
  | .header line => s!"invalid header: {line}"

/-- How many characters there are up to the end of the first mark. The search goes on
after a character that does not fit, and does not go back: of too many dashes the first
ones are taken for the mark's. -/
def markEnd? (mark : List Char) : List Char → List Char → Option Nat
  | [], _ => some 0
  | _ :: _, [] => none
  | expected :: more, c :: rest =>
    (markEnd? mark (if c = expected then more else mark) rest).map (· + 1)

def cutAt? (mark text : List Char) : Option (List Char × List Char) :=
  (markEnd? mark mark text).map fun stop => (text.take (stop - mark.length), text.drop stop)

def beginMark : List Char := "-----BEGIN ".toList
def endMark : List Char := "-----END ".toList
def dashes : List Char := "-----".toList

def skipBlanks (text : List Char) : List Char :=
  text.dropWhile fun c => c = ' ' || c = '\t' || c = '\n' || c = '\r'

def splitHeaders (body : List Char) : List Char × List Char :=
  ((cutAt? ['\n', '\n'] body).or (cutAt? ['\r', '\n', '\r', '\n'] body)).getD ([], body)

def readBlock (beginning body ending : List Char) : Except Fault Block := do
  if beginning.isEmpty then .error .noBeginning
  if ending.isEmpty then .error .noEnd
  if beginning ≠ ending then
    .error (.mismatch (String.ofList beginning) (String.ofList ending))
  let (headers, data) := splitHeaders body
  let letters := Utf8.encode (words data).flatten
  let contents ← (Base64.decode letters).mapError .contents
  match (lines headers).find? fun line => !line.contains ':' with
  | some line => .error (.header (String.ofList line))
  | none => .ok ⟨String.ofList beginning, contents⟩

def nextBlock? (text : List Char) : Option (Except Fault Block × List Char) := do
  let (_, text) ← cutAt? beginMark text
  let (beginning, text) ← cutAt? dashes text
  let (body, text) ← cutAt? endMark (skipBlanks text)
  let (ending, text) ← cutAt? dashes text
  some (readBlock beginning body ending, skipBlanks text)

def blocksUpTo : Nat → List Char → Except Fault (List Block)
  | 0, _ => .ok []
  | most + 1, text =>
    match nextBlock? text with
    | none => .ok []
    | some (block, rest) => do .ok ((← block) :: (← blocksUpTo most rest))

/-- No text holds more blocks than characters. -/
def blocks (text : List Char) : Except Fault (List Block) :=
  blocksUpTo text.length text

end RuntimeHandover.Text.Armor
