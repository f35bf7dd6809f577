import RuntimeHandover.Text.Combining
import RuntimeHandover.Text.Hex
import RuntimeHandover.Text.Printable
import RuntimeHandover.Text.Utf8

/-! Quoted text, as messages show names and values: between double quotes, with
an escape for every character that a terminal would not show by itself. -/
namespace RuntimeHandover.Text

def quotedChar (c : Char) : List Char :=
  match c with
  | '\x00' => ['\\', '0']
  | '\t' => ['\\', 't']
  | '\r' => ['\\', 'r']
  | '\n' => ['\\', 'n']
  | '"' => ['\\', '"']
  | '\\' => ['\\', '\\']
  | c =>
    if isExtending c || !isPrintable c then
      ['\\', 'u', '\x7b'] ++ hexDigits c.toNat ++ ['\x7d']
    else [c]

def quoted (text : String) : String :=
  String.ofList ('"' :: text.toList.flatMap quotedChar ++ ['"'])

def quotedByte (b : UInt8) : List Char :=
  ['\\', 'x'] ++ [hexDigit (b.toNat / 16), hexDigit (b.toNat % 16)].map Char.toUpper

def quotedSymbol : Symbol → List Char
  | .char c => quotedChar c
  | .stray bytes _ => bytes.flatMap quotedByte

def quotedBytes (bytes : List UInt8) : String :=
  String.ofList ('"' :: (Utf8.symbols bytes).flatMap quotedSymbol ++ ['"'])

def quotedList (texts : List String) : String :=
  "[" ++ ", ".intercalate (texts.map quoted) ++ "]"

end RuntimeHandover.Text
