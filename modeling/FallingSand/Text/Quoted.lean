import FallingSand.Text.Unprintable

/-!
# Quoted text

A text between quotation marks, in which quotes, backslashes and unprintable characters are written
as escapes.
-/

namespace FallingSand
namespace Text

/-- The code point of a character in braces, in hexadecimal digits. -/
def codeEscape (character : Char) : List Char :=
  ['\\', 'u', '\x7b'] ++ Nat.toDigits 16 character.toNat ++ ['\x7d']

/-- A character inside quotation marks. -/
def escapeChar (character : Char) : List Char :=
  match character with
  | '\x00' => ['\\', '0']
  | '\t' => ['\\', 't']
  | '\n' => ['\\', 'n']
  | '\r' => ['\\', 'r']
  | '"' => ['\\', '"']
  | '\'' => ['\\', '\'']
  | '\\' => ['\\', '\\']
  | _ => if isUnprintable character then codeEscape character else [character]

/-- A text between quotation marks. -/
def quote (text : String) : String :=
  "\"" ++ String.ofList (text.toList.flatMap escapeChar) ++ "\""

end Text
end FallingSand
