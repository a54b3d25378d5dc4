import FallingSand.Ron.Blank
import FallingSand.Ron.Quoted
import FallingSand.Text.Identifier

/-!
# Tokens of RON

RON is a notation for structured values.  Its tokens are marks, names, numbers, ranges, and quoted
characters, texts and bytes; between them there may be white space and comments.
-/

namespace FallingSand
namespace Ron

/-- An end of a range. -/
inductive RangeEnd where
  /-- A number as it is written. -/
  | number (text : String)
  /-- A byte. -/
  | byte (value : UInt8)
  deriving DecidableEq, Repr

/-- A token. -/
inductive Token where
  /-- A bracket, a colon, a comma, or one of the marks of an attribute. -/
  | mark (character : Char)
  /-- An opening round bracket with the text behind it. -/
  | opening (behind : List Char)
  /-- An opening and a closing round bracket with nothing between them. -/
  | unit
  /-- A name; a raw one is never a word with a meaning of its own. -/
  | name (text : String) (raw : Bool)
  /-- A number as it is written. -/
  | number (text : String)
  /-- A byte. -/
  | byte (value : UInt8)
  /-- A range, which may lack an end. -/
  | range (low high : Option RangeEnd)
  /-- A run of bytes. -/
  | bytes (value : List UInt8)
  /-- A character. -/
  | character (value : Char)
  /-- A text. -/
  | text (value : String)
  deriving DecidableEq, Repr

/-- An end of a range as a token by itself. -/
def RangeEnd.token : RangeEnd → Token
  | number text => .number text
  | byte value => .byte value

/-! ## Character classes -/

/-- The marks. -/
def isMark (character : Char) : Bool :=
  [')', '[', ']', '\x7b', '\x7d', ':', ',', '#', '!', '='].contains character

/-- What a number begins with. -/
def startsNumber (character : Char) : Bool :=
  character.isDigit || character == '+' || character == '-' || character == '.'

/-- What a number or a raw name goes on with. -/
def continuesNumber (character : Char) : Bool :=
  Text.continuesIdentifier character || character == '+' || character == '-' || character == '.'

/-! ## The tokens of a text -/

/-- Split the longest numeral that there could be off the start of a text.  It ends before two
points. -/
def splitNumeral : (read : List Char) → List Char → List Char × List Char
  | read, '.' :: '.' :: rest => (read.reverse, '.' :: '.' :: rest)
  | read, character :: rest =>
      if continuesNumber character then splitNumeral (character :: read) rest
      else (read.reverse, character :: rest)
  | read, [] => (read.reverse, [])

/-- Read a number or a byte. -/
def rangeEnd? : List Char → Option (RangeEnd × List Char)
  | 'b' :: '\'' :: rest => (quotedByte? rest).map fun (value, rest) => (.byte value, rest)
  | text =>
      let (numeral, rest) := splitNumeral [] text
      let numeral := String.ofList numeral
      if isNumeral numeral then some (.number numeral, rest) else none

/-- Read what follows the two points of a range.  After an equals sign there has to be an end. -/
def rangeToken? (low : Option RangeEnd) : List Char → Option (Token × List Char)
  | '=' :: rest => (rangeEnd? rest).map fun (high, rest) => (.range low (some high), rest)
  | rest =>
      match rangeEnd? rest with
      | some (high, rest) => some (.range low (some high), rest)
      | none => some (.range low none, rest)

/-- Read a number, a byte or a range. -/
def numberToken? : List Char → Option (Token × List Char)
  | '.' :: '.' :: rest => rangeToken? none rest
  | text => do
      match ← rangeEnd? text with
      | (low, '.' :: '.' :: rest) => rangeToken? (some low) rest
      | (value, rest) => return (value.token, rest)

/-- The word for an option that holds a value. -/
def presentWord : String := "Some"

/-- Read a name.  It does not end before a point or a sign, except that a word for a number can
begin a range, and that a number can follow the word for an option. -/
def nameToken? (text : List Char) : Option (Token × List Char) :=
  let name := String.ofList (text.takeWhile Text.continuesIdentifier)
  let rest := text.dropWhile Text.continuesIdentifier
  if (rest.head?.map continuesNumber).getD false && name != presentWord then numberToken? text
  else some (.name name false, rest)

/-- Read a raw name whose hash has been read. -/
def rawName? (text : List Char) : Option (Token × List Char) :=
  let name := text.takeWhile continuesNumber
  if name.isEmpty then none
  else some (.name (String.ofList name) true, text.dropWhile continuesNumber)

/-- Read the token at the start of a text. -/
def token? : List Char → Option (Token × List Char)
  | '(' :: ')' :: rest => some (.unit, rest)
  | '(' :: rest => some (.opening rest, rest)
  | '"' :: rest => (quotedText? rest).map fun (value, rest) => (.text value, rest)
  | '\'' :: rest => (quotedCharacter? rest).map fun (value, rest) => (.character value, rest)
  | 'b' :: '\'' :: rest => numberToken? ('b' :: '\'' :: rest)
  | 'b' :: '"' :: rest => (quotedBytes? rest).map fun (value, rest) => (.bytes value, rest)
  | 'b' :: 'r' :: '"' :: rest =>
      (rawText? ('"' :: rest)).map fun (value, rest) => (.bytes value.toUTF8.toList, rest)
  | 'b' :: 'r' :: '#' :: rest =>
      (rawText? ('#' :: rest)).map fun (value, rest) => (.bytes value.toUTF8.toList, rest)
  | 'r' :: '"' :: rest => (rawText? ('"' :: rest)).map fun (value, rest) => (.text value, rest)
  | 'r' :: '#' :: rest =>
      if rest.head? = some '"' ∨ rest.head? = some '#' then
        (rawText? ('#' :: rest)).map fun (value, rest) => (.text value, rest)
      else rawName? rest
  | character :: rest =>
      if isMark character then some (.mark character, rest)
      else if startsNumber character then numberToken? (character :: rest)
      else if Text.startsIdentifier character then nameToken? (character :: rest)
      else none
  | [] => none

/-- Read tokens to the end of the text.  Every step takes at least one character. -/
def tokensFrom? : (limit : Nat) → (read : List Token) → List Char → Option (List Token)
  | 0, _, _ => none
  | limit + 1, read, text => do
      match ← skipBlanks? text with
      | [] => return read.reverse
      | text =>
          let (token, rest) ← token? text
          tokensFrom? limit (token :: read) rest

/-- The tokens of a text. -/
def tokens? (text : String) : Option (List Token) :=
  tokensFrom? (text.length + 1) [] text.toList

end Ron
end FallingSand
