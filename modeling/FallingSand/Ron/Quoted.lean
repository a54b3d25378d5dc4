import FallingSand.Ron.Numeral

/-!
# Quoted characters, texts and bytes of RON

A character stands between apostrophes, a text or a run of bytes between quotation marks.  A
backslash begins an escape, and before the end of a line it joins the next line on; raw texts and
bytes have no escapes and end at a quotation mark that is followed by as many hashes as began them.
-/

namespace FallingSand
namespace Ron

/-! ## Escapes -/

/-- What an escape says. -/
inductive Escape where
  /-- A character by its letter. -/
  | letter (value : Char)
  /-- A byte by its two hexadecimal digits. -/
  | byte (value : UInt8)
  /-- A character by its code point. -/
  | code (value : Char)
  deriving DecidableEq

/-- The character with a code point. -/
def charOfCode? (code : Nat) : Option Char :=
  if code.isValidChar then some (Char.ofNat code) else none

/-- Read an escape whose backslash has been read. -/
def escape? : List Char → Option (Escape × List Char)
  | '\'' :: rest => some (.letter '\'', rest)
  | '"' :: rest => some (.letter '"', rest)
  | '\\' :: rest => some (.letter '\\', rest)
  | 'n' :: rest => some (.letter '\n', rest)
  | 'r' :: rest => some (.letter '\r', rest)
  | 't' :: rest => some (.letter '\t', rest)
  | '0' :: rest => some (.letter '\x00', rest)
  | 'x' :: high :: low :: rest => do
      return (.byte (UInt8.ofNat (← hexNumber? [high, low])), rest)
  | 'u' :: '\x7b' :: rest =>
      let isDigit (character : Char) := (hexDigit? character).isSome
      match rest.dropWhile isDigit with
      | '\x7d' :: after =>
          let digits := rest.takeWhile isDigit
          if 1 ≤ digits.length ∧ digits.length ≤ 6 then do
            return (.code (← (hexNumber? digits).bind charOfCode?), after)
          else none
      | _ => none
  | _ => none

/-- The number of bytes that encode the character beginning with a byte. -/
def encodedLength (first : UInt8) : Nat :=
  if first < 0x80 then 1 else if first < 0xe0 then 2 else if first < 0xf0 then 3 else 4

/-- Read further bytes, each by an escape of its own. -/
def escapedBytes : (count : Nat) → List Char → Option (List UInt8 × List Char)
  | 0, rest => some ([], rest)
  | count + 1, '\\' :: rest => do
      match ← escape? rest with
      | (.byte value, rest) =>
          let (bytes, rest) ← escapedBytes count rest
          return (value :: bytes, rest)
      | _ => none
  | _ + 1, _ => none

/-- The one character that some bytes encode. -/
def charOfBytes? (bytes : List UInt8) : Option Char :=
  match (String.fromUTF8? ⟨bytes.toArray⟩).map String.toList with
  | some [character] => some character
  | _ => none

/-- The character of an escape in a text, where several bytes may encode it. -/
def escapedInText? (rest : List Char) : Option (Char × List Char) := do
  match ← escape? rest with
  | (.byte first, rest) =>
      let (others, rest) ← escapedBytes (encodedLength first - 1) rest
      return (← charOfBytes? (first :: others), rest)
  | (.letter value, rest) | (.code value, rest) => return (value, rest)

/-- The bytes of an escape among bytes, where a character stands for its encoding. -/
def escapedInBytes? (rest : List Char) : Option (List UInt8 × List Char) := do
  match ← escape? rest with
  | (.byte value, rest) => return ([value], rest)
  | (.letter value, rest) | (.code value, rest) => return (value.toString.toUTF8.toList, rest)

/-! ## Single characters and bytes -/

/-- Read a character whose opening apostrophe has been read.  A byte in it is one of ASCII. -/
def quotedCharacter? : List Char → Option (Char × List Char)
  | '\\' :: rest => do
      match ← escape? rest with
      | (.byte value, '\'' :: rest) =>
          if value < 0x80 then some (Char.ofNat value.toNat, rest) else none
      | (.letter value, '\'' :: rest) | (.code value, '\'' :: rest) => some (value, rest)
      | _ => none
  | value :: '\'' :: rest => some (value, rest)
  | _ => none

/-- Read a byte whose opening apostrophe has been read.  It is no code point. -/
def quotedByte? : List Char → Option (UInt8 × List Char)
  | '\\' :: rest => do
      match ← escape? rest with
      | (.byte value, '\'' :: rest) => some (value, rest)
      | (.letter value, '\'' :: rest) => some (UInt8.ofNat value.toNat, rest)
      | _ => none
  | value :: '\'' :: rest =>
      if value.toNat < 0x80 then some (UInt8.ofNat value.toNat, rest) else none
  | _ => none

/-! ## Texts and bytes -/

/-- Whether a character may stand between a line that ends in a backslash and what goes on with
it. -/
def isIndentation (character : Char) : Bool :=
  [' ', '\t', '\n', '\r'].contains character

/-- What goes on with a line, if a line ends here. -/
def nextLine? : List Char → Option (List Char)
  | '\n' :: rest | '\r' :: '\n' :: rest => some (rest.dropWhile isIndentation)
  | _ => none

/-- Read the pieces up to a closing quotation mark, each either a character as it is or an escape.
A backslash at the end of a line is no piece, and neither is the white space after it.  Every step
takes at least one character, so anything as long as the text can be the `limit`. -/
def quoted? {α : Type} (plain : Char → α) (escaped? : List Char → Option (α × List Char)) :
    (limit : List Char) → (read : List α) → List Char → Option (List α × List Char)
  | _, read, '"' :: rest => some (read.reverse, rest)
  | _ :: limit, read, '\\' :: rest =>
      match nextLine? rest, escaped? rest with
      | some rest, _ => quoted? plain escaped? limit read rest
      | none, some (piece, rest) => quoted? plain escaped? limit (piece :: read) rest
      | none, none => none
  | _ :: limit, read, character :: rest =>
      quoted? plain escaped? limit (plain character :: read) rest
  | _, _, _ => none

/-- Read a raw text up to a quotation mark followed by as many hashes as opened it. -/
def raw? (hashes : List Char) : (read : List Char) → List Char → Option (String × List Char)
  | _, [] => none
  | read, character :: rest =>
      if character = '"' ∧ rest.take hashes.length = hashes then
        some (String.ofList read.reverse, rest.drop hashes.length)
      else raw? hashes (character :: read) rest

/-- Read a text whose opening quotation mark has been read. -/
def quotedText? (text : List Char) : Option (String × List Char) :=
  (quoted? id escapedInText? text [] text).map fun (characters, rest) =>
    (String.ofList characters, rest)

/-- Read bytes whose opening quotation mark has been read. -/
def quotedBytes? (text : List Char) : Option (List UInt8 × List Char) :=
  (quoted? (·.toString.toUTF8.toList) escapedInBytes? text [] text).map
    fun (pieces, rest) => (pieces.flatten, rest)

/-- Read a raw text with its opening hashes. -/
def rawText? (text : List Char) : Option (String × List Char) :=
  let hashes := text.takeWhile (· == '#')
  match text.drop hashes.length with
  | '"' :: rest => raw? hashes [] rest
  | _ => none

end Ron
end FallingSand
