/-!
# Texts of arbitrary bytes

Bytes are read as characters in UTF-8.  Where they cannot be, a replacement character stands for as
many of them as could have begun a character, or else for a single one.  Bytes below `0x80` are
characters of their own.
-/

namespace FallingSand
namespace Text

/-- A character whose first bytes have been read. -/
structure Begun where
  /-- The bits of its code point so far. -/
  bits : Nat
  /-- How many bytes are still to come. -/
  owed : Nat
  /-- The least byte that may come next. -/
  least : UInt8
  /-- The greatest byte that may come next. -/
  greatest : UInt8

namespace Begun

/-- The character that a byte begins.  The second byte rules out code points that have a shorter
form, surrogates, and what is beyond the last code point. -/
def ofFirst? (byte : UInt8) : Option Begun :=
  if byte < 0x80 then some ⟨byte.toNat, 0, 0x80, 0xbf⟩
  else if byte < 0xc2 then none
  else if byte < 0xe0 then some ⟨byte.toNat % 32, 1, 0x80, 0xbf⟩
  else if byte < 0xf0 then
    some
      ⟨byte.toNat % 16, 2, if byte = 0xe0 then 0xa0 else 0x80, if byte = 0xed then 0x9f else 0xbf⟩
  else if byte < 0xf5 then
    some
      ⟨byte.toNat % 8, 3, if byte = 0xf0 then 0x90 else 0x80, if byte = 0xf4 then 0x8f else 0xbf⟩
  else none

/-- The character with one more byte, if the byte may come next. -/
def next? (begun : Begun) (byte : UInt8) : Option Begun :=
  if begun.least ≤ byte ∧ byte ≤ begun.greatest then
    some ⟨64 * begun.bits + byte.toNat % 64, begun.owed - 1, 0x80, 0xbf⟩
  else none

end Begun

/-- What stands for bytes that are no character. -/
def replacement : Char := '\ufffd'

/-- Bytes that have been read. -/
structure Reading where
  /-- The characters, the latest first. -/
  read : List Char
  /-- A character that lacks bytes. -/
  begun : Option Begun

namespace Reading

/-- Before any byte. -/
def start : Reading where
  read := []
  begun := none

/-- Take in a character of which all or some bytes have been read. -/
def take (read : List Char) (begun : Begun) : Reading :=
  if begun.owed = 0 then ⟨Char.ofNat begun.bits :: read, none⟩ else ⟨read, some begun⟩

/-- Read a byte that begins a character. -/
def first (read : List Char) (byte : UInt8) : Reading :=
  match Begun.ofFirst? byte with
  | some begun => take read begun
  | none => ⟨replacement :: read, none⟩

/-- Read a byte. -/
def step (reading : Reading) (byte : UInt8) : Reading :=
  match reading.begun with
  | none => first reading.read byte
  | some begun =>
      match begun.next? byte with
      | some begun => take reading.read begun
      | none => first (replacement :: reading.read) byte

/-- The characters when no byte is left. -/
def finish (reading : Reading) : List Char :=
  (if reading.begun.isSome then replacement :: reading.read else reading.read).reverse

end Reading

/-- The text that bytes stand for. -/
def lenient (bytes : List UInt8) : String :=
  String.ofList (bytes.foldl Reading.step Reading.start).finish

end Text
end FallingSand
