import FallingSand.Snapshot.Basic

/-!
# Snapshots as bytes

The bytes of a snapshot are those of its fields in order.  A number below 251 is one byte; a greater
one is a marker for its length followed by two, four or eight bytes, the least significant first.  A
text or a list is preceded by its length.
-/

namespace FallingSand

/-! ## Numbers -/

/-- The given number of bytes of a number, the least significant first. -/
def littleEndian : (count value : Nat) → List UInt8
  | 0, _ => []
  | count + 1, value => UInt8.ofNat value :: littleEndian count (value / 256)

/-- The number that bytes stand for, the least significant first. -/
def ofLittleEndian : List UInt8 → Nat
  | [] => 0
  | byte :: bytes => byte.toNat + 256 * ofLittleEndian bytes

/-- The bytes of a number below `2 ^ 64`. -/
def numberBytes (value : Nat) : List UInt8 :=
  if value < 251 then [UInt8.ofNat value]
  else if value < UInt16.size then 251 :: littleEndian 2 value
  else if value < UInt32.size then 252 :: littleEndian 4 value
  else 253 :: littleEndian 8 value

/-- What reads something from bytes and leaves the rest. -/
abbrev ByteReader (α : Type) := List UInt8 → Option (α × List UInt8)

/-- The given number of bytes. -/
def takeBytes (count : Nat) : ByteReader (List UInt8) := fun bytes =>
  let taken := bytes.take count
  if taken.length = count then some (taken, bytes.drop count) else none

/-- The number of bytes after a marker. -/
def markedLength? (marker : UInt8) : Option Nat :=
  if marker = 251 then some 2
  else if marker = 252 then some 4
  else if marker = 253 then some 8
  else none

/-- A number of a type that is `width` bytes wide: a marker for more bytes is refused. -/
def readNumber (width : Nat) : ByteReader Nat
  | [] => none
  | first :: rest =>
      if first < 251 then some (first.toNat, rest)
      else do
        let length ← (markedLength? first).filter (· ≤ width)
        let (bytes, rest) ← takeBytes length rest
        return (ofLittleEndian bytes, rest)

/-! ## Texts and lists -/

/-- The bytes of a text. -/
def textBytes (text : String) : List UInt8 :=
  let bytes := text.toUTF8.toList
  numberBytes bytes.length ++ bytes

/-- A text. -/
def readText : ByteReader String := fun bytes => do
  let (length, rest) ← readNumber 8 bytes
  let (bytes, rest) ← takeBytes length rest
  return (← String.fromUTF8? ⟨bytes.toArray⟩, rest)

/-- The given number of items in front of those that have been read. -/
def readItems {α : Type} (item : ByteReader α) : (count : Nat) → (read : Array α) →
    ByteReader (Array α)
  | 0, read, rest => some (read, rest)
  | count + 1, read, bytes =>
      match item bytes with
      | some (first, rest) => readItems item count (read.push first) rest
      | none => none

/-- A list. -/
def readList {α : Type} (item : ByteReader α) : ByteReader (Array α) := fun bytes => do
  let (length, rest) ← readNumber 8 bytes
  readItems item length #[] rest

namespace Snapshot

/-- The bytes of a snapshot. -/
def toBytes (snapshot : Snapshot) : List UInt8 :=
  numberBytes snapshot.width.toNat ++ numberBytes snapshot.height.toNat ++
    numberBytes snapshot.tick.toNat ++
    (numberBytes snapshot.palette.size ++ snapshot.palette.toList.flatMap textBytes) ++
    (numberBytes snapshot.cells.size ++
      snapshot.cells.toList.flatMap fun cell => numberBytes cell.toNat)

/-- The snapshot that bytes describe; bytes after it do not matter. -/
def ofBytes? (bytes : List UInt8) : Option Snapshot := do
  let (width, rest) ← readNumber 4 bytes
  let (height, rest) ← readNumber 4 rest
  let (tick, rest) ← readNumber 8 rest
  let (palette, rest) ← readList readText rest
  let (cells, _) ← readList (readNumber 2) rest
  return {
    width := UInt32.ofNat width
    height := UInt32.ofNat height
    tick := UInt64.ofNat tick
    palette
    cells := cells.map UInt16.ofNat }

end Snapshot
end FallingSand
