import FallingSand.Number.Double
import FallingSand.Number.Single

/-!
# Numerals of RON

A numeral denotes an integer, in one of four bases, or a number that need not be whole.  At its end
it may name the type of the number.
-/

namespace FallingSand
namespace Ron

/-! ## Types of numbers -/

/-- A type of integers. -/
structure IntegerType where
  /-- Whether there are negative integers. -/
  signed : Bool
  /-- Number of bits. -/
  bits : Nat
  deriving DecidableEq, Repr

namespace IntegerType

/-- The least integer of a type. -/
def least (type : IntegerType) : Int :=
  if type.signed then -((1 <<< (type.bits - 1) : Nat) : Int) else 0

/-- The greatest integer of a type. -/
def greatest (type : IntegerType) : Int :=
  ((1 <<< (if type.signed then type.bits - 1 else type.bits) : Nat) : Int) - 1

/-- Whether an integer is one of a type. -/
def contains (type : IntegerType) (value : Int) : Bool :=
  type.least ≤ value && value ≤ type.greatest

/-- Natural numbers of sixty-four bits. -/
def word64 : IntegerType := ⟨false, 64⟩

/-- Natural numbers of thirty-two bits. -/
def word32 : IntegerType := ⟨false, 32⟩

/-- Natural numbers of sixteen bits. -/
def word16 : IntegerType := ⟨false, 16⟩

/-- Integers of sixty-four bits. -/
def int64 : IntegerType := ⟨true, 64⟩

/-- Integers of thirty-two bits. -/
def int32 : IntegerType := ⟨true, 32⟩

/-- The words for the types. -/
def words : List (String × IntegerType) :=
  [("i8", ⟨true, 8⟩), ("i16", ⟨true, 16⟩), ("i32", int32), ("i64", int64),
    ("u8", ⟨false, 8⟩), ("u16", word16), ("u32", word32), ("u64", word64)]

end IntegerType

/-- A precision of numbers that need not be whole. -/
inductive Precision where
  /-- Thirty-two bits. -/
  | single
  /-- Sixty-four bits. -/
  | double
  deriving DecidableEq, Repr

/-! ## Integers -/

/-- The value of a hexadecimal digit. -/
def hexDigit? (character : Char) : Option Nat :=
  let code := character.toNat
  if character.isDigit then some (code - '0'.toNat)
  else if 'a'.toNat ≤ code && code ≤ 'f'.toNat then some (code - 'a'.toNat + 10)
  else if 'A'.toNat ≤ code && code ≤ 'F'.toNat then some (code - 'A'.toNat + 10)
  else none

/-- The number that hexadecimal digits stand for. -/
def hexNumber? (digits : List Char) : Option Nat :=
  digits.foldlM (fun value digit => (hexDigit? digit).map (16 * value + ·)) 0

/-- The value of a digit in a base of at most sixteen. -/
def digitIn? (base : Nat) (digit : Char) : Option Nat :=
  (hexDigit? digit).filter (· < base)

/-- The number that digits in a base stand for.  Underscores after the first digit are passed
over. -/
def digitsIn? (base : Nat) (digits : List Char) : Option Nat :=
  let kept := digits.filter (· != '_')
  if digits.head? == some '_' || kept.isEmpty then none
  else kept.foldlM (fun value digit => (digitIn? base digit).map (base * value + ·)) 0

/-- Split the mark of a base off the start of the digits.  Without a mark, the base is ten. -/
def splitBase : List Char → Nat × List Char
  | '0' :: 'x' :: digits => (16, digits)
  | '0' :: 'o' :: digits => (8, digits)
  | '0' :: 'b' :: digits => (2, digits)
  | digits => (10, digits)

/-- Split the word for a type off the end of the digits before it. -/
def splitIntegerType (numeral : List Char) : List Char × Option IntegerType :=
  let isDigit (character : Char) := (hexDigit? character).isSome || character == '_'
  match IntegerType.words.lookup (String.ofList (numeral.dropWhile isDigit)) with
  | some type => (numeral.takeWhile isDigit, some type)
  | none => (numeral, none)

/-- The integer that a numeral denotes, and the type that it names. -/
def integer? (numeral : String) : Option (Int × Option IntegerType) :=
  let (negative, unsigned) := Number.Decimal.splitSign numeral.toList
  let (base, written) := splitBase unsigned
  let (digits, type) := splitIntegerType written
  (digitsIn? base digits).map fun magnitude =>
    (if negative then -(magnitude : Int) else magnitude, type)

/-- The integer of a type that a numeral denotes, unless it names another type. -/
def integerOf? (type : IntegerType) (numeral : String) : Option Int := do
  let (value, named) ← integer? numeral
  if named.getD type = type ∧ type.contains value then some value else none

/-- The integer that a numeral denotes where no type is asked for: it is one of the type that the
numeral names, or else has sixty-four bits. -/
def anyInteger? (numeral : String) : Option Int := do
  let (value, named) ← integer? numeral
  let type := named.getD (if value < 0 then .int64 else .word64)
  if type.contains value then some value else none

/-! ## Numbers that need not be whole -/

/-- A number that need not be whole, before it is rounded. -/
inductive Quantity where
  /-- Not a number. -/
  | nan
  /-- Infinity of a sign. -/
  | infinity (negative : Bool)
  /-- The number of a decimal numeral. -/
  | decimal (numeral : Number.Decimal)
  deriving DecidableEq, Repr

namespace Quantity

/-- The single-precision number closest to a quantity. -/
def toSingle : Quantity → Single
  | nan => Single.nan
  | infinity negative => Single.infinity negative
  | decimal numeral => Single.ofDecimal numeral

/-- The double-precision number closest to a quantity. -/
def toDouble : Quantity → Double
  | nan => .nan
  | infinity negative => .infinity negative
  | decimal numeral => Double.ofDecimal numeral

end Quantity

/-- Take the underscores out of a decimal numeral.  An underscore follows a digit, an exponent mark
or another underscore. -/
def withoutUnderscores? : (allowed : Bool) → List Char → Option (List Char)
  | _, [] => some []
  | allowed, mark :: rest =>
      if mark = '_' then if allowed then withoutUnderscores? true rest else none
      else
        let allowed :=
          if mark.isDigit || mark = 'e' || mark = 'E' then true
          else if mark = '.' then false
          else allowed
        (withoutUnderscores? allowed rest).map (mark :: ·)

/-- Split the word for a precision off the end of a numeral. -/
def splitPrecision (numeral : List Char) : List Char × Option Precision :=
  match numeral.reverse with
  | '2' :: '3' :: 'f' :: rest => (rest.reverse, some .single)
  | '4' :: '6' :: 'f' :: rest => (rest.reverse, some .double)
  | _ => (numeral, none)

/-- The quantity that a numeral denotes, and the precision that it names. -/
def quantity? (numeral : String) : Option (Quantity × Option Precision) :=
  let (written, precision) := splitPrecision numeral.toList
  let (negative, unsigned) := Number.Decimal.splitSign written
  let quantity :=
    if unsigned = ['i', 'n', 'f'] then some (.infinity negative)
    else if unsigned = ['N', 'a', 'N'] then some .nan
    else ((withoutUnderscores? false written).bind Number.Decimal.ofText?).map .decimal
  quantity.map fun quantity => (quantity, precision)

/-- The words that denote quantities. -/
def quantityWords : List String :=
  ["inf", "NaN", "inff32", "inff64", "NaNf32", "NaNf64"]

/-! ## Well-formed numerals -/

/-- Whether a text denotes a number. -/
def isNumeral (numeral : String) : Bool :=
  (anyInteger? numeral).isSome || (quantity? numeral).isSome

end Ron
end FallingSand
