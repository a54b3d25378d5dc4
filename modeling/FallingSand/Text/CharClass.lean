/-!
# Classes of characters

A class of characters is given by the runs of code points that make it up.
-/

namespace FallingSand
namespace Text

/-- A class of characters. -/
structure CharClass where
  /-- First and last code point of every run, ascending. -/
  runs : Array (Nat × Nat)

/-- Whether a character is in the class. -/
def CharClass.contains (charClass : CharClass) (character : Char) : Bool :=
  charClass.runs.any fun run => run.1 ≤ character.toNat && character.toNat ≤ run.2

end Text
end FallingSand
