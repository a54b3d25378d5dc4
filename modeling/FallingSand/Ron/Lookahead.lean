import FallingSand.Ron.Token

/-!
# Looking ahead in RON

A group without brackets of its own is told from a single value by looking ahead for a comma between
the brackets around it.  Comments and quoted characters, texts and bytes are passed over, and so is
what stands between further brackets.  An apostrophe counts as the start of a quoted character
wherever it stands, even if it ends a byte.
-/

namespace FallingSand
namespace Ron

/-! ## What is passed over -/

/-- Pass over a quoted character. -/
def passCharacter : List Char → List Char
  | '\'' :: rest => ((quotedCharacter? rest).map (·.2)).getD ('\'' :: rest)
  | text => text

/-- Pass over a raw text, unless there is none.  One without end is an error. -/
def passRaw? (text afterLetters : List Char) : Option (List Char) :=
  if (afterLetters.dropWhile (· == '#')).head? = some '"' then
    (rawText? afterLetters).map (·.2)
  else some text

/-- Pass over a text, unless there is none.  One that cannot be read is an error. -/
def passText? : List Char → Option (List Char)
  | '"' :: rest => (quotedText? rest).map (·.2)
  | 'r' :: rest => passRaw? ('r' :: rest) rest
  | text => some text

/-- Pass over a run of bytes, unless there is none.  One that cannot be read is an error. -/
def passBytes? : List Char → Option (List Char)
  | 'b' :: '"' :: rest => (quotedBytes? rest).map (·.2)
  | 'b' :: 'r' :: rest => passRaw? ('b' :: 'r' :: rest) rest
  | text => some text

/-- Pass over a quoted character, then a text, then a run of bytes, as far as there are any, and the
white space and comments around them. -/
def passQuoted? (text : List Char) : Option (List Char) := do
  let text ← skipBlanks? (passCharacter (← skipBlanks? text))
  let text ← skipBlanks? (← passText? text)
  skipBlanks? (← passBytes? text)

/-- Whether a text begins with something quoted. -/
def beginsQuoted : List Char → Bool
  | 'b' :: '"' :: _ | 'b' :: '\'' :: _ | 'b' :: 'r' :: '#' :: _ | 'b' :: 'r' :: '"' :: _
  | 'r' :: '"' :: _ => true
  | _ => false

/-- What follows the name at the start of a text, if there is one. -/
def afterName? : List Char → Option (List Char)
  | 'r' :: '#' :: rest =>
      if rest.head?.any continuesNumber then some (rest.dropWhile continuesNumber) else none
  | first :: rest =>
      if Text.startsIdentifier first && !beginsQuoted (first :: rest) then
        some (rest.dropWhile Text.continuesIdentifier)
      else none
  | [] => none

/-! ## Looking for a comma -/

/-- Whether something other than the closing bracket follows a comma. -/
def goesOn? (text : List Char) : Option Bool :=
  (skipBlanks? text).map fun rest => rest.head? != some ')'

/-- Whether there is more than one value before the last of the open brackets is closed.  Every step
takes at least one character, so anything as long as the text can be the `limit`. -/
def hasSeveralFrom? : (limit : List Char) → (isOpen : Nat) → List Char → Option Bool
  | _, 0, _ => some false
  | [], _ + 1, _ => none
  | _ :: limit, isOpen + 1, text => do
      match ← passQuoted? text with
      | [] => none
      | character :: rest =>
          if ['(', '[', '\x7b'].contains character then hasSeveralFrom? limit (isOpen + 2) rest
          else if [')', ']', '\x7d'].contains character then hasSeveralFrom? limit isOpen rest
          else if character = ',' ∧ isOpen = 0 then goesOn? rest
          else hasSeveralFrom? limit (isOpen + 1) rest

/-- Whether there is more than one value between the brackets of which the first has just been
opened. -/
def hasSeveral? (behind : List Char) : Option Bool := do
  let text ← skipBlanks? behind
  match afterName? text with
  | none => hasSeveralFrom? text 1 text
  | some rest =>
      match ← skipBlanks? rest with
      | ',' :: rest => goesOn? rest
      | rest => hasSeveralFrom? rest 1 rest

end Ron
end FallingSand
