import FallingSand.Ron.Lookahead

/-!
# Values of RON

A value is a truth value, a number, a range, a quoted character, text or run of bytes, a name, an
option, or a collection of values: a list, a map, or a tuple or record that may carry a name.
Values are separated by commas, of which one may also follow the last value, and nest to a limited
depth.
-/

namespace FallingSand
namespace Ron

/-- A structured value. -/
inductive Value where
  /-- The unit: round brackets with nothing between them. -/
  | unit
  /-- The option that holds nothing. -/
  | absent
  /-- The option that holds a value. -/
  | present (content : Value)
  /-- The option that holds a group without brackets of its own. -/
  | presentBare (content : Value)
  /-- A truth value. -/
  | bool (value : Bool)
  /-- A number as it is written. -/
  | number (text : String)
  /-- A byte. -/
  | byte (value : UInt8)
  /-- A range of numbers, which may lack an end. -/
  | range (low high : Option RangeEnd)
  /-- A run of bytes. -/
  | bytes (value : List UInt8)
  /-- A character. -/
  | character (value : Char)
  /-- A text. -/
  | text (value : String)
  /-- A name alone. -/
  | name (text : String)
  /-- A list. -/
  | list (items : List Value)
  /-- A map from values to values. -/
  | map (entries : List (Value × Value))
  /-- A tuple, which may carry a name. -/
  | tuple (name : Option String) (items : List Value)
  /-- A record, which may carry a name. -/
  | record (name : Option String) (fields : List (String × Value))

/-- What reads something from tokens and leaves the rest. -/
abbrev Reader (α : Type) := List Token → Option (α × List Token)

/-- Read items up to a closing mark, with commas between them and possibly after the last.  Every
step takes at least one token. -/
def itemsFrom {α : Type} (close : Char) (item : Reader α) :
    (limit : Nat) → (read : List α) → Reader (List α)
  | limit + 1, read, token :: rest =>
      if token = .mark close then some (read.reverse, rest)
      else do
        match ← item (token :: rest) with
        | (last, .mark mark :: rest) =>
            if mark = ',' then itemsFrom close item limit (last :: read) rest
            else if mark = close then some ((last :: read).reverse, rest)
            else none
        | _ => none
  | _, _, _ => none

/-- Read items up to a closing mark; there are less than `limit`. -/
def items {α : Type} (limit : Nat) (close : Char) (item : Reader α) : Reader (List α) :=
  itemsFrom close item limit []

/-- What follows a comma, if there is one. -/
def afterComma : List Token → List Token
  | .mark ',' :: rest => rest
  | rest => rest

/-- Read a closing round bracket. -/
def closing : Reader Unit
  | .mark ')' :: rest => some ((), rest)
  | _ => none

/-! ## Attributes -/

/-- A rule that a text can turn on for itself, by an attribute at its start. -/
inductive Extension where
  /-- An option that holds a value can be written as that value. -/
  | implicitOptions
  /-- A wrapper can be written as what it holds. -/
  | bareWrappers
  /-- What an option holds can be written without its own brackets. -/
  | bareOptionContents
  /-- Records of a known name have to carry it. -/
  | explicitNames
  deriving DecidableEq, Repr

/-- The words for the extensions. -/
def Extension.words : List (String × Extension) :=
  [("implicit_some", implicitOptions), ("unwrap_newtypes", bareWrappers),
    ("unwrap_variant_newtypes", bareOptionContents), ("explicit_struct_names", explicitNames)]

/-- Read the word for an extension. -/
def extension : Reader Extension
  | .name word _ :: rest => (Extension.words.lookup word).map fun extension => (extension, rest)
  | _ => none

/-- The names that an attribute can give to a text.  They say nothing about its value. -/
def labelWords : List String := ["type", "schema"]

/-- Read the attributes at the start of a text: those that turn rules on, and labels.  Every one
takes several tokens. -/
def attributesFrom : (limit : Nat) → Reader (List Extension)
  | limit + 1,
    .mark '#' :: .mark '!' :: .mark '[' :: .name "enable" false :: .opening _ :: rest => do
      match ← items (limit + 1) ')' extension rest with
      | (first :: others, .mark ']' :: rest) =>
          let (more, rest) ← attributesFrom limit rest
          return (first :: others ++ more, rest)
      | _ => none
  | limit + 1,
    .mark '#' :: .mark '!' :: .mark '[' :: .name word false :: .mark '=' :: .text _ ::
      .mark ']' :: rest =>
      if labelWords.contains word then attributesFrom limit rest else none
  | _, rest => some ([], rest)

/-! ## Collections -/

/-- Read a field of a record, with a reader for its value that may depend on its name. -/
def field (value : String → Reader Value) : Reader (String × Value)
  | .name name _ :: .mark ':' :: rest => do
      let (value, rest) ← value name rest
      return ((name, value), rest)
  | _ => none

/-- Read an entry of a map. -/
def entry (value : Reader Value) : Reader (Value × Value) := fun tokens => do
  match ← value tokens with
  | (key, .mark ':' :: rest) => do
      let (value, rest) ← value rest
      return ((key, value), rest)
  | _ => none

/-- Whether a record goes on here with a field. -/
def beginsField : List Token → Bool
  | .name _ _ :: .mark ':' :: _ => true
  | _ => false

/-- Read the rest of a tuple or record whose opening bracket has been read. -/
def group (limit : Nat) (value : Reader Value) (fieldValue : String → Reader Value)
    (name : Option String) (rest : List Token) : Option (Value × List Token) := do
  if beginsField rest then
    let (fields, rest) ← items limit ')' (field fieldValue) rest
    return (.record name fields, rest)
  else
    let (members, rest) ← items limit ')' value rest
    return (.tuple name members, rest)

/-! ## Options -/

/-- Read what an option holds, up to the bracket that closes the option. -/
def held (value : Reader Value) : Reader Value := fun rest => do
  let (held, rest) ← value rest
  let (_, rest) ← closing (afterComma rest)
  return (.present held, rest)

/-- Read what an option holds if it is a group without brackets of its own. -/
def heldBare (limit : Nat) (value : Reader Value) : Reader Value
  | .mark ')' :: rest => some (.presentBare .unit, rest)
  | rest => do
      let (held, rest) ← group limit value (fun _ => value) none rest
      return (.presentBare held, rest)

/-- Whether what an option holds is a group without brackets of its own. -/
def isBareGroup? (behind : List Char) (rest : List Token) : Option Bool :=
  if beginsField rest || rest.head? = some (.mark ')') then some true else hasSeveral? behind

/-- Read what follows the word for an option that holds a value.  With the extensions for it, what
it holds can be a group without its own brackets, or stand there without any brackets at all. -/
def content (extensions : List Extension) (limit : Nat) (value : Reader Value) : Reader Value
  | .unit :: rest =>
      if extensions.contains .bareOptionContents then some (.presentBare .unit, rest) else none
  | .opening behind :: rest => do
      if extensions.contains .bareOptionContents then
        if ← isBareGroup? behind rest then heldBare limit value rest else held value rest
      else held value rest
  | rest =>
      if extensions.contains .implicitOptions then do
        let (held, rest) ← value rest
        return (.present held, rest)
      else none

/-- Read an option of a pair where one is asked for.  If it holds a pair without brackets of its
own, then both the pair and the option may end in a comma. -/
def optionalPair (extensions : List Extension) (value : Reader Value) : Reader Value
  | .name name raw :: .opening behind :: rest =>
      if extensions.contains .bareOptionContents && name = presentWord && !raw then do
        match ← value rest with
        | (first, .mark ',' :: rest) =>
            let (second, rest) ← value rest
            let (_, rest) ← closing (afterComma (afterComma rest))
            return (.presentBare (.tuple none [first, second]), rest)
        | _ => none
      else value (.name name raw :: .opening behind :: rest)
  | rest => value rest

/-! ## Values -/

/-- The value of a word that has a meaning of its own. -/
def reserved? (word : String) : Option Value :=
  if word = "true" then some (.bool true)
  else if word = "false" then some (.bool false)
  else if word = "None" then some .absent
  else if quantityWords.contains word then some (.number word)
  else none

/-- Read a value that begins with a name. -/
def named (extensions : List Extension) (limit : Nat) (value : Reader Value)
    (fieldValue : String → Reader Value) (name : String) (raw : Bool) (rest : List Token) :
    Option (Value × List Token) :=
  match if raw then none else reserved? name with
  | some reserved => some (reserved, rest)
  | none =>
      if name = presentWord && !raw then content extensions limit value rest
      else
        match rest with
        | .unit :: rest => some (.tuple (some name) [], rest)
        | .opening _ :: rest => group limit value fieldValue (some name) rest
        | _ => some (.name name, rest)

/-- Read a value, given readers for the values in it. -/
def level (extensions : List Extension) (limit : Nat) (value : Reader Value)
    (fieldValue : String → Reader Value) : Reader Value
  | .unit :: rest => some (.unit, rest)
  | .number text :: rest => some (.number text, rest)
  | .byte value :: rest => some (.byte value, rest)
  | .range low high :: rest => some (.range low high, rest)
  | .bytes value :: rest => some (.bytes value, rest)
  | .character value :: rest => some (.character value, rest)
  | .text value :: rest => some (.text value, rest)
  | .name name raw :: rest => named extensions limit value fieldValue name raw rest
  | .opening _ :: rest => group limit value fieldValue none rest
  | .mark '[' :: rest => do
      let (members, rest) ← items limit ']' value rest
      return (.list members, rest)
  | .mark '\x7b' :: rest => do
      let (entries, rest) ← items limit '\x7d' (entry value) rest
      return (.map entries, rest)
  | _ => none

/-- Read a value that nests at most to the given depth. -/
def value (extensions : List Extension) (limit : Nat) : (depth : Nat) → Reader Value
  | 0, _ => none
  | depth + 1, tokens =>
      let inner := value extensions limit depth
      level extensions limit inner (fun _ => inner) tokens

/-- How deep values nest at most. -/
def maxDepth : Nat := 128

/-- What a whole text stands for. -/
structure Document where
  /-- What the text turns on. -/
  extensions : List Extension
  /-- The value. -/
  value : Value

/-- The document that a text is.  If it is a record, then options of pairs are asked for in the
given fields. -/
def Document.ofText? (text : String) (pairs : List String) : Option Document := do
  let tokens ← tokens? text
  let limit := tokens.length + 1
  let (extensions, rest) ← attributesFrom limit tokens
  let inner := Ron.value extensions limit (maxDepth - 1)
  let fieldValue (name : String) :=
    if pairs.contains name then optionalPair extensions inner else inner
  match level extensions limit inner fieldValue rest with
  | some (value, []) => some { extensions, value }
  | _ => none

end Ron
end FallingSand
