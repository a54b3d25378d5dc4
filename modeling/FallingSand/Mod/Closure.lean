import FallingSand.Mod.Directive

/-!
# Closing the memberships

Membership statements at the top are facts.  Under patterns they derive a tuple from every row, and
are applied in rounds until a round finds nothing new.  As there are only finitely many tuples of
declared elements, that happens after finitely many rounds.
-/

namespace FallingSand

namespace Directive

/-- Add the tuple that a membership directive asserts for a row. -/
def assertRow (directive : Directive) (registry : Registry) (row : Row) : Registry :=
  match directive.action with
  | .member relation subject args =>
      match row.element? subject, args.mapM row.element? with
      | some subject, some args => (registry.insertAt relation subject args directive.ordinal).2
      | _, _ => registry
  | _ => registry

/-- Add the tuples that a membership directive asserts for all rows as they stand. -/
def assertAll (directive : Directive) (registry : Registry) : Registry :=
  (registry.rows directive.patterns).foldl directive.assertRow registry

/-- Whether the directive is a fact. -/
def isFact (directive : Directive) : Bool :=
  directive.patterns.isEmpty

/-- The number of slots that a membership directive fills, if it is one. -/
def memberLength? (directive : Directive) : Option Nat :=
  match directive.action with
  | .member _ _ args => some (args.length + 1)
  | _ => none

end Directive

namespace Registry

/-- One round: every directive adds its tuples in turn. -/
def round (directives : List Directive) (registry : Registry) : Registry :=
  directives.foldl (fun registry directive => directive.assertAll registry) registry

/-- Rounds until one finds nothing new, at most `limit` of them. -/
def saturate (directives : List Directive) : (limit : Nat) → Registry → Registry
  | 0, registry => registry
  | limit + 1, registry =>
      let after := registry.round directives
      if after.sequence = registry.sequence then after else saturate directives limit after

/-- More rounds than can find something new: every tuple that a directive can derive is found at
most once. -/
def roundLimit (directives : List Directive) (elements : Nat) : Nat :=
  directives.foldr
    (fun directive limit =>
      match directive.memberLength? with
      | some length => elements.pow length + limit
      | none => limit)
    1

/-- The registry with all facts and all that follows from them. -/
def close (registry : Registry) (directives : List Directive) (elements : Nat) : Registry :=
  let facts := directives.filter fun directive => directive.isFact
  let derivations := directives.filter fun directive =>
    !directive.isFact && directive.memberLength?.isSome
  (registry.round facts).saturate derivations (roundLimit derivations elements)

end Registry
end FallingSand
