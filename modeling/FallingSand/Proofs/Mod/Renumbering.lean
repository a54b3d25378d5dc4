import FallingSand.Proofs.Mod.Compiled

/-!
# Other ordinals for the same statements

The memberships of a mod are found in an order in which ordinals and templates play no part: a
registry whose memberships carry other ordinals, and whose relations have other templates, grows by
the same tuples under directives that have those ordinals.
-/

namespace FallingSand

variable {f g : Nat → Nat} {s t : Template → Template}

/-! ## Registries -/

theorem map_modify {α β : Type} {convert : α → β} {change : α → α} {changed : β → β}
    (commutes : ∀ item, convert (change item) = changed (convert item)) (items : Array α)
    (place : Nat) :
    (items.modify place change).map convert = (items.map convert).modify place changed := by
  apply Array.ext_getElem?
  intro other
  simp only [Array.getElem?_map, Array.getElem?_modify]
  split
  · simp only [Option.map_map, Function.comp_def, commutes]
  · rfl

namespace Origin

/-- The origin under another ordinal of its statement. -/
def renumber (f : Nat → Nat) (origin : Origin) : Origin :=
  { origin with statement := f origin.statement }

end Origin

namespace Membership

/-- The membership under another ordinal of its statement. -/
def renumber (f : Nat → Nat) (membership : Membership) : Membership :=
  { membership with origin := membership.origin.renumber f }

@[simp]
theorem tuple_renumber (membership : Membership) :
    (membership.renumber f).tuple = membership.tuple := rfl

@[simp]
theorem origin_renumber (membership : Membership) :
    (membership.renumber f).origin = membership.origin.renumber f := rfl

end Membership

namespace Relation

/-- The relation with other ordinals and another template. -/
def recast (f : Nat → Nat) (t : Template → Template) (relation : Relation) : Relation :=
  { relation with
    template := t relation.template
    members := relation.members.map (Membership.renumber f)
    mem_tuples := by simpa using relation.mem_tuples }

theorem recast_add (relation : Relation) (membership : Membership) :
    (relation.add membership).recast f t =
      (relation.recast f t).add (membership.renumber f) := by
  simp only [add, recast, Array.map_push, Membership.tuple_renumber]

theorem recast_recast (relation : Relation) :
    (relation.recast f t).recast g s = relation.recast (g ∘ f) (s ∘ t) := by
  simp only [recast, mk.injEq, Array.map_map, Function.comp_apply, true_and, and_true]
  rfl

end Relation

namespace Registry

/-- The registry with other ordinals and other templates. -/
def recast (f : Nat → Nat) (t : Template → Template) (registry : Registry) : Registry :=
  { registry with relations := registry.relations.map (Relation.recast f t) }

variable {registry : Registry}

theorem getElem?_relations_recast (place : Nat) :
    (registry.recast f t).relations[place]? =
      registry.relations[place]?.map (Relation.recast f t) :=
  Array.getElem?_map

theorem membersAt_recast (place : Nat) :
    (registry.recast f t).membersAt place =
      (registry.membersAt place).map (Membership.renumber f) := by
  rw [membersAt, getElem?_relations_recast, membersAt]
  cases registry.relations[place]? with
  | none => exact Array.map_empty.symm
  | some relation => rfl

theorem lacksAt_recast (place : Nat) (tuple : List ElementId) :
    (registry.recast f t).lacksAt place tuple = registry.lacksAt place tuple := by
  rw [lacksAt, getElem?_relations_recast, lacksAt, Option.any_map]
  rfl

theorem insertAt_recast (place : Nat) (subject : ElementId) (args : List ElementId)
    (statement : Nat) :
    ((registry.recast f t).insertAt place subject args (f statement)).2 =
      (registry.insertAt place subject args statement).2.recast f t := by
  rw [insertAt, lacksAt_recast, insertAt]
  split
  · simp only [recast, mk.injEq, true_and, and_true]
    refine (map_modify (fun relation => ?_) registry.relations place).symm
    exact relation.recast_add ⟨subject, args, ⟨statement, registry.sequence⟩⟩
  · rfl

theorem recast_recast :
    (registry.recast f t).recast g s = registry.recast (g ∘ f) (s ∘ t) := by
  simp only [recast, mk.injEq, Array.map_map, true_and, and_true]
  exact Array.map_congr_left fun relation _ => relation.recast_recast

/-- The order in which an element has joined relations does not show in ordinals or templates. -/
theorem relationsOf_recast (subject : ElementId) :
    (registry.recast f t).relationsOf subject = registry.relationsOf subject := by
  have joined (relation : Relation) :
      ((relation.recast f t).members.find? (·.subject == subject)).map
          (fun first => (first.origin.sequence, (relation.recast f t).name)) =
        (relation.members.find? (·.subject == subject)).map
          fun first => (first.origin.sequence, relation.name) := by
    simp only [Relation.recast, Array.find?_map, Option.map_map]
    rfl
  rw [relationsOf, relationsOf, recast, Array.toList_map, List.filterMap_map]
  simp only [Function.comp_def, joined]

end Registry

/-! ## Rows -/

/-- The binding under another ordinal of the statement behind it. -/
def Binding.renumber (f : Nat → Nat) (binding : Binding) : Binding :=
  { binding with origin := binding.origin.renumber f }

namespace Row

/-- The row under other ordinals. -/
def renumber (f : Nat → Nat) (row : Row) : Row where
  bindings := row.bindings.map (Binding.renumber f)
  origins := row.origins.map (Origin.renumber f)

variable {row : Row}

theorem find?_renumber (name : String) :
    (row.renumber f).find? name = (row.find? name).map (Binding.renumber f) := by
  rw [find?, renumber, List.find?_map, find?]
  rfl

@[simp]
theorem element?_renumber (slot : Slot) : (row.renumber f).element? slot = row.element? slot := by
  cases slot with
  | element id => rfl
  | var name =>
      rw [element?, find?_renumber, Option.map_map, element?]
      rfl

theorem matchSlots_renumber (origin : Origin) (slots : List Slot) (ids : List ElementId) :
    matchSlots (origin.renumber f) slots ids (row.renumber f) =
      (matchSlots origin slots ids row).map (renumber f) := by
  induction slots generalizing ids row with
  | nil => cases ids <;> rfl
  | cons slot slots induction =>
      cases ids with
      | nil => cases slot <;> rfl
      | cons id ids =>
          cases slot with
          | element expected =>
              rw [matchSlots, matchSlots]
              split
              · exact induction ids
              · rfl
          | var name =>
              rw [matchSlots, find?_renumber, matchSlots]
              cases row.find? name with
              | some bound =>
                  simp only [Option.map_some, Binding.renumber]
                  split
                  · exact induction ids
                  · rfl
              | none =>
                  rw [Option.map_none]
                  dsimp only
                  rw [← induction ids]
                  simp [renumber, Binding.renumber]

theorem extend?_renumber (pattern : Pattern) (membership : Membership) :
    (row.renumber f).extend? pattern (membership.renumber f) =
      (row.extend? pattern membership).map (renumber f) := by
  rw [extend?, Membership.origin_renumber, Membership.tuple_renumber, matchSlots_renumber, extend?,
    Option.map_map, Option.map_map]
  refine Option.map_congr fun matched _ => ?_
  simp [renumber]

end Row

namespace Registry

variable {registry : Registry}

theorem rows_recast (patterns : List Pattern) :
    (registry.recast f t).rows patterns = (registry.rows patterns).map (Row.renumber f) := by
  induction patterns using List.reverseRecOn with
  | nil => rfl
  | append_singleton patterns pattern induction =>
      rw [rows_append, rows_append, induction, List.map_flatMap, List.flatMap_map]
      refine List.flatMap_congr fun row _ => ?_
      rw [extensions, membersAt_recast, Array.toList_map, List.filterMap_map, extensions,
        List.map_filterMap]
      exact List.filterMap_congr fun membership _ => row.extend?_renumber pattern membership

end Registry

/-! ## Directives -/

namespace Directive

/-- The directive under another ordinal and at another path. -/
def recast (f : Nat → Nat) (p : List Nat → List Nat) (directive : Directive) : Directive :=
  { directive with ordinal := f directive.ordinal, path := p directive.path }

variable {p : List Nat → List Nat} {directive : Directive} {registry : Registry}

theorem assertRow_recast (row : Row) :
    (directive.recast f p).assertRow (registry.recast f t) (row.renumber f) =
      (directive.assertRow registry row).recast f t := by
  have elements : (row.renumber f).element? = row.element? := funext row.element?_renumber
  rw [assertRow, assertRow, elements]
  dsimp only [recast]
  split
  · split
    · exact Registry.insertAt_recast _ _ _ _
    · rfl
  · rfl

theorem assertAll_recast :
    (directive.recast f p).assertAll (registry.recast f t) =
      (directive.assertAll registry).recast f t := by
  have patterns : (directive.recast f p).patterns = directive.patterns := rfl
  rw [assertAll, patterns, Registry.rows_recast, List.foldl_map, assertAll]
  generalize registry.rows directive.patterns = rows
  induction rows generalizing registry with
  | nil => rfl
  | cons row rows induction => rw [List.foldl_cons, List.foldl_cons, assertRow_recast, induction]

end Directive

namespace Registry

variable {p : List Nat → List Nat} {directives : List Directive} {registry : Registry}

theorem round_recast :
    (registry.recast f t).round (directives.map (Directive.recast f p)) =
      (registry.round directives).recast f t := by
  rw [round, List.foldl_map, round]
  induction directives generalizing registry with
  | nil => rfl
  | cons directive directives induction =>
      rw [List.foldl_cons, List.foldl_cons, Directive.assertAll_recast, induction]

theorem saturate_recast (limit : Nat) :
    (registry.recast f t).saturate (directives.map (Directive.recast f p)) limit =
      (registry.saturate directives limit).recast f t := by
  induction limit generalizing registry with
  | zero => rfl
  | succ limit induction =>
      rw [saturate, round_recast, saturate]
      exact (if_congr Iff.rfl rfl induction).trans (apply_ite (recast f t) _ _ _).symm

/-- Closing finds the same memberships in the same order under any ordinals and templates. -/
theorem close_recast (elements : Nat) :
    (registry.recast f t).close (directives.map (Directive.recast f p)) elements =
      (registry.close directives elements).recast f t := by
  have limit (directives : List Directive) :
      roundLimit (directives.map (Directive.recast f p)) elements =
        roundLimit directives elements := by
    rw [roundLimit, List.foldr_map]
    rfl
  rw [close, List.filter_map, List.filter_map, round_recast, saturate_recast, limit]
  rfl

end Registry

theorem templateOf_recast {p : List Nat → List Nat} (directives : List Directive) (place : Nat) :
    templateOf (directives.map (Directive.recast f p)) place = templateOf directives place := by
  rw [templateOf, List.flatMap_map, List.flatMap_map]
  rfl

end FallingSand
