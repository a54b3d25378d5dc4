import FallingSand.Proofs.Mod.Meaning

/-!
# Passes that check as they go

Once the statements of a mod are checked, its memberships are closed and its consequences listed
without looking back.  The passes below do the same from the statements themselves: they look up
every name, relation and variable each time they meet it, and check every tuple and every value
again.  None of these checks fails, so that the passes come to what compiling comes to.
-/

namespace FallingSand

/-! ## Binding variables -/

namespace Row

/-- The element that a term stands for. -/
def elementOf (row : Row) (catalog : Catalog) : Term → Except Fault ElementId
  | .element name => catalog.idOf name
  | .var name =>
      match row.find? name with
      | some bound => .ok bound.element
      | none => .error (.unboundVariable name)

/-- Match terms with elements one by one, looking up every name. -/
def matchTerms (catalog : Catalog) (origin : Origin) :
    List Term → List ElementId → Row → Except Fault (Option Row)
  | .element name :: terms, id :: ids, row => do
      let expected ← catalog.idOf name
      if expected = id then matchTerms catalog origin terms ids row else return none
  | .var name :: terms, id :: ids, row =>
      match row.find? name with
      | some bound =>
          if bound.element = id then matchTerms catalog origin terms ids row else .ok none
      | none =>
          matchTerms catalog origin terms ids
            { row with bindings := row.bindings ++ [⟨name, id, origin⟩] }
  | _, _, row => .ok (some row)

/-- Pick a membership for one more clause, if it agrees with the row. -/
def pick (row : Row) (catalog : Catalog) (clause : Clause) (membership : Membership) :
    Except Fault (Option Row) := do
  let matched ← matchTerms catalog membership.origin clause.terms membership.tuple row
  return matched.map fun matched =>
    { matched with origins := matched.origins ++ [membership.origin] }

end Row

namespace Registry

/-- Every way to extend some rows by a membership for one more clause. -/
def meet (registry : Registry) (catalog : Catalog) (rows : List Row) (clause : Clause) :
    Except Fault (List Row) := do
  let relation ← registry.get clause.relation
  let picked ← rows.mapM fun row =>
    relation.members.toList.mapM fun membership => row.pick catalog clause membership
  return picked.flatten.filterMap id

/-- Every way to meet the clauses. -/
def bindings (registry : Registry) (catalog : Catalog) (clauses : List Clause) :
    Except Fault (List Row) :=
  clauses.foldlM (registry.meet catalog) [Row.empty]

/-- Add the tuple that the terms make for a row; tells whether it is new. -/
def addMember (registry : Registry) (catalog : Catalog) (relation : String) (terms : List Term)
    (row : Row) (ordinal : Nat) : Except Fault (Bool × Registry) := do
  match ← terms.mapM (row.elementOf catalog) with
  | subject :: args => registry.insert relation subject args ordinal
  | [] => .error (.invalidArity relation)

end Registry

/-! ## Membership statements -/

/-- Whether a statement asserts a tuple. -/
def Statement.isMember : Statement → Bool
  | .member _ _ => true
  | _ => false

namespace Entry

/-- Add the tuple that a membership statement asserts for a row. -/
def assertRow (entry : Entry) (catalog : Catalog) (ordinal : Nat) (registry : Registry)
    (row : Row) : Except Fault Registry :=
  match entry.statement with
  | .member relation terms => do
      let (_, registry) ← registry.addMember catalog relation terms row ordinal
      return registry
  | _ => .ok registry

/-- Add the tuples that a membership statement asserts for all rows as they stand. -/
def assertAll (entry : Entry) (catalog : Catalog) (ordinal : Nat) (registry : Registry) :
    Except Fault Registry := do
  let rows ← registry.bindings catalog entry.clauses
  rows.foldlM (entry.assertRow catalog ordinal) registry

end Entry

namespace Registry

/-- One round over numbered entries. -/
def pass (catalog : Catalog) (numbered : List (Entry × Nat)) (registry : Registry) :
    Except CompileError Registry :=
  numbered.foldlM (fun registry (entry, ordinal) =>
    entry.locate (entry.assertAll catalog ordinal registry)) registry

/-- Rounds without a limit to their number, up to one that fails or finds nothing. -/
inductive Derives (catalog : Catalog) (numbered : List (Entry × Nat)) :
    Registry → Except CompileError Registry → Prop where
  /-- A round that fails is the last. -/
  | failed {before : Registry} {error : CompileError}
      (round : before.pass catalog numbered = .error error) :
      Derives catalog numbered before (.error error)
  /-- A round that finds nothing is the last. -/
  | quiet {before after : Registry} (round : before.pass catalog numbered = .ok after)
      (nothing : after.sequence = before.sequence) : Derives catalog numbered before (.ok after)
  /-- A round that finds something is followed by others. -/
  | busy {before between : Registry} {outcome : Except CompileError Registry}
      (round : before.pass catalog numbered = .ok between)
      (something : between.sequence ≠ before.sequence)
      (later : Derives catalog numbered between outcome) : Derives catalog numbered before outcome

end Registry

/-! ## Other statements -/

namespace Entry

/-- The provenance of a fact about the element of a term. -/
def provenance (entry : Entry) (ordinal : Nat) (row : Row) (subject : Term) : Provenance :=
  if entry.clauses.isEmpty then .explicit ordinal
  else
    let origin :=
      match subject with
      | .var name => ((row.find? name).map (·.origin)).getD row.latestOrigin
      | .element _ => row.latestOrigin
    .inherited origin ordinal

/-- What a statement comes to for the row at a place. -/
def consequence (entry : Entry) (catalog : Catalog) (ordinal place : Nat) (row : Row) :
    Except Fault (Option Consequence) :=
  let source : RuleSource := ⟨ordinal, place⟩
  match entry.statement with
  | .property key subject value => do
      let id ← row.elementOf catalog subject
      let provenance := entry.provenance ordinal row subject
      let _ ← catalog.assign id key value provenance
      return some (.property id key value provenance)
  | .tag subject text => do
      let id ← row.elementOf catalog subject
      return some (.tag id text (entry.provenance ordinal row subject))
  | .name subject text => do
      let id ← row.elementOf catalog subject
      return some (.displayName id text (entry.provenance ordinal row subject))
  | .description subject text => do
      let id ← row.elementOf catalog subject
      return some (.description id text (entry.provenance ordinal row subject))
  | .reaction probability left right outLeft outRight => do
      let left ← row.elementOf catalog left
      let right ← row.elementOf catalog right
      let outLeft ← row.elementOf catalog outLeft
      let outRight ← row.elementOf catalog outRight
      if left.isEmpty then .error .emptyReactant
      else return some (.reaction { probability, left, right, outLeft, outRight, source })
  | .transition probability element target => do
      let element ← row.elementOf catalog element
      let target ← row.elementOf catalog target
      if element.isEmpty then .error .emptyReactant
      else return some (.transition { probability, element, target, source })
  | .title _ | .element _ _ | .relation _ _ | .member _ _ | .block _ _ => .ok none

/-- What a statement comes to for all rows. -/
def instantiate (entry : Entry) (catalog : Catalog) (registry : Registry) (ordinal : Nat) :
    Except Fault (List Consequence) :=
  if entry.statement.isSilent || entry.statement.isMember then .ok []
  else do
    let rows ← registry.bindings catalog entry.clauses
    let consequences := rows.zipIdx.mapM fun (row, place) =>
      entry.consequence catalog ordinal place row
    consequences.map (List.filterMap id)

end Entry

namespace Declared

/-- The rule set that all statements come to. -/
def instantiate (declared : Declared) (entries : List Entry) (registry : Registry) :
    Except CompileError RuleSet := do
  let lists ← entries.zipIdx.mapM fun (entry, ordinal) =>
    entry.locate (entry.instantiate declared.catalog registry ordinal)
  let consequences := lists.flatten
  let catalog := consequences.foldl Consequence.addTo declared.catalog
  return RuleSet.ofRules declared.title (catalog.resolveAll registry.relationsOf) registry
    (consequences.filterMap Consequence.reaction?)
    (consequences.filterMap Consequence.transition?)

/-- The membership statements under clauses. -/
def derived (entries : List Entry) : List (Entry × Nat) :=
  entries.zipIdx.filter fun numbered =>
    !numbered.1.clauses.isEmpty && numbered.1.statement.isMember

/-- The statements at the top. -/
def atTop (entries : List Entry) : List (Entry × Nat) :=
  entries.zipIdx.filter fun numbered => numbered.1.clauses.isEmpty

/-- What compiling comes to from the registry of a checked mod on: the first fault of a fact, of a
derivation or of an instance, or else the rule set. -/
inductive Finishes (declared : Declared) (entries : List Entry) (start : Registry) :
    Except CompileError RuleSet → Prop where
  /-- A fact cannot be loaded. -/
  | facts {error : CompileError}
      (failed : start.pass declared.catalog (atTop entries) = .error error) :
      Finishes declared entries start (.error error)
  /-- A tuple cannot be derived. -/
  | derivations {known : Registry} {error : CompileError}
      (loaded : start.pass declared.catalog (atTop entries) = .ok known)
      (failed : known.Derives declared.catalog (derived entries) (.error error)) :
      Finishes declared entries start (.error error)
  /-- All memberships are there. -/
  | instances {known closed : Registry}
      (loaded : start.pass declared.catalog (atTop entries) = .ok known)
      (derives : known.Derives declared.catalog (derived entries) (.ok closed)) :
      Finishes declared entries start (declared.instantiate entries closed)

end Declared

/-! ## Rows under checks -/

section Lists

variable {ε α β : Type} {f : α → Except ε (Option β)} {g : α → Option β} {bad : β → Bool}
  {fault : ε}

theorem map_filterMap_cons (result : β) (tail : Except ε (List (Option β))) :
    Except.map (List.filterMap id) (tail >>= fun rest => pure (some result :: rest)) =
      (Except.map (List.filterMap id) tail).map (result :: ·) := by
  cases tail <;> rfl

/-- Checking results one by one finds one that is bad exactly when there is one. -/
theorem mapM_checked {items : List α} (each : ∀ item ∈ items, ∃ result, g item = some result ∧
    f item = if bad result then .error fault else .ok (some result)) :
    (items.mapM f).map (List.filterMap id) =
      if (items.filterMap g).any bad then .error fault else .ok (items.filterMap g) := by
  induction items with
  | nil => rfl
  | cons item items induction =>
      obtain ⟨⟨result, given, checked⟩, later⟩ := List.forall_mem_cons.mp each
      rw [List.mapM_cons, checked, List.filterMap_cons, given, List.any_cons]
      cases bad result with
      | true => rfl
      | false =>
          simp only [Bool.false_eq_true, if_false, Bool.false_or, ok_bind]
          rw [map_filterMap_cons, induction later]
          split <;> rfl

theorem map_flatten_cons (head : Except ε (List α)) (tail : Except ε (List (List α))) :
    Except.map List.flatten (head >>= fun first => tail >>= fun rest => pure (first :: rest)) =
      head >>= fun first => (Except.map List.flatten tail).map (first ++ ·) := by
  cases head <;> cases tail <;> rfl

theorem bind_flatten (lists : Except ε (List (List α))) (make : List α → β) :
    (lists >>= fun lists => pure (make lists.flatten)) =
      (Except.map List.flatten lists).map make := by
  cases lists <;> rfl

end Lists

section Rows

variable {declared : Declared} {registry : Registry} {clauses : List Clause}
  {patterns : List Pattern}

namespace Declared

/-- The registry has the relations that are declared, whatever it holds of them. -/
structure Relates (declared : Declared) (registry : Registry) : Prop where
  /-- The relations have the names that were declared. -/
  names : registry.names = declared.registry.names
  /-- Their tuples have the lengths that were declared. -/
  arities : ∀ place, registry.arityAt? place = declared.registry.arityAt? place

/-- The registry holds fitting tuples of the relations that are declared. -/
structure Fills (declared : Declared) (registry : Registry) : Prop where
  /-- The relations have the names that were declared. -/
  names : registry.names = declared.registry.names
  /-- Their tuples fit. -/
  within : registry.Within declared.shape declared.shape.tuples

theorem Fills.relates (fills : declared.Fills registry) : declared.Relates registry :=
  ⟨fills.names, fills.within.arities⟩

theorem idOf_of_resolves {name : String} {slot : Slot}
    (resolves : declared.Resolves (.element name) slot) :
    ∃ id, declared.catalog.idOf name = .ok id ∧ slot = .element id := by
  obtain ⟨place, found, rfl⟩ := resolves_element resolves
  exact ⟨_, by rw [Catalog.idOf, found], rfl⟩

theorem elementOf_eq {row : Row} {term : Term} {slot : Slot}
    (resolves : declared.Resolves term slot) (covered : row.Covers slot) :
    row.elementOf declared.catalog term = .ok (slot.value row.solution) := by
  cases term with
  | element name =>
      obtain ⟨id, found, rfl⟩ := idOf_of_resolves resolves
      exact found
  | var name =>
      obtain rfl := resolves_var.mp resolves
      obtain ⟨bound, found⟩ := Option.isSome_iff_exists.mp covered
      simp [Row.elementOf, Slot.value, Row.solution, found]

/-- Looking every name up again finds the same rows. -/
theorem matchTerms_eq {terms : List Term} {slots : List Slot}
    (resolves : List.Forall₂ declared.Resolves terms slots) (origin : Origin)
    (ids : List ElementId) (row : Row) :
    Row.matchTerms declared.catalog origin terms ids row =
      .ok (Row.matchSlots origin slots ids row) := by
  induction resolves generalizing ids row with
  | nil => rfl
  | @cons term slot _ _ first _ induction =>
      cases ids with
      | nil => cases term <;> cases slot <;> rfl
      | cons id ids =>
          cases term with
          | element name =>
              obtain ⟨expected, found, rfl⟩ := idOf_of_resolves first
              rw [Row.matchTerms, found, Row.matchSlots]
              by_cases same : expected = id
              · simp [same, bind, Except.bind, induction]
              · simp [same, bind, Except.bind, pure, Except.pure]
          | var name =>
              obtain rfl := resolves_var.mp first
              rw [Row.matchTerms, Row.matchSlots]
              cases row.find? name with
              | none => exact induction _ _
              | some bound =>
                  by_cases same : bound.element = id
                  · simp [same, induction]
                  · simp [same]

theorem pick_eq {clause : Clause} {pattern : Pattern} (comes : declared.Matches clause pattern)
    (row : Row) (membership : Membership) :
    row.pick declared.catalog clause membership = .ok (row.extend? pattern membership) := by
  rw [Row.pick, matchTerms_eq comes.slots]
  rfl

theorem get_eq (relates : declared.Relates registry) {clause : Clause} {pattern : Pattern}
    (comes : declared.Matches clause pattern) :
    ∃ relation, registry.get clause.relation = .ok relation ∧
      relation.members = registry.membersAt pattern.relation := by
  have arity := (relates.arities pattern.relation).trans comes.arity
  obtain ⟨relation, stands, -⟩ := Option.map_eq_some_iff.mp arity
  refine ⟨relation, ?_, by rw [Registry.membersAt, stands]⟩
  simp [Registry.get, relates.names, comes.relation, stands]

theorem meet_eq (relates : declared.Relates registry) {clause : Clause} {pattern : Pattern}
    (comes : declared.Matches clause pattern) (rows : List Row) :
    registry.meet declared.catalog rows clause =
      .ok (rows.flatMap (registry.extensions pattern)) := by
  obtain ⟨relation, found, members⟩ := get_eq relates comes
  have picked : (rows.mapM fun row => relation.members.toList.mapM fun membership =>
      row.pick declared.catalog clause membership) =
        .ok (rows.map fun row => (registry.membersAt pattern.relation).toList.map
          (row.extend? pattern)) := by
    have each (row : Row) : (relation.members.toList.mapM fun membership =>
        row.pick declared.catalog clause membership) =
          pure ((registry.membersAt pattern.relation).toList.map (row.extend? pattern)) := by
      simp only [pick_eq comes, members]
      exact List.mapM_pure
    simp only [each]
    exact List.mapM_pure
  have all : (rows.map fun row => (registry.membersAt pattern.relation).toList.map
        (row.extend? pattern)).flatten.filterMap id =
      rows.flatMap (registry.extensions pattern) := by
    simp only [List.filterMap_flatten, List.map_map, Function.comp_def,
      List.filterMap_map, List.flatMap]
    rfl
  rw [Registry.meet, found, ok_bind, picked, ok_bind, ← all]
  rfl

/-- Enumerating the bindings of clauses does not fail, and finds the rows of their patterns. -/
theorem bindings_eq (relates : declared.Relates registry)
    (same : List.Forall₂ declared.Matches clauses patterns) :
    registry.bindings declared.catalog clauses = .ok (registry.rows patterns) := by
  rw [Registry.bindings, Registry.rows]
  generalize [Row.empty] = rows
  induction same generalizing rows with
  | nil => rfl
  | cons comes _ induction =>
      rw [List.foldlM_cons, List.foldl_cons, meet_eq relates comes]
      exact induction _

/-! ## Memberships under checks -/

theorem Fills.insertionKeeps_names (names : Roster) :
    Registry.InsertionKeeps fun registry => registry.names = names :=
  fun before place subject args statement same =>
    (Registry.Grows.insertAt before place subject args statement).names.trans same

section Entries

variable {entry : Entry} {directive : Directive}

theorem Fills.licenses (directs : declared.Directs entry directive)
    (fills : declared.Fills registry) {row : Row}
    (listed : row ∈ registry.rows directive.patterns) :
    directive.Licenses declared.shape.tuples row :=
  Directive.licenses_of_mem_rows (wellFormed_of_directs directs) (fun _ => subset_rfl)
    fills.within listed

theorem Fills.assertRow (directs : declared.Directs entry directive)
    (fills : declared.Fills registry) {row : Row}
    (licenses : directive.Licenses declared.shape.tuples row) :
    declared.Fills (directive.assertRow registry row) where
  names := directive.assertRow_induction
    (Fills.insertionKeeps_names declared.registry.names) row fills.names
  within := fills.within.assertRow (closes_tuples (wellFormed_of_directs directs)) licenses

theorem Fills.assertAll (directs : declared.Directs entry directive)
    (fills : declared.Fills registry) :
    declared.Fills (directive.assertAll registry) where
  names := Registry.assertAll_induction
    (Fills.insertionKeeps_names declared.registry.names) directive fills.names
  within := fills.within.assertAll (wellFormed_of_directs directs) (fun _ => subset_rfl)
    (closes_tuples (wellFormed_of_directs directs))

theorem mapM_elementOf {clauses : List Clause} {terms : List Term} {slots : List Slot} {row : Row}
    (resolves : List.Forall₂ (declared.ResolvesUnder clauses) terms slots)
    (covered : ∀ slot ∈ slots, row.Covers slot) :
    terms.mapM (row.elementOf declared.catalog) = .ok (slots.map (Slot.value row.solution)) := by
  rw [mapM_eq_ok_iff, List.forall₂_map_right_iff]
  induction resolves with
  | nil => exact .nil
  | cons first _ induction =>
      obtain ⟨here, later⟩ := List.forall_mem_cons.mp covered
      exact .cons (elementOf_eq first.1 here) (induction later)

theorem insert_eq (fills : declared.Fills registry) {relation : String} {place : Nat}
    (named : declared.registry.names.find? relation = some place) (subject : ElementId)
    (args : List ElementId) (arity : declared.registry.arityAt? place = some (args.length + 1))
    (ordinal : Nat) :
    registry.insert relation subject args ordinal =
      .ok (registry.insertAt place subject args ordinal) := by
  obtain ⟨listed, stands, long⟩ :=
    Option.map_eq_some_iff.mp ((fills.within.arities place).trans arity)
  have found : registry.get relation = .ok listed := by
    simp [Registry.get, fills.names, named, stands]
  have fitting : registry.getFitting relation (1 + args.length) = .ok listed := by
    rw [Registry.getFitting, found, ok_bind, if_pos (long.trans (Nat.add_comm _ _))]
  have placed : registry.placeOf relation = .ok place := by
    simp [Registry.placeOf, fills.names, named]
  rw [Registry.insert, placed, ok_bind, fitting]
  rfl

/-- Adding a tuple does not fail for a row that can fill its slots. -/
theorem assertRow_eq (directs : declared.Directs entry directive) (fills : declared.Fills registry)
    {row : Row} (licenses : directive.Licenses declared.shape.tuples row) :
    entry.assertRow declared.catalog directive.ordinal registry row =
      .ok (directive.assertRow registry row) := by
  cases statement : entry.statement with
  | member relation terms =>
      obtain ⟨place, subject, args, action, named, resolves⟩ := exists_member directs statement
      have arity := (wellFormed_of_directs directs).member place subject args action
      have covered := licenses.slots
      rw [action] at covered
      have inserted := insert_eq fills named (subject.value row.solution)
        (args.map (Slot.value row.solution)) (by rw [List.length_map]; exact arity)
        directive.ordinal
      have added : registry.addMember declared.catalog relation terms row directive.ordinal =
          .ok (registry.insertAt place (subject.value row.solution)
            (args.map (Slot.value row.solution)) directive.ordinal) := by
        rw [Registry.addMember, mapM_elementOf resolves covered]
        exact inserted
      rw [Directive.assertRow_eq_insertAt action licenses.slots row.admits_solution,
        Entry.assertRow, statement]
      exact congrArg (· >>= fun added => pure added.2) added
  | _ =>
      have idle : directive.assertRow registry row = registry := by
        have acts := directs.acts
        rw [statement] at acts
        rw [Directive.assertRow]
        generalize directive.action = action at acts
        cases acts <;> rfl
      rw [idle, Entry.assertRow, statement]

/-- Adding the tuples for all rows does not fail. -/
theorem assertAll_eq (directs : declared.Directs entry directive)
    (fills : declared.Fills registry) :
    entry.assertAll declared.catalog directive.ordinal registry =
      .ok (directive.assertAll registry) := by
  rw [Entry.assertAll, bindings_eq fills.relates directs.patterns, ok_bind]
  refine foldlM_eq_pure (P := declared.Fills) fills fun before inside row listed => ?_
  have licenses := fills.licenses directs listed
  exact ⟨assertRow_eq directs inside licenses, inside.assertRow directs licenses⟩

end Entries

/-- Some directives, going by their entries. -/
structure Selects (declared : Declared) (chosen : Entry × Nat → Bool) (wanted : Directive → Bool) :
    Prop where
  /-- An entry is chosen if its directive is wanted. -/
  directs : ∀ entry directive, declared.Directs entry directive →
    chosen (entry, directive.ordinal) = wanted directive
  /-- An entry without a directive is chosen at the top only. -/
  silent : ∀ entry ordinal, entry.statement.isSilent = true → chosen (entry, ordinal) = true →
    entry.clauses = []

theorem assertAll_silent {entry : Entry} (silent : entry.statement.isSilent = true)
    (top : entry.clauses = []) (catalog : Catalog) (ordinal : Nat) (registry : Registry) :
    entry.assertAll catalog ordinal registry = .ok registry := by
  rw [Entry.assertAll, top, Registry.bindings, List.foldlM_nil]
  cases statement : entry.statement <;>
    simp [statement, Statement.isSilent, Entry.assertRow, pure, Except.pure, ok_bind] at silent ⊢

theorem pass_cons {entry : Entry} {catalog : Catalog} {ordinal : Nat} {after : Registry}
    (success : entry.assertAll catalog ordinal registry = .ok after)
    (numbered : List (Entry × Nat)) :
    registry.pass catalog ((entry, ordinal) :: numbered) = after.pass catalog numbered := by
  rw [Registry.pass, List.foldlM_cons]
  dsimp only
  rw [success]
  rfl

/-- A round over entries does not fail, and is one over their directives. -/
theorem pass_eq {chosen : Entry × Nat → Bool} {wanted : Directive → Bool}
    (selects : declared.Selects chosen wanted) {numbered : List (Entry × Nat)}
    {checked : List (Option Directive)}
    (yields : List.Forall₂ declared.Yields numbered checked) (fills : declared.Fills registry) :
    registry.pass declared.catalog (numbered.filter chosen) =
        .ok (registry.round ((checked.filterMap id).filter wanted)) ∧
      declared.Fills (registry.round ((checked.filterMap id).filter wanted)) := by
  induction yields generalizing registry with
  | nil => exact ⟨rfl, fills⟩
  | cons first _ induction =>
      cases first with
      | @silent entry ordinal silent =>
          simp only [List.filterMap_cons, id]
          by_cases picked : chosen (entry, ordinal) = true
          · have idle := assertAll_silent silent (selects.silent entry ordinal silent picked)
              declared.catalog ordinal registry
            rw [List.filter_cons_of_pos picked, pass_cons idle]
            exact induction fills
          · rw [List.filter_cons_of_neg picked]
            exact induction fills
      | @directive entry directive directs =>
          simp only [List.filterMap_cons, id]
          have same := selects.directs entry directive directs
          by_cases picked : wanted directive = true
          · rw [List.filter_cons_of_pos (same.trans picked), List.filter_cons_of_pos picked,
              pass_cons (assertAll_eq directs fills)]
            exact induction (fills.assertAll directs)
          · rw [List.filter_cons_of_neg (same ▸ picked), List.filter_cons_of_neg picked]
            exact induction fills

theorem selects_facts :
    declared.Selects (fun numbered => numbered.1.clauses.isEmpty)
      (fun directive => directive.isFact) where
  directs entry directive directs := by
    rw [Directive.isFact, Bool.eq_iff_iff, List.isEmpty_iff, List.isEmpty_iff,
      patterns_eq_nil_iff directs]
  silent _ _ _ top := List.isEmpty_iff.mp top

theorem selects_derivations :
    declared.Selects
      (fun numbered => !numbered.1.clauses.isEmpty && numbered.1.statement.isMember)
      (fun directive => !directive.isFact && directive.memberLength?.isSome) where
  directs entry directive directs := by
    have fact := selects_facts.directs entry directive directs
    have member : entry.statement.isMember = directive.memberLength?.isSome := by
      have acts := directs.acts
      generalize entry.statement = statement at acts
      rw [Directive.memberLength?]
      generalize directive.action = action at acts
      cases acts <;> rfl
    rw [member]
    exact congrArg (!· && _) fact
  silent entry _ silent picked := by
    cases statement : entry.statement <;>
      simp [statement, Statement.isSilent, Statement.isMember] at silent picked

theorem derives_iff_of_pass {catalog : Catalog} {numbered : List (Entry × Nat)}
    {before next : Registry} {outcome : Except CompileError Registry}
    (success : before.pass catalog numbered = .ok next) :
    before.Derives catalog numbered outcome ↔
      if next.sequence = before.sequence then outcome = .ok next
      else next.Derives catalog numbered outcome := by
  split
  · rename_i nothing
    constructor
    · rintro (round | ⟨round, -⟩ | ⟨round, something, -⟩)
      · cases success.symm.trans round
      · exact round.symm.trans success
      · cases success.symm.trans round
        exact absurd nothing something
    · rintro rfl
      exact .quiet success nothing
  · rename_i something
    constructor
    · rintro (round | ⟨round, nothing⟩ | ⟨round, -, later⟩)
      · cases success.symm.trans round
      · cases success.symm.trans round
        exact absurd nothing something
      · cases success.symm.trans round
        exact later
    · exact .busy success something

section Passes

variable {entries : List Entry} {directives : List Directive}
  (checked : declared.directives entries = .ok directives)

include checked

theorem pass_atTop (fills : declared.Fills registry) :
    registry.pass declared.catalog (atTop entries) =
        .ok (registry.round (facts directives)) ∧
      declared.Fills (registry.round (facts directives)) := by
  obtain ⟨results, yields, rfl⟩ := yields_of_directives checked
  exact pass_eq selects_facts yields fills

theorem pass_derived (fills : declared.Fills registry) :
    registry.pass declared.catalog (derived entries) =
        .ok (registry.round (derivations directives)) ∧
      declared.Fills (registry.round (derivations directives)) := by
  obtain ⟨results, yields, rfl⟩ := yields_of_directives checked
  exact pass_eq selects_derivations yields fills

/-- Rounds over the entries end as those over the directives do. -/
theorem derives_iff {before after : Registry} {outcome : Except CompileError Registry}
    (fills : declared.Fills before)
    (saturates : Registry.Saturates (derivations directives) before after) :
    before.Derives declared.catalog (derived entries) outcome ↔ outcome = .ok after := by
  have wellFormed (directive : Directive) (listed : directive ∈ derivations directives) :=
    wellFormed_of_checked checked directive (derivations_subset _ listed)
  have closes (directive : Directive) (listed : directive ∈ derivations directives) :=
    closes_tuples (wellFormed directive listed)
  induction saturates with
  | quiet round nothing =>
      have same := Registry.round?_eq_some fills.within wellFormed (fun _ => subset_rfl) closes
      cases round.symm.trans same
      rw [derives_iff_of_pass (pass_derived checked fills).1, if_pos nothing]
  | busy round something _ induction =>
      obtain ⟨passes, after⟩ := pass_derived checked fills
      have same := Registry.round?_eq_some fills.within wellFormed (fun _ => subset_rfl) closes
      cases round.symm.trans same
      rw [derives_iff_of_pass passes, if_neg (Nat.ne_of_gt something)]
      exact induction after

end Passes

/-! ## Consequences under checks -/

section Consequences

variable {entry : Entry} {directive : Directive} (directs : declared.Directs entry directive)

include directs

theorem provenance_eq {term : Term} {slot : Slot} (resolves : declared.Resolves term slot)
    (row : Row) :
    entry.provenance directive.ordinal row term = directive.provenance row slot := by
  have top : entry.clauses.isEmpty = directive.patterns.isEmpty :=
    selects_facts.directs entry directive directs
  cases term with
  | element name =>
      obtain ⟨id, -, rfl⟩ := idOf_of_resolves resolves
      simp only [Entry.provenance, Directive.provenance, top]
  | var name =>
      obtain rfl := resolves_var.mp resolves
      simp only [Entry.provenance, Directive.provenance, top]

/-- For a row that can fill the slots, the only check that can fail is for `Empty`. -/
theorem consequence_eq {row : Row} (covered : ∀ slot ∈ directive.action.slots, row.Covers slot)
    (instance' : entry.statement.isMember = false) (place : Nat) :
    ∃ consequence, directive.consequence? place row = some consequence ∧
      entry.consequence declared.catalog directive.ordinal place row =
        if consequence.startsFromEmpty then .error .emptyReactant
        else .ok (some consequence) := by
  have acts := directs.acts
  have slots := directs.slots
  have origin {term : Term} {slot : Slot}
      (resolves : declared.ResolvesUnder entry.clauses term slot) :=
    provenance_eq directs resolves.1 row
  have reads {term : Term} {slot : Slot}
      (resolves : declared.ResolvesUnder entry.clauses term slot) (covered : row.Covers slot) :=
    And.intro (elementOf_eq resolves.1 covered)
      (Row.element?_eq_value row.admits_solution covered)
  rw [Directive.consequence?, Entry.consequence]
  generalize entry.statement = statement at acts slots instance'
  generalize directive.action = action at acts slots covered
  cases acts with
  | member => cases instance'
  | property accepted =>
      obtain _ | ⟨first, _⟩ := slots
      obtain ⟨named, valued⟩ := reads first (covered _ (by simp [Action.slots]))
      refine ⟨_, congrArg (Option.map _) valued, ?_⟩
      simp [named, ok_bind, origin first, Catalog.assign, accepted, Consequence.startsFromEmpty]
  | tag | name | description =>
      obtain _ | ⟨first, _⟩ := slots
      obtain ⟨named, valued⟩ := reads first (covered _ (by simp [Action.slots]))
      refine ⟨_, congrArg (Option.map _) valued, ?_⟩
      simp [named, origin first, Consequence.startsFromEmpty]
  | reaction =>
      obtain _ | ⟨first, _ | ⟨second, _ | ⟨third, _ | ⟨fourth, _⟩⟩⟩⟩ := slots
      simp only [Action.slots, List.forall_mem_cons] at covered
      obtain ⟨left, leftValue⟩ := reads first covered.1
      obtain ⟨right, rightValue⟩ := reads second covered.2.1
      obtain ⟨outLeft, outLeftValue⟩ := reads third covered.2.2.1
      obtain ⟨outRight, outRightValue⟩ := reads fourth covered.2.2.2.1
      simp only [left, right, outLeft, outRight, ok_bind, leftValue, rightValue, outLeftValue,
        outRightValue]
      exact ⟨_, rfl, rfl⟩
  | transition =>
      obtain _ | ⟨first, _ | ⟨second, _⟩⟩ := slots
      simp only [Action.slots, List.forall_mem_cons] at covered
      obtain ⟨source, sourceValue⟩ := reads first covered.1
      obtain ⟨target, targetValue⟩ := reads second covered.2.1
      simp only [source, target, ok_bind, sourceValue, targetValue]
      exact ⟨_, rfl, rfl⟩

theorem instantiate_eq (fills : declared.Fills registry) :
    entry.locate (entry.instantiate declared.catalog registry directive.ordinal) =
      directive.checkedConsequences registry := by
  have silent : entry.statement.isSilent = false := by
    have acts := directs.acts
    generalize entry.statement = statement at acts
    generalize directive.action = action at acts
    cases acts <;> rfl
  have path := directs.path
  rw [Entry.instantiate, silent, Bool.false_or, Directive.checkedConsequences]
  by_cases member : entry.statement.isMember = true
  · have idle : directive.consequences registry = [] := by
      have acts := directs.acts
      rw [Directive.consequences]
      simp only [Directive.consequence?]
      generalize entry.statement = statement at acts member
      generalize directive.action = action at acts
      cases acts with
      | member => simp
      | _ => cases member
    rw [if_pos member, idle]
    rfl
  · have other := Bool.eq_false_iff.mpr member
    rw [if_neg member, bindings_eq fills.relates directs.patterns, ok_bind]
    have each : ∀ item ∈ (registry.rows directive.patterns).zipIdx, ∃ consequence,
        directive.consequence? item.2 item.1 = some consequence ∧
          entry.consequence declared.catalog directive.ordinal item.2 item.1 =
            if consequence.startsFromEmpty then .error .emptyReactant
            else .ok (some consequence) := fun item listed =>
      have licenses := fills.licenses directs (List.fst_mem_of_mem_zipIdx listed)
      consequence_eq directs licenses.slots other item.2
    change entry.locate (Except.map _ (List.mapM _ _)) = _
    rw [mapM_checked each, Directive.consequences, path]
    split <;> rfl

end Consequences

theorem instantiate_silent {entry : Entry} (silent : entry.statement.isSilent = true)
    (catalog : Catalog) (ordinal : Nat) :
    entry.locate (entry.instantiate catalog registry ordinal) = .ok [] := by
  rw [Entry.instantiate, silent]
  rfl

/-- Instantiating the entries comes to what checking the directives comes to. -/
theorem flatten_instances {numbered : List (Entry × Nat)} {checked : List (Option Directive)}
    (yields : List.Forall₂ declared.Yields numbered checked) (fills : declared.Fills registry) :
    Except.map List.flatten (numbered.mapM fun (entry, ordinal) =>
        entry.locate (entry.instantiate declared.catalog registry ordinal)) =
      Except.map List.flatten ((checked.filterMap id).mapM fun directive =>
        directive.checkedConsequences registry) := by
  induction yields with
  | nil => rfl
  | cons first _ induction =>
      rw [List.mapM_cons, map_flatten_cons, induction]
      cases first with
      | silent silent =>
          simp only [List.filterMap_cons, id, instantiate_silent silent, ok_bind]
          exact congrFun Except.map_id _
      | directive directs =>
          simp only [List.filterMap_cons, id, instantiate_eq directs fills, List.mapM_cons,
            map_flatten_cons]

end Declared

end Rows

/-! ## The whole -/

namespace Declared

variable {declared : Declared} {directives : List Directive}

theorem fills_start {entries : List Entry} (gathered : Declared.ofEntries entries = .ok declared)
    (directives : List Directive) :
    declared.Fills (declared.registry.withTemplates directives) where
  names := rfl
  within := within_withTemplates (tuplesAt_of_gathered gathered) directives _

theorem fills_closed {entries : List Entry} (gathered : Declared.ofEntries entries = .ok declared)
    (checked : declared.directives entries = .ok directives) :
    declared.Fills (declared.closed directives) where
  names := names_closed
  within := within_closed gathered checked

variable {declarations : Declarations}
  (gathered : Declared.ofEntries declarations.entries = .ok declared)
  (checked : declared.directives declarations.entries = .ok directives)

include gathered checked

theorem instantiate_closed :
    declared.instantiate declarations.entries (declared.closed directives) =
      declarations.compile := by
  have fills := fills_closed gathered checked
  obtain ⟨results, yields, rfl⟩ := yields_of_directives checked
  have same := flatten_instances yields fills
  let directives := results.filterMap id
  let rules (consequences : List Consequence) : RuleSet :=
    RuleSet.ofRules declared.title
      ((consequences.foldl Consequence.addTo declared.catalog).resolveAll
        (declared.closed directives).relationsOf)
      (declared.closed directives)
      (consequences.filterMap Consequence.reaction?)
      (consequences.filterMap Consequence.transition?)
  simp only [Declarations.compile, gathered, checked, ok_bind]
  exact (bind_flatten _ rules).trans
    ((congrArg (Except.map rules) same).trans (bind_flatten _ rules).symm)

/-- After the declarations are gathered and the statements checked, compiling with all checks comes
to what compiling without them comes to. -/
theorem finishes_iff {outcome : Except CompileError RuleSet} :
    declared.Finishes declarations.entries (declared.registry.withTemplates directives) outcome ↔
      outcome = declarations.compile := by
  have wellFormed := wellFormed_of_checked checked
  have start := fills_start gathered directives
  obtain ⟨-, saturates, -⟩ := close_saturates wellFormed start.within
  obtain ⟨loads, known⟩ := pass_atTop checked start
  have derives {outcome : Except CompileError Registry} :
      Registry.Derives declared.catalog (derived declarations.entries) _ outcome ↔
        outcome = .ok (declared.closed directives) := derives_iff checked known saturates
  rw [← instantiate_closed gathered checked]
  constructor
  · rintro (failed | ⟨loaded, failed⟩ | ⟨loaded, derives'⟩)
    · cases loads.symm.trans failed
    · cases loads.symm.trans loaded
      cases derives.mp failed
    · cases loads.symm.trans loaded
      cases derives.mp derives'
      rfl
  · rintro rfl
    exact .instances loads (derives.mpr rfl)

end Declared
end FallingSand
