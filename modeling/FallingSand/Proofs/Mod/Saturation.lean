import FallingSand.Proofs.Mod.Resolution
import Mathlib.Data.Finset.Card
import Mathlib.Data.Set.Basic

/-!
# Closing a registry under directives

Membership directives derive tuples from tuples.  Whatever family of tuples they do not lead out of,
the rounds stay inside; and as every round but the last finds a tuple that was missing from a finite
supply, the rounds end, with a registry that no directive leads out of.
-/

namespace FallingSand

/-- A set of tuples for the relation at each place. -/
abbrev Family := Nat → Set (List ElementId)

/-- All tuples of declared elements that fit a relation. -/
def Shape.tuples (shape : Shape) : Family :=
  fun place => {tuple | shape.arity place = some tuple.length ∧
    ∀ id ∈ tuple, id.toNat < shape.elements}

/-- The registry has the declared relations, and its tuples belong to a family. -/
structure Registry.Within (shape : Shape) (family : Family) (registry : Registry) : Prop where
  /-- The relations are the declared ones. -/
  arities : ∀ place, registry.arityAt? place = shape.arity place
  /-- The tuples belong to the family. -/
  tuples : ∀ place, ∀ tuple ∈ registry.tuplesAt place, tuple ∈ family place

/-- Every insertion keeps a property of registries. -/
def Registry.InsertionKeeps (P : Registry → Prop) : Prop :=
  ∀ registry place subject args statement, P registry →
    P (registry.insertAt place subject args statement).2

namespace Directive

variable {shape : Shape} {family : Family} {registry : Registry} {directive : Directive}
  {row : Row} {assignment : Assignment}

/-- The directive does not lead out of a family. -/
def Closes (directive : Directive) (family : Family) : Prop :=
  ∀ place subject args, directive.action = .member place subject args → ∀ assignment,
    (∀ pattern ∈ directive.patterns, pattern.tuple assignment ∈ family pattern.relation) →
      (subject :: args).map (Slot.value assignment) ∈ family place

/-- The row comes from tuples of a family, and the directive can fill its slots from it. -/
structure Licenses (directive : Directive) (family : Family) (row : Row) : Prop where
  /-- Every pattern becomes a tuple of the family. -/
  tuples : ∀ pattern ∈ directive.patterns, pattern.tuple row.solution ∈ family pattern.relation
  /-- Every slot of the action can be filled. -/
  slots : ∀ slot ∈ directive.action.slots, row.Covers slot

theorem fits_of_within (wellFormed : directive.WellFormed shape)
    (proper : ∀ place, family place ⊆ shape.tuples place) (within : registry.Within shape family) :
    ∀ pattern ∈ directive.patterns, registry.Fits pattern := by
  intro pattern member tuple held
  have fit := (proper _ (within.tuples _ _ held)).1
  exact Option.some.inj ((wellFormed.patterns pattern member).symm.trans fit)

theorem covers_of_knows (covered : ∀ pattern ∈ directive.patterns, ∀ slot ∈ pattern.slots,
    row.Covers slot) {slot : Slot} (known : directive.Knows shape slot) : row.Covers slot := by
  cases slot with
  | element id => trivial
  | var name =>
      obtain ⟨pattern, member, inside⟩ := known
      exact covered pattern member _ inside

theorem licenses_of_mem_rows (wellFormed : directive.WellFormed shape)
    (proper : ∀ place, family place ⊆ shape.tuples place) (within : registry.Within shape family)
    (listed : row ∈ registry.rows directive.patterns) : directive.Licenses family row := by
  obtain ⟨held, covered⟩ :=
    Registry.held_of_mem_rows (fits_of_within wellFormed proper within) listed
  exact ⟨fun pattern member => within.tuples _ _ (held pattern member),
    fun slot inside => covers_of_knows covered (wellFormed.slots slot inside)⟩

/-! ## One row -/

/-- For a row that can fill its slots, a membership directive inserts the tuple that they make. -/
theorem assertRow_eq_insertAt {place : Nat} {subject : Slot} {args : List Slot}
    (action : directive.action = .member place subject args)
    (covered : ∀ slot ∈ directive.action.slots, row.Covers slot)
    (admits : row.Admits assignment) :
    directive.assertRow registry row =
      (registry.insertAt place (subject.value assignment) (args.map (Slot.value assignment))
        directive.ordinal).2 := by
  rw [action] at covered
  have first := Row.element?_eq_value admits (covered subject (by simp [Action.slots]))
  have rest := Row.mapM_element? admits fun slot inside =>
    covered slot (List.mem_cons_of_mem _ inside)
  simp [assertRow, action, first, rest]

/-- What every insertion keeps, a directive keeps for every row. -/
theorem assertRow_induction {P : Registry → Prop} (kept : Registry.InsertionKeeps P)
    (directive : Directive) (row : Row) (holds : P registry) :
    P (directive.assertRow registry row) := by
  rw [assertRow]
  split
  · split
    · exact kept _ _ _ _ _ holds
    · exact holds
  · exact holds

/-- A row leaves the registry as it is or makes it count further. -/
theorem assertRow_eq_or_lt (directive : Directive) (registry : Registry) (row : Row) :
    directive.assertRow registry row = registry ∨
      registry.sequence < (directive.assertRow registry row).sequence := by
  rw [assertRow]
  split
  · rename_i place subject args _
    split
    · rename_i first rest _ _
      rcases registry.insertAt_cases place first rest directive.ordinal with
        ⟨-, same⟩ | ⟨-, new⟩
      · exact Or.inl (by rw [same])
      · exact Or.inr (by rw [new]; simp)
    · exact Or.inl rfl
  · exact Or.inl rfl

theorem asserts_or_idle (directive : Directive) :
    (∃ place subject args, directive.action = .member place subject args) ∨
      ∀ registry row, directive.assertRow registry row = registry := by
  cases action : directive.action with
  | member place subject args => exact Or.inl ⟨place, subject, args, rfl⟩
  | _ => exact Or.inr fun registry row => by simp [assertRow, action]

end Directive

/-! ## Folds that only add -/

/-- A fold whose steps do nothing or count up either counts up or consists of steps that do
nothing. -/
theorem foldl_still_or_lt {α β : Type} {step : β → α → β} (measure : β → Nat)
    (counts : ∀ state item, step state item = state ∨ measure state < measure (step state item))
    (items : List α) (start : β) :
    (items.foldl step start = start ∧ ∀ item ∈ items, step start item = start) ∨
      measure start < measure (items.foldl step start) := by
  induction items generalizing start with
  | nil => exact Or.inl ⟨rfl, by simp⟩
  | cons item items ih =>
      rw [List.foldl_cons]
      rcases counts start item with same | first
      · rw [same]
        rcases ih start with ⟨still, rest⟩ | later
        · exact Or.inl ⟨still, List.forall_mem_cons.mpr ⟨same, rest⟩⟩
        · exact Or.inr later
      · rcases ih (step start item) with ⟨still, -⟩ | later
        · exact Or.inr (by rw [still]; exact first)
        · exact Or.inr (first.trans later)

/-- A fold of steps that do not fail as long as something holds does not fail. -/
theorem foldlM_eq_pure {α β : Type} {m : Type → Type} [Monad m] [LawfulMonad m] {P : β → Prop}
    {step? : β → α → m β} {step : β → α → β} {items : List α} {start : β} (holds : P start)
    (each : ∀ state, P state → ∀ item ∈ items,
      step? state item = pure (step state item) ∧ P (step state item)) :
    items.foldlM step? start = pure (items.foldl step start) := by
  induction items generalizing start with
  | nil => rfl
  | cons item items ih =>
      obtain ⟨succeeds, after⟩ := each start holds item List.mem_cons_self
      rw [List.foldlM_cons, succeeds, pure_bind, List.foldl_cons]
      exact ih after fun state holds item member =>
        each state holds item (List.mem_cons_of_mem _ member)

/-! ## Runs -/

namespace Registry

variable {shape : Shape} {family : Family} {registry : Registry} {directives : List Directive}

theorem assertAll_induction {P : Registry → Prop} (kept : InsertionKeeps P)
    (directive : Directive) (holds : P registry) : P (directive.assertAll registry) :=
  List.foldlRecOn _ _ holds fun _ holds row _ => directive.assertRow_induction kept row holds

theorem round_induction {P : Registry → Prop} (kept : InsertionKeeps P)
    (directives : List Directive) (holds : P registry) : P (registry.round directives) :=
  List.foldlRecOn _ _ holds fun _ holds directive _ => assertAll_induction kept directive holds

theorem saturate_induction {P : Registry → Prop}
    (kept : ∀ before, P before → P (before.round directives)) (limit : Nat)
    (holds : P registry) : P (registry.saturate directives limit) := by
  induction limit generalizing registry with
  | zero => exact holds
  | succ limit ih =>
      have after := kept registry holds
      rw [saturate]
      split
      · exact after
      · exact ih after

/-- What every insertion keeps holds of a closed registry. -/
theorem close_induction {P : Registry → Prop} (kept : InsertionKeeps P)
    (directives : List Directive) (elements : Nat) (holds : P registry) :
    P (registry.close directives elements) :=
  saturate_induction (fun _ before => round_induction kept _ before) _
    (round_induction kept _ holds)

/-- Nothing is lost. -/
theorem insertionKeeps_grows (start : Registry) : InsertionKeeps start.Grows :=
  fun before place subject args statement earlier =>
    earlier.trans (.insertAt before place subject args statement)

/-- Closing a registry declares nothing. -/
theorem names_close (registry : Registry) (directives : List Directive) (elements : Nat) :
    (registry.close directives elements).names = registry.names :=
  (close_induction (insertionKeeps_grows registry) directives elements (.refl registry)).names

/-- No relation holds a tuple twice. -/
def Distinct (registry : Registry) : Prop :=
  ∀ place, (registry.tuplesAt place).Nodup

theorem insertionKeeps_distinct : InsertionKeeps Distinct := by
  intro registry place subject args statement distinct
  rcases registry.insertAt_cases place subject args statement with ⟨-, same⟩ | ⟨lacks, new⟩
  · rw [same]
    exact distinct
  · rw [new]
    intro other
    rw [tuplesAt_put lacks.1]
    split
    · rename_i same
      subst same
      rw [List.nodup_append]
      refine ⟨distinct place, List.nodup_singleton _, ?_⟩
      intro tuple held last isLast equal
      have new : last = subject :: args := by simpa [Membership.tuple] using isLast
      exact lacks.2 (new ▸ equal ▸ held)
    · exact distinct other

/-! ## Staying within a family -/

theorem Within.insertAt {place : Nat} {subject : ElementId} {args : List ElementId}
    (within : registry.Within shape family) (inside : subject :: args ∈ family place)
    (statement : Nat) :
    (registry.insertAt place subject args statement).2.Within shape family := by
  rcases registry.insertAt_cases place subject args statement with ⟨-, same⟩ | ⟨lacks, new⟩
  · rw [same]
    exact within
  · rw [new]
    refine ⟨fun other => arityAt?_put.trans (within.arities other), fun other tuple held => ?_⟩
    rw [tuplesAt_put lacks.1] at held
    split at held
    · rename_i same
      subst same
      rcases List.mem_append.mp held with old | last
      · exact within.tuples place tuple old
      · have new : tuple = subject :: args := by simpa [Membership.tuple] using last
        exact new ▸ inside
    · exact within.tuples other tuple held

theorem Within.assertRow {directive : Directive} {row : Row} (within : registry.Within shape family)
    (closes : directive.Closes family) (licenses : directive.Licenses family row) :
    (directive.assertRow registry row).Within shape family := by
  rcases directive.asserts_or_idle with ⟨place, subject, args, action⟩ | idle
  · rw [Directive.assertRow_eq_insertAt action licenses.slots row.admits_solution]
    exact within.insertAt (closes place subject args action row.solution licenses.tuples) _
  · rw [idle]
    exact within

theorem Within.assertAll {directive : Directive} (within : registry.Within shape family)
    (wellFormed : directive.WellFormed shape)
    (proper : ∀ place, family place ⊆ shape.tuples place) (closes : directive.Closes family) :
    (directive.assertAll registry).Within shape family :=
  List.foldlRecOn _ _ within fun _ inside _ listed =>
    inside.assertRow closes (Directive.licenses_of_mem_rows wellFormed proper within listed)

theorem Within.round (within : registry.Within shape family)
    (wellFormed : ∀ directive ∈ directives, directive.WellFormed shape)
    (proper : ∀ place, family place ⊆ shape.tuples place)
    (closes : ∀ directive ∈ directives, directive.Closes family) :
    (registry.round directives).Within shape family :=
  List.foldlRecOn _ _ within fun _ inside directive listed =>
    inside.assertAll (wellFormed directive listed) proper (closes directive listed)

theorem Within.saturate (within : registry.Within shape family)
    (wellFormed : ∀ directive ∈ directives, directive.WellFormed shape)
    (proper : ∀ place, family place ⊆ shape.tuples place)
    (closes : ∀ directive ∈ directives, directive.Closes family) (limit : Nat) :
    (registry.saturate directives limit).Within shape family :=
  saturate_induction (fun _ inside => inside.round wellFormed proper closes) limit within

/-! ## Rounds that can fail -/

/-- Insert a tuple into a relation that is there and asks for tuples of that length. -/
def insertFitting? (registry : Registry) (place : Nat) (subject : ElementId)
    (args : List ElementId) (statement : Nat) : Option Registry :=
  if registry.arityAt? place = some (args.length + 1) then
    some (registry.insertAt place subject args statement).2
  else none

end Registry

namespace Directive

/-- Add the tuple that a membership directive asserts for a row.  This fails for a slot that the row
does not cover and for a tuple that does not fit. -/
def assertRow? (directive : Directive) (registry : Registry) (row : Row) : Option Registry :=
  match directive.action with
  | .member place subject args => do
      let subject ← row.element? subject
      let args ← args.mapM row.element?
      registry.insertFitting? place subject args directive.ordinal
  | _ => some registry

/-- Add the tuples for all rows as they stand.  This fails for a pattern without a relation. -/
def assertAll? (directive : Directive) (registry : Registry) : Option Registry :=
  if ∀ pattern ∈ directive.patterns, (registry.arityAt? pattern.relation).isSome = true then
    (registry.rows directive.patterns).foldlM directive.assertRow? registry
  else none

end Directive

namespace Registry

variable {shape : Shape} {family : Family} {registry : Registry} {directives : List Directive}

/-- One round, which fails when one of its steps does. -/
def round? (directives : List Directive) (registry : Registry) : Option Registry :=
  directives.foldlM (fun registry directive => directive.assertAll? registry) registry

/-- Rounds without a limit to their number: they end with one that finds nothing, every other one
finds something, and none fails. -/
inductive Saturates (directives : List Directive) : Registry → Registry → Prop where
  /-- A round that finds nothing is the last. -/
  | quiet {before after : Registry} (round : before.round? directives = some after)
      (nothing : after.sequence = before.sequence) : Saturates directives before after
  /-- A round that finds something is followed by others. -/
  | busy {before between after : Registry} (round : before.round? directives = some between)
      (something : before.sequence < between.sequence)
      (later : Saturates directives between after) : Saturates directives before after

theorem assertRow?_eq_some {directive : Directive} {row : Row}
    (within : registry.Within shape family) (wellFormed : directive.WellFormed shape)
    (licenses : directive.Licenses family row) :
    directive.assertRow? registry row = some (directive.assertRow registry row) := by
  rw [Directive.assertRow?]
  split
  · rename_i place subject args action
    have covered := licenses.slots
    rw [action] at covered
    have first := Row.element?_eq_value row.admits_solution
      (covered subject (by simp [Action.slots]))
    have rest := Row.mapM_element? row.admits_solution fun slot inside =>
      covered slot (List.mem_cons_of_mem _ inside)
    have arity := (within.arities place).trans (wellFormed.member place subject args action)
    rw [Directive.assertRow_eq_insertAt action licenses.slots row.admits_solution]
    simp [first, rest, insertFitting?, arity]
  · rename_i other
    rcases directive.asserts_or_idle with ⟨place, subject, args, action⟩ | idle
    · exact absurd action (other place subject args)
    · rw [idle]

theorem assertAll?_eq_some {directive : Directive} (within : registry.Within shape family)
    (wellFormed : directive.WellFormed shape)
    (proper : ∀ place, family place ⊆ shape.tuples place) (closes : directive.Closes family) :
    directive.assertAll? registry = some (directive.assertAll registry) := by
  have placed : ∀ pattern ∈ directive.patterns,
      (registry.arityAt? pattern.relation).isSome = true := by
    intro pattern member
    rw [within.arities, wellFormed.patterns pattern member]
    rfl
  rw [Directive.assertAll?, if_pos placed]
  refine foldlM_eq_pure (P := Registry.Within shape family) within ?_
  intro between inside row listed
  have licenses := Directive.licenses_of_mem_rows wellFormed proper within listed
  exact ⟨assertRow?_eq_some inside wellFormed licenses, inside.assertRow closes licenses⟩

theorem round?_eq_some (within : registry.Within shape family)
    (wellFormed : ∀ directive ∈ directives, directive.WellFormed shape)
    (proper : ∀ place, family place ⊆ shape.tuples place)
    (closes : ∀ directive ∈ directives, directive.Closes family) :
    registry.round? directives = some (registry.round directives) := by
  refine foldlM_eq_pure (P := Registry.Within shape family) within ?_
  intro between inside directive listed
  have fit := wellFormed directive listed
  have closed := closes directive listed
  exact ⟨assertAll?_eq_some inside fit proper closed, inside.assertAll fit proper closed⟩

end Registry

/-! ## The supply of tuples -/

/-- All tuples of a length over so many elements. -/
def tuplesOver (elements : Nat) : (length : Nat) → List (List ElementId)
  | 0 => [[]]
  | length + 1 =>
      (List.range elements).flatMap fun place =>
        (tuplesOver elements length).map (ElementId.mk (UInt16.ofNat place) :: ·)

theorem length_tuplesOver (elements length : Nat) :
    (tuplesOver elements length).length = elements.pow length := by
  induction length with
  | zero => rfl
  | succ length ih =>
      have more : elements.pow (length + 1) = elements.pow length * elements := rfl
      rw [more, ← ih]
      simp [tuplesOver, Nat.mul_comm]

theorem mem_tuplesOver {elements : Nat} {tuple : List ElementId}
    (declared : ∀ id ∈ tuple, id.toNat < elements) : tuple ∈ tuplesOver elements tuple.length := by
  induction tuple with
  | nil => exact List.mem_singleton.mpr rfl
  | cons id ids ih =>
      obtain ⟨first, rest⟩ := List.forall_mem_cons.mp declared
      simp only [List.length_cons, tuplesOver, List.mem_flatMap, List.mem_range, List.mem_map]
      exact ⟨id.toNat, first, ids, ih rest, by simp [ElementId.toNat]⟩

/-- Every tuple that some directives can ever add. -/
def supply (directives : List Directive) (elements : Nat) : List (Nat × List ElementId) :=
  directives.flatMap fun directive =>
    match directive.action with
    | .member place _ args => (tuplesOver elements (args.length + 1)).map (place, ·)
    | _ => []

theorem length_supply (directives : List Directive) (elements : Nat) :
    (supply directives elements).length + 1 = Registry.roundLimit directives elements := by
  induction directives with
  | nil => rfl
  | cons directive directives ih =>
      rw [Registry.roundLimit, List.foldr_cons, ← Registry.roundLimit, ← ih, supply,
        List.flatMap_cons, List.length_append, ← supply]
      cases action : directive.action <;>
        simp [Directive.memberLength?, action, length_tuplesOver, Nat.add_assoc]

namespace Registry

/-- The number of tuples of a supply that are not held yet. -/
def missing (supply : List (Nat × List ElementId)) (registry : Registry) : Nat :=
  (supply.toFinset.filter fun entry => entry.2 ∉ registry.tuplesAt entry.1).card

theorem missing_put_lt {supply : List (Nat × List ElementId)} {registry : Registry} {place : Nat}
    (membership : Membership) (inside : (registry.arityAt? place).isSome = true)
    (absent : membership.tuple ∉ registry.tuplesAt place)
    (supplied : (place, membership.tuple) ∈ supply) :
    (registry.put place membership).missing supply < registry.missing supply := by
  apply Finset.card_lt_card
  rw [Finset.ssubset_iff_of_subset]
  · refine ⟨(place, membership.tuple), by simp [supplied, absent], ?_⟩
    simp [tuplesAt_put inside]
  · intro entry
    simp only [Finset.mem_filter]
    rintro ⟨listed, lacking⟩
    exact ⟨listed, fun held => lacking ((Grows.put inside).tuples entry.1 held)⟩

variable {shape : Shape} {family : Family} {registry : Registry} {directives : List Directive}

/-- What a step finds is missing no more. -/
theorem assertRow_budget {directive : Directive} {row : Row} (listed : directive ∈ directives)
    (proper : ∀ place, family place ⊆ shape.tuples place) (closes : directive.Closes family)
    (licenses : directive.Licenses family row) :
    (directive.assertRow registry row).sequence +
        (directive.assertRow registry row).missing (supply directives shape.elements) ≤
      registry.sequence + registry.missing (supply directives shape.elements) := by
  rcases directive.asserts_or_idle with ⟨place, subject, args, action⟩ | idle
  · rw [Directive.assertRow_eq_insertAt action licenses.slots row.admits_solution]
    rcases registry.insertAt_cases place (subject.value row.solution)
      (args.map (Slot.value row.solution)) directive.ordinal with ⟨-, same⟩ | ⟨lacks, new⟩
    · rw [same]
    · rw [new]
      have tuple := proper _ (closes place subject args action row.solution licenses.tuples)
      have supplied : (place, (subject :: args).map (Slot.value row.solution)) ∈
          supply directives shape.elements := by
        refine List.mem_flatMap.mpr ⟨directive, listed, ?_⟩
        rw [action]
        exact List.mem_map.mpr ⟨_, by simpa using mem_tuplesOver tuple.2, rfl⟩
      have fewer := missing_put_lt ⟨subject.value row.solution,
        args.map (Slot.value row.solution), ⟨directive.ordinal, registry.sequence⟩⟩
        lacks.1 lacks.2 supplied
      simp only [sequence_put]
      omega
  · rw [idle]

theorem assertAll_budget {directive : Directive} (within : registry.Within shape family)
    (listed : directive ∈ directives) (wellFormed : directive.WellFormed shape)
    (proper : ∀ place, family place ⊆ shape.tuples place) (closes : directive.Closes family) :
    (directive.assertAll registry).sequence +
        (directive.assertAll registry).missing (supply directives shape.elements) ≤
      registry.sequence + registry.missing (supply directives shape.elements) :=
  List.foldlRecOn (motive := fun after : Registry =>
      after.sequence + after.missing (supply directives shape.elements) ≤
        registry.sequence + registry.missing (supply directives shape.elements))
    _ _ (Nat.le_refl _) fun _ before _ member =>
      (assertRow_budget listed proper closes
        (Directive.licenses_of_mem_rows wellFormed proper within member)).trans before

theorem round_budget (within : registry.Within shape family)
    (wellFormed : ∀ directive ∈ directives, directive.WellFormed shape)
    (proper : ∀ place, family place ⊆ shape.tuples place)
    (closes : ∀ directive ∈ directives, directive.Closes family) :
    (registry.round directives).sequence +
        (registry.round directives).missing (supply directives shape.elements) ≤
      registry.sequence + registry.missing (supply directives shape.elements) :=
  (List.foldlRecOn (motive := fun after : Registry => after.Within shape family ∧
      after.sequence + after.missing (supply directives shape.elements) ≤
        registry.sequence + registry.missing (supply directives shape.elements))
    _ _ ⟨within, Nat.le_refl _⟩ fun _ before directive listed =>
      have fit := wellFormed directive listed
      have closed := closes directive listed
      ⟨before.1.assertAll fit proper closed,
        (assertAll_budget before.1 listed fit proper closed).trans before.2⟩).2

/-! ## The end of the rounds -/

/-- The membership directives find nothing new. -/
def Rests (directives : List Directive) (registry : Registry) : Prop :=
  ∀ directive ∈ directives, ∀ row ∈ registry.rows directive.patterns,
    directive.assertRow registry row = registry

theorem round_rests_or_lt (registry : Registry) (directives : List Directive) :
    registry.round directives = registry ∧ registry.Rests directives ∨
      registry.sequence < (registry.round directives).sequence := by
  have rows (directive : Directive) (before : Registry) :=
    foldl_still_or_lt Registry.sequence directive.assertRow_eq_or_lt
      (before.rows directive.patterns) before
  -- the same argument twice: along the rows of a directive, then along the directives
  rcases foldl_still_or_lt Registry.sequence
    (fun before directive => (rows directive before).imp_left And.left) directives registry with
    ⟨still, each⟩ | later
  · refine Or.inl ⟨still, fun directive listed => ?_⟩
    rcases rows directive registry with ⟨-, rest⟩ | counts
    · exact rest
    · have same : (directive.assertAll registry).sequence = registry.sequence :=
        congrArg Registry.sequence (each directive listed)
      exact absurd same (Nat.ne_of_gt counts)
  · exact Or.inr later

/-- With a limit above what is missing, the rounds end by themselves. -/
theorem saturates_and_rests (within : registry.Within shape family)
    (wellFormed : ∀ directive ∈ directives, directive.WellFormed shape)
    (proper : ∀ place, family place ⊆ shape.tuples place)
    (closes : ∀ directive ∈ directives, directive.Closes family) {limit : Nat}
    (enough : registry.missing (supply directives shape.elements) < limit) :
    Saturates directives registry (registry.saturate directives limit) ∧
      (registry.saturate directives limit).Rests directives := by
  induction limit generalizing registry with
  | zero => exact absurd enough (Nat.not_lt_zero _)
  | succ limit ih =>
      have succeeds := round?_eq_some within wellFormed proper closes
      have budget := round_budget within wellFormed proper closes
      rw [saturate]
      rcases round_rests_or_lt registry directives with ⟨still, rests⟩ | finds
      · simp only [still, if_pos]
        exact ⟨.quiet (succeeds.trans (congrArg some still)) rfl, rests⟩
      · rw [if_neg (Nat.ne_of_gt finds)]
        have after := within.round wellFormed proper closes
        obtain ⟨saturates, rests⟩ := ih after (by omega)
        exact ⟨.busy succeeds finds saturates, rests⟩

theorem missing_lt_roundLimit (registry : Registry) (directives : List Directive)
    (elements : Nat) :
    registry.missing (supply directives elements) < roundLimit directives elements := by
  have few := (Finset.card_filter_le (supply directives elements).toFinset
    fun entry => entry.2 ∉ registry.tuplesAt entry.1).trans (List.toFinset_card_le _)
  rw [← length_supply]
  exact Nat.lt_succ_of_le few

/-! ## What is held in the end -/

/-- The tuples that are held. -/
def held (registry : Registry) : Family :=
  fun place => {tuple | tuple ∈ registry.tuplesAt place}

theorem mem_held_insertAt {place : Nat} (inside : (registry.arityAt? place).isSome = true)
    (subject : ElementId) (args : List ElementId) (statement : Nat) :
    subject :: args ∈ (registry.insertAt place subject args statement).2.held place := by
  rcases registry.insertAt_cases place subject args statement with ⟨there, same⟩ | ⟨lacks, new⟩
  · rw [same]
    exact there inside
  · rw [new]
    change subject :: args ∈ (registry.put place _).tuplesAt place
    rw [tuplesAt_put inside, if_pos rfl]
    exact List.mem_append_right _ (List.mem_singleton.mpr rfl)

/-- A registry at rest holds what its directives derive from it. -/
theorem closes_held_of_rests (within : registry.Within shape family)
    (proper : ∀ place, family place ⊆ shape.tuples place) (rests : registry.Rests directives)
    {directive : Directive} (listed : directive ∈ directives)
    (wellFormed : directive.WellFormed shape) : directive.Closes registry.held := by
  intro place subject args action assignment held
  have fits := Directive.fits_of_within wellFormed proper within
  obtain ⟨row, member, admits⟩ := exists_row_of_held fits held
  have slots := (Directive.licenses_of_mem_rows wellFormed proper within member).slots
  have still := rests directive listed row member
  rw [Directive.assertRow_eq_insertAt action slots admits] at still
  have inside : (registry.arityAt? place).isSome = true := by
    rw [within.arities, wellFormed.member place subject args action]
    rfl
  have last := mem_held_insertAt inside (subject.value assignment)
    (args.map (Slot.value assignment)) directive.ordinal
  rw [still] at last
  exact last

/-- A round holds every fact that it goes through. -/
theorem mem_held_round {directive : Directive} (listed : directive ∈ directives)
    (fact : directive.patterns = []) {place : Nat} {subject : Slot} {args : List Slot}
    (action : directive.action = .member place subject args)
    (wellFormed : directive.WellFormed shape)
    (arities : ∀ place, registry.arityAt? place = shape.arity place) (assignment : Assignment) :
    (subject :: args).map (Slot.value assignment) ∈ (registry.round directives).held place := by
  obtain ⟨earlier, later, rfl⟩ := List.append_of_mem listed
  let before := registry.round earlier
  have split : registry.round (earlier ++ directive :: later) =
      (directive.assertAll before).round later := by
    simp [round, before]
  have single : directive.assertAll before = directive.assertRow before Row.empty := by
    simp [Directive.assertAll, fact]
  have covered : ∀ slot ∈ directive.action.slots, Row.empty.Covers slot := by
    intro slot filled
    cases slot with
    | element id => trivial
    | var name =>
        obtain ⟨pattern, member, -⟩ := wellFormed.slots _ filled
        simp [fact] at member
  have inside : (before.arityAt? place).isSome = true := by
    have same := (round_induction (insertionKeeps_grows registry) earlier (.refl registry)).arities
    rw [same, arities, wellFormed.member place subject args action]
    rfl
  rw [split, single, Directive.assertRow_eq_insertAt action covered Row.admits_empty]
  have grown := round_induction (insertionKeeps_grows _) later (.refl (before.insertAt place
    (subject.value assignment) (args.map (Slot.value assignment)) directive.ordinal).2)
  exact grown.tuples place (mem_held_insertAt inside _ _ _)

end Registry
end FallingSand
