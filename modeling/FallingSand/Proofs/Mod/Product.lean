import FallingSand.Proofs.Mod.Bindings
import FallingSand.Proofs.Mod.Checked
import FallingSand.Proofs.Mod.Instances
import FallingSand.Proofs.Mod.Requests

/-!
# Rows as a filtered product

Rows are built up clause by clause, and a row is given up as soon as a literal or a variable
disagrees.  The rows that are left stand for the ways to pick a membership for each clause that one
assignment explains all at once, in the order in which the ways come.  Each row binds the variables
of the clauses as that assignment has them, each with the origin of the membership that met it
first.
-/

namespace FallingSand

namespace Registry

/-- The members of the relation of a name, in the order of discovery. -/
def membersNamed (registry : Registry) (name : String) : List Membership :=
  match registry.get name with
  | .ok relation => relation.members.toList
  | .error _ => []

theorem membersNamed_of_find? {registry : Registry} {name : String} {place : Nat}
    (found : registry.names.find? name = some place) :
    registry.membersNamed name = (registry.membersAt place).toList := by
  rw [membersNamed, get, found, Option.bind_some, membersAt]
  cases registry.relations[place]? <;> rfl

/-- Every way to pick a membership for each clause, the first clause varying slowest. -/
def picks (registry : Registry) : List Clause → List (List Membership)
  | [] => [[]]
  | clause :: clauses =>
      (registry.membersNamed clause.relation).flatMap fun membership =>
        (registry.picks clauses).map (membership :: ·)

/-- All tuples are as long as their relations ask. -/
def Sized (registry : Registry) : Prop :=
  ∀ relation ∈ registry.relations, ∀ membership ∈ relation.members,
    membership.tuple.length = relation.arity

end Registry

/-- The assignment turns the terms of each clause into the tuple of the membership picked for it. -/
def Catalog.Explains (catalog : Catalog) (assignment : Assignment) :
    List Clause → List Membership → Prop :=
  List.Forall₂ fun clause membership =>
    clause.terms.mapM (catalog.value? assignment) = some membership.tuple

/-- The row has written down what was picked for the clauses: the origins, and the variables of the
clauses as an assignment has them that explains the memberships. -/
structure Row.Records (catalog : Catalog) (clauses : List Clause) (row : Row)
    (picked : List Membership) : Prop where
  /-- Every clause has the origin of its membership. -/
  origins : row.origins = picked.map (·.origin)
  /-- No variable is bound twice. -/
  distinct : (row.bindings.map (·.name)).Nodup
  /-- The variables bound are those mentioned, with the origin of the membership picked for the
  first clause that mentions them. -/
  bindings : ∀ assignment, catalog.Explains assignment clauses picked → ∀ name,
    row.find? name = ((clauses.zip picked).find? (·.1.mentions name)).map fun first =>
      ⟨name, assignment name, first.2.origin⟩

/-- The clause asks for what is declared. -/
structure Declared.Understands (declared : Declared) (clause : Clause) : Prop where
  /-- Its relation is declared, with tuples as long as the clause has terms. -/
  relation : ∃ relation, declared.registry.get clause.relation = .ok relation ∧
    relation.arity = clause.terms.length
  /-- Its literals are declared. -/
  literals : ∀ name, .element name ∈ clause.terms → ∃ id, declared.catalog.idOf name = .ok id

/-! ## What picking writes down -/

namespace Row

variable {patterns : List Pattern} {picked : List Membership} {row extended : Row}

theorem origins_extendAll? (fits : List.Forall₂ Fitting patterns picked)
    (success : row.extendAll? patterns picked = some extended) :
    extended.origins = row.origins ++ picked.map (·.origin) := by
  induction fits generalizing row with
  | nil =>
      obtain rfl : row = extended := by simpa [extendAll?] using success
      simp
  | cons _ _ induction =>
      obtain ⟨matched, found, rest⟩ := exists_matched success
      simp [induction rest, origins_matchSlots found]

theorem distinct_matchSlots {origin : Origin} {slots : List Slot} {ids : List ElementId}
    {matched : Row} (success : matchSlots origin slots ids row = some matched)
    (distinct : (row.bindings.map (·.name)).Nodup) : (matched.bindings.map (·.name)).Nodup := by
  refine matchSlots_induction (P := fun row => (row.bindings.map (·.name)).Nodup)
    (fun row name id unbound distinct => ?_) success distinct
  have fresh : name ∉ row.bindings.map (·.name) := by
    simpa [find?] using unbound
  simpa using distinct.concat fresh

theorem distinct_extendAll? (success : row.extendAll? patterns picked = some extended)
    (distinct : (row.bindings.map (·.name)).Nodup) : (extended.bindings.map (·.name)).Nodup := by
  refine extendAll?_induction (P := fun row => (row.bindings.map (·.name)).Nodup) ?_ success
    distinct
  intro origin slots ids row matched same distinct
  have still : (matched.bindings.map (·.name)).Nodup := distinct_matchSlots same distinct
  exact still

end Row

/-! ## Clauses and their patterns -/

namespace Declared

variable {declared : Declared} {registry : Registry} {clauses : List Clause}
  {patterns : List Pattern} {picked : List Membership} {assignment : Assignment}

/-- A clause that asks for what is declared has a pattern. -/
theorem Understands.pattern {clause : Clause} (understands : declared.Understands clause) :
    Succeeds (declared.pattern clause) := by
  obtain ⟨⟨relation, got, arity⟩, literals⟩ := understands
  obtain ⟨place, named, -⟩ := Registry.get_eq_ok_iff.mp got
  refine succeeds_bind_iff.mpr ⟨relation, Registry.getFitting_eq_ok_iff.mpr ⟨got, arity⟩, ?_⟩
  refine succeeds_bind_iff.mpr ⟨place, by rw [Registry.placeOf, named], ?_⟩
  refine (succeeds_then_iff fun _ => succeeds_pure _).mpr (succeeds_mapM_iff.mpr ?_)
  intro term listed
  cases term with
  | var name => exact succeeds_ok _
  | element name =>
      obtain ⟨id, found⟩ := literals name listed
      exact ⟨.element id, by rw [patternSlot, found]; rfl⟩

theorem picks_eq (relates : declared.Relates registry)
    (same : List.Forall₂ declared.Matches clauses patterns) :
    registry.picks clauses = registry.combinations patterns := by
  induction same with
  | nil => rfl
  | cons comes _ induction =>
      rw [Registry.picks, Registry.combinations, induction,
        Registry.membersNamed_of_find? (relates.names ▸ comes.relation)]

/-- Tuples that are as long as their relations fit the patterns. -/
theorem fits_of_matches (relates : declared.Relates registry) (sized : registry.Sized)
    {clause : Clause} {pattern : Pattern} (comes : declared.Matches clause pattern) :
    registry.Fits pattern := by
  intro tuple held
  obtain ⟨membership, member, rfl⟩ := Registry.mem_tuplesAt.mp held
  obtain ⟨relation, stands, listed⟩ := exists_relation_of_mem_membersAt member
  have arity := (relates.arities pattern.relation).trans comes.arity
  rw [Registry.arityAt?, stands] at arity
  rw [sized relation (Array.mem_of_getElem? stands) membership listed]
  exact (Option.some.inj arity).symm

theorem explains_iff (same : List.Forall₂ declared.Matches clauses patterns) :
    declared.catalog.Explains assignment clauses picked ↔
      List.Forall₂ (Row.Meets assignment) patterns picked := by
  rw [Catalog.Explains]
  induction same generalizing picked with
  | nil => simp
  | cons comes _ induction =>
      cases picked with
      | nil => simp
      | cons membership picked =>
          rw [List.forall₂_cons, List.forall₂_cons, induction,
            mapM_value?_of_resolves comes.slots, Option.some.injEq]
          rfl

/-! ## What a row binds -/

/-- A variable that was not bound before is bound by the membership picked for the first clause that
mentions it, to what any assignment gives it that agrees with the row. -/
theorem find?_extendAll? (same : List.Forall₂ declared.Matches clauses patterns)
    (fits : List.Forall₂ Row.Fitting patterns picked) {row extended : Row}
    (success : row.extendAll? patterns picked = some extended)
    (admits : extended.Admits assignment) (name : String) :
    extended.find? name = (row.find? name).or
      (((clauses.zip picked).find? (·.1.mentions name)).map fun first =>
        ⟨name, assignment name, first.2.origin⟩) := by
  induction same generalizing picked row with
  | nil =>
      obtain rfl : row = extended := by simpa [Row.extendAll?] using success
      simp
  | @cons clause pattern clauses patterns comes _ induction =>
      obtain _ | ⟨fit, fits⟩ := fits
      rename_i membership picked
      obtain ⟨matched, found, rest⟩ := Row.exists_matched success
      have agrees : matched.Admits assignment := ((Row.admits_extendAll? fits rest).mp admits).1
      have binds : matched.find? name = _ := find?_matchSlots comes fit found agrees
      rw [induction fits rest]
      change (matched.find? name).or _ = _
      rw [binds, Option.or_assoc, List.zip_cons_cons, List.find?_cons]
      cases clause.mentions name <;> rfl

/-- A row found for a choice of memberships has it written down. -/
theorem records_of_extendAll? (same : List.Forall₂ declared.Matches clauses patterns)
    (fits : List.Forall₂ Row.Fitting patterns picked) {row : Row}
    (success : Row.empty.extendAll? patterns picked = some row) :
    row.Records declared.catalog clauses picked where
  origins := Row.origins_extendAll? fits success
  distinct := Row.distinct_extendAll? success List.nodup_nil
  bindings assignment explains := by
    have meets := (explains_iff same).mp explains
    have admits := (Row.admits_extendAll? fits success).mpr ⟨Row.admits_empty, meets⟩
    exact find?_extendAll? same fits success admits

open Classical in
/-- Clauses that ask for what is declared are checked and met without failure, whatever tuples of
fitting length the registry holds.  The rows are, one by one and in order, the choices of a
membership for each clause that some assignment explains; a row binds exactly the variables of the
clauses, as the assignment has them, and keeps for each variable the origin of the first membership
that bound it and for each clause the origin of its membership. -/
theorem bindings_eq_product (relates : declared.Relates registry) (sized : registry.Sized)
    (understood : ∀ clause ∈ clauses, declared.Understands clause) :
    ∃ patterns, clauses.mapM declared.pattern = .ok patterns ∧
      registry.bindings declared.catalog clauses = .ok (registry.rows patterns) ∧
      List.Forall₂ (Row.Records declared.catalog clauses) (registry.rows patterns)
        ((registry.picks clauses).filter fun picked =>
          ∃ assignment, declared.catalog.Explains assignment clauses picked) := by
  obtain ⟨patterns, checked⟩ : Succeeds (clauses.mapM declared.pattern) :=
    succeeds_mapM_iff.mpr fun clause listed => (understood clause listed).pattern
  have same : List.Forall₂ declared.Matches clauses patterns :=
    (mapM_eq_ok_iff.mp checked).imp fun _ _ => matches_of_pattern
  refine ⟨patterns, checked, bindings_eq relates same, ?_⟩
  have fits : ∀ pattern ∈ patterns, registry.Fits pattern := by
    intro pattern listed
    obtain ⟨clause, -, comes⟩ := exists_of_mem_right same listed
    exact fits_of_matches relates sized comes
  have agree : ∀ picked ∈ registry.combinations patterns,
      ((∃ row, Row.empty.extendAll? patterns picked = some row) ↔
        decide (∃ assignment, declared.catalog.Explains assignment clauses picked) = true) ∧
      ∀ row, Row.empty.extendAll? patterns picked = some row →
        row.Records declared.catalog clauses picked := by
    intro picked listed
    have fit := Registry.fitting_of_mem_combinations fits listed
    rw [decide_eq_true_iff]
    refine ⟨⟨?_, ?_⟩, fun row success => records_of_extendAll? same fit success⟩
    · rintro ⟨row, success⟩
      refine ⟨row.solution, (explains_iff same).mpr ?_⟩
      exact ((Row.admits_extendAll? fit success).mp row.admits_solution).2
    · rintro ⟨assignment, explains⟩
      exact Row.extendAll?_of_admits fit Row.admits_empty ((explains_iff same).mp explains)
  rw [Registry.rows_eq_combinations, picks_eq relates same]
  simpa only [List.map_id] using forall₂_filterMap_filter (g := id) agree

/-- The first element melts to the second, and the second to the first and to nothing. -/
def melting : Declared where
  title := none
  catalog := Catalog.initial
  registry :=
    { names := Roster.empty.insert "Melts" (Roster.find?_empty "Melts")
      relations := #[(((Relation.ofArity "Melts" 2).add ⟨⟨1⟩, [⟨2⟩], ⟨5, 0⟩⟩).add
        ⟨⟨2⟩, [⟨1⟩], ⟨6, 1⟩⟩).add ⟨⟨2⟩, [⟨0⟩], ⟨7, 2⟩⟩]
      sequence := 3 }

/-- Things that melt to something which melts to nothing. -/
def vanishing : List Clause :=
  [⟨"Melts", [.var "solid", .var "liquid"]⟩, ⟨"Melts", [.var "liquid", .element "Empty"]⟩]

theorem bindings_vanishing :
    melting.Relates melting.registry ∧ melting.registry.Sized ∧
      (∀ clause ∈ vanishing, melting.Understands clause) ∧
      ∃ row picked, melting.registry.bindings melting.catalog vanishing = .ok [row] ∧
        row = ⟨[⟨"solid", ⟨1⟩, ⟨5, 0⟩⟩, ⟨"liquid", ⟨2⟩, ⟨5, 0⟩⟩], [⟨5, 0⟩, ⟨7, 2⟩]⟩ ∧
        row.Records melting.catalog vanishing picked := by
  have named : melting.registry.names.find? "Melts" = some 0 :=
    Roster.find?_eq_some_iff.mpr rfl
  have nothing : melting.catalog.names.find? "Empty" = some 0 :=
    Roster.find?_eq_some_iff.mpr rfl
  obtain ⟨relation, stands⟩ : ∃ relation, melting.registry.relations[0]? = some relation :=
    ⟨_, rfl⟩
  have got : melting.registry.get "Melts" = .ok relation :=
    Registry.get_eq_ok_iff.mpr ⟨0, named, stands⟩
  have arity : relation.arity = 2 := by
    cases stands
    rfl
  have relates : melting.Relates melting.registry := ⟨rfl, fun _ => rfl⟩
  have sized : melting.registry.Sized := by
    intro other listed membership member
    obtain rfl := Array.mem_singleton.mp listed
    revert membership
    decide
  have understood : ∀ clause ∈ vanishing, melting.Understands clause := by
    intro clause listed
    have about : clause.relation = "Melts" ∧ clause.terms.length = 2 ∧
        ∀ name, .element name ∈ clause.terms → name = "Empty" := by
      simp only [vanishing, List.mem_cons, List.not_mem_nil, or_false] at listed
      rcases listed with rfl | rfl <;> simp
    obtain ⟨same, long, literal⟩ := about
    refine ⟨⟨relation, by rw [same, got], by rw [arity, long]⟩, fun name mentioned => ?_⟩
    exact ⟨⟨0⟩, by rw [literal name mentioned, Catalog.idOf, nothing]; rfl⟩
  obtain ⟨patterns, checked, met, product⟩ := bindings_eq_product relates sized understood
  have resolved : vanishing.mapM melting.pattern =
      .ok [⟨0, [.var "solid", .var "liquid"]⟩, ⟨0, [.var "liquid", .element ⟨0⟩]⟩] := by
    simp [vanishing, pattern, Registry.getFitting, Registry.placeOf, patternSlot, Catalog.idOf,
      got, arity, named, nothing, ok_bind, pure, Except.pure]
  obtain rfl := Except.ok.inj (checked.symm.trans resolved)
  have found : melting.registry.rows
      [⟨0, [.var "solid", .var "liquid"]⟩, ⟨0, [.var "liquid", .element ⟨0⟩]⟩] =
        [⟨[⟨"solid", ⟨1⟩, ⟨5, 0⟩⟩, ⟨"liquid", ⟨2⟩, ⟨5, 0⟩⟩], [⟨5, 0⟩, ⟨7, 2⟩]⟩] := by decide
  rw [found] at met product
  obtain ⟨picked, -, records, -, -⟩ := List.forall₂_cons_left_iff.mp product
  exact ⟨relates, sized, understood, _, picked, met, rfl, records⟩

end Declared

end FallingSand
