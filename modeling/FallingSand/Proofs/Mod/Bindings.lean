import FallingSand.Proofs.Mod.Derivations
import FallingSand.Proofs.Mod.Precedence

/-!
# What binds a variable

A row keeps its bindings as it is extended, so a variable is bound by the membership that is picked
for the first clause that mentions it.  What a statement says about a variable has the origin of
that membership, and under a single clause everything has the origin of the membership that meets
it.
-/

namespace FallingSand

namespace Row

variable {origin : Origin} {name : String} {bound : Binding}

/-! ## Bindings stay -/

theorem find?_matchSlots_of_some {slots : List Slot} {ids : List ElementId} {row matched : Row}
    (success : matchSlots origin slots ids row = some matched)
    (found : row.find? name = some bound) : matched.find? name = some bound :=
  matchSlots_induction (P := fun row => row.find? name = some bound)
    (fun row other id _ found => by rw [find?_bind, found, Option.some_or]) success found

/-- Picking a membership for one more pattern matches its tuple and keeps its origin. -/
theorem exists_matched {pattern : Pattern} {patterns : List Pattern} {premise : Membership}
    {premises : List Membership} {row extended : Row}
    (success : row.extendAll? (pattern :: patterns) (premise :: premises) = some extended) :
    ∃ matched, matchSlots premise.origin pattern.slots premise.tuple row = some matched ∧
      extendAll? { matched with origins := matched.origins ++ [premise.origin] } patterns
        premises = some extended := by
  obtain ⟨middle, first, rest⟩ := Option.bind_eq_some_iff.mp success
  obtain ⟨matched, found, rfl⟩ := Option.map_eq_some_iff.mp first
  exact ⟨matched, found, rest⟩

/-- What matching keeps, picking memberships keeps, as far as origins do not matter. -/
theorem extendAll?_induction {P : Row → Prop}
    (kept : ∀ origin slots ids row matched,
      matchSlots origin slots ids row = some matched → P row →
        P { matched with origins := matched.origins ++ [origin] })
    {patterns : List Pattern} {premises : List Membership} {row extended : Row}
    (success : row.extendAll? patterns premises = some extended) (holds : P row) : P extended := by
  induction patterns generalizing row premises with
  | nil =>
      obtain rfl : row = extended := by simpa [extendAll?] using success
      exact holds
  | cons pattern patterns induction =>
      cases premises with
      | nil =>
          obtain rfl : row = extended := by simpa [extendAll?] using success
          exact holds
      | cons premise premises =>
          obtain ⟨matched, found, rest⟩ := exists_matched success
          exact induction rest (kept _ _ _ row matched found holds)

theorem find?_extendAll?_of_some {patterns : List Pattern} {premises : List Membership}
    {row extended : Row} (success : row.extendAll? patterns premises = some extended)
    (found : row.find? name = some bound) : extended.find? name = some bound :=
  extendAll?_induction (P := fun row => row.find? name = some bound)
    (fun _ _ _ _ _ same found => (find?_matchSlots_of_some same found :)) success found

/-! ## New bindings -/

/-- Matching binds a variable that was not bound with the origin of the membership. -/
theorem origin_of_find?_matchSlots {slots : List Slot} {ids : List ElementId} {row matched : Row}
    (success : matchSlots origin slots ids row = some matched) (unbound : row.find? name = none)
    (found : matched.find? name = some bound) : bound.origin = origin := by
  refine matchSlots_induction
    (P := fun row => ∀ bound, row.find? name = some bound → bound.origin = origin)
    (fun row other id _ known bound found => ?_) success (by simp [unbound]) bound found
  rw [find?_bind] at found
  rcases Option.or_eq_some_iff.mp found with before | ⟨-, new⟩
  · exact known bound before
  · obtain ⟨-, same⟩ := Option.ite_none_right_eq_some.mp new
    rw [← Option.some.inj same]

end Row

/-- A clause mentions a variable. -/
def Clause.mentions (name : String) (clause : Clause) : Bool :=
  clause.terms.contains (.var name)

namespace Declared

variable {declared : Declared} {directives : List Directive} {entries : List Entry}
  {clause : Clause} {pattern : Pattern} {name : String}

theorem mentions_iff (comes : declared.Matches clause pattern) :
    clause.mentions name = true ↔ .var name ∈ pattern.slots := by
  rw [Clause.mentions, List.contains_iff_mem]
  constructor
  · intro mentioned
    obtain ⟨slot, listed, resolves⟩ := exists_of_mem_left comes.slots mentioned
    exact resolves_var.mp resolves ▸ listed
  · intro listed
    obtain ⟨term, mentioned, resolves⟩ := exists_of_mem_right comes.slots listed
    cases term with
    | element other =>
        obtain ⟨place, -, impossible⟩ := resolves_element resolves
        cases impossible
    | var other =>
        obtain rfl : name = other := Slot.var.inj (resolves_var.mp resolves)
        exact mentioned

theorem head?_iff (comes : declared.Matches clause pattern) :
    pattern.slots.head? = some (.var name) ↔ clause.terms.head? = some (.var name) := by
  obtain ⟨-, -, slots⟩ := comes
  generalize pattern.slots = filled at slots
  generalize clause.terms = terms at slots
  cases slots with
  | nil => simp
  | @cons term slot _ _ resolves _ =>
      cases term with
      | element other =>
          obtain ⟨place, -, rfl⟩ := resolves_element resolves
          simp
      | var other =>
          obtain rfl := resolves_var.mp resolves
          simp

/-- Matching the tuple of a membership binds the variables that its clause is the first to mention,
as any assignment has them that agrees with what comes out. -/
theorem find?_matchSlots (comes : declared.Matches clause pattern) {assignment : Assignment}
    {origin : Origin} {ids : List ElementId} {row matched : Row}
    (fits : pattern.slots.length = ids.length)
    (success : Row.matchSlots origin pattern.slots ids row = some matched)
    (admits : matched.Admits assignment) :
    matched.find? name = (row.find? name).or
      (if clause.mentions name then some ⟨name, assignment name, origin⟩ else none) := by
  have covered : matched.Covers (.var name) ↔ row.Covers (.var name) ∨ clause.mentions name := by
    rw [Row.covers_matchSlots fits success, mentions_iff comes]
  cases earlier : row.find? name with
  | some bound => rw [Row.find?_matchSlots_of_some success earlier, Option.some_or]
  | none =>
      have unbound : ¬row.Covers (.var name) := by simp [Row.Covers, earlier]
      rw [Option.none_or]
      split
      · rename_i mentioned
        obtain ⟨⟨other, element, source⟩, binds⟩ :=
          Option.isSome_iff_exists.mp (covered.mpr (Or.inr mentioned))
        obtain rfl : other = name := by simpa using List.find?_some binds
        obtain rfl : source = origin := Row.origin_of_find?_matchSlots success earlier binds
        rw [binds, admits other _ binds]
      · rename_i silent
        exact Option.not_isSome_iff_eq_none.mp fun binds =>
          (covered.mp binds).elim unbound silent

/-- A variable is bound by the membership picked for the first clause that mentions it. -/
theorem exists_binding {clauses : List Clause} {patterns : List Pattern}
    {premises : List Membership} {row extended : Row}
    (same : List.Forall₂ declared.Matches clauses patterns)
    (fits : List.Forall₂ Row.Fitting patterns premises)
    (success : row.extendAll? patterns premises = some extended)
    (unbound : row.find? name = none) (first : clauses.find? (Clause.mentions name) = some clause) :
    ∃ pattern premise bound, declared.Matches clause pattern ∧
      (pattern, premise) ∈ patterns.zip premises ∧ extended.find? name = some bound ∧
        bound.origin = premise.origin := by
  induction same generalizing premises row with
  | nil => cases first
  | @cons here pattern clauses patterns comes _ induction =>
      obtain _ | ⟨fit, fits⟩ := fits
      rename_i premise premises
      obtain ⟨matched, found, rest⟩ := Row.exists_matched success
      have binds : matched.find? name = _ :=
        find?_matchSlots comes fit found matched.admits_solution
      rw [unbound, Option.none_or] at binds
      cases mentioned : here.mentions name with
      | true =>
          rw [List.find?_cons, mentioned] at first
          obtain rfl := Option.some.inj first
          rw [if_pos mentioned] at binds
          exact ⟨pattern, premise, _, comes, List.mem_cons_self,
            Row.find?_extendAll?_of_some rest binds, rfl⟩
      | false =>
          rw [List.find?_cons, mentioned] at first
          rw [mentioned, if_neg Bool.false_ne_true] at binds
          obtain ⟨other, later, bound, comes, listed, binds, origin⟩ :=
            induction fits rest binds first
          exact ⟨other, later, bound, comes, List.mem_cons_of_mem _ listed, binds, origin⟩

/-- What a row says about a variable has the origin of a membership of the first clause that
mentions it, and is about the subject of that membership if the clause begins with it. -/
theorem exists_membership_of_first (gathered : Declared.ofEntries entries = .ok declared)
    (checked : declared.directives entries = .ok directives) {entry : Entry} {directive : Directive}
    (directs : declared.Directs entry directive) {row : Row}
    (listed : row ∈ (declared.closed directives).rows directive.patterns)
    (first : entry.clauses.find? (Clause.mentions name) = some clause)
    (opens : clause.terms.head? = some (.var name)) {id : ElementId}
    (found : row.element? (.var name) = some id) :
    ∃ relation ∈ (declared.closed directives).relations, relation.name = clause.relation ∧
      ∃ membership ∈ relation.members, membership.subject = id ∧
        directive.provenance row (.var name) =
          .inherited membership.origin directive.ordinal := by
  rw [Registry.rows_eq_combinations] at listed
  obtain ⟨premises, picked, success⟩ := List.mem_filterMap.mp listed
  have fits := Registry.fitting_of_mem_combinations (fits_closed gathered checked directs) picked
  obtain ⟨pattern, premise, bound, comes, paired, binds, origin⟩ :=
    exists_binding directs.patterns fits success rfl first
  have held := (List.forall₂_iff_zip.mp (Registry.mem_combinations.mp picked)).2 paired
  obtain ⟨relation, stands, member⟩ := exists_relation_of_mem_membersAt held
  refine ⟨relation, Array.mem_of_getElem? stands, name_of_find? gathered stands comes.relation,
    premise, member, ?_, ?_⟩
  · have meets := ((Row.admits_extendAll? fits success).mp row.admits_solution).2
    have meet := (List.forall₂_iff_zip.mp meets).2 paired
    have heads := congrArg List.head? meet
    rw [Pattern.tuple, List.head?_map, (head?_iff comes).mpr opens] at heads
    have covered : row.Covers (.var name) := Option.isSome_iff_exists.mpr ⟨bound, binds⟩
    rw [Row.element?_eq_value row.admits_solution covered] at found
    exact Option.some.inj (heads.symm.trans found)
  · have patterned : directive.patterns ≠ [] := by
      intro bare
      rw [bare] at paired
      cases paired
    simp [Directive.provenance, patterned, binds, origin]

end Declared

/-- Under a single pattern, everything is said with the origin of a membership that meets it. -/
theorem Directive.provenance_of_single {directive : Directive} {pattern : Pattern}
    (single : directive.patterns = [pattern]) {registry : Registry} {row : Row}
    (listed : row ∈ registry.rows directive.patterns) (slot : Slot) :
    ∃ membership ∈ registry.membersAt pattern.relation,
      directive.provenance row slot = .inherited membership.origin directive.ordinal := by
  rw [single, Registry.rows_singleton] at listed
  obtain ⟨membership, held, extended⟩ := List.mem_filterMap.mp listed
  obtain ⟨matched, found, rfl⟩ := Option.map_eq_some_iff.mp extended
  refine ⟨membership, Array.mem_toList_iff.mp held, ?_⟩
  have origins : matched.origins = [] := Row.origins_matchSlots found
  have latest :
      Row.latestOrigin { matched with origins := matched.origins ++ [membership.origin] } =
        membership.origin := by
    simp [Row.latestOrigin, origins, Origin.max_default]
  cases slot with
  | element id => simp [provenance, single, latest]
  | var name =>
      cases bound : matched.find? name with
      | none =>
          have unbound : Row.find? { matched with
              origins := matched.origins ++ [membership.origin] } name = none := bound
          simp [provenance, single, latest, unbound]
      | some binding =>
          have binds : Row.find? { matched with
              origins := matched.origins ++ [membership.origin] } name = some binding := bound
          simp [provenance, single, binds, Row.origin_of_find?_matchSlots found rfl bound]

end FallingSand
