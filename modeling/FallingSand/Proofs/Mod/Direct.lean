import FallingSand.Proofs.Mod.Calls

/-!
# Direct assignments

A direct assignment is explicit, and its number is that of the direct assignments before it.  So it
outranks all of these and whatever is inherited.  But calls may be explicit as well and bring
numbers of their own, and one with a greater number than there have been direct assignments outranks
the next direct assignment although it came before.
-/

namespace FallingSand

namespace Catalog

/-- An operation that changes a catalog. -/
inductive Operation where
  /-- Declare an element. -/
  | define (name color : String)
  /-- Assign a property of a named element directly. -/
  | assignDirect (name : String) (key : PropertyKey) (value : Single)
  /-- Set a property or the shown name of an element. -/
  | call (made : Call)
  /-- Add a tag to an element. -/
  | addTag (id : ElementId) (text : String) (provenance : Provenance)
  /-- Add a piece to the description of an element. -/
  | addDescription (id : ElementId) (text : String) (provenance : Provenance)

namespace Operation

/-- The catalog after an operation. -/
def perform (catalog : Catalog) : Operation → Catalog
  | define name color =>
      match catalog.define name color with
      | .ok (_, defined) => defined
      | .error _ => catalog
  | assignDirect name key value => (catalog.assignDirect name key value).2
  | call made => made.perform catalog
  | addTag id text provenance => catalog.addTag id text provenance
  | addDescription id text provenance => catalog.addDescription id text provenance

/-- What an operation assigns to a property of an element of the catalog, if it does and is
accepted. -/
def assigned? (catalog : Catalog) (id : ElementId) (key : PropertyKey) :
    Operation → Option (Provenance × Single)
  | assignDirect name named value =>
      match catalog.idOf name with
      | .ok subject =>
          (Call.assign subject named value (.explicit catalog.nextDirect)).assigned? id key
      | .error _ => none
  | call made => if id.toNat < catalog.size then made.assigned? id key else none
  | define _ _ | addTag _ _ _ | addDescription _ _ _ => none

end Operation

/-- The catalog after operations in order. -/
def after (catalog : Catalog) (history : List Operation) : Catalog :=
  history.foldl (fun before operation => operation.perform before) catalog

/-- What operations assign to a property of an element, in order. -/
def assignments (id : ElementId) (key : PropertyKey) :
    Catalog → List Operation → List (Provenance × Single)
  | _, [] => []
  | catalog, operation :: history =>
      (operation.assigned? catalog id key).toList ++
        assignments id key (operation.perform catalog) history

variable {catalog : Catalog} {id : ElementId} {key : PropertyKey} {name : String} {value : Single}

/-! ## One direct assignment -/

/-- The catalog in which one more number has been used up. -/
def counted (catalog : Catalog) : Catalog :=
  { catalog with nextDirect := catalog.nextDirect + 1 }

/-- A direct assignment is an explicit call with a number from the catalog. -/
theorem assignDirect_of_idOf (found : catalog.idOf name = .ok id) (key : PropertyKey)
    (value : Single) :
    (catalog.assignDirect name key value).2 =
      (Call.assign id key value (.explicit catalog.nextDirect)).perform catalog.counted := by
  rw [assignDirect, found, Call.perform, Call.answer]
  dsimp only
  rw [← counted]
  cases catalog.counted.assign id key value (.explicit catalog.nextDirect) <;> rfl

theorem assignDirect_eq_ok_iff :
    (catalog.assignDirect name key value).1 = .ok () ↔
      (∃ id, catalog.idOf name = .ok id) ∧ key.accepts value = true := by
  rw [assignDirect]
  cases catalog.idOf name with
  | error fault => simp
  | ok id =>
      dsimp only
      rw [assign]
      by_cases accepted : key.accepts value = true
      · simp [accepted]
      · simp [accepted]

theorem assignDirect_of_error {fault : Fault} (missing : catalog.idOf name = .error fault) :
    (catalog.assignDirect name key value).2 = catalog := by
  rw [assignDirect, missing]

theorem Call.nextDirect_perform (catalog : Catalog) (call : Call) :
    (call.perform catalog).nextDirect = catalog.nextDirect := by
  rw [perform_eq_revise]
  rfl

theorem nextDirect_assignDirect (found : catalog.idOf name = .ok id) :
    (catalog.assignDirect name key value).2.nextDirect = catalog.nextDirect + 1 := by
  rw [assignDirect_of_idOf found, Call.nextDirect_perform]
  rfl

theorem names_assignDirect (catalog : Catalog) (name : String) (key : PropertyKey)
    (value : Single) : (catalog.assignDirect name key value).2.names = catalog.names := by
  cases found : catalog.idOf name with
  | error fault => rw [assignDirect_of_error found]
  | ok id =>
      rw [assignDirect_of_idOf found, Call.names_perform]
      rfl

/-! ## What operations do -/

theorem assignment?_of_not_lt (outside : ¬id.toNat < catalog.size) (key : PropertyKey) :
    catalog.assignment? id key = none := by
  have missing : catalog.drafts[id.toNat]? = none := by
    rw [Array.getElem?_eq_none_iff, catalog.size_drafts]
    exact Nat.le_of_not_lt outside
  rw [assignment?, missing, Option.bind_none]

theorem assignment?_define {color : String} {fresh : ElementId} {defined : Catalog}
    (success : catalog.define name color = .ok (fresh, defined)) (id : ElementId)
    (key : PropertyKey) : defined.assignment? id key = catalog.assignment? id key := by
  rw [assignment?, (define_eq_ok success).2.2.1, Array.getElem?_push]
  split
  · rename_i last
    rw [assignment?_of_not_lt (by rw [size, ← catalog.size_drafts]; omega), Option.bind_some]
    exact PerProperty.get_fill none key
  · rfl

theorem idOf_define {color : String} {fresh : ElementId} {defined : Catalog}
    (success : catalog.define name color = .ok (fresh, defined)) :
    defined.idOf name = .ok fresh := by
  obtain ⟨rfl, names, -, -⟩ := define_eq_ok success
  have room : catalog.size < maxElements := (define_succeeds_iff.mp ⟨_, success⟩).2
  have place : (⟨UInt16.ofNat catalog.size⟩ : ElementId).toNat = catalog.names.names.size :=
    UInt16.toNat_ofNat_of_lt' room
  rw [idOf_eq_ok_iff, Roster.find?_eq_some_iff, names, place, Array.getElem?_push_size]

/-- A call says nothing about an element that is not declared. -/
theorem Call.assignment?_perform_any (catalog : Catalog) (id : ElementId) (key : PropertyKey)
    (call : Call) :
    (call.perform catalog).assignment? id key =
      hear (catalog.assignment? id key)
        (if id.toNat < catalog.size then call.assigned? id key else none) := by
  split
  · rename_i inside
    exact call.assignment?_perform inside key
  · rename_i outside
    have still : ¬id.toNat < (call.perform catalog).size := by rwa [call.size_perform]
    rw [assignment?_of_not_lt outside, assignment?_of_not_lt still]
    rfl

/-- Only an assignment by a call is explicit. -/
theorem Call.eq_assign_of_assigned? {call : Call} {statement : Nat}
    (assigns : call.assigned? id key = some (.explicit statement, value)) :
    call = .assign id key value (.explicit statement) := by
  cases call with
  | assign subject named given provenance =>
      rw [assigned?_of_property rfl] at assigns
      split at assigns
      · rename_i said
        obtain ⟨rfl, rfl, -⟩ := said
        cases assigns
        rfl
      · cases assigns
  | inherit subject named given origin number =>
      rw [assigned?_of_property rfl] at assigns
      split at assigns
      · cases assigns
      · cases assigns
  | setDisplayName subject text provenance => cases assigns

/-- A named element is declared, so what is said about it is never lost. -/
theorem assignment?_assignDirect (found : catalog.idOf name = .ok id) (subject : ElementId)
    (key named : PropertyKey) (value : Single) :
    (catalog.assignDirect name named value).2.assignment? subject key =
      hear (catalog.assignment? subject key)
        ((Call.assign id named value (.explicit catalog.nextDirect)).assigned? subject key) := by
  have inside : id.toNat < catalog.counted.size := Roster.find?_lt (idOf_eq_ok_iff.mp found)
  have known : (if subject.toNat < catalog.counted.size then
      (Call.assign id named value (.explicit catalog.nextDirect)).assigned? subject key else none) =
      (Call.assign id named value (.explicit catalog.nextDirect)).assigned? subject key := by
    rw [ite_eq_left_iff]
    intro outside
    rw [Call.assigned?_of_property rfl, if_neg]
    rintro ⟨rfl, -⟩
    exact outside inside
  rw [assignDirect_of_idOf found, Call.assignment?_perform_any, known]
  rfl

namespace Operation

/-- Whatever an operation assigns to a property competes with what stands for it. -/
theorem assignment?_perform (catalog : Catalog) (id : ElementId) (key : PropertyKey)
    (operation : Operation) :
    (operation.perform catalog).assignment? id key =
      hear (catalog.assignment? id key) (operation.assigned? catalog id key) := by
  cases operation with
  | define name color =>
      rw [perform]
      split
      · rename_i defined success
        exact assignment?_define success id key
      · rfl
  | assignDirect name named value =>
      rw [perform, assigned?]
      cases found : catalog.idOf name with
      | ok subject => exact assignment?_assignDirect found id key named value
      | error fault =>
          rw [assignDirect_of_error found]
          rfl
  | call made => exact made.assignment?_perform_any catalog id key
  | addTag subject text provenance => exact assignment?_revise_of_same fun _ => rfl
  | addDescription subject text provenance => exact assignment?_revise_of_same fun _ => rfl

/-- Elements keep their identifiers. -/
theorem idOf_perform (operation : Operation) (found : catalog.idOf name = .ok id) :
    (operation.perform catalog).idOf name = .ok id := by
  have named := idOf_eq_ok_iff.mp found
  rw [idOf_eq_ok_iff]
  cases operation with
  | define other color =>
      rw [perform]
      split
      · rename_i defined success
        have inside : id.toNat < catalog.names.names.size := Roster.find?_lt named
        rw [Roster.find?_eq_some_iff, (define_eq_ok success).2.1, Array.getElem?_push_lt inside,
          ← Array.getElem?_eq_getElem inside]
        exact Roster.find?_eq_some_iff.mp named
      · exact named
  | assignDirect other key value => rwa [perform, names_assignDirect]
  | call made => rwa [perform, Call.names_perform]
  | addTag subject text provenance => exact named
  | addDescription subject text provenance => exact named

theorem nextDirect_perform (catalog : Catalog) (operation : Operation) :
    catalog.nextDirect ≤ (operation.perform catalog).nextDirect := by
  cases operation with
  | define name color =>
      rw [perform]
      split
      · rename_i defined success
        exact (define_eq_ok success).2.2.2.ge
      · exact le_refl _
  | assignDirect name key value =>
      cases found : catalog.idOf name with
      | error fault => exact (congrArg nextDirect (assignDirect_of_error found)).ge
      | ok id => exact (Nat.le_succ _).trans (nextDirect_assignDirect found).ge
  | call made => exact (made.nextDirect_perform catalog).ge
  | addTag id text provenance => exact le_refl _
  | addDescription id text provenance => exact le_refl _

/-- What is assigned with an explicit number is assigned by a call, or directly with a number that
is used up thereby. -/
theorem lt_nextDirect_of_assigned? {operation : Operation} {statement : Nat} {given : Single}
    (assigns : operation.assigned? catalog id key = some (.explicit statement, given)) :
    statement < (operation.perform catalog).nextDirect ∨
      operation = .call (.assign id key given (.explicit statement)) := by
  cases operation with
  | define name color => cases assigns
  | addTag subject text provenance => cases assigns
  | addDescription subject text provenance => cases assigns
  | assignDirect name named value =>
      rw [assigned?] at assigns
      split at assigns
      · rename_i subject found
        cases Call.eq_assign_of_assigned? assigns
        rw [perform, nextDirect_assignDirect found]
        exact Or.inl (Nat.lt_succ_self _)
      · cases assigns
  | call made =>
      rw [assigned?] at assigns
      split at assigns
      · exact Or.inr (congrArg call (Call.eq_assign_of_assigned? assigns))
      · cases assigns

end Operation

/-! ## Histories -/

theorem after_define {color : String} {fresh : ElementId} {defined : Catalog}
    (success : catalog.define name color = .ok (fresh, defined)) (history : List Operation) :
    catalog.after (.define name color :: history) = defined.after history := by
  rw [after, List.foldl_cons, Operation.perform, success]
  rfl

theorem idOf_after (found : catalog.idOf name = .ok id) (history : List Operation) :
    (catalog.after history).idOf name = .ok id :=
  List.foldlRecOn (motive := fun after : Catalog => after.idOf name = .ok id) _ _ found
    fun _ before operation _ => operation.idOf_perform before

theorem nextDirect_after (catalog : Catalog) (history : List Operation) :
    catalog.nextDirect ≤ (catalog.after history).nextDirect := by
  induction history generalizing catalog with
  | nil => exact le_refl _
  | cons operation history induction =>
      exact (operation.nextDirect_perform catalog).trans (induction (operation.perform catalog))

theorem prevails_after {heard : List (Provenance × Single)}
    (prevails : Prevails heard (catalog.assignment? id key)) (history : List Operation) :
    Prevails (heard ++ assignments id key catalog history)
      ((catalog.after history).assignment? id key) := by
  induction history generalizing catalog heard with
  | nil =>
      rw [assignments, List.append_nil]
      exact prevails
  | cons operation history induction =>
      have rest := induction (operation.assignment?_perform catalog id key ▸
        prevails.hear (operation.assigned? catalog id key))
      rwa [List.append_assoc] at rest

theorem prevails_after_initial (id : ElementId) (key : PropertyKey) (history : List Operation) :
    Prevails (assignments id key initial history) ((initial.after history).assignment? id key) := by
  have blank : initial.assignment? id key = none := by
    by_cases inside : id.toNat < initial.size
    · have first : id.toNat = 0 := Nat.lt_one_iff.mp inside
      rw [assignment?, first]
      exact PerProperty.get_fill none key
    · exact assignment?_of_not_lt inside key
  have prevails := prevails_after (prevails_single (initial.assignment? id key)) history
  rw [blank] at prevails
  exact prevails

theorem lt_nextDirect_of_mem_assignments {history : List Operation} {statement : Nat}
    {given : Single} (listed : (.explicit statement, given) ∈ assignments id key catalog history) :
    statement < (catalog.after history).nextDirect ∨
      .call (.assign id key given (.explicit statement)) ∈ history := by
  induction history generalizing catalog with
  | nil => exact absurd listed List.not_mem_nil
  | cons operation history induction =>
      rcases List.mem_append.mp listed with first | later
      · rcases Operation.lt_nextDirect_of_assigned? (Option.mem_toList.mp first) with used | made
        · exact Or.inl (used.trans_le (nextDirect_after _ history))
        · exact Or.inr (made ▸ List.mem_cons_self)
      · exact (induction later).imp_right (List.mem_cons_of_mem operation)

/-! ## The effect of a direct assignment -/

/-- Before a direct assignment, something explicit has been assigned with a greater number than it
will have. -/
def Overruled (history : List Operation) (id : ElementId) (key : PropertyKey) : Prop :=
  ∃ statement given, (.explicit statement, given) ∈ assignments id key initial history ∧
    (initial.after history).nextDirect < statement

variable {history : List Operation}

/-- Only a call can have a greater number. -/
theorem Overruled.exists_call (overruled : Overruled history id key) :
    ∃ statement given, .call (.assign id key given (.explicit statement)) ∈ history ∧
      (initial.after history).nextDirect < statement := by
  obtain ⟨statement, given, listed, greater⟩ := overruled
  rcases lt_nextDirect_of_mem_assignments listed with used | made
  · exact absurd used greater.not_gt
  · exact ⟨statement, given, made, greater⟩

theorem prevail_of_overruled (overruled : Overruled history id key) (value : Single) :
    prevail ((initial.after history).assignment? id key)
        (.explicit (initial.after history).nextDirect) value =
      (initial.after history).assignment? id key := by
  obtain ⟨statement, given, listed, greater⟩ := overruled
  have prevails := prevails_after_initial id key history
  cases stands : (initial.after history).assignment? id key with
  | none =>
      rw [stands] at prevails
      exact absurd (show _ ∈ [] from prevails ▸ listed) List.not_mem_nil
  | some best =>
      rw [stands] at prevails
      have higher := LastGreatest.rank_le prevails _ listed
      have lower : (Provenance.explicit (initial.after history).nextDirect).rank <
          (Provenance.explicit statement).rank :=
        Provenance.not_le_iff_rank_lt.mp (by rw [Provenance.le, decide_eq_true_eq]; omega)
      exact if_neg (Provenance.not_le_iff_rank_lt.mpr (lower.trans_le higher))

theorem prevail_of_not_overruled (free : ¬Overruled history id key) (value : Single) :
    prevail ((initial.after history).assignment? id key)
        (.explicit (initial.after history).nextDirect) value =
      some (.explicit (initial.after history).nextDirect, value) := by
  have prevails := prevails_after_initial id key history
  cases stands : (initial.after history).assignment? id key with
  | none => rfl
  | some best =>
      rw [stands] at prevails
      have listed := LastGreatest.mem prevails
      obtain ⟨provenance, given⟩ := best
      cases provenance with
      | inherited origin statement => rfl
      | explicit statement =>
          have least : statement ≤ (initial.after history).nextDirect :=
            Nat.le_of_not_lt fun greater => free ⟨statement, given, listed, greater⟩
          exact if_pos (decide_eq_true least)

theorem drafts_assignDirect (found : catalog.idOf name = .ok id) {place : Nat}
    (elsewhere : place ≠ id.toNat) :
    (catalog.assignDirect name key value).2.drafts[place]? = catalog.drafts[place]? := by
  rw [assignDirect_of_idOf found, Call.perform_eq_revise, getElem?_drafts_revise]
  exact if_neg elsewhere.symm

theorem resolve_assignDirect_of_ne (found : catalog.idOf name = .ok id) {other : String}
    (distinct : other ≠ name) :
    (catalog.assignDirect name key value).2.resolve other = catalog.resolve other := by
  rw [resolve, resolve, names_assignDirect]
  cases located : catalog.names.find? other with
  | none => rfl
  | some place =>
      have elsewhere : place ≠ id.toNat := by
        rintro rfl
        have named := Roster.find?_eq_some_iff.mp (idOf_eq_ok_iff.mp found)
        exact distinct (Option.some.inj ((Roster.find?_eq_some_iff.mp located).symm.trans named))
      rw [Option.bind_some, Option.bind_some, drafts_assignDirect found elsewhere]

/-- What a named element has is told by what stands for each of its properties. -/
theorem exists_resolve (found : catalog.idOf name = .ok id) :
    ∃ values, catalog.resolve name = .ok values ∧
      ∀ key, values.get key = ((catalog.assignment? id key).map (·.2)).getD Single.zero :=
  ⟨_, resolve_of_idOf found fun _ => [], get_properties_resolveAll catalog (fun _ => [])
    (Roster.find?_lt (idOf_eq_ok_iff.mp found))⟩

theorem resolve_assignDirect (found : catalog.idOf name = .ok id)
    (accepted : key.accepts value = true) {before : Properties}
    (resolved : catalog.resolve name = .ok before) :
    (catalog.assignDirect name key value).2.resolve name =
      .ok (before.set key (((prevail (catalog.assignment? id key)
        (.explicit catalog.nextDirect) value).map (·.2)).getD Single.zero)) := by
  have still : (catalog.assignDirect name key value).2.idOf name = .ok id := by
    rwa [idOf_eq_ok_iff, names_assignDirect, ← idOf_eq_ok_iff]
  obtain ⟨old, was, olds⟩ := exists_resolve found
  obtain ⟨new, becomes, news⟩ := exists_resolve still
  obtain rfl : old = before := Except.ok.inj (was.symm.trans resolved)
  rw [becomes, Except.ok.injEq]
  apply PerProperty.ext_get
  intro other
  rw [news, assignment?_assignDirect found, Call.assigned?_of_property rfl, PerProperty.get_set]
  by_cases same : key = other
  · subst same
    rw [if_pos ⟨rfl, rfl, accepted⟩, if_pos rfl]
    rfl
  · rw [if_neg fun all => same all.2.1, if_neg (Ne.symm same), olds]
    rfl

/-- A direct assignment that is accepted takes effect unless it is overruled: the property has the
value.  If it is overruled, and only a call with a greater number can do that, the property keeps
the value that it had.  In either case the other properties and all other elements stay as they
are. -/
theorem assignDirect_effect (history : List Operation) {name : String} {key : PropertyKey}
    {value : Single} (accepted : ((initial.after history).assignDirect name key value).1 = .ok ()) :
    let catalog := initial.after history
    let assigned := (catalog.assignDirect name key value).2
    ∃ id before, catalog.idOf name = .ok id ∧ catalog.resolve name = .ok before ∧
      (¬Overruled history id key → assigned.resolve name = .ok (before.set key value)) ∧
      (Overruled history id key → assigned.resolve name = .ok before ∧
        ∃ statement given, .call (.assign id key given (.explicit statement)) ∈ history ∧
          catalog.nextDirect < statement) ∧
      (∀ other, other ≠ name → assigned.resolve other = catalog.resolve other) ∧
      assigned.names = catalog.names ∧
      ∀ place, place ≠ id.toNat → assigned.drafts[place]? = catalog.drafts[place]? := by
  intro catalog assigned
  obtain ⟨⟨id, found⟩, fits⟩ := assignDirect_eq_ok_iff.mp accepted
  obtain ⟨before, resolved, values⟩ := exists_resolve found
  have effect := resolve_assignDirect found fits resolved
  refine ⟨id, before, found, resolved, fun free => ?_, fun overruled => ⟨?_, overruled.exists_call⟩,
    fun other distinct => resolve_assignDirect_of_ne found distinct,
    names_assignDirect catalog name key value,
    fun place elsewhere => drafts_assignDirect found elsewhere⟩
  · rwa [prevail_of_not_overruled free] at effect
  · rw [prevail_of_overruled overruled, ← values key] at effect
    rwa [PerProperty.set_get_self] at effect

/-- Oil gets a density directly, through a membership and by a call of the next number. -/
def oiling : List Operation :=
  [.define "Oil" "#804000", .assignDirect "Oil" .density ⟨0x3f333333⟩,
    .call (.inherit ⟨1⟩ .density ⟨0x3f4ccccd⟩ ⟨99, 99⟩ 0),
    .call (.assign ⟨1⟩ .density ⟨0x3e99999a⟩ (.explicit 1))]

theorem oil_takes_effect :
    ((initial.after oiling).assignDirect "Oil" .density ⟨0x3f666666⟩).1 = .ok () ∧
    ∃ before, (initial.after oiling).resolve "Oil" = .ok before ∧
      ((initial.after oiling).assignDirect "Oil" .density ⟨0x3f666666⟩).2.resolve "Oil" =
        .ok (before.set .density ⟨0x3f666666⟩) := by
  obtain ⟨⟨id, defined⟩, success⟩ : Succeeds (initial.define "Oil" "#804000") :=
    define_succeeds_iff.mpr ⟨by decide, by decide⟩
  have steps : initial.after oiling = defined.after oiling.tail :=
    after_define success _
  have found := idOf_define success
  have located : (initial.after oiling).idOf "Oil" = .ok id := steps ▸ idOf_after found _
  have counted : 1 ≤ (initial.after oiling).nextDirect := by
    rw [steps]
    have used : (defined.assignDirect "Oil" .density ⟨0x3f333333⟩).2.nextDirect =
        defined.nextDirect + 1 := nextDirect_assignDirect found
    have rest := nextDirect_after (defined.assignDirect "Oil" .density ⟨0x3f333333⟩).2
      oiling.tail.tail
    exact (used ▸ Nat.le_add_left 1 _).trans rest
  have accepted : ((initial.after oiling).assignDirect "Oil" .density ⟨0x3f666666⟩).1 = .ok () :=
    assignDirect_eq_ok_iff.mpr ⟨⟨id, located⟩, by decide⟩
  obtain ⟨_, before, _, resolved, effect, _⟩ := assignDirect_effect oiling accepted
  refine ⟨accepted, before, resolved, effect fun overruled => ?_⟩
  obtain ⟨statement, given, made, greater⟩ := overruled.exists_call
  have statement_le : statement ≤ 1 := by
    simp only [oiling, List.mem_cons, reduceCtorEq, Operation.call.injEq, Call.assign.injEq,
      Provenance.explicit.injEq, List.not_mem_nil, or_false, false_or] at made
    exact made.2.2.2.le
  omega

/-- A call gives the first element declared a density with the number five. -/
def late : Call :=
  .assign ⟨1⟩ .density ⟨0x3f4ccccd⟩ (.explicit 5)

/-- Oil is declared and gets its density by that call. -/
def outranking : List Operation :=
  [.define "Oil" "#804000", .call late]

/-- A direct assignment may be accepted and have no effect. -/
theorem accepted_without_effect : ¬∀ (history : List Operation) (name : String) (key : PropertyKey)
    (value : Single), ((initial.after history).assignDirect name key value).1 = .ok () →
      ∃ values, ((initial.after history).assignDirect name key value).2.resolve name = .ok values ∧
        values.get key = value := by
  intro effective
  obtain ⟨⟨id, defined⟩, success⟩ : Succeeds (initial.define "Oil" "#804000") :=
    define_succeeds_iff.mpr ⟨by decide, by decide⟩
  have steps : initial.after outranking = defined.after outranking.tail :=
    after_define success _
  have found := idOf_define success
  obtain ⟨rfl, names, drafts, unused⟩ := define_eq_ok success
  have located : (initial.after outranking).idOf "Oil" = .ok ⟨1⟩ := steps ▸ idOf_after found _
  have counted : (initial.after outranking).nextDirect = 0 := by
    rw [steps]
    exact (Call.nextDirect_perform defined late).trans unused
  have blank : defined.assignment? ⟨1⟩ .density = none := by
    rw [assignment?, drafts]
    rfl
  have stands : (initial.after outranking).assignment? ⟨1⟩ .density =
      some (.explicit 5, ⟨0x3f4ccccd⟩) := by
    have inside : (⟨1⟩ : ElementId).toNat < defined.size :=
      Roster.find?_lt (idOf_eq_ok_iff.mp found)
    have step := Call.assignment?_perform inside .density late
    rw [blank] at step
    rw [steps]
    exact step
  have fits : PropertyKey.density.accepts ⟨0x3f333333⟩ = true := by decide
  obtain ⟨before, resolved, -⟩ := exists_resolve located
  obtain ⟨values, becomes, set⟩ := effective outranking "Oil" .density ⟨0x3f333333⟩
    (assignDirect_eq_ok_iff.mpr ⟨⟨⟨1⟩, located⟩, fits⟩)
  rw [resolve_assignDirect located fits resolved, stands, counted] at becomes
  obtain rfl := Except.ok.inj becomes
  rw [PerProperty.get_set, if_pos rfl] at set
  exact absurd set (by decide)

end Catalog
end FallingSand
