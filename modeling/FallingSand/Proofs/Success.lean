import Mathlib.Data.List.Forall2
import Mathlib.Tactic.Tauto

/-!
# Computations that succeed

What it takes for a chain, a traversal or a fold of computations that can fail to succeed: each of
its parts succeeds, and the results of a traversal correspond to the items one by one.  When it
fails, that is the failure of its first part that does.
-/

namespace FallingSand

universe u v w

variable {ε : Type u} {α : Type w} {β γ : Type v}

theorem ok_bind (value : β) (next : β → Except ε γ) : (.ok value >>= next) = next value := rfl

theorem bind_eq_ok_iff {first : Except ε β} {next : β → Except ε γ} {result : γ} :
    first >>= next = .ok result ↔ ∃ value, first = .ok value ∧ next value = .ok result := by
  cases first <;> simp [bind, Except.bind]

theorem mapM_eq_ok_iff {f : α → Except ε β} {items : List α} {results : List β} :
    items.mapM f = .ok results ↔
      List.Forall₂ (fun item result => f item = .ok result) items results := by
  induction items generalizing results with
  | nil => cases results <;> simp [pure, Except.pure]
  | cons item items ih =>
      rw [List.mapM_cons, bind_eq_ok_iff]
      constructor
      · rintro ⟨value, first, rest⟩
        obtain ⟨values, later, same⟩ := bind_eq_ok_iff.mp rest
        cases same
        exact .cons first (ih.mp later)
      · rintro (_ | ⟨first, later⟩)
        exact ⟨_, first, bind_eq_ok_iff.mpr ⟨_, ih.mpr later, rfl⟩⟩

theorem map_eq_ok_iff {computation : Except ε β} {f : β → γ} {result : γ} :
    f <$> computation = .ok result ↔ ∃ value, computation = .ok value ∧ f value = result := by
  cases computation <;> simp [Functor.map, Except.map]

theorem mapM_array_eq_ok_iff {f : α → Except ε β} {items : Array α} {results : Array β} :
    items.mapM f = .ok results ↔
      ∃ same : items.size = results.size,
        ∀ place (inside : place < items.size), f items[place] = .ok results[place] := by
  rw [Array.mapM_eq_mapM_toList, map_eq_ok_iff]
  simp only [mapM_eq_ok_iff, List.forall₂_iff_get, Array.length_toList, List.get_eq_getElem,
    Array.getElem_toList]
  constructor
  · rintro ⟨values, ⟨same, each⟩, rfl⟩
    exact ⟨by simpa using same, fun place inside => each place inside (same ▸ inside)⟩
  · rintro ⟨same, each⟩
    exact ⟨results.toList, ⟨by simpa using same, fun place inside _ => each place inside⟩, by simp⟩

theorem mapM_vector_eq_ok_iff {count : Nat} {f : α → Except ε β} {items : Vector α count}
    {results : Vector β count} :
    items.mapM f = .ok results ↔
      ∀ place (inside : place < count), f items[place] = .ok results[place] := by
  have arrays : items.mapM f = .ok results ↔ items.toArray.mapM f = .ok results.toArray := by
    rw [← Vector.toArray_mapM, map_eq_ok_iff]
    simp only [Vector.toArray_inj, exists_eq_right]
  rw [arrays, mapM_array_eq_ok_iff]
  simp

/-- A computation that gives a result. -/
def Succeeds (computation : Except ε β) : Prop :=
  ∃ value, computation = .ok value

theorem succeeds_ok (value : β) : Succeeds (.ok value : Except ε β) :=
  ⟨value, rfl⟩

theorem succeeds_pure (value : β) : Succeeds (pure value : Except ε β) :=
  ⟨value, rfl⟩

theorem not_succeeds_error (fault : ε) : ¬Succeeds (.error fault : Except ε β) := by
  rintro ⟨value, ⟨⟩⟩

theorem succeeds_bind_iff {first : Except ε β} {next : β → Except ε γ} :
    Succeeds (first >>= next) ↔ ∃ value, first = .ok value ∧ Succeeds (next value) := by
  simp only [Succeeds, bind_eq_ok_iff]
  tauto

theorem succeeds_then_iff {first : Except ε β} {next : β → Except ε γ}
    (later : ∀ value, Succeeds (next value)) : Succeeds (first >>= next) ↔ Succeeds first := by
  rw [succeeds_bind_iff]
  exact ⟨fun ⟨value, success, _⟩ => ⟨value, success⟩,
    fun ⟨value, success⟩ => ⟨value, success, later value⟩⟩

theorem succeeds_mapM_iff {f : α → Except ε β} {items : List α} :
    Succeeds (items.mapM f) ↔ ∀ item ∈ items, Succeeds (f item) := by
  induction items with
  | nil => exact ⟨fun _ => by simp, fun _ => ⟨[], rfl⟩⟩
  | cons item items ih =>
      rw [List.mapM_cons, succeeds_bind_iff, List.forall_mem_cons, ← ih]
      constructor
      · rintro ⟨value, first, rest⟩
        obtain ⟨values, later, -⟩ := succeeds_bind_iff.mp rest
        exact ⟨⟨value, first⟩, values, later⟩
      · rintro ⟨⟨value, first⟩, values, later⟩
        exact ⟨value, first, succeeds_bind_iff.mpr ⟨values, later, succeeds_ok _⟩⟩

theorem succeeds_map_iff {computation : Except ε β} {f : β → γ} :
    Succeeds (f <$> computation) ↔ Succeeds computation := by
  simp only [Succeeds, map_eq_ok_iff]
  exact ⟨fun ⟨_, value, success, _⟩ => ⟨value, success⟩,
    fun ⟨value, success⟩ => ⟨f value, value, success, rfl⟩⟩

theorem succeeds_mapM_array_iff {f : α → Except ε β} {items : Array α} :
    Succeeds (items.mapM f) ↔ ∀ item ∈ items, Succeeds (f item) := by
  rw [Array.mapM_eq_mapM_toList, succeeds_map_iff, succeeds_mapM_iff]
  simp only [Array.mem_toList_iff]

theorem succeeds_mapM_vector_iff {count : Nat} {f : α → Except ε β} {items : Vector α count} :
    Succeeds (items.mapM f) ↔ ∀ item ∈ items.toArray, Succeeds (f item) := by
  rw [← succeeds_map_iff, Vector.toArray_mapM, succeeds_mapM_array_iff]

/-- What every successful step keeps holds of the result of a successful fold. -/
theorem foldlM_ok_induction {P : β → Prop} {f : β → α → Except ε β} {items : List α}
    (step : ∀ before item after, item ∈ items → f before item = .ok after → P before → P after)
    {start result : β} (success : items.foldlM f start = .ok result) (holds : P start) :
    P result := by
  induction items generalizing start with
  | nil =>
      cases success
      exact holds
  | cons item items ih =>
      rw [List.foldlM_cons] at success
      obtain ⟨between, first, rest⟩ := bind_eq_ok_iff.mp success
      refine ih (fun before later after member => step before later after
        (List.mem_cons_of_mem _ member)) rest ?_
      exact step start item between (by simp) first holds

/-! ## Computations that fail -/

theorem bind_eq_error_iff {first : Except ε β} {next : β → Except ε γ} {fault : ε} :
    first >>= next = .error fault ↔
      first = .error fault ∨ ∃ value, first = .ok value ∧ next value = .error fault := by
  cases first <;> simp [bind, Except.bind]

/-- A traversal fails with the failure of the first item that fails. -/
theorem exists_first_of_mapM_eq_error {f : α → Except ε β} {items : List α} {fault : ε}
    (failure : items.mapM f = .error fault) :
    ∃ before item after, items = before ++ item :: after ∧
      (∀ other ∈ before, Succeeds (f other)) ∧ f item = .error fault := by
  induction items with
  | nil => cases failure
  | cons item items induction =>
      rw [List.mapM_cons] at failure
      rcases bind_eq_error_iff.mp failure with first | ⟨value, success, later⟩
      · exact ⟨[], item, items, rfl, by simp, first⟩
      · rcases bind_eq_error_iff.mp later with rest | ⟨_, -, impossible⟩
        · obtain ⟨before, failed, after, rfl, succeed, fails⟩ := induction rest
          exact ⟨item :: before, failed, after, rfl,
            List.forall_mem_cons.mpr ⟨⟨value, success⟩, succeed⟩, fails⟩
        · cases impossible

/-- A traversal fails with the failure of an item. -/
theorem exists_of_mapM_eq_error {f : α → Except ε β} {items : List α} {fault : ε}
    (failure : items.mapM f = .error fault) : ∃ item ∈ items, f item = .error fault := by
  obtain ⟨before, item, after, rfl, -, fails⟩ := exists_first_of_mapM_eq_error failure
  exact ⟨item, by simp, fails⟩

/-- A fold fails with the failure of an item, on what the items before it come to. -/
theorem exists_first_of_foldlM_eq_error {f : β → α → Except ε β} {items : List α} {start : β}
    {fault : ε} (failure : items.foldlM f start = .error fault) :
    ∃ before item after state, items = before ++ item :: after ∧
      before.foldlM f start = .ok state ∧ f state item = .error fault := by
  induction items generalizing start with
  | nil => cases failure
  | cons item items induction =>
      rw [List.foldlM_cons] at failure
      rcases bind_eq_error_iff.mp failure with first | ⟨between, success, rest⟩
      · exact ⟨[], item, items, start, rfl, rfl, first⟩
      · obtain ⟨before, failed, after, state, rfl, folded, fails⟩ := induction rest
        refine ⟨item :: before, failed, after, state, rfl, ?_, fails⟩
        rw [List.foldlM_cons, success]
        exact folded

/-- Whenever the computation fails, its failure is one of which `P` is true. -/
def FailsOnly (P : ε → Prop) (computation : Except ε β) : Prop :=
  ∀ fault, computation = .error fault → P fault

section FailsOnly

variable {P : ε → Prop}

theorem Succeeds.failsOnly {computation : Except ε β} (success : Succeeds computation) :
    FailsOnly P computation := by
  obtain ⟨value, rfl⟩ := success
  rintro fault ⟨⟩

theorem failsOnly_error {fault : ε} (holds : P fault) :
    FailsOnly P (.error fault : Except ε β) := by
  rintro _ ⟨⟩
  exact holds

theorem FailsOnly.bind {first : Except ε β} {next : β → Except ε γ} (here : FailsOnly P first)
    (later : ∀ value, first = .ok value → FailsOnly P (next value)) :
    FailsOnly P (first >>= next) := by
  intro fault failure
  rcases bind_eq_error_iff.mp failure with failed | ⟨value, success, failed⟩
  · exact here fault failed
  · exact later value success fault failed

theorem FailsOnly.mapM {f : α → Except ε β} {items : List α}
    (each : ∀ item ∈ items, FailsOnly P (f item)) : FailsOnly P (items.mapM f) := by
  intro fault failure
  obtain ⟨item, listed, failed⟩ := exists_of_mapM_eq_error failure
  exact each item listed fault failed

end FailsOnly

/-! ## Lists that correspond item by item -/

section Correspondence

variable {R : α → β → Prop} {items : List α} {results : List β}

theorem exists_of_mem_left (related : List.Forall₂ R items results) {item : α}
    (member : item ∈ items) : ∃ result ∈ results, R item result := by
  induction related with
  | nil => cases member
  | cons first _ ih =>
      rcases List.mem_cons.mp member with rfl | later
      · exact ⟨_, List.mem_cons_self, first⟩
      · obtain ⟨result, listed, holds⟩ := ih later
        exact ⟨result, List.mem_cons_of_mem _ listed, holds⟩

theorem exists_of_mem_right (related : List.Forall₂ R items results) {result : β}
    (member : result ∈ results) : ∃ item ∈ items, R item result :=
  exists_of_mem_left related.flip member

end Correspondence

end FallingSand
