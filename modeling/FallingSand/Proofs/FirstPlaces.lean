import Mathlib.Data.List.Induction
import Mathlib.Data.List.Nodup
import Mathlib.Order.Bounds.Basic

/-!
# Lists without their repetitions

Of equal items in a list only the first is kept.  So what is left has the same items, each of them
once, in the order of their first places.  If the items of a list come in the order of some keys,
the first place of a text among them is that of its least key.
-/

namespace FallingSand

variable {α β : Type} [DecidableEq α]

/-- A last item is kept if it is new. -/
theorem eraseDups_concat (items : List α) (item : α) :
    (items ++ [item]).eraseDups =
      if item ∈ items then items.eraseDups else items.eraseDups ++ [item] := by
  rw [List.eraseDups_append, List.removeAll]
  split
  · rename_i listed
    simp [listed]
  · rename_i new
    simp [new, List.eraseDups_cons]

theorem nodup_eraseDups (items : List α) : items.eraseDups.Nodup := by
  induction items using List.reverseRecOn with
  | nil => exact List.nodup_nil
  | append_singleton items item induction =>
      rw [eraseDups_concat]
      split
      · exact induction
      · rename_i new
        rw [← List.concat_eq_append]
        exact induction.concat fun listed => new (List.mem_eraseDups.mp listed)

/-- What is filtered out may be left before equal items are. -/
theorem eraseDups_filter (keep : α → Bool) (items : List α) :
    (items.filter keep).eraseDups = items.eraseDups.filter keep := by
  induction items using List.reverseRecOn with
  | nil => rfl
  | append_singleton items item induction =>
      rw [eraseDups_concat, List.filter_append, apply_ite (List.filter keep), List.filter_append]
      by_cases keeps : keep item = true
      · have stays : [item].filter keep = [item] := List.filter_cons_of_pos keeps
        rw [stays, eraseDups_concat, induction]
        simp [keeps]
      · have goes : [item].filter keep = [] := List.filter_cons_of_neg keeps
        rw [goes, List.append_nil, List.append_nil, induction, ite_self]

theorem eraseDups_map [DecidableEq β] {f : α → β} (injective : f.Injective) (items : List α) :
    (items.map f).eraseDups = items.eraseDups.map f := by
  induction items using List.reverseRecOn with
  | nil => rfl
  | append_singleton items item induction =>
      rw [List.map_append, List.map_singleton, eraseDups_concat, eraseDups_concat, induction]
      simp only [List.mem_map_of_injective injective, apply_ite (List.map f), List.map_append,
        List.map_singleton]

/-- If there is room for so many different items only, a last item is kept if it is new and there
is room left. -/
theorem take_eraseDups_concat (items : List α) (item : α) (room : Nat) :
    (items ++ [item]).eraseDups.take room =
      if item ∉ items.eraseDups.take room ∧ (items.eraseDups.take room).length < room then
        items.eraseDups.take room ++ [item]
      else items.eraseDups.take room := by
  rw [eraseDups_concat]
  by_cases full : room ≤ items.eraseDups.length
  · have filled : (items.eraseDups.take room).length = room := List.length_take_of_le full
    have noRoom : ¬(item ∉ items.eraseDups.take room ∧
        (items.eraseDups.take room).length < room) := fun new => by omega
    rw [if_neg noRoom]
    split
    · rfl
    · exact List.take_append_of_le_length full
  · have roomy : items.eraseDups.length < room := Nat.lt_of_not_le full
    rw [List.take_of_length_le roomy.le]
    simp only [roomy, and_true, List.mem_eraseDups]
    by_cases listed : item ∈ items
    · rw [if_pos listed, if_neg (not_not_intro listed), List.take_of_length_le roomy.le]
    · rw [if_neg listed, if_pos listed, List.take_of_length_le]
      simpa using Nat.succ_le_of_lt roomy

/-! ## Order -/

/-- What is left comes in the order of first places. -/
theorem pairwise_eraseDups (items : List α) :
    items.eraseDups.Pairwise fun first second => items.idxOf first < items.idxOf second := by
  induction items using List.reverseRecOn with
  | nil => exact List.Pairwise.nil
  | append_singleton items item induction =>
      have kept : items.eraseDups.Pairwise fun first second =>
          (items ++ [item]).idxOf first < (items ++ [item]).idxOf second := by
        refine induction.imp_of_mem fun one other earlier => ?_
        rwa [List.idxOf_append_of_mem (List.mem_eraseDups.mp one),
          List.idxOf_append_of_mem (List.mem_eraseDups.mp other)]
      rw [eraseDups_concat]
      split
      · exact kept
      · rename_i new
        refine List.pairwise_append.mpr ⟨kept, List.pairwise_singleton _ _, ?_⟩
        intro first one last isLast
        obtain rfl := List.mem_singleton.mp isLast
        have inside := List.mem_eraseDups.mp one
        rw [List.idxOf_append_of_mem inside, List.idxOf_append_of_notMem new]
        exact Nat.lt_add_right _ (List.idxOf_lt_length_of_mem inside)

/-- Of two different items, the one that stands first in a list without repetitions is the one that
the order of the list puts first. -/
theorem idxOf_lt_iff_of_pairwise {items : List α} {R : α → α → Prop} (ordered : items.Pairwise R)
    (asymmetric : ∀ first second, R first second → ¬R second first) {first second : α}
    (one : first ∈ items) (other : second ∈ items) :
    items.idxOf first < items.idxOf second ↔ R first second := by
  have related {first second : α} (one : first ∈ items) (other : second ∈ items)
      (earlier : items.idxOf first < items.idxOf second) : R first second := by
    have inOrder := List.pairwise_iff_getElem.mp ordered _ _ (List.idxOf_lt_length_of_mem one)
      (List.idxOf_lt_length_of_mem other) earlier
    rwa [List.getElem_idxOf, List.getElem_idxOf] at inOrder
  refine ⟨related one other, fun inOrder => Nat.lt_of_not_le fun notEarlier => ?_⟩
  rcases Nat.lt_or_eq_of_le notEarlier with later | same
  · exact asymmetric _ _ inOrder (related other one later)
  · obtain rfl := (List.idxOf_inj other).mp same
    exact asymmetric _ _ inOrder inOrder

theorem idxOf_eraseDups_lt_iff {items : List α} {first second : α} (one : first ∈ items)
    (other : second ∈ items) :
    items.eraseDups.idxOf first < items.eraseDups.idxOf second ↔
      items.idxOf first < items.idxOf second :=
  idxOf_lt_iff_of_pairwise (pairwise_eraseDups items) (fun _ _ => Nat.lt_asymm)
    (List.mem_eraseDups.mpr one) (List.mem_eraseDups.mpr other)

/-- In the order of the keys, a text has its least key at its first place. -/
theorem exists_isLeast_at_idxOf {ι κ : Type} [LinearOrder κ] {items : List ι} {key : ι → κ}
    {text : ι → α} (ordered : items.Pairwise fun first second => key first < key second) {given : α}
    (listed : given ∈ items.map text) :
    ∃ item, items[(items.map text).idxOf given]? = some item ∧
      IsLeast {found | ∃ item ∈ items, text item = given ∧ key item = found} (key item) := by
  have inside := List.idxOf_lt_length_of_mem listed
  have bound : (items.map text).idxOf given < items.length := by simpa using inside
  refine ⟨_, List.getElem?_eq_getElem bound, ⟨_, List.getElem_mem bound, ?_, rfl⟩, ?_⟩
  · have here := List.getElem_idxOf inside
    rwa [List.getElem_map] at here
  · rintro _ ⟨item, there, same, rfl⟩
    obtain ⟨place, within, rfl⟩ := List.getElem_of_mem there
    have notBefore : (items.map text).idxOf given ≤ place := by
      refine le_of_not_gt fun earlier => ?_
      have different := List.not_of_lt_findIdx earlier
      rw [List.getElem_map, same, beq_self_eq_true] at different
      cases different
    rcases notBefore.eq_or_lt with rfl | later
    · exact le_refl _
    · exact (List.pairwise_iff_getElem.mp ordered _ _ bound within later).le

end FallingSand
