import Std.Data.HashMap

/-!
# Buckets

A table that finds the items of a list with a given key.  Looking a key up gives exactly the sublist
of the items with that key, in the order of the list.
-/

namespace FallingSand

/-- The items of a list, gathered by key. -/
structure Buckets {κ α : Type} [BEq κ] [Hashable κ] (key : α → κ) (items : List α) where
  /-- The items of each key. -/
  table : Std.HashMap κ (List α)
  /-- A bucket is a sublist of the items. -/
  getD_table : ∀ wanted, table.getD wanted [] = items.filter fun item => key item == wanted

namespace Buckets

variable {κ α : Type} [BEq κ] [Hashable κ]

/-- Gather the items of a list. -/
def ofList [LawfulBEq κ] (key : α → κ) : (items : List α) → Buckets key items
  | [] => { table := ∅, getD_table := by simp }
  | item :: items =>
      let rest := ofList key items
      { table := rest.table.insert (key item) (item :: rest.table.getD (key item) [])
        getD_table := by
          intro wanted
          rw [Std.HashMap.getD_insert, List.filter_cons]
          by_cases same : key item == wanted
          · have equal : key item = wanted := eq_of_beq same
            rw [if_pos same, if_pos same, ← equal, rest.getD_table]
          · rw [if_neg same, if_neg same, rest.getD_table] }

/-- The items with a key. -/
def get {key : α → κ} {items : List α} (buckets : Buckets key items) (wanted : κ) : List α :=
  buckets.table.getD wanted []

theorem get_eq_filter {key : α → κ} {items : List α} (buckets : Buckets key items) (wanted : κ) :
    buckets.get wanted = items.filter fun item => key item == wanted :=
  buckets.getD_table wanted

end Buckets
end FallingSand
