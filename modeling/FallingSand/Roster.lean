import Std.Data.HashMap

/-!
# Rosters of distinct names

A roster is a growing list of distinct names together with the place of each.  Its one invariant
says that looking a name up and reading the list off agree.
-/

namespace FallingSand

/-- Distinct names in order of arrival. -/
structure Roster where
  /-- The names. -/
  names : Array String
  /-- The place of each name. -/
  places : Std.HashMap String Nat
  /-- A name is found at a place exactly when it stands there. -/
  places_iff : ∀ (name : String) (place : Nat),
    places[name]? = some place ↔ names[place]? = some name

namespace Roster

/-- The roster without names. -/
def empty : Roster where
  names := #[]
  places := ∅
  places_iff := by simp

/-- How many names there are. -/
def size (roster : Roster) : Nat :=
  roster.names.size

/-- The place of a name. -/
def find? (roster : Roster) (name : String) : Option Nat :=
  roster.places[name]?

/-- Whether a name is on the roster. -/
def contains (roster : Roster) (name : String) : Bool :=
  (roster.find? name).isSome

@[simp]
theorem size_empty : empty.size = 0 := rfl

@[simp]
theorem find?_empty (name : String) : empty.find? name = none := by
  simp [empty, find?]

theorem find?_eq_some_iff {roster : Roster} {name : String} {place : Nat} :
    roster.find? name = some place ↔ roster.names[place]? = some name :=
  roster.places_iff name place

theorem find?_lt {roster : Roster} {name : String} {place : Nat}
    (found : roster.find? name = some place) : place < roster.size := by
  have stands := find?_eq_some_iff.mp found
  exact (Array.getElem?_eq_some_iff.mp stands).1

theorem places_insert_iff (roster : Roster) (name : String) (fresh : roster.find? name = none)
    (other : String) (place : Nat) :
    (roster.places.insert name roster.names.size)[other]? = some place ↔
      (roster.names.push name)[place]? = some other := by
  rw [Std.HashMap.getElem?_insert, Array.getElem?_push]
  by_cases atEnd : place = roster.names.size
  · subst atEnd
    have absent : roster.places[other]? ≠ some roster.names.size := by
      intro found
      exact Nat.lt_irrefl _ (find?_lt found)
    by_cases same : name = other
    · simp [same]
    · simp [same, absent]
  · have agree := roster.places_iff other place
    by_cases same : name = other
    · subst same
      have gone : roster.names[place]? ≠ some name := by
        intro stands
        exact absurd (fresh.symm.trans (find?_eq_some_iff.mpr stands)) (by simp)
      simp [atEnd, gone, Ne.symm atEnd]
    · simp [atEnd, same, agree]

/-- Put a new name at the end. -/
def insert (roster : Roster) (name : String) (fresh : roster.find? name = none) : Roster :=
  let place := roster.names.size
  { names := roster.names.push name
    places := roster.places.insert name place
    places_iff := roster.places_insert_iff name fresh }

@[simp]
theorem size_insert (roster : Roster) (name : String) (fresh : roster.find? name = none) :
    (roster.insert name fresh).size = roster.size + 1 := by
  simp [insert, size]

@[simp]
theorem names_insert (roster : Roster) (name : String) (fresh : roster.find? name = none) :
    (roster.insert name fresh).names = roster.names.push name := rfl

end Roster
end FallingSand
