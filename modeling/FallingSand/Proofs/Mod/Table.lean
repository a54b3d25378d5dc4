import FallingSand.Proofs.Mod.Meaning

/-!
# The elements of a mod

In the table of a mod that compiles, every element has an identifier of its own and is found by its
name.  The rules of the mod lead to elements of the table only.
-/

namespace FallingSand

/-! ## Tables of elements -/

namespace ElementTable

/-- The identifier is that of an element. -/
def Knows (table : ElementTable) (id : ElementId) : Prop :=
  id.toNat < table.size

/-- Every element has an identifier, and by its name that identifier is found. -/
structure Named (table : ElementTable) : Prop where
  /-- There are not more elements than identifiers. -/
  size_le : table.size ≤ maxElements
  /-- What is found by the name of an element is that element. -/
  idOf?_nameOf {id : ElementId} (known : table.Knows id) : table.idOf? (table.nameOf id) = some id

/-- The identifiers of all elements in order. -/
def ids (table : ElementTable) : Array ElementId :=
  Array.ofFn fun place : Fin table.size => ⟨UInt16.ofNat place⟩

variable {table : ElementTable}

theorem get_mem (table : ElementTable) (id : ElementId) : table.get id ∈ table.entries := by
  rw [get]
  split
  · exact Array.getElem_mem _
  · exact Array.getElem_mem table.size_pos

theorem getElem_names {place : Nat} (inside : place < table.names.size) (named : table.Named) :
    table.Knows ⟨UInt16.ofNat place⟩ ∧
      table.names[place] = table.nameOf ⟨UInt16.ofNat place⟩ := by
  have listed : place < table.entries.size := by simpa [names] using inside
  have number : (⟨UInt16.ofNat place⟩ : ElementId).toNat = place :=
    UInt16.toNat_ofNat_of_lt' (Nat.lt_of_lt_of_le listed named.size_le)
  have known : table.Knows ⟨UInt16.ofNat place⟩ := by rwa [Knows, number]
  have within : (⟨UInt16.ofNat place⟩ : ElementId).toNat < table.entries.size := known
  refine ⟨known, ?_⟩
  rw [nameOf, get, dif_pos within]
  simp [names, number]

theorem getElem?_ids {id : ElementId} (known : table.Knows id) :
    table.ids[id.toNat]? = some id := by
  have within : id.index.toNat < table.size := known
  simp [ids, within, ElementId.toNat]

end ElementTable

/-! ## Rules -/

/-- All rules lead to elements of the table. -/
structure RuleSet.Closed (rules : RuleSet) : Prop where
  /-- What a transition makes of an element is an element. -/
  target : ∀ transition ∈ rules.transitions, rules.elements.Knows transition.target
  /-- What a reaction makes of two neighbors are two elements. -/
  outcome : ∀ reaction ∈ rules.reactions,
    rules.elements.Knows reaction.outLeft ∧ rules.elements.Knows reaction.outRight

namespace Declarations

variable {declarations : Declarations} {rules : RuleSet}

/-- The elements of a compiled mod are numbered as they are declared. -/
theorem nameOf_of_vocabulary (compiled : declarations.compile = .ok rules) (id : ElementId)
    {name : String}
    (listed : (Vocabulary.initial.extend declarations.entries).elements[id.toNat]? = some name) :
    id.toNat < rules.elements.size ∧ rules.elements.nameOf id = name := by
  obtain ⟨declared, directives, gathered, -, -, rfl⟩ := compile_eq_ok_iff.mp compiled
  rw [← (Declared.lists_of_gathered gathered).elements, Array.getElem?_toList] at listed
  have inside : id.toNat < declared.catalog.size := (Array.getElem?_eq_some_iff.mp listed).1
  constructor
  · rw [Declared.size_ruleSet]
    exact inside
  · rw [Declared.nameOf_ruleSet inside, Declared.nameOf, listed, Option.getD_some]

theorem named_of_compile (compiled : declarations.compile = .ok rules) : rules.elements.Named := by
  obtain ⟨declared, directives, -, -, -, rfl⟩ := compile_eq_ok_iff.mp compiled
  constructor
  · rw [Declared.size_ruleSet]
    exact declared.catalog.size_le
  · intro id known
    rw [ElementTable.Knows, Declared.size_ruleSet] at known
    rw [Declared.idOf?_ruleSet, Declared.nameOf_ruleSet known, Declared.find?_nameOf known,
      Option.map_some]
    simp [ElementId.toNat]

theorem closed_of_compile (compiled : declarations.compile = .ok rules) : rules.Closed := by
  obtain ⟨declared, directives, gathered, checked, -, rfl⟩ := compile_eq_ok_iff.mp compiled
  constructor
  · intro transition given
    have listed := Declared.mem_transitions.mp given
    have inside := (Declared.transition_sound gathered checked listed).2
    rw [ElementTable.Knows, Declared.size_ruleSet]
    exact inside _ (by simp)
  · intro reaction given
    have listed := Declared.mem_reactions.mp given
    have inside := (Declared.reaction_sound gathered checked listed).2
    rw [ElementTable.Knows, ElementTable.Knows, Declared.size_ruleSet]
    exact ⟨inside _ (by simp), inside _ (by simp)⟩

end Declarations

/-- The acid and the salt of a mod that declares them first are elements of its table. -/
theorem knows_dissolving {rules : RuleSet} (compiled : dissolving.compile = .ok rules) :
    rules.elements.Knows ⟨1⟩ ∧ rules.elements.Knows ⟨2⟩ := by
  have acid : (Vocabulary.initial.extend dissolving.entries).elements[1]? = some "Acid" := by
    decide
  have salt : (Vocabulary.initial.extend dissolving.entries).elements[2]? = some "Salt" := by
    decide
  exact ⟨(Declarations.nameOf_of_vocabulary compiled ⟨1⟩ acid).1,
    (Declarations.nameOf_of_vocabulary compiled ⟨2⟩ salt).1⟩

end FallingSand
