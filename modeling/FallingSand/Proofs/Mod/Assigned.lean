import FallingSand.Proofs.Mod.Bindings
import FallingSand.Proofs.Mod.Tags

/-!
# Which values statements assign

A property statement assigns its value to every element that it reaches, and nothing else assigns
anything.  Of what is inherited through one membership the last statement decides.
-/

namespace FallingSand

namespace Declared

variable {declared : Declared} {directives : List Directive} {entries : List Entry}
  {entry : Entry} {directive : Directive} {id : ElementId} {key : PropertyKey} {value : Single}

section Closed

variable (gathered : Declared.ofEntries entries = .ok declared)
  (checked : declared.directives entries = .ok directives)
  (inside : id.toNat < declared.catalog.size)

include gathered checked inside

/-- A property is assigned by a statement that reaches the element. -/
theorem exists_source_of_property {provenance : Provenance}
    (listed : .property id key value provenance ∈ declared.consequences directives) :
    ∃ directive ∈ directives, ∃ entry, entries[directive.ordinal]? = some entry ∧
      declared.Directs entry directive ∧ ∃ term slot,
        entry.statement = .property key term value ∧
        directive.action = .property key slot value ∧ declared.Resolves term slot ∧
        Reaches entries entry.clauses term (declared.nameOf id) ∧
        ∃ row ∈ (declared.closed directives).rows directive.patterns,
          row.element? slot = some id ∧ provenance = directive.provenance row slot := by
  obtain ⟨directive, given, among⟩ := List.mem_flatMap.mp listed
  obtain ⟨row, picked, place, success⟩ := Directive.exists_row_of_mem_consequences among
  obtain ⟨entry, numbered, directs⟩ := exists_entry_at checked given
  obtain ⟨slot, action, found, same⟩ := Directive.consequence?_property success
  obtain ⟨term, statement, resolves⟩ := property_of_directs directs action
  exact ⟨directive, given, entry, numbered, directs, term, slot, statement, action, resolves.1,
    (reaches_iff gathered checked directs resolves inside).mpr ⟨row, picked, found⟩, row, picked,
    found, same⟩

/-- A property statement assigns its value to an element that it reaches. -/
theorem exists_consequence_of_reaches {ordinal : Nat} (numbered : entries[ordinal]? = some entry)
    {term : Term} (statement : entry.statement = .property key term value)
    (reaches : Reaches entries entry.clauses term (declared.nameOf id)) :
    ∃ directive slot, directive.ordinal = ordinal ∧ declared.Directs entry directive ∧
      declared.Resolves term slot ∧
      ∃ row ∈ (declared.closed directives).rows directive.patterns,
        row.element? slot = some id ∧
        .property id key value (directive.provenance row slot) ∈
          declared.consequences directives := by
  obtain ⟨directive, given, same, directs⟩ :=
    exists_directive_at checked numbered (by rw [statement]; rfl)
  obtain ⟨slot, action, resolves⟩ := exists_property directs statement
  obtain ⟨row, picked, found⟩ := (reaches_iff gathered checked directs resolves inside).mp reaches
  have applies (place : Nat) : directive.consequence? place row =
      some (.property id key value (directive.provenance row slot)) := by
    simp [Directive.consequence?, action, found]
  exact ⟨directive, slot, same, directs, resolves.1, row, picked, found, List.mem_flatMap.mpr
    ⟨directive, given, Directive.mem_consequences_of_row picked applies⟩⟩

/-- A property that is given to an element by no statement that reaches it is zero. -/
theorem value_of_not_reached (unreached : ∀ entry ∈ entries, ∀ term value,
    entry.statement = .property key term value →
      ¬Reaches entries entry.clauses term (declared.nameOf id)) :
    ((declared.ruleSet directives).elements.properties id).get key = Single.zero := by
  rcases value_ruleSet gathered directives inside key with ⟨provenance, wins, -⟩ | ⟨-, zero⟩
  · obtain ⟨directive, -, entry, numbered, -, term, slot, statement, -, -, reaches, -⟩ :=
      exists_source_of_property gathered checked inside wins
    exact absurd reaches (unreached entry (List.mem_of_getElem? numbered) term _ statement)
  · exact zero

omit checked in
/-- If all that is said about a property of an element has the same origin, the last statement that
says it decides. -/
theorem value_of_inherited {origin : Origin} {ordinal : Nat}
    (numbered : entries[ordinal]? = some entry) {term : Term}
    (statement : entry.statement = .property key term value)
    (applies : .property id key value (.inherited origin ordinal) ∈
      declared.consequences directives)
    (sources : ∀ given provenance,
      .property id key given provenance ∈ declared.consequences directives →
        ∃ later other term, entries[later]? = some other ∧
          other.statement = .property key term given ∧
            provenance = .inherited origin later ∧ ¬ordinal < later) :
    ((declared.ruleSet directives).elements.properties id).get key = value := by
  rcases value_ruleSet gathered directives inside key with
    ⟨provenance, wins, greatest⟩ | ⟨absent, -⟩
  · obtain ⟨winner, other, otherTerm, there, given, rfl, notLater⟩ := sources _ _ wins
    have earlier : ordinal ≤ winner := Provenance.statement_le (greatest _ _ applies)
    obtain rfl : ordinal = winner := by omega
    obtain rfl := Option.some.inj (there.symm.trans numbered)
    rw [statement] at given
    exact (Statement.property.inj given).2.2.symm
  · exact absurd applies (absent _ _)

/-- If a property is given under one clause only, of whose relation there is one membership, the
last statement decides for what it reaches. -/
theorem value_of_last (clause : Clause) {origin : Origin}
    (sole : ∀ relation ∈ (declared.closed directives).relations, relation.name = clause.relation →
      ∀ membership ∈ relation.members, membership.origin = origin)
    (single : ∀ entry ∈ entries, ∀ term value, entry.statement = .property key term value →
      entry.clauses = [clause])
    {ordinal : Nat} (numbered : entries[ordinal]? = some entry) {term : Term}
    (statement : entry.statement = .property key term value)
    (last : ∀ other ∈ entries.drop (ordinal + 1), ∀ term given,
      other.statement ≠ .property key term given)
    (reaches : Reaches entries entry.clauses term (declared.nameOf id)) :
    ((declared.ruleSet directives).elements.properties id).get key = value := by
  have inherits {entry : Entry} {directive : Directive} {term : Term} {value : Single}
      (standing : entry ∈ entries) (directs : declared.Directs entry directive)
      (statement : entry.statement = .property key term value) {row : Row}
      (picked : row ∈ (declared.closed directives).rows directive.patterns) (slot : Slot) :
      directive.provenance row slot = .inherited origin directive.ordinal := by
    obtain ⟨pattern, same, comes⟩ :=
      exists_pattern_of_single directs (single entry standing term value statement)
    obtain ⟨membership, held, provenance⟩ := Directive.provenance_of_single same picked slot
    obtain ⟨relation, stands, member⟩ := exists_relation_of_mem_membersAt held
    rw [provenance, sole relation (Array.mem_of_getElem? stands)
      (name_of_find? gathered stands comes.relation) membership member]
  obtain ⟨directive, slot, rfl, directs, -, row, picked, -, applies⟩ :=
    exists_consequence_of_reaches gathered checked inside numbered statement reaches
  rw [inherits (List.mem_of_getElem? numbered) directs statement picked] at applies
  refine value_of_inherited gathered inside numbered statement applies ?_
  intro assigned provenance listed
  obtain ⟨winner, -, other, there, otherDirects, otherTerm, otherSlot, given, -, -, -, otherRow,
    otherPicked, -, rfl⟩ := exists_source_of_property gathered checked inside listed
  refine ⟨winner.ordinal, other, otherTerm, there, given,
    inherits (List.mem_of_getElem? there) otherDirects given otherPicked otherSlot, ?_⟩
  intro after
  obtain ⟨more, further⟩ := Nat.exists_eq_add_of_lt after
  rw [further, Nat.add_right_comm, ← List.getElem?_drop] at there
  exact last other (List.mem_of_getElem? there) _ _ given

end Closed

end Declared
end FallingSand
