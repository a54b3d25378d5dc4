import FallingSand.Proofs.Mod.Meaning
import FallingSand.Proofs.Mod.Precedence
import FallingSand.Proofs.Mod.Values

/-!
# Which tags an element has

A statement reaches an element if all of its clauses can be met by tuples that follow such that the
subject of the statement stands for the element.  Nothing is weighed when an element is tagged, so
its tags are exactly those of the statements that reach it.
-/

namespace FallingSand

/-- All clauses can be met by tuples that follow, with the term standing for the name. -/
def Reaches (entries : List Entry) (clauses : List Clause) (term : Term) (name : String) : Prop :=
  ∃ names : String → String, term.read names = name ∧
    ∀ clause ∈ clauses, Follows entries clause.relation (clause.terms.map (Term.read names))

/-! ## Tags that are given -/

theorem mem_orderedUnique {pieces : Array (Provenance × String)} {text : String} :
    text ∈ orderedUnique pieces ↔ ∃ provenance, (provenance, text) ∈ pieces := by
  simp [orderedUnique, List.mem_eraseDups]

namespace Catalog

variable {catalog : Catalog} {id other : ElementId}

/-- The tags that an element has been given so far. -/
def tagsOf (catalog : Catalog) (id : ElementId) : Array (Provenance × String) :=
  (catalog.drafts[id.toNat]?.map (·.tags)).getD #[]

theorem tagsOf_revise_of_same (id other : ElementId) {change : Draft → Draft}
    (same : ∀ draft, (change draft).tags = draft.tags) :
    (catalog.revise id change).tagsOf other = catalog.tagsOf other := by
  rw [tagsOf, tagsOf, revise, Array.getElem?_modify]
  split
  · cases catalog.drafts[other.toNat]? with
    | none => rfl
    | some draft => simp [same]
  · rfl

theorem tagsOf_addTag (catalog : Catalog) (text : String) (provenance : Provenance) :
    (catalog.addTag id text provenance).tagsOf other =
      if id = other ∧ id.toNat < catalog.size then (catalog.tagsOf other).push (provenance, text)
      else catalog.tagsOf other := by
  rw [tagsOf, tagsOf, addTag, revise, Array.getElem?_modify]
  by_cases here : id = other
  · subst here
    by_cases inside : id.toNat < catalog.drafts.size
    · have known : id.toNat < catalog.size := by
        rw [size, ← catalog.size_drafts]
        exact inside
      simp [inside, known, Draft.addTag]
    · have missing : ¬id.toNat < catalog.size := by
        rw [size, ← catalog.size_drafts]
        exact inside
      simp [inside, missing]
  · have elsewhere : id.toNat ≠ other.toNat := fun same => here (ElementId.toNat_injective same)
    rw [if_neg elsewhere, if_neg fun both => here both.1]

theorem tags_resolveAll (catalog : Catalog) (relationsOf : ElementId → List String)
    (inside : id.toNat < catalog.size) :
    ((catalog.resolveAll relationsOf).get id).tags = orderedUnique (catalog.tagsOf id) := by
  obtain ⟨draft, name, stands, -, finished⟩ := exists_get_resolveAll relationsOf inside
  rw [finished, tagsOf, stands]
  rfl

end Catalog

namespace Consequence

variable {catalog : Catalog} {id : ElementId} {text : String} {provenance : Provenance}

theorem mem_tagsOf_addTo (inside : id.toNat < catalog.size) (consequence : Consequence) :
    (provenance, text) ∈ (addTo catalog consequence).tagsOf id ↔
      (provenance, text) ∈ catalog.tagsOf id ∨ consequence = .tag id text provenance := by
  cases consequence with
  | tag subject given origin =>
      rw [addTo, Catalog.tagsOf_addTag]
      by_cases here : subject = id
      · subst here
        simp [inside, Array.mem_push, and_comm, eq_comm]
      · simp [here]
  | property subject key value origin =>
      have same : (addTo catalog (.property subject key value origin)).tagsOf id =
          catalog.tagsOf id := Catalog.tagsOf_revise_of_same subject id fun _ => rfl
      simp [same]
  | displayName subject given origin =>
      have same : (addTo catalog (.displayName subject given origin)).tagsOf id =
          catalog.tagsOf id := Catalog.tagsOf_revise_of_same subject id fun _ => rfl
      simp [same]
  | description subject given origin =>
      have same : (addTo catalog (.description subject given origin)).tagsOf id =
          catalog.tagsOf id := Catalog.tagsOf_revise_of_same subject id fun _ => rfl
      simp [same]
  | reaction rule => simp [addTo]
  | transition rule => simp [addTo]

/-- The tags in the end are those before and those among the consequences. -/
theorem mem_tagsOf_foldl {consequences : List Consequence} (inside : id.toNat < catalog.size) :
    (provenance, text) ∈ (consequences.foldl addTo catalog).tagsOf id ↔
      (provenance, text) ∈ catalog.tagsOf id ∨ .tag id text provenance ∈ consequences := by
  induction consequences generalizing catalog with
  | nil => simp
  | cons consequence consequences induction =>
      rw [List.foldl_cons, induction ((size_addTo catalog consequence).symm ▸ inside),
        mem_tagsOf_addTo inside, List.mem_cons, or_assoc, @eq_comm _ consequence]

end Consequence

namespace Directive

variable {directive : Directive} {row : Row} {id : ElementId} {text : String}

theorem consequence?_tag {place : Nat} {provenance : Provenance}
    (success : directive.consequence? place row = some (.tag id text provenance)) :
    ∃ subject, directive.action = .tag subject text ∧ row.element? subject = some id := by
  rw [consequence?] at success
  split at success
  case h_3 subject _ action =>
    obtain ⟨_, found, same⟩ := Option.map_eq_some_iff.mp success
    cases same
    exact ⟨subject, action, found⟩
  case h_6 => split at success <;> cases success
  case h_7 => split at success <;> cases success
  case h_1 => cases success
  all_goals
    obtain ⟨_, -, different⟩ := Option.map_eq_some_iff.mp success
    cases different

end Directive

namespace Declared

variable {declared : Declared} {directives : List Directive} {entries : List Entry}
  {entry : Entry} {directive : Directive} {id : ElementId} {text : String}

/-- An element has the tags that its consequences give it. -/
theorem hasTag_ruleSet (gathered : Declared.ofEntries entries = .ok declared)
    (directives : List Directive) (inside : id.toNat < declared.catalog.size) :
    ((declared.ruleSet directives).elements.get id).hasTag text = true ↔
      ∃ provenance, .tag id text provenance ∈ declared.consequences directives := by
  have names := Consequence.names_foldl_addTo declared.catalog (declared.consequences directives)
  have untagged : declared.catalog.tagsOf id = #[] := by
    rw [Catalog.tagsOf]
    cases stands : declared.catalog.drafts[id.toNat]? with
    | none => rfl
    | some draft =>
        obtain ⟨color, rfl⟩ := (blank_of_gathered gathered).1 draft (Array.mem_of_getElem? stands)
        rfl
  rw [Element.hasTag, List.contains_iff_mem, ruleSet, RuleSet.ofRules, Catalog.tags_resolveAll _ _
    (by rw [Catalog.size, names]; exact inside), mem_orderedUnique]
  simp only [Consequence.mem_tagsOf_foldl inside, untagged, Array.not_mem_empty, false_or]

/-! ## Statements that give them -/

/-- The directive of a tag statement tags what its subject stands for. -/
theorem exists_tag (directs : declared.Directs entry directive) {subject : Term}
    (statement : entry.statement = .tag subject text) :
    ∃ slot, directive.action = .tag slot text ∧
      declared.ResolvesUnder entry.clauses subject slot := by
  have acts := directs.acts
  have slots := directs.slots
  rw [statement] at acts slots
  generalize directive.action = action at acts slots
  cases acts with
  | tag =>
      obtain _ | ⟨first, -⟩ := slots
      exact ⟨_, rfl, first⟩

/-- Only a tag statement has a directive that tags something. -/
theorem tag_of_directs (directs : declared.Directs entry directive) {slot : Slot}
    (action : directive.action = .tag slot text) :
    ∃ subject, entry.statement = .tag subject text ∧
      declared.ResolvesUnder entry.clauses subject slot := by
  have acts := directs.acts
  have slots := directs.slots
  rw [action] at acts slots
  generalize entry.statement = statement at acts slots
  cases acts with
  | tag =>
      obtain _ | ⟨first, -⟩ := slots
      exact ⟨_, rfl, first⟩

section Closed

variable (gathered : Declared.ofEntries entries = .ok declared)
  (checked : declared.directives entries = .ok directives)

include gathered checked

/-- An entry reaches the elements that its rows give to the slot of the term. -/
theorem reaches_iff (directs : declared.Directs entry directive) {term : Term} {slot : Slot}
    (resolves : declared.ResolvesUnder entry.clauses term slot)
    (inside : id.toNat < declared.catalog.size) :
    Reaches entries entry.clauses term (declared.nameOf id) ↔
      ∃ row ∈ (declared.closed directives).rows directive.patterns,
        row.element? slot = some id := by
  have covers {row : Row} (listed : row ∈ (declared.closed directives).rows directive.patterns) :
      row.Covers slot :=
    covers_of_resolvesUnder directs.patterns (fun slot ⟨pattern, picked, filled⟩ =>
      (Registry.held_of_mem_rows (fits_closed gathered checked directs) listed).2 pattern picked
        slot filled) resolves
  constructor
  · rintro ⟨names, read, follows⟩
    obtain ⟨row, listed, admits⟩ := exists_row_of_metBy gathered checked directs
      ((metBy_iff gathered checked).mpr follows)
    refine ⟨row, listed, (Row.element?_eq_value admits (covers listed)).trans ?_⟩
    rw [value_identify resolves.1 inside read.symm]
  · rintro ⟨row, listed, found⟩
    refine ⟨fun name => declared.nameOf (row.solution name), ?_, (metBy_iff gathered checked).mp
      (metBy_of_mem_rows gathered checked directs listed)⟩
    rw [Row.element?_eq_value row.admits_solution (covers listed)] at found
    rw [← nameOf_value resolves.1, Option.some.inj found]

/-- The tags of an element are those of the statements that reach it. -/
theorem hasTag_iff (inside : id.toNat < declared.catalog.size) :
    ((declared.ruleSet directives).elements.get id).hasTag text = true ↔
      ∃ entry ∈ entries, ∃ subject, entry.statement = .tag subject text ∧
        Reaches entries entry.clauses subject (declared.nameOf id) := by
  rw [hasTag_ruleSet gathered directives inside]
  constructor
  · rintro ⟨provenance, listed⟩
    obtain ⟨directive, given, among⟩ := List.mem_flatMap.mp listed
    obtain ⟨row, picked, place, success⟩ := Directive.exists_row_of_mem_consequences among
    obtain ⟨entry, standing, directs⟩ := exists_entry checked given
    obtain ⟨slot, action, found⟩ := Directive.consequence?_tag success
    obtain ⟨subject, statement, resolves⟩ := tag_of_directs directs action
    exact ⟨entry, standing, subject, statement,
      (reaches_iff gathered checked directs resolves inside).mpr ⟨row, picked, found⟩⟩
  · rintro ⟨entry, standing, subject, statement, reaches⟩
    obtain ⟨directive, given, directs⟩ :=
      exists_directive checked standing (by rw [statement]; rfl)
    obtain ⟨slot, action, resolves⟩ := exists_tag directs statement
    obtain ⟨row, picked, found⟩ :=
      (reaches_iff gathered checked directs resolves inside).mp reaches
    have applies (place : Nat) : directive.consequence? place row =
        some (.tag id text (directive.provenance row slot)) := by
      simp [Directive.consequence?, action, found]
    exact ⟨_, List.mem_flatMap.mpr
      ⟨directive, given, Directive.mem_consequences_of_row picked applies⟩⟩

end Closed

end Declared

end FallingSand
