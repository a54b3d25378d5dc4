import FallingSand.Proofs.Mod.Precedence
import FallingSand.Proofs.Mod.Reordering
import Mathlib.Algebra.Order.BigOperators.Group.List
import Mathlib.Algebra.Order.Group.Nat

/-!
# What a mod says

A block is not among the things that a mod says: it only puts its clauses around the statements of
its body.  Mods that say the same compile to the same rule set up to ordinals, however their blocks
are cut, provided that no block of one has a clause that the other lacks.
-/

namespace FallingSand

/-! ## Contents -/

namespace Entry

/-- The entry without its position, unless it is a block. -/
def content? (entry : Entry) : Option Entry :=
  entry.statement.plain?.map fun statement => ⟨[], entry.clauses, statement⟩

theorem eq_of_content? {entry content : Entry} (found : entry.content? = some content) :
    ⟨[], entry.clauses, entry.statement⟩ = content := by
  obtain ⟨path, clauses, statement⟩ := entry
  cases statement <;> cases found <;> rfl

end Entry

namespace Statement

mutual

/-- The entries of a statement that are not blocks, without their positions. -/
def contents (clauses : List Clause) : Statement → List Entry
  | .block own body => contentsOf (clauses ++ own) body
  | statement => [⟨[], clauses, statement⟩]

/-- The entries of consecutive statements that are not blocks, without their positions. -/
def contentsOf (clauses : List Clause) : List Statement → List Entry
  | [] => []
  | statement :: rest => contents clauses statement ++ contentsOf clauses rest

end

mutual

/-- The clauses of all blocks in a statement. -/
def headers : Statement → List Clause
  | .block own body => own ++ headersOf body
  | _ => []

/-- The clauses of all blocks in consecutive statements. -/
def headersOf : List Statement → List Clause
  | [] => []
  | statement :: rest => headers statement ++ headersOf rest

end

mutual

theorem filterMap_content?_entries (path : List Nat) (clauses : List Clause) :
    (statement : Statement) →
      (statement.entries path clauses).filterMap Entry.content? = statement.contents clauses
  | .block own body => by
      rw [entries, contents, List.filterMap_cons]
      exact filterMap_content?_entriesFrom path (clauses ++ own) 0 body
  | .title _ | .element _ _ | .relation _ _ | .member _ _ | .property _ _ _ | .tag _ _
  | .name _ _ | .description _ _ | .reaction _ _ _ _ _ | .transition _ _ _ => rfl

theorem filterMap_content?_entriesFrom (parent : List Nat) (clauses : List Clause) (index : Nat) :
    (statements : List Statement) →
      (entriesFrom parent clauses index statements).filterMap Entry.content? =
        contentsOf clauses statements
  | [] => rfl
  | statement :: rest => by
      rw [entriesFrom, contentsOf, List.filterMap_append,
        filterMap_content?_entries (parent ++ [index]) clauses statement,
        filterMap_content?_entriesFrom parent clauses (index + 1) rest]

end

mutual

theorem flatMap_header_entries (path : List Nat) (clauses : List Clause) :
    (statement : Statement) →
      (statement.entries path clauses).flatMap (·.statement.header) = statement.headers
  | .block own body => by
      rw [entries, headers, List.flatMap_cons,
        flatMap_header_entriesFrom path (clauses ++ own) 0 body]
      rfl
  | .title _ | .element _ _ | .relation _ _ | .member _ _ | .property _ _ _ | .tag _ _
  | .name _ _ | .description _ _ | .reaction _ _ _ _ _ | .transition _ _ _ => rfl

theorem flatMap_header_entriesFrom (parent : List Nat) (clauses : List Clause) (index : Nat) :
    (statements : List Statement) →
      (entriesFrom parent clauses index statements).flatMap (·.statement.header) =
        headersOf statements
  | [] => rfl
  | statement :: rest => by
      rw [entriesFrom, headersOf, List.flatMap_append,
        flatMap_header_entries (parent ++ [index]) clauses statement,
        flatMap_header_entriesFrom parent clauses (index + 1) rest]

end

end Statement

namespace Declarations

/-- What a mod says, in order. -/
def contents (declarations : Declarations) : List Entry :=
  Statement.contentsOf [] declarations

/-- The clauses of all blocks of a mod. -/
def headers (declarations : Declarations) : List Clause :=
  Statement.headersOf declarations

variable {declarations : Declarations}

theorem filterMap_content? :
    declarations.entries.filterMap Entry.content? = declarations.contents :=
  Statement.filterMap_content?_entriesFrom [] [] 0 declarations

theorem mem_headers_iff {clause : Clause} :
    clause ∈ declarations.headers ↔
      ∃ entry ∈ declarations.entries, clause ∈ entry.statement.header := by
  rw [headers, ← Statement.flatMap_header_entriesFrom [] [] 0 declarations]
  exact List.mem_flatMap

end Declarations

/-! ## Gathering and checking contents -/

/-- The directive under the first ordinal and at the top, whatever it had. -/
def Directive.bare : Directive → Directive :=
  recast (fun _ => 0) fun _ => []

theorem Entry.locate_eq_ok_iff {α : Type} {entry : Entry} {result : Except Fault α} {value : α} :
    entry.locate result = .ok value ↔ result = .ok value := by
  cases result <;> simp [locate]

namespace Declared

variable {declared : Declared} {entries : List Entry} {directives : List Directive}

theorem foldlM_add_contents {after : Declared} :
    (entries.foldlM (fun declared entry => entry.locate (declared.add entry)) declared =
        .ok after) ↔
      (entries.filterMap Entry.content?).foldlM
        (fun declared entry => entry.locate (declared.add entry)) declared = .ok after := by
  induction entries generalizing declared with
  | nil => rfl
  | cons entry entries induction =>
      obtain ⟨path, clauses, statement⟩ := entry
      cases statement with
      | block own body => exact induction
      | _ =>
          rw [List.foldlM_cons, bind_eq_ok_iff, List.filterMap_cons]
          simp only [Entry.content?, Statement.plain?, Option.map_some, List.foldlM_cons,
            bind_eq_ok_iff]
          refine exists_congr fun between => and_congr ?_ induction
          exact Entry.locate_eq_ok_iff.trans Entry.locate_eq_ok_iff.symm

/-- Blocks declare nothing. -/
theorem ofEntries_contents :
    ofEntries entries = .ok declared ↔
      ofEntries (entries.filterMap Entry.content?) = .ok declared :=
  foldlM_add_contents

/-- The directive of an entry, bare of ordinal and path, if the entry is checked and has one. -/
def bare? (declared : Declared) (entry : Entry) : Option Directive :=
  match declared.directive? ⟨[], entry.clauses, entry.statement⟩ 0 with
  | .ok found => found
  | .error _ => none

theorem bare?_of_directive? {entry : Entry} {ordinal : Nat} {found : Option Directive}
    (success : declared.directive? entry ordinal = .ok found) :
    declared.bare? entry = found.map Directive.bare := by
  obtain ⟨patterns, resolved, rest⟩ := bind_eq_ok_iff.mp success
  obtain ⟨action, acted, rest⟩ := bind_eq_ok_iff.mp rest
  rw [bare?, directive?, resolved, ok_bind, acted, ok_bind]
  cases action <;> cases rest <;> rfl

/-- The directives of a mod are those of its entries one by one. -/
theorem map_bare_directives (checked : declared.directives entries = .ok directives) :
    directives.map Directive.bare = entries.filterMap declared.bare? := by
  obtain ⟨results, resolved, same⟩ := bind_eq_ok_iff.mp checked
  cases same
  have bares : entries.zipIdx.map (fun numbered => declared.bare? numbered.1) =
      results.map (Option.map Directive.bare) := by
    rw [← List.forall₂_eq_eq_eq, List.forall₂_map_left_iff, List.forall₂_map_right_iff]
    exact (mapM_eq_ok_iff.mp resolved).imp fun _ _ located =>
      bare?_of_directive? (Entry.locate_eq_ok located)
  have first : (fun numbered : Entry × Nat => declared.bare? numbered.1) =
      declared.bare? ∘ Prod.fst := rfl
  rw [first, ← List.map_map, List.zipIdx_map_fst] at bares
  calc
    (results.filterMap id).map Directive.bare =
        (results.map (Option.map Directive.bare)).filterMap id := by
      rw [List.map_filterMap, List.filterMap_map]
      rfl
    _ = entries.filterMap declared.bare? := by
      rw [← bares, List.filterMap_map]
      rfl

/-- Blocks have no directives. -/
theorem bare?_block (path : List Nat) (clauses own : List Clause) (body : List Statement) :
    declared.bare? ⟨path, clauses, .block own body⟩ = none := by
  rw [bare?]
  split
  · rename_i found success
    have yields := yields_of_directive? success
    generalize (0 : Nat) = ordinal at yields
    cases yields with
    | silent _ => rfl
    | directive directs => nomatch directs.acts
  · rfl

theorem filterMap_bare?_contents :
    (entries.filterMap Entry.content?).filterMap declared.bare? =
      entries.filterMap declared.bare? := by
  rw [List.filterMap_filterMap]
  refine List.filterMap_congr fun ⟨path, clauses, statement⟩ _ => ?_
  cases statement with
  | block own body => exact (bare?_block path clauses own body).symm
  | _ => rfl

end Declared

/-- What passes the checks of a mod passes them in any mod that says no more and has no clauses of
its own. -/
theorem Declarations.checks_of_contents {first second : Declarations} {vocabulary : Vocabulary}
    (contents : second.contents ⊆ first.contents) (headers : second.headers ⊆ first.headers)
    (fits : ∀ entry ∈ first.entries, vocabulary.FitsEntry entry) :
    ∀ entry ∈ second.entries, vocabulary.FitsEntry entry := by
  have heads {entry : Entry} (listed : entry ∈ second.entries) {clause : Clause}
      (heading : clause ∈ entry.statement.header) : vocabulary.FitsClause clause := by
    obtain ⟨other, inside, there⟩ :=
      mem_headers_iff.mp (headers (mem_headers_iff.mpr ⟨entry, listed, heading⟩))
    have statement := (fits other inside).2.1
    cases shape : other.statement with
    | block own body =>
        rw [shape] at statement there
        exact statement clause there
    | _ => simp [shape, Statement.header] at there
  intro entry listed
  cases shape : entry.statement with
  | block own body =>
      refine ⟨fun clause around => ?_, ?_, ?_⟩
      · obtain ⟨other, inside, heading⟩ := exists_header listed around
        exact heads inside heading
      · rw [shape]
        exact fun clause own => heads listed (by rw [shape]; exact own)
      · rw [shape]
        exact fun term used => absurd used List.not_mem_nil
  | _ =>
      have said : ⟨[], entry.clauses, entry.statement⟩ ∈ second.contents := by
        rw [← filterMap_content?]
        exact List.mem_filterMap.mpr ⟨entry, listed, by rw [Entry.content?, shape]; rfl⟩
      have common := contents said
      rw [← filterMap_content?] at common
      obtain ⟨other, inside, found⟩ := List.mem_filterMap.mp common
      obtain ⟨-, clauses, stands⟩ := Entry.mk.inj (Entry.eq_of_content? found)
      have fitting := fits other inside
      rw [Vocabulary.FitsEntry, clauses, stands] at fitting
      exact fitting

/-! ## Numbering -/

/-- The directives under the least ordinals that leave them in order. -/
def numbered (directives : List Directive) : List Directive :=
  directives.mapIdx fun place directive => directive.recast (fun _ => place) fun _ => []

theorem numbered_map_bare (directives : List Directive) :
    numbered (directives.map Directive.bare) = numbered directives := by
  apply List.ext_getElem
  · simp [numbered]
  · intro place _ _
    simp [numbered, Directive.bare, Directive.recast]

/-- Increasing numbers are the first values of a function that increases throughout. -/
theorem exists_strictMono_of_pairwise {values : List Nat} (increasing : values.Pairwise (· < ·)) :
    ∃ f : Nat → Nat, StrictMono f ∧
      ∀ place (inside : place < values.length), f place = values[place] := by
  refine ⟨fun place => values[place]?.getD (values.sum + 1 + place), ?_, fun place inside => ?_⟩
  · refine strictMono_nat_of_lt_succ fun place => ?_
    by_cases later : place + 1 < values.length
    · rw [List.getElem?_eq_getElem later, List.getElem?_eq_getElem (Nat.lt_of_succ_lt later)]
      exact List.pairwise_iff_getElem.mp increasing place (place + 1) _ _ (Nat.lt_succ_self place)
    · rw [List.getElem?_eq_none (Nat.le_of_not_lt later)]
      by_cases inside : place < values.length
      · have small := List.le_sum_of_mem (List.getElem_mem inside)
        rw [List.getElem?_eq_getElem inside]
        simp only [Option.getD_some, Option.getD_none]
        omega
      · rw [List.getElem?_eq_none (Nat.le_of_not_lt inside)]
        simp only [Option.getD_none]
        omega
  · dsimp only
    rw [List.getElem?_eq_getElem inside, Option.getD_some]

namespace RuleSet

/-- The rule set with all ordinals the same. -/
def withoutOrdinals (rules : RuleSet) : RuleSet :=
  rules.renumber fun _ => 0

/-- No rule starts from `Empty`. -/
def Startless (rules : RuleSet) : Prop :=
  (∀ reaction ∈ rules.reactions, reaction.left.isEmpty = false) ∧
    ∀ transition ∈ rules.transitions, transition.element.isEmpty = false

theorem withoutOrdinals_renumber {f : Nat → Nat} (rules : RuleSet) :
    (rules.renumber f).withoutOrdinals = rules.withoutOrdinals :=
  rules.renumber_renumber

theorem startless_withoutOrdinals {rules : RuleSet} :
    rules.withoutOrdinals.Startless ↔ rules.Startless := by
  simp only [Startless, withoutOrdinals, renumber, ofRules, List.forall_mem_map]
  rfl

end RuleSet

namespace Declared

variable {declared : Declared} {entries : List Entry} {directives others : List Directive}

theorem startless_ruleSet :
    (declared.ruleSet directives).Startless ↔
      ∀ consequence ∈ declared.consequences directives, consequence.startsFromEmpty = false := by
  simp only [RuleSet.Startless, ruleSet, RuleSet.ofRules, List.mem_filterMap]
  constructor
  · rintro ⟨reactions, transitions⟩ consequence listed
    cases consequence with
    | reaction rule => exact reactions rule ⟨_, listed, rfl⟩
    | transition rule => exact transitions rule ⟨_, listed, rfl⟩
    | _ => rfl
  · intro startless
    constructor
    · rintro rule ⟨consequence, listed, same⟩
      cases consequence <;> cases same
      exact startless _ listed
    · rintro rule ⟨consequence, listed, same⟩
      cases consequence <;> cases same
      exact startless _ listed

theorem withoutOrdinals_numbered (gathered : Declared.ofEntries entries = .ok declared)
    (increasing : directives.Pairwise fun first second => first.ordinal < second.ordinal) :
    (declared.ruleSet (numbered directives)).withoutOrdinals =
      (declared.ruleSet directives).withoutOrdinals := by
  obtain ⟨f, mono, values⟩ := exists_strictMono_of_pairwise (List.pairwise_map.mpr increasing)
  have same : (numbered directives).map (Directive.recast f id) =
      directives.map (Directive.recast id fun _ => []) := by
    apply List.ext_getElem
    · simp [numbered]
    · intro place inside _
      have value := values place (by simpa [numbered] using inside)
      rw [List.getElem_map] at value
      simp [numbered, Directive.recast, value]
  calc
    (declared.ruleSet (numbered directives)).withoutOrdinals
    _ = ((declared.ruleSet (numbered directives)).renumber f).withoutOrdinals :=
      (RuleSet.withoutOrdinals_renumber _).symm
    _ = ((declared.ruleSet directives).renumber id).withoutOrdinals := by
      rw [← ruleSet_recast gathered mono, same, ruleSet_recast gathered strictMono_id]
    _ = (declared.ruleSet directives).withoutOrdinals := RuleSet.withoutOrdinals_renumber _

/-- Directives that differ in their paths and ordinals but not in their order make the same rule set
up to ordinals. -/
theorem withoutOrdinals_ruleSet (gathered : Declared.ofEntries entries = .ok declared)
    (increasing : directives.Pairwise fun first second => first.ordinal < second.ordinal)
    (growing : others.Pairwise fun first second => first.ordinal < second.ordinal)
    (same : others.map Directive.bare = directives.map Directive.bare) :
    (declared.ruleSet others).withoutOrdinals = (declared.ruleSet directives).withoutOrdinals := by
  rw [← withoutOrdinals_numbered gathered growing, ← numbered_map_bare, same, numbered_map_bare,
    withoutOrdinals_numbered gathered increasing]

end Declared

namespace Declarations

variable {first second : Declarations}

/-- A mod that says the same as one that compiles, and has no clauses of its own, compiles to the
same rule set up to ordinals. -/
theorem compile_of_contents (contents : second.contents = first.contents)
    (headers : second.headers ⊆ first.headers) {rules : RuleSet}
    (compiled : first.compile = .ok rules) :
    ∃ others, second.compile = .ok others ∧ others.withoutOrdinals = rules.withoutOrdinals := by
  obtain ⟨declared, directives, gathered, checked, startless, rfl⟩ := compile_eq_ok_iff.mp compiled
  have regathered : Declared.ofEntries second.entries = .ok declared := by
    rw [Declared.ofEntries_contents, filterMap_content?] at gathered ⊢
    rw [contents]
    exact gathered
  have lists := Declared.lists_of_gathered gathered
  have fits := (Declared.directives_succeeds_iff lists).mp ⟨directives, checked⟩
  obtain ⟨others, rechecked⟩ := (Declared.directives_succeeds_iff lists).mpr
    (checks_of_contents (contents ▸ List.Subset.refl _) headers fits)
  have bares : others.map Directive.bare = directives.map Directive.bare := by
    rw [Declared.map_bare_directives checked, Declared.map_bare_directives rechecked,
      ← Declared.filterMap_bare?_contents, filterMap_content?, contents, ← filterMap_content?,
      Declared.filterMap_bare?_contents]
  have same := Declared.withoutOrdinals_ruleSet gathered (Declared.pairwise_ordinal checked)
    (Declared.pairwise_ordinal rechecked) bares
  refine ⟨_, compile_eq_ok_iff.mpr ⟨declared, others, regathered, rechecked, ?_, rfl⟩, same⟩
  rw [← Declared.startless_ruleSet, ← RuleSet.startless_withoutOrdinals, same,
    RuleSet.startless_withoutOrdinals, Declared.startless_ruleSet]
  exact startless

end Declarations
end FallingSand
