import FallingSand.Proofs.Mod.Named

/-!
# The order of statements

The statements of a mod may stand in any order, at the top as well as in blocks, and so may the
clauses of a block.  Another order gives other identifiers, other ordinals and another precedence,
but the same elements, the same memberships and the same rules by name, and it is accepted whenever
the first is.
-/

namespace FallingSand

/-- The second statements are the first in another order, at the top or inside of blocks. -/
inductive Reorders : List Statement → List Statement → Prop where
  /-- The order may stay. -/
  | refl (statements : List Statement) : Reorders statements statements
  /-- Statements after the first may be put in another order. -/
  | cons (statement : Statement) {first second : List Statement} (rest : Reorders first second) :
      Reorders (statement :: first) (statement :: second)
  /-- Neighbours may change places. -/
  | swap (first second : Statement) (rest : List Statement) :
      Reorders (first :: second :: rest) (second :: first :: rest)
  /-- The clauses of a block and the statements in it may be put in another order. -/
  | block {own others : List Clause} {body rearranged : List Statement} (rest : List Statement)
      (clauses : own.Perm others) (inside : Reorders body rearranged) :
      Reorders (.block own body :: rest) (.block others rearranged :: rest)
  /-- One order may follow another. -/
  | trans {first second third : List Statement} (one : Reorders first second)
      (other : Reorders second third) : Reorders first third

theorem Reorders.of_perm {statements others : List Statement} (perm : statements.Perm others) :
    Reorders statements others := by
  induction perm with
  | nil => exact .refl []
  | cons statement _ induction => exact .cons statement induction
  | swap first second rest => exact .swap second first rest
  | trans _ _ one other => exact .trans one other

/-! ## What does not depend on the order -/

/-- What matters of an entry in any order: the clauses around it, and the statement, without its
body if it is a block. -/
structure Gist where
  /-- The clauses around the statement. -/
  around : Multiset Clause
  /-- The statement, unless it is a block. -/
  statement : Option Statement
  /-- The clauses of the statement if it is a block. -/
  header : Multiset Clause

namespace Statement

/-- The statement, unless it is a block. -/
def plain? : Statement → Option Statement
  | .block _ _ => none
  | statement => some statement

mutual

/-- What matters of the entries of a statement. -/
def gists (around : Multiset Clause) : Statement → Multiset Gist
  | .block own body => ⟨around, none, own⟩ ::ₘ gistsOf (around + own) body
  | statement => {⟨around, some statement, 0⟩}

/-- What matters of the entries of consecutive statements. -/
def gistsOf (around : Multiset Clause) : List Statement → Multiset Gist
  | [] => 0
  | statement :: rest => gists around statement + gistsOf around rest

end

end Statement

namespace Entry

/-- What matters of an entry. -/
def gist (entry : Entry) : Gist where
  around := entry.clauses
  statement := entry.statement.plain?
  header := entry.statement.header

end Entry

namespace Statement

mutual

theorem coe_map_gist_entries (path : List Nat) (clauses : List Clause) :
    (statement : Statement) →
      ((statement.entries path clauses).map Entry.gist : Multiset Gist) = statement.gists clauses
  | .block own body => by
      rw [entries, gists, List.map_cons, ← Multiset.cons_coe,
        coe_map_gist_entriesFrom path (clauses ++ own) 0 body]
      rfl
  | .title _ | .element _ _ | .relation _ _ | .member _ _ | .property _ _ _ | .tag _ _
  | .name _ _ | .description _ _ | .reaction _ _ _ _ _ | .transition _ _ _ => rfl

theorem coe_map_gist_entriesFrom (parent : List Nat) (clauses : List Clause) (index : Nat) :
    (statements : List Statement) →
      ((entriesFrom parent clauses index statements).map Entry.gist : Multiset Gist) =
        gistsOf clauses statements
  | [] => rfl
  | statement :: rest => by
      rw [entriesFrom, gistsOf, List.map_append, ← Multiset.coe_add,
        coe_map_gist_entries (parent ++ [index]) clauses statement,
        coe_map_gist_entriesFrom parent clauses (index + 1) rest]

end

theorem gistsOf_of_reorders {first second : List Statement} (reorders : Reorders first second)
    (around : Multiset Clause) : gistsOf around first = gistsOf around second := by
  induction reorders generalizing around with
  | refl => rfl
  | cons statement _ induction => rw [gistsOf, gistsOf, induction]
  | swap first second rest => simp only [gistsOf, add_left_comm]
  | block rest clauses _ induction =>
      rw [gistsOf, gistsOf, gists, gists, Multiset.coe_eq_coe.mpr clauses, induction]
  | trans _ _ one other => exact (one around).trans (other around)

end Statement

/-- The entries are the same in any order, as far as it matters. -/
def Alike (entries others : List Entry) : Prop :=
  (entries.map Entry.gist).Perm (others.map Entry.gist)

theorem alike_of_reorders {declarations others : Declarations}
    (reorders : Reorders declarations others) : Alike declarations.entries others.entries := by
  rw [Alike, ← Multiset.coe_eq_coe]
  calc
    _ = Statement.gistsOf 0 declarations :=
        Statement.coe_map_gist_entriesFrom [] [] 0 declarations
    _ = Statement.gistsOf 0 others := Statement.gistsOf_of_reorders reorders 0
    _ = _ := (Statement.coe_map_gist_entriesFrom [] [] 0 others).symm

namespace Alike

variable {entries others : List Entry} (alike : Alike entries others)

include alike

theorem symm : Alike others entries :=
  List.Perm.symm alike

theorem exists_of_mem {entry : Entry} (listed : entry ∈ entries) :
    ∃ other ∈ others, other.gist = entry.gist :=
  List.mem_map.mp (alike.subset (List.mem_map_of_mem listed))

/-- What depends on the gist alone is the same altogether. -/
theorem map_perm {α : Type} {f g : Entry → α}
    (agree : ∀ entry ∈ entries, ∀ other ∈ others, entry.gist = other.gist → f entry = g other) :
    (entries.map f).Perm (others.map g) := by
  rw [← Multiset.coe_eq_coe, ← Multiset.map_coe, ← Multiset.map_coe, ← Multiset.rel_eq,
    Multiset.rel_map]
  have gists := Multiset.coe_eq_coe.mpr alike
  rw [← Multiset.map_coe, ← Multiset.map_coe, ← Multiset.rel_eq, Multiset.rel_map] at gists
  exact gists.mono agree

theorem flatMap_perm {α : Type} {f : Entry → List α}
    (agree : ∀ entry other : Entry, entry.gist = other.gist → f entry = f other) :
    (entries.flatMap f).Perm (others.flatMap f) := by
  have same : (entries.map f).Perm (others.map f) :=
    alike.map_perm fun entry _ other _ => agree entry other
  simpa only [List.flatMap] using same.flatten

end Alike

namespace Entry

variable {entry other : Entry} (same : entry.gist = other.gist)

include same

theorem clauses_perm : entry.clauses.Perm other.clauses :=
  Multiset.coe_eq_coe.mp (congrArg Gist.around same)

theorem header_perm : entry.statement.header.Perm other.statement.header :=
  Multiset.coe_eq_coe.mp (congrArg Gist.header same)

/-- What blocks do not have, entries of the same gist have in common. -/
theorem eq_of_plain {α : Type} {f : Statement → α} {blank : α}
    (block : ∀ own body, f (.block own body) = blank) : f entry.statement = f other.statement := by
  have plain := congrArg Gist.statement same
  simp only [gist] at plain
  cases one : entry.statement <;> cases second : other.statement <;>
    simp_all [Statement.plain?]

theorem statement_eq {statement : Statement} (plain : statement.plain? = some statement)
    (stands : entry.statement = statement) : other.statement = statement := by
  have kept := congrArg Gist.statement same
  simp only [gist, stands, plain] at kept
  cases found : other.statement <;> simp_all [Statement.plain?]

end Entry

namespace Alike

variable {entries others : List Entry}

/-- What follows does not depend on the order. -/
theorem follows (alike : Alike entries others) {relation : String} {names : List String}
    (follows : Follows entries relation names) : Follows others relation names := by
  induction follows with
  | member listed statement _ induction =>
      obtain ⟨other, inside, same⟩ := alike.exists_of_mem listed
      refine .member inside (Entry.statement_eq same.symm rfl statement) fun clause around => ?_
      exact induction clause ((Entry.clauses_perm same).subset around)

theorem follows_iff (alike : Alike entries others) {relation : String} {names : List String} :
    Follows entries relation names ↔ Follows others relation names :=
  ⟨alike.follows, alike.symm.follows⟩

theorem ways_eq (alike : Alike entries others) {clauses rearranged : List Clause}
    (perm : clauses.Perm rearranged) : Ways entries clauses = Ways others rearranged := by
  ext names
  simp only [Ways, Bound, Set.mem_ofPred_eq, perm.mem_iff, alike.follows_iff]

/-- Neither do the rules of an entry. -/
theorem rules_eq (alike : Alike entries others) (kind : Kind) {entry other : Entry}
    (same : entry.gist = other.gist) : entry.rules entries kind = other.rules others kind := by
  have stated : kind.stated entry.statement = kind.stated other.statement :=
    Entry.eq_of_plain same fun _ _ => by cases kind <;> rfl
  have terms : entry.statement.terms = other.statement.terms :=
    Entry.eq_of_plain same fun _ _ => rfl
  rw [Entry.rules, Entry.rules, stated, terms, alike.ways_eq (Entry.clauses_perm same)]

end Alike

/-! ## Mods that are accepted -/

section Accepted

variable {declarations others : Declarations}
  (alike : Alike declarations.entries others.entries)

include alike

theorem Alike.elements_perm : declarations.elements.Perm others.elements :=
  alike.flatMap_perm fun _ _ same =>
    Entry.eq_of_plain (f := fun statement => Entry.elements ⟨[], [], statement⟩) same
      fun _ _ => rfl

theorem Alike.relations_perm : declarations.relations.Perm others.relations :=
  alike.flatMap_perm fun _ _ same =>
    Entry.eq_of_plain (f := fun statement => Entry.relations ⟨[], [], statement⟩) same
      fun _ _ => rfl

/-- What is asked of a mod does not depend on the order. -/
theorem Alike.accepted (accepted : declarations.Accepted) : others.Accepted := by
  have elements := alike.elements_perm
  have relations := alike.relations_perm
  have find {entry : Entry} (listed : entry ∈ others.entries) := alike.symm.exists_of_mem listed
  constructor
  case top =>
    intro entry listed declares
    obtain ⟨other, inside, same⟩ := find listed
    have equal : other.declares = entry.declares :=
      Entry.eq_of_plain (f := fun statement => Entry.declares ⟨[], [], statement⟩) same
        fun _ _ => rfl
    have top := accepted.top other inside (equal.trans declares)
    exact (Entry.clauses_perm same).symm.trans (.of_eq top) |>.eq_nil
  case elements => exact elements.nodup_iff.mp accepted.elements
  case empty => exact fun listed => accepted.empty (elements.mem_iff.mpr listed)
  case room => exact elements.length_eq ▸ accepted.room
  case relations => exact (relations.map (·.1)).nodup_iff.mp accepted.relations
  case arities =>
    exact fun relation listed => accepted.arities relation (relations.mem_iff.mpr listed)
  case clauses =>
    intro entry listed clause heads
    obtain ⟨other, inside, same⟩ := find listed
    have headed := (Entry.header_perm same).mem_iff.mpr heads
    exact relations.mem_iff.mp (accepted.clauses other inside clause headed)
  case members =>
    intro entry listed relation terms statement
    obtain ⟨other, inside, same⟩ := find listed
    have stands := Entry.statement_eq same.symm rfl statement
    exact relations.mem_iff.mp (accepted.members other inside relation terms stands)
  case names =>
    intro entry listed name used
    obtain ⟨other, inside, same⟩ := find listed
    have terms : other.statement.terms = entry.statement.terms :=
      Entry.eq_of_plain same fun _ _ => rfl
    have mentioned := ((Entry.header_perm same).flatMap_right Clause.terms).append_left
      entry.statement.terms
    have known := accepted.names other inside name
      (by rw [terms]; exact mentioned.mem_iff.mpr used)
    exact known.imp_right elements.mem_iff.mp
  case bound =>
    intro entry listed name used
    obtain ⟨other, inside, same⟩ := find listed
    have terms : other.statement.terms = entry.statement.terms :=
      Entry.eq_of_plain same fun _ _ => rfl
    obtain ⟨clause, around, mentioned⟩ := accepted.bound other inside name (terms ▸ used)
    exact ⟨clause, (Entry.clauses_perm same).subset around, mentioned⟩
  case properties =>
    intro entry listed key subject value statement
    obtain ⟨other, inside, same⟩ := find listed
    have stands := Entry.statement_eq same.symm rfl statement
    exact accepted.properties other inside key subject value stands
  case probabilities =>
    intro entry listed probability given
    obtain ⟨other, inside, same⟩ := find listed
    have equal : other.statement.probability? = entry.statement.probability? :=
      Entry.eq_of_plain same fun _ _ => rfl
    exact accepted.probabilities other inside probability (equal.trans given)
  case reactants =>
    intro entry listed reactant
    obtain ⟨other, inside, same⟩ := find listed
    have equal : other.statement.reactant? = entry.statement.reactant? :=
      Entry.eq_of_plain same fun _ _ => rfl
    exact accepted.reactants other inside (equal.trans reactant)
  case bindings =>
    intro entry listed name reactant names follows
    obtain ⟨other, inside, same⟩ := find listed
    have equal : other.statement.reactant? = entry.statement.reactant? :=
      Entry.eq_of_plain same fun _ _ => rfl
    refine accepted.bindings other inside name (equal.trans reactant) names ?_
    intro clause around
    exact alike.follows_iff.mpr (follows clause ((Entry.clauses_perm same).subset around))

end Accepted

/-! ## Mods that compile -/

namespace Declared

variable {declared : Declared} {directives : List Directive} {entries : List Entry}

theorem names_ruleSet :
    (declared.ruleSet directives).elements.names = declared.catalog.names.names := by
  have names := Consequence.names_foldl_addTo declared.catalog (declared.consequences directives)
  apply Array.ext_getElem?
  intro place
  rw [ElementTable.names, Array.getElem?_map, ← names]
  exact Catalog.getElem?_resolveAll _ _

end Declared

/-- The tuples of a relation, by the names of their elements. -/
def RuleSet.namesOf (rules : RuleSet) (relation : String) : Set (List String) :=
  {names | ∃ tuple ∈ rules.registry.tuplesOf relation,
    tuple.map rules.elements.nameOf = names}

theorem Declared.namesOf_ruleSet {declared : Declared} {directives : List Directive}
    {entries : List Entry} (gathered : Declared.ofEntries entries = .ok declared)
    (checked : declared.directives entries = .ok directives) (relation : String) :
    (declared.ruleSet directives).namesOf relation = {names | Follows entries relation names} := by
  ext names
  rw [Set.mem_ofPred_eq, follows_iff gathered checked]
  refine exists_congr fun tuple => and_congr_right fun held => ?_
  rw [List.map_congr_left fun id inside =>
    nameOf_ruleSet (lt_of_held gathered checked held id inside)]

/-- Putting the statements of a mod, those of its blocks and the clauses of its blocks in another
order changes neither whether the mod compiles nor what it compiles to, told by names: the elements
and the relations are the same, every relation has the same tuples, and there are the same rules,
each of them as often. -/
theorem Declarations.compile_reorders {declarations others : Declarations}
    (reorders : Reorders declarations others) :
    (Succeeds declarations.compile ↔ Succeeds others.compile) ∧
      ∀ first second, declarations.compile = .ok first → others.compile = .ok second →
        first.elements.names.toList.Perm second.elements.names.toList ∧
        first.registry.names.names.toList.Perm second.registry.names.names.toList ∧
        (∀ relation, first.namesOf relation = second.namesOf relation) ∧
        ∀ kind : Kind, ((kind.rules first).map (named first.elements.nameOf)).Perm
          ((kind.rules second).map (named second.elements.nameOf)) := by
  have alike := alike_of_reorders reorders
  constructor
  · rw [succeeds_iff, succeeds_iff]
    exact ⟨alike.accepted, alike.symm.accepted⟩
  · intro first second one other
    obtain ⟨declared, directives, gathered, checked, -, rfl⟩ := compile_eq_ok_iff.mp one
    obtain ⟨declared', directives', gathered', checked', -, rfl⟩ := compile_eq_ok_iff.mp other
    have lists := Declared.lists_of_gathered gathered
    have lists' := Declared.lists_of_gathered gathered'
    refine ⟨?_, ?_, fun relation => ?_, fun kind => ?_⟩
    · rw [Declared.names_ruleSet, Declared.names_ruleSet, lists.elements, lists'.elements]
      exact alike.elements_perm.cons emptyName
    · change (declared.closed directives).names.names.toList.Perm
        (declared'.closed directives').names.names.toList
      rw [Declared.names_closed, Declared.names_closed, lists.names, lists'.names]
      exact alike.relations_perm.map (·.1)
    · rw [Declared.namesOf_ruleSet gathered checked, Declared.namesOf_ruleSet gathered' checked']
      exact Set.ext fun names => alike.follows_iff
    · rw [← Multiset.coe_eq_coe, Declared.coe_rules gathered checked,
        Declared.coe_rules gathered' checked']
      exact (alike.map_perm fun _ _ _ _ => alike.rules_eq kind).sum_eq

/-- Lava that hardens when it meets what is wet. -/
def hardening : Declarations :=
  [.element "Water" "#2040ff", .element "Lava" "#ff4000", .element "Stone" "#808080",
    .relation "Wet" 1, .relation "Hot" 1,
    .member "Wet" [.element "Water"], .member "Hot" [.element "Lava"],
    .block [⟨"Wet", [.var "wet"]⟩, ⟨"Hot", [.var "hot"]⟩]
      [.tag (.var "hot") "glows",
        .reaction Single.one (.element "Lava") (.var "wet") (.element "Stone") (.var "hot")]]

/-- The same with the block in front, its clauses turned around and its statements too. -/
def hardeningTurned : Declarations :=
  [.block [⟨"Hot", [.var "hot"]⟩, ⟨"Wet", [.var "wet"]⟩]
      [.reaction Single.one (.element "Lava") (.var "wet") (.element "Stone") (.var "hot"),
        .tag (.var "hot") "glows"],
    .element "Water" "#2040ff", .element "Lava" "#ff4000", .element "Stone" "#808080",
    .relation "Wet" 1, .relation "Hot" 1,
    .member "Wet" [.element "Water"], .member "Hot" [.element "Lava"]]

theorem hardening_reorders : ∃ first second,
    hardening.compile = .ok first ∧ hardeningTurned.compile = .ok second ∧
      ∀ kind : Kind, ((kind.rules first).map (named first.elements.nameOf)).Perm
        ((kind.rules second).map (named second.elements.nameOf)) := by
  have front : Reorders (hardening.take 7 ++ hardening.drop 7)
      (hardening.drop 7 ++ hardening.take 7) := .of_perm List.perm_append_comm
  have reorders : Reorders hardening hardeningTurned :=
    front.trans (.block _ (.swap _ _ _) (.swap _ _ _))
  obtain ⟨accepts, same⟩ := Declarations.compile_reorders reorders
  have compiles : Succeeds hardening.compile := Declarations.compile_succeeds (by decide)
    ⟨by decide, by decide, by decide, by decide⟩ (by decide) (by decide)
  obtain ⟨first, one⟩ := compiles
  obtain ⟨second, other⟩ := accepts.mp ⟨first, one⟩
  exact ⟨first, second, one, other, (same first second one other).2.2.2⟩

end FallingSand
