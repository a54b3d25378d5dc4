import FallingSand.Proofs.Mod.Product
import FallingSand.Proofs.Mod.Templates

/-!
# The order of discovery

A relation lists its memberships in the order in which they are found.  All facts are found before
anything is derived from them, so that need not be the order of their origins, which goes by the
places of the statements.  But every round goes through its statements as they stand in the source:
the facts are in the order of their origins, and so is what any one round derives.
-/

namespace FallingSand

namespace Origin

/-- The origin comes before another one. -/
def Precedes (first second : Origin) : Prop :=
  first.le second = true ∧ first ≠ second

theorem precedes_iff {first second : Origin} :
    first.Precedes second ↔ first.statement < second.statement ∨
      first.statement = second.statement ∧ first.sequence < second.sequence := by
  cases first
  cases second
  simp only [Precedes, le_iff, ne_eq, mk.injEq]
  omega

end Origin

/-! ## What a round finds -/

namespace Registry

variable {registry before between after : Registry} {name : String}

theorem membersNamed_of_unknown (unknown : registry.names.find? name = none) :
    registry.membersNamed name = [] := by
  rw [membersNamed, get, unknown]
  rfl

theorem membersNamed_put {place : Nat} {membership : Membership}
    (inside : (registry.arityAt? place).isSome = true) :
    (registry.put place membership).membersNamed name =
      registry.membersNamed name ++
        if registry.names.find? name = some place then [membership] else [] := by
  have names : (registry.put place membership).names = registry.names := rfl
  cases found : registry.names.find? name with
  | none =>
      rw [membersNamed_of_unknown found, membersNamed_of_unknown (names ▸ found)]
      simp
  | some other =>
      rw [membersNamed_of_find? found, membersNamed_of_find? (names ▸ found),
        membersAt_put inside]
      by_cases same : place = other
      · simp [same]
      · simp [same, Ne.symm same]

/-- What was found of a relation while some directives were carried out: it stands behind what was
known, in the order of the statements and of the numbers, and each of the directives that found it
asserts tuples of that relation. -/
structure Found (directives : List Directive) (before after : Registry) (name : String)
    (found : List Membership) : Prop where
  /-- It stands behind what was known. -/
  behind : after.membersNamed name = before.membersNamed name ++ found
  /-- Neither the statements nor the numbers decrease, and no number is there twice. -/
  ordered : found.Pairwise fun first second =>
    first.origin.statement ≤ second.origin.statement ∧
      first.origin.sequence < second.origin.sequence
  /-- The numbers are those since then. -/
  numbered : ∀ membership ∈ found, before.sequence ≤ membership.origin.sequence ∧
    membership.origin.sequence < after.sequence
  /-- A directive asserts it. -/
  asserted : ∀ membership ∈ found, ∃ directive ∈ directives,
    directive.ordinal = membership.origin.statement ∧
      ∃ place subject args, directive.action = .member place subject args ∧
        before.names.find? name = some place

/-- Carrying out directives in turn makes one registry out of another. -/
structure Finds (directives : List Directive) (before after : Registry) : Prop where
  /-- The relations keep their names. -/
  names : after.names = before.names
  /-- Numbers are never used again. -/
  sequence : before.sequence ≤ after.sequence
  /-- More may be found of every relation. -/
  members : ∀ name, ∃ found, Found directives before after name found

theorem Finds.refl (directives : List Directive) (registry : Registry) :
    Finds directives registry registry where
  names := rfl
  sequence := Nat.le_refl _
  members _ := ⟨[], (List.append_nil _).symm, .nil, by simp, by simp⟩

/-- What is found by earlier statements stands before what is found by later ones. -/
theorem Finds.trans {earlier later : List Directive} (first : Finds earlier before between)
    (second : Finds later between after)
    (sorted : ∀ directive ∈ earlier, ∀ other ∈ later, directive.ordinal ≤ other.ordinal) :
    Finds (earlier ++ later) before after where
  names := second.names.trans first.names
  sequence := first.sequence.trans second.sequence
  members name := by
    obtain ⟨found, one⟩ := first.members name
    obtain ⟨more, other⟩ := second.members name
    refine ⟨found ++ more, ?_, List.pairwise_append.mpr ⟨one.ordered, other.ordered, ?_⟩, ?_, ?_⟩
    · rw [other.behind, one.behind, List.append_assoc]
    · intro membership old next new
      obtain ⟨directive, given, ordinal, -⟩ := one.asserted membership old
      obtain ⟨source, among, place, -⟩ := other.asserted next new
      refine ⟨ordinal ▸ place ▸ sorted directive given source among, ?_⟩
      exact (one.numbered membership old).2.trans_le (other.numbered next new).1
    · intro membership listed
      rcases List.mem_append.mp listed with old | new
      · obtain ⟨least, below⟩ := one.numbered membership old
        exact ⟨least, below.trans_le second.sequence⟩
      · obtain ⟨least, below⟩ := other.numbered membership new
        exact ⟨first.sequence.trans least, below⟩
    · intro membership listed
      rcases List.mem_append.mp listed with old | new
      · obtain ⟨directive, given, asserts⟩ := one.asserted membership old
        exact ⟨directive, List.mem_append_left _ given, asserts⟩
      · obtain ⟨directive, given, asserts⟩ := other.asserted membership new
        rw [first.names] at asserts
        exact ⟨directive, List.mem_append_right _ given, asserts⟩

theorem Finds.mono {directives others : List Directive} (finds : Finds directives before after)
    (among : directives ⊆ others) : Finds others before after where
  names := finds.names
  sequence := finds.sequence
  members name := by
    obtain ⟨found, told⟩ := finds.members name
    refine ⟨found, told.behind, told.ordered, told.numbered, fun membership listed => ?_⟩
    obtain ⟨directive, given, asserts⟩ := told.asserted membership listed
    exact ⟨directive, among given, asserts⟩

/-- A directive finds at most one membership for a row. -/
theorem finds_assertRow (directive : Directive) (registry : Registry) (row : Row) :
    Finds [directive] registry (directive.assertRow registry row) := by
  rw [Directive.assertRow]
  split
  · rename_i place subject args action
    split
    · rename_i first rest _ _
      rcases registry.insertAt_cases place first rest directive.ordinal with
        ⟨-, same⟩ | ⟨lacks, new⟩
      · rw [same]
        exact .refl _ _
      · rw [new]
        refine ⟨rfl, Nat.le_succ _, fun name => ⟨_, membersNamed_put lacks.1, ?_, ?_, ?_⟩⟩
        · split <;> simp
        · split <;> simp
        · split
          · rename_i found
            simp [action, found]
          · simp
    · exact .refl _ _
  · exact .refl _ _

theorem finds_assertAll (directive : Directive) (registry : Registry) :
    Finds [directive] registry (directive.assertAll registry) := by
  refine List.foldlRecOn (motive := Finds [directive] registry) _ _ (.refl _ _) ?_
  intro between finds row _
  refine (finds.trans (finds_assertRow directive between row) ?_).mono ?_
  · simp
  · simp

/-- A round finds memberships in the order of the statements. -/
theorem finds_round {directives : List Directive}
    (sorted : directives.Pairwise fun first second => first.ordinal < second.ordinal)
    (registry : Registry) : Finds directives registry (registry.round directives) := by
  induction sorted generalizing registry with
  | nil => exact .refl _ _
  | @cons directive directives later _ induction =>
      refine (finds_assertAll directive registry).trans (induction _) ?_
      intro first listed second among
      obtain rfl := List.mem_singleton.mp listed
      exact (later second among).le

/-- Memberships stand in the order of their numbers. -/
structure Ascending (registry : Registry) : Prop where
  /-- The next number is larger than all of them. -/
  below : ∀ name, ∀ membership ∈ registry.membersNamed name,
    membership.origin.sequence < registry.sequence
  /-- Numbers increase in every relation. -/
  pairwise : ∀ name, (registry.membersNamed name).Pairwise fun first second =>
    first.origin.sequence < second.origin.sequence

theorem Finds.ascending {directives : List Directive} (finds : Finds directives before after)
    (ascending : before.Ascending) : after.Ascending where
  below name membership held := by
    obtain ⟨found, told⟩ := finds.members name
    rw [told.behind] at held
    rcases List.mem_append.mp held with old | new
    · exact (ascending.below name membership old).trans_le finds.sequence
    · exact (told.numbered membership new).2
  pairwise name := by
    obtain ⟨found, told⟩ := finds.members name
    rw [told.behind]
    refine List.pairwise_append.mpr
      ⟨ascending.pairwise name, told.ordered.imp fun both => both.2, ?_⟩
    intro membership old next new
    exact (ascending.below name membership old).trans_le (told.numbered next new).1

/-- Where the origins are in order as well, what was found later has no earlier statement. -/
theorem Ascending.statement_le (ascending : registry.Ascending)
    (sorted : (registry.membersNamed name).Pairwise fun first second =>
      first.origin.Precedes second.origin)
    {first second : Membership} (one : first ∈ registry.membersNamed name)
    (other : second ∈ registry.membersNamed name)
    (earlier : first.origin.sequence < second.origin.sequence) :
    first.origin.statement ≤ second.origin.statement := by
  obtain ⟨place, inside, rfl⟩ := List.mem_iff_getElem.mp one
  obtain ⟨next, within, rfl⟩ := List.mem_iff_getElem.mp other
  have numbers := List.pairwise_iff_getElem.mp (ascending.pairwise name)
  have origins := List.pairwise_iff_getElem.mp sorted
  rcases Nat.lt_trichotomy place next with before | rfl | after
  · exact (Origin.precedes_iff.mp (origins place next inside within before)).elim Nat.le_of_lt
      fun same => same.1.le
  · exact absurd earlier (Nat.lt_irrefl _)
  · exact absurd earlier (Nat.lt_asymm (numbers next place within inside after))

end Registry

/-! ## Round after round -/

namespace Declared

variable {declared : Declared} {directives : List Directive} {entries : List Entry}
  {name : String}

/-- Round zero carries out the facts, and all others the derivations. -/
def ofRound (directives : List Directive) : (round : Nat) → List Directive
  | 0 => facts directives
  | _ + 1 => derivations directives

/-- The registry that a round starts with. -/
def before (declared : Declared) (directives : List Directive) : (round : Nat) → Registry
  | 0 => declared.registry.withTemplates directives
  | round + 1 => (declared.before directives round).round (ofRound directives round)

/-- The memberships of the relation of a name that a round adds. -/
def foundIn (declared : Declared) (directives : List Directive) (name : String) (round : Nat) :
    List Membership :=
  ((declared.before directives (round + 1)).membersNamed name).drop
    ((declared.before directives round).membersNamed name).length

theorem ofRound_sublist (directives : List Directive) (round : Nat) :
    (ofRound directives round).Sublist directives := by
  cases round <;> exact List.filter_sublist

/-- A closed registry comes of some rounds. -/
theorem exists_closed_eq_before (declared : Declared) (directives : List Directive) :
    ∃ rounds, declared.closed directives = declared.before directives (rounds + 1) := by
  refine Registry.saturate_induction
    (P := fun registry => ∃ rounds, registry = declared.before directives (rounds + 1)) ?_ _
    ⟨0, rfl⟩
  rintro _ ⟨rounds, rfl⟩
  exact ⟨rounds + 1, rfl⟩

theorem names_before (declared : Declared) (directives : List Directive) (round : Nat) :
    (declared.before directives round).names = declared.registry.names := by
  induction round with
  | zero => rfl
  | succ round induction =>
      rw [before, ← induction]
      exact (Registry.round_induction (Registry.insertionKeeps_grows _) _ (.refl _)).names

/-- Nothing is known before the first round. -/
theorem membersNamed_before_zero (gathered : Declared.ofEntries entries = .ok declared)
    (directives : List Directive) (name : String) :
    (declared.before directives 0).membersNamed name = [] := by
  cases found : (declared.before directives 0).names.find? name with
  | none => exact Registry.membersNamed_of_unknown found
  | some place => rw [Registry.membersNamed_of_find? found, before, membersAt_of_gathered gathered]

section Checked

variable (checked : declared.directives entries = .ok directives)

include checked

theorem finds_before (round : Nat) :
    Registry.Finds (ofRound directives round) (declared.before directives round)
      (declared.before directives (round + 1)) :=
  Registry.finds_round ((pairwise_ordinal checked).sublist (ofRound_sublist directives round)) _

theorem found_foundIn (name : String) (round : Nat) :
    Registry.Found (ofRound directives round) (declared.before directives round)
      (declared.before directives (round + 1)) name (declared.foundIn directives name round) := by
  obtain ⟨found, told⟩ := (finds_before checked round).members name
  have same : declared.foundIn directives name round = found := by
    rw [foundIn, told.behind, List.drop_left]
  exact same ▸ told

/-- What a round finds is in the order of the origins. -/
theorem pairwise_foundIn (name : String) (round : Nat) :
    (declared.foundIn directives name round).Pairwise fun first second =>
      first.origin.Precedes second.origin := by
  refine (found_foundIn checked name round).ordered.imp fun both => Origin.precedes_iff.mpr ?_
  exact (Nat.lt_or_eq_of_le both.1).imp_right fun same => ⟨same, both.2⟩

/-- What a round finds is asserted by membership statements, at the top in round zero and under
clauses in all others. -/
theorem exists_entry_of_mem_foundIn {round : Nat} {membership : Membership}
    (listed : membership ∈ declared.foundIn directives name round) :
    ∃ entry terms, entries[membership.origin.statement]? = some entry ∧
      entry.statement = .member name terms ∧ (entry.clauses = [] ↔ round = 0) := by
  obtain ⟨directive, given, ordinal, place, subject, args, action, found⟩ :=
    (found_foundIn checked name round).asserted membership listed
  have among := (ofRound_sublist directives round).subset given
  obtain ⟨entry, numbered, directs⟩ := exists_entry_at checked among
  obtain ⟨relation, terms, statement, named, -⟩ := member_of_directs directs action
  rw [names_before] at found
  rw [name_unique named found] at statement
  refine ⟨entry, terms, ordinal ▸ numbered, statement, ?_⟩
  rw [← patterns_eq_nil_iff directs]
  cases round with
  | zero => simpa [Directive.isFact] using (List.mem_filter.mp given).2
  | succ round =>
      have under := (List.mem_filter.mp given).2
      have patterned : directive.patterns ≠ [] := by
        rintro bare
        simp [Directive.isFact, bare] at under
      simp [patterned]

variable (gathered : Declared.ofEntries entries = .ok declared)

include gathered

theorem ascending_before (round : Nat) : (declared.before directives round).Ascending := by
  induction round with
  | zero =>
      have blank := membersNamed_before_zero gathered directives
      exact ⟨fun name => by simp [blank], fun name => by simp [blank]⟩
  | succ round induction => exact (finds_before checked round).ascending induction

/-- What is known is what the rounds so far have found, one after the other. -/
theorem membersNamed_before (name : String) (rounds : Nat) :
    (declared.before directives rounds).membersNamed name =
      (List.range rounds).flatMap (declared.foundIn directives name) := by
  induction rounds with
  | zero => exact membersNamed_before_zero gathered directives name
  | succ rounds induction =>
      rw [(found_foundIn checked name rounds).behind, induction, List.range_succ,
        List.flatMap_append, List.flatMap_singleton]

theorem ascending_closed : (declared.closed directives).Ascending := by
  obtain ⟨rounds, closed⟩ := declared.exists_closed_eq_before directives
  exact closed ▸ ascending_before checked gathered _

end Checked

theorem mem_membersNamed_iff (gathered : Declared.ofEntries entries = .ok declared)
    {membership : Membership} :
    membership ∈ (declared.closed directives).membersNamed name ↔
      ∃ relation ∈ (declared.closed directives).relations, relation.name = name ∧
        membership ∈ relation.members := by
  constructor
  · intro held
    cases found : (declared.closed directives).names.find? name with
    | none =>
        rw [Registry.membersNamed_of_unknown found] at held
        cases held
    | some place =>
        rw [Registry.membersNamed_of_find? found, Array.mem_toList_iff] at held
        obtain ⟨relation, stands, member⟩ := exists_relation_of_mem_membersAt held
        exact ⟨relation, Array.mem_of_getElem? stands,
          name_of_find? gathered stands (names_closed ▸ found), member⟩
  · rintro ⟨relation, listed, rfl, member⟩
    obtain ⟨place, stands⟩ := Array.getElem?_of_mem listed
    rw [Registry.membersNamed_of_find? ((aligned_closed gathered directives).find? stands),
      Registry.membersAt, stands]
    exact Array.mem_toList_iff.mpr member

/-- No relation lists a tuple twice. -/
theorem eq_of_mem_membersNamed (gathered : Declared.ofEntries entries = .ok declared)
    {first second : Membership} (one : first ∈ (declared.closed directives).membersNamed name)
    (other : second ∈ (declared.closed directives).membersNamed name)
    (tuples : first.tuple = second.tuple) : first = second := by
  obtain ⟨relation, listed, named, member⟩ := (mem_membersNamed_iff gathered).mp one
  obtain ⟨same, among, called, inside⟩ := (mem_membersNamed_iff gathered).mp other
  exact eq_of_tuple gathered among inside listed member (named.trans called.symm) tuples

theorem map_nameOf_of_mapM_idOf? {names : List String} {tuple : List ElementId}
    (found : names.mapM (declared.ruleSet directives).elements.idOf? = some tuple) :
    tuple.map declared.nameOf = names := by
  induction names generalizing tuple with
  | nil =>
      obtain rfl : [] = tuple := by simpa using found
      rfl
  | cons name names induction =>
      simp only [List.mapM_cons, Option.bind_eq_bind, Option.bind_eq_some_iff] at found
      obtain ⟨id, first, ids, rest, whole⟩ := found
      obtain rfl := Option.some.inj whole
      rw [idOf?_ruleSet] at first
      obtain ⟨place, standing, rfl⟩ := Option.map_eq_some_iff.mp first
      rw [List.map_cons, nameOf_of_find? standing, induction rest]

end Declared

namespace Declarations

variable {declarations : Declarations} {rules : RuleSet}

/-- A compiled mod lists the memberships of each relation in the order of discovery: those that the
statements at the top assert, and then what the statements under clauses find in each of the rounds
in which they are carried out.  The facts are in the order of their origins, and so is what any one
round finds. -/
theorem compile_discovers (compiled : declarations.compile = .ok rules) :
    ∃ declared directives rounds,
      Declared.ofEntries declarations.entries = .ok declared ∧
      declared.directives declarations.entries = .ok directives ∧
      rules.registry = declared.before directives (rounds + 1) ∧
      ∀ name,
        rules.registry.membersNamed name =
          (List.range (rounds + 1)).flatMap (declared.foundIn directives name) ∧
        ((rules.registry.membersNamed name).Pairwise fun first second =>
          first.origin.sequence < second.origin.sequence) ∧
        ∀ round,
          ((declared.foundIn directives name round).Pairwise fun first second =>
            first.origin.Precedes second.origin) ∧
          ∀ membership ∈ declared.foundIn directives name round, ∃ entry terms,
            declarations.entries[membership.origin.statement]? = some entry ∧
              entry.statement = .member name terms ∧ (entry.clauses = [] ↔ round = 0) := by
  obtain ⟨declared, directives, gathered, checked, -, rfl⟩ := compile_eq_ok_iff.mp compiled
  obtain ⟨rounds, closed⟩ := declared.exists_closed_eq_before directives
  change declared.closed directives = _ at closed
  have registry : (declared.ruleSet directives).registry =
      declared.before directives (rounds + 1) := closed
  refine ⟨declared, directives, rounds, gathered, checked, registry, fun name => ?_⟩
  rw [registry]
  exact ⟨Declared.membersNamed_before checked gathered name _,
    (Declared.ascending_before checked gathered _).pairwise name, fun round =>
      ⟨Declared.pairwise_foundIn checked name round,
        fun membership => Declared.exists_entry_of_mem_foundIn checked⟩⟩

/-! ## Facts before derivations -/

/-- Any road there is. -/
def oneWay : Clause := ⟨"Road", [.var "from", .var "to"]⟩

/-- Roads lead both ways, which is said before there are any. -/
def bothWays : Declarations :=
  [.element "Here" "#102030", .element "There" "#405060", .relation "Road" 2,
    .block [oneWay] [.member "Road" [.var "to", .var "from"]],
    .member "Road" [.element "Here", .element "There"]]

/-- The statement about ways back, which comes first in the source. -/
def wayBack : Entry := ⟨[3, 0], [oneWay], .member "Road" [.var "to", .var "from"]⟩

/-- The statement about the way there. -/
def wayThere : Entry := ⟨[4], [], .member "Road" [.element "Here", .element "There"]⟩

theorem bothWays_compiles : Succeeds bothWays.compile :=
  compile_succeeds (by decide) ⟨by decide, by decide, by decide, by decide⟩ (by decide)
    (by decide)

theorem eq_of_member_bothWays {place : Nat} {entry : Entry} {name : String} {terms : List Term}
    (stands : bothWays.entries[place]? = some entry)
    (statement : entry.statement = .member name terms) :
    place = 5 ∧ entry = wayThere ∨ place = 4 ∧ entry = wayBack := by
  match place with
  | 0 | 1 | 2 | 3 =>
      cases stands
      cases statement
  | 4 =>
      cases stands
      exact Or.inr ⟨rfl, rfl⟩
  | 5 =>
      cases stands
      exact Or.inl ⟨rfl, rfl⟩
  | _ + 6 => cases stands

theorem bothWays_discovered : ∃ rules, bothWays.compile = .ok rules ∧
    ∃ (declared : Declared) (directives : List Directive) (rounds : Nat),
      rules.registry.membersNamed "Road" =
          (List.range (rounds + 1)).flatMap (declared.foundIn directives "Road") ∧
        ∀ round, ∀ membership ∈ declared.foundIn directives "Road" round,
          membership.origin.statement = if round = 0 then 5 else 4 := by
  obtain ⟨rules, compiled⟩ := bothWays_compiles
  obtain ⟨declared, directives, rounds, -, -, -, told⟩ := compile_discovers compiled
  obtain ⟨whole, -, found⟩ := told "Road"
  refine ⟨rules, compiled, declared, directives, rounds, whole, fun round membership listed => ?_⟩
  obtain ⟨entry, terms, stands, statement, top⟩ := (found round).2 membership listed
  rcases eq_of_member_bothWays stands statement with ⟨place, rfl⟩ | ⟨place, rfl⟩
  · rw [if_pos (top.mp rfl), place]
  · have later : round ≠ 0 := by
      intro zero
      cases top.mpr zero
    rw [if_neg later, place]

theorem follows_bothWays : Follows bothWays.entries "Road" ["There", "Here"] := by
  have written : wayThere ∈ bothWays.entries ∧ wayBack ∈ bothWays.entries := by
    simp [bothWays, entries, Statement.entriesFrom, Statement.entries, wayThere, wayBack, oneWay]
  let names (name : String) : String := if name = "from" then "Here" else "There"
  have first : Follows bothWays.entries "Road" ["Here", "There"] :=
    @Follows.member _ _ _ _ names written.1 rfl (by simp [wayThere])
  exact @Follows.member _ _ _ _ names written.2 rfl (List.forall_mem_singleton.mpr first)

/-- A road is the one from here to there, or the way back of one that was found before it. -/
theorem road_cases {declared : Declared} {directives : List Directive}
    (gathered : Declared.ofEntries bothWays.entries = .ok declared)
    (checked : declared.directives bothWays.entries = .ok directives) {membership : Membership}
    (held : membership ∈ (declared.closed directives).membersNamed "Road") :
    membership.origin.statement = 5 ∧ membership.tuple.map declared.nameOf = ["Here", "There"] ∨
      membership.origin.statement = 4 ∧
        ∃ premise ∈ (declared.closed directives).membersNamed "Road",
          premise.tuple = membership.tuple.reverse ∧
            premise.origin.sequence < membership.origin.sequence := by
  obtain ⟨relation, listed, named, member⟩ := (Declared.mem_membersNamed_iff gathered).mp held
  obtain ⟨entry, premises, stands, derives⟩ :=
    Declared.exists_derives gathered checked listed member
  rw [named] at derives
  obtain ⟨terms, statement, written⟩ := derives.states
  rcases eq_of_member_bothWays stands statement with ⟨place, rfl⟩ | ⟨place, rfl⟩
  · cases statement
    exact Or.inl ⟨place, Declared.map_nameOf_of_mapM_idOf? written⟩
  · cases statement
    obtain _ | ⟨⟨long, earlier, known⟩, rest⟩ := derives.founded
    cases rest
    rename_i premise
    obtain ⟨first, second, pair⟩ := List.length_eq_two.mp long.symm
    refine Or.inr ⟨place, premise, (Declared.mem_membersNamed_iff gathered).mpr known, ?_, earlier⟩
    have apart : (Term.var "to" == Term.var "from") = false := by decide
    have swapped : [second, first] = membership.tuple := by
      simpa [oneWay, wayBack, occurrences, ElementTable.meaning?, pair, List.lookup_cons, apart]
        using written
    rw [pair, ← swapped]
    rfl

/-- The two roads are not listed in the order of their origins. -/
theorem members_not_by_origin :
    ¬∀ declarations rules, Declarations.compile declarations = .ok rules → ∀ name,
      (rules.registry.membersNamed name).Pairwise fun first second =>
        first.origin.Precedes second.origin := by
  intro sorted
  obtain ⟨rules, compiled⟩ := bothWays_compiles
  have sorted := sorted bothWays rules compiled "Road"
  obtain ⟨declared, directives, gathered, checked, -, rfl⟩ := compile_eq_ok_iff.mp compiled
  change ((declared.closed directives).membersNamed "Road").Pairwise _ at sorted
  obtain ⟨_, ⟨relation, got, last, member, rfl⟩, called⟩ :=
    Declared.held_of_follows gathered checked follows_bothWays
  have lastHeld : last ∈ (declared.closed directives).membersNamed "Road" := by
    rw [Registry.membersNamed, got]
    exact Array.mem_toList_iff.mpr member
  -- the way back is found from another road, and that one cannot be found from the way back
  rcases road_cases gathered checked lastHeld with
    ⟨-, other⟩ | ⟨late, first, firstHeld, reversed, earlier⟩
  · exact absurd (called.symm.trans other) (by decide)
  · rcases road_cases gathered checked firstHeld with
      ⟨soon, -⟩ | ⟨-, again, againHeld, returned, sooner⟩
    · have ordered := (Declared.ascending_closed checked gathered).statement_le sorted firstHeld
        lastHeld earlier
      omega
    · have tuples : again.tuple = last.tuple := by rw [returned, reversed, List.reverse_reverse]
      rw [Declared.eq_of_mem_membersNamed gathered againHeld lastHeld tuples] at sooner
      exact absurd sooner (Nat.lt_asymm earlier)

end Declarations

end FallingSand
