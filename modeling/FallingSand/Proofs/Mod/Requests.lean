import FallingSand.Proofs.FirstPlaces
import FallingSand.Proofs.Mod.Derivations

/-!
# Requests to a registry

A registry is asked to declare relations and to add tuples to them, and it may refuse.  Whatever it
is asked for, names lead to the relations that bear them, every relation holds tuples of its own
length only and none of them twice, and memberships are numbered in the order in which they are
found.  A request that is refused, or for a tuple that is there already, leaves no trace.
-/

namespace FallingSand

namespace Relation

/-- The tuples of a relation fit it, are all different, and are numbered in the order in which they
are found. -/
structure Orderly (relation : Relation) : Prop where
  /-- Every tuple has the length of the relation. -/
  arity : ∀ membership ∈ relation.members, membership.tuple.length = relation.arity
  /-- No tuple is there twice. -/
  distinct : (relation.members.toList.map Membership.tuple).Nodup
  /-- The set of tuples has the tuples of the members and no others. -/
  seen : ∀ tuple, tuple ∈ relation.tuples ↔ tuple ∈ relation.members.toList.map Membership.tuple
  /-- Numbers increase. -/
  ascending : relation.members.toList.Pairwise fun first second =>
    first.origin.sequence < second.origin.sequence

variable {relation : Relation} {membership : Membership}

theorem seen_iff (relation : Relation) (tuple : List ElementId) :
    tuple ∈ relation.tuples ↔ tuple ∈ relation.members.toList.map Membership.tuple := by
  rw [relation.mem_tuples]
  simp

theorem orderly_ofArity (name : String) (arity : Nat) : (ofArity name arity).Orderly where
  arity _ listed := absurd listed (Array.not_mem_empty _)
  distinct := List.nodup_nil
  seen := seen_iff _
  ascending := List.Pairwise.nil

theorem Orderly.add (orderly : relation.Orderly)
    (fits : membership.tuple.length = relation.arity)
    (new : relation.holds membership.tuple = false)
    (later : ∀ earlier ∈ relation.members, earlier.origin.sequence < membership.origin.sequence) :
    (relation.add membership).Orderly where
  arity other listed := by
    rcases Array.mem_push.mp listed with old | rfl
    · exact orderly.arity other old
    · exact fits
  distinct := by
    have missing : membership.tuple ∉ relation.members.toList.map Membership.tuple := by
      intro listed
      have held := (relation.seen_iff _).mpr listed
      rw [holds, Std.HashSet.contains_eq_false_iff_not_mem] at new
      exact new held
    rw [Relation.add, Array.toList_push, List.map_append, List.map_singleton,
      ← List.concat_eq_append]
    exact orderly.distinct.concat missing
  seen := seen_iff _
  ascending := by
    rw [Relation.add, Array.toList_push]
    refine List.pairwise_append.mpr ⟨orderly.ascending, List.pairwise_singleton _ _, ?_⟩
    intro first one last isLast
    obtain rfl := List.mem_singleton.mp isLast
    exact later first (Array.mem_toList_iff.mp one)

end Relation

namespace Registry

variable {registry : Registry} {name : String} {arity place statement : Nat} {subject : ElementId}
  {args : List ElementId} {relation : Relation} {membership : Membership}

/-! ## What requests do -/

/-- Something that a registry is asked for. -/
inductive Request where
  /-- Declare a relation. -/
  | declare (name : String) (arity : Nat)
  /-- Add a tuple to a relation. -/
  | insert (name : String) (subject : ElementId) (args : List ElementId) (statement : Nat)

/-- The registry after a request. -/
def Request.perform (registry : Registry) : Request → Registry
  | declare name arity =>
      match registry.declare name arity with
      | .ok declared => declared
      | .error _ => registry
  | insert name subject args statement =>
      match registry.insert name subject args statement with
      | .ok (_, after) => after
      | .error _ => registry

/-- The registry after requests in order. -/
def after (registry : Registry) (history : List Request) : Registry :=
  history.foldl (fun before request => request.perform before) registry

theorem get_eq_ok_iff :
    registry.get name = .ok relation ↔
      ∃ place, registry.names.find? name = some place ∧
        registry.relations[place]? = some relation := by
  rw [get]
  cases registry.names.find? name with
  | none => simp
  | some place =>
      rw [Option.bind_some]
      cases stands : registry.relations[place]? <;> simp [stands]

theorem getFitting_eq_ok_iff {found : Nat} :
    registry.getFitting name found = .ok relation ↔
      registry.get name = .ok relation ∧ relation.arity = found := by
  rw [getFitting, bind_eq_ok_iff]
  constructor
  · rintro ⟨given, got, checked⟩
    split at checked
    · rename_i fits
      cases checked
      exact ⟨got, fits⟩
    · cases checked
  · rintro ⟨got, fits⟩
    exact ⟨relation, got, by rw [if_pos fits]⟩

/-- Adding a tuple succeeds exactly if there is a relation of that name which the tuple fits. -/
theorem insert_eq_ok_iff {answer : Bool × Registry} :
    registry.insert name subject args statement = .ok answer ↔
      ∃ place relation, registry.names.find? name = some place ∧
        registry.relations[place]? = some relation ∧ relation.arity = args.length + 1 ∧
        registry.insertAt place subject args statement = answer := by
  simp only [insert, bind_eq_ok_iff, getFitting_eq_ok_iff, get_eq_ok_iff, placeOf]
  constructor
  · rintro ⟨place, placed, relation, ⟨⟨other, found, stands⟩, fits⟩, same⟩
    rw [found] at placed
    cases placed
    cases same
    exact ⟨place, relation, found, stands, by omega, rfl⟩
  · rintro ⟨place, relation, found, stands, fits, rfl⟩
    exact ⟨place, by rw [found], relation, ⟨⟨place, found, stands⟩, by omega⟩, rfl⟩

theorem relations_of_declare {declared : Registry}
    (success : registry.declare name arity = .ok declared) :
    declared.relations = registry.relations.push (Relation.ofArity name arity) := by
  rw [declare] at success
  split at success
  · cases success
  · split at success
    · cases success
    · cases success
      rfl

/-- A new tuple is put behind the others of the relation that it is for, with the next number. -/
theorem insertAt_of_stands (stands : registry.relations[place]? = some relation)
    (subject : ElementId) (args : List ElementId) (statement : Nat) :
    registry.insertAt place subject args statement =
      if relation.holds (subject :: args) then (false, registry)
      else (true, registry.put place ⟨subject, args, ⟨statement, registry.sequence⟩⟩) := by
  have lacks : registry.lacksAt place (subject :: args) = !relation.holds (subject :: args) := by
    rw [lacksAt, stands, Option.any_some]
  rw [insertAt, lacks]
  cases relation.holds (subject :: args) <;> rfl

/-- What a request to add a tuple is answered tells whether the tuple is new. -/
theorem exists_insert_iff {new : Bool} :
    (∃ after, registry.insert name subject args statement = .ok (new, after)) ↔
      ∃ relation, registry.get name = .ok relation ∧ relation.arity = args.length + 1 ∧
        relation.holds (subject :: args) = !new := by
  simp only [insert_eq_ok_iff, get_eq_ok_iff]
  constructor
  · rintro ⟨after, place, relation, found, stands, fits, same⟩
    rw [insertAt_of_stands stands] at same
    refine ⟨relation, ⟨place, found, stands⟩, fits, ?_⟩
    split at same
    · rename_i held
      cases same
      exact held
    · rename_i missing
      cases same
      exact Bool.eq_false_iff.mpr missing
  · rintro ⟨relation, ⟨place, found, stands⟩, fits, held⟩
    cases new
    · exact ⟨registry, place, relation, found, stands, fits,
        by rw [insertAt_of_stands stands, held]; rfl⟩
    · exact ⟨_, place, relation, found, stands, fits,
        by rw [insertAt_of_stands stands, held]; rfl⟩

/-- A request to add a tuple adds it if it is new, and otherwise leaves the registry as it is. -/
theorem perform_insert_cases (registry : Registry) (name : String) (subject : ElementId)
    (args : List ElementId) (statement : Nat) :
    (∃ after, registry.insert name subject args statement = .ok (true, after)) ∧
        (∃ place, registry.names.find? name = some place ∧
          (Request.insert name subject args statement).perform registry =
            registry.put place ⟨subject, args, ⟨statement, registry.sequence⟩⟩) ∨
      (¬∃ after, registry.insert name subject args statement = .ok (true, after)) ∧
        (Request.insert name subject args statement).perform registry = registry := by
  rw [Request.perform]
  split
  · rename_i new after success
    obtain ⟨place, relation, found, stands, fits, same⟩ := insert_eq_ok_iff.mp success
    rw [insertAt_of_stands stands] at same
    split at same
    · cases same
      refine Or.inr ⟨?_, rfl⟩
      rintro ⟨other, different⟩
      rw [success] at different
      cases different
    · cases same
      exact Or.inl ⟨⟨_, success⟩, place, found, rfl⟩
  · rename_i failure
    refine Or.inr ⟨?_, rfl⟩
    rintro ⟨other, success⟩
    rw [failure] at success
    cases success

/-! ## Declared relations -/

/-- The name that a request declares, unless it is refused for its length. -/
def Request.name? : Request → Option String
  | declare name arity => if arity = 0 then none else some name
  | insert _ _ _ _ => none

theorem names_perform_declare (registry : Registry) (name : String) (arity : Nat) :
    ((Request.declare name arity).perform registry).names.names.toList =
      if name ∉ registry.names.names.toList ∧ arity ≠ 0 then registry.names.names.toList ++ [name]
      else registry.names.names.toList := by
  rw [Request.perform]
  split
  · rename_i declared success
    rw [if_pos (declare_succeeds_iff.mp ⟨_, success⟩)]
    exact (names_declare success).1
  · rename_i failure
    rw [if_neg fun acceptable => ?_]
    obtain ⟨_, success⟩ := declare_succeeds_iff.mpr acceptable
    rw [failure] at success
    cases success

theorem names_perform_insert (registry : Registry) (name : String) (subject : ElementId)
    (args : List ElementId) (statement : Nat) :
    ((Request.insert name subject args statement).perform registry).names = registry.names := by
  rcases registry.perform_insert_cases name subject args statement with
    ⟨-, place, -, added⟩ | ⟨-, same⟩
  · rw [added]
    rfl
  · rw [same]

/-- The relations are those declared with a length other than zero, in the order of their first
declarations. -/
theorem names_after_empty (history : List Request) :
    (empty.after history).names.names.toList = (history.filterMap Request.name?).eraseDups := by
  induction history using List.reverseRecOn with
  | nil => rfl
  | append_singleton history request induction =>
      rw [after, List.foldl_append, List.foldl_cons, List.foldl_nil, ← after, List.filterMap_append]
      cases request with
      | declare name arity =>
          rw [names_perform_declare, induction]
          by_cases zero : arity = 0
          · simp [zero, Request.name?]
          · have last : [Request.declare name arity].filterMap Request.name? = [name] := by
              simp [Request.name?, zero]
            rw [last, eraseDups_concat]
            simp only [List.mem_eraseDups, ne_eq, zero, not_false_eq_true, and_true, ite_not]
      | insert name subject args statement =>
          rw [names_perform_insert, induction]
          exact congrArg List.eraseDups (List.append_nil _).symm

/-! ## What stays true -/

/-- The relations stand at the places of their names, they are in order, and the numbers below that
of the next membership belong to one membership each. -/
structure Consistent (registry : Registry) : Prop where
  /-- Names lead to relations. -/
  aligned : registry.Aligned
  /-- The relations are in order. -/
  orderly : ∀ relation ∈ registry.relations, relation.Orderly
  /-- The memberships are numbered without gaps. -/
  counted : registry.Counted

theorem consistent_empty : empty.Consistent where
  aligned := Array.map_empty ..
  orderly _ listed := absurd listed (Array.not_mem_empty _)
  counted := List.Perm.nil

namespace Consistent

theorem sequence_eq (consistent : registry.Consistent) :
    registry.sequence = registry.memberCount := by
  rw [← length_sequences, consistent.counted.length_eq, List.length_range]

theorem sequence_lt (consistent : registry.Consistent) (listed : relation ∈ registry.relations)
    (held : membership ∈ relation.members) : membership.origin.sequence < registry.sequence := by
  refine List.mem_range.mp (consistent.counted.mem_iff.mp ?_)
  exact List.mem_flatMap.mpr ⟨relation, Array.mem_toList_iff.mpr listed,
    List.mem_map.mpr ⟨membership, Array.mem_toList_iff.mpr held, rfl⟩⟩

theorem declare (consistent : registry.Consistent) {declared : Registry}
    (success : registry.declare name arity = .ok declared) : declared.Consistent where
  aligned := consistent.aligned.declare success
  orderly relation listed := by
    rw [relations_of_declare success] at listed
    rcases Array.mem_push.mp listed with old | rfl
    · exact consistent.orderly relation old
    · exact Relation.orderly_ofArity name arity
  counted := by
    have same : declared.sequences = registry.sequences := by
      rw [sequences, relations_of_declare success, Array.toList_push, List.flatMap_append]
      exact List.append_nil _
    rw [Counted, same, sequence_declare success]
    exact consistent.counted

theorem put (consistent : registry.Consistent) (stands : registry.relations[place]? = some relation)
    (fits : relation.arity = args.length + 1) (new : relation.holds (subject :: args) = false) :
    (registry.put place ⟨subject, args, ⟨statement, registry.sequence⟩⟩).Consistent := by
  have inserted : registry.insertAt place subject args statement =
      (true, registry.put place ⟨subject, args, ⟨statement, registry.sequence⟩⟩) := by
    rw [insertAt_of_stands stands, new]
    rfl
  have aligned := insertionKeeps_aligned registry place subject args statement consistent.aligned
  have counted := insertionKeeps_counted registry place subject args statement consistent.counted
  rw [inserted] at aligned counted
  refine ⟨aligned, fun after listed => ?_, counted⟩
  obtain ⟨other, there⟩ := Array.getElem?_of_mem listed
  rw [relations_put] at there
  split at there
  · rename_i here
    subst here
    rw [stands] at there
    obtain rfl := Option.some.inj there
    have before := Array.mem_of_getElem? stands
    exact (consistent.orderly relation before).add fits.symm new
      fun earlier held => consistent.sequence_lt before held
  · exact consistent.orderly after (Array.mem_of_getElem? there)

/-- Every request keeps a registry consistent. -/
theorem perform (consistent : registry.Consistent) (request : Request) :
    (request.perform registry).Consistent := by
  cases request with
  | declare name arity =>
      rw [Request.perform]
      split
      · rename_i declared success
        exact consistent.declare success
      · exact consistent
  | insert name subject args statement =>
      rw [Request.perform]
      split
      · rename_i new after success
        obtain ⟨place, relation, -, stands, fits, same⟩ := insert_eq_ok_iff.mp success
        rw [insertAt_of_stands stands] at same
        split at same
        · cases same
          exact consistent
        · rename_i missing
          cases same
          exact consistent.put stands fits (Bool.eq_false_iff.mpr missing)
      · exact consistent

theorem after (consistent : registry.Consistent) (history : List Request) :
    (registry.after history).Consistent :=
  List.foldlRecOn _ _ consistent fun _ before request _ => before.perform request

end Consistent

/-! ## The relations of an element -/

/-- The first membership of an element, as subject, in the relation of a name. -/
def firstOf? (registry : Registry) (name : String) (subject : ElementId) : Option Membership :=
  match registry.get name with
  | .ok relation => relation.members.find? (·.subject == subject)
  | .error _ => none

theorem isMember_iff :
    registry.isMember name subject = true ↔
      ∃ first, registry.firstOf? name subject = some first := by
  rw [isMember, firstOf?, ← Option.isSome_iff_exists]
  cases registry.get name with
  | error fault => simp
  | ok relation => rw [Array.find?_isSome]; exact Array.any_eq_true'

/-- The relations that an element has joined, each with the number of its first membership. -/
def joined (registry : Registry) (subject : ElementId) : List (Nat × String) :=
  registry.relations.toList.filterMap fun relation =>
    (relation.members.find? (·.subject == subject)).map fun first =>
      (first.origin.sequence, relation.name)

/-- The relations that an element has joined in the order of their numbers. -/
def sortedJoined (registry : Registry) (subject : ElementId) : List (Nat × String) :=
  (registry.joined subject).mergeSort fun first second => first.1 ≤ second.1

theorem relationsOf_eq (registry : Registry) (subject : ElementId) :
    registry.relationsOf subject = (registry.sortedJoined subject).map (·.2) := rfl

theorem sortedJoined_perm (registry : Registry) (subject : ElementId) :
    (registry.sortedJoined subject).Perm (registry.joined subject) :=
  List.mergeSort_perm _ _

theorem filterMap_sublist_flatMap {α β : Type} {f : α → Option β} {g : α → List β} {items : List α}
    (listed : ∀ item ∈ items, ∀ result, f item = some result → result ∈ g item) :
    (items.filterMap f).Sublist (items.flatMap g) := by
  induction items with
  | nil => exact .slnil
  | cons item items induction =>
      obtain ⟨here, later⟩ := List.forall_mem_cons.mp listed
      rw [List.filterMap_cons, List.flatMap_cons]
      cases found : f item with
      | none => exact (induction later).trans (List.sublist_append_right _ _)
      | some result =>
          exact (List.singleton_sublist.mpr (here result found)).append (induction later)

namespace Consistent

variable {number : Nat}

theorem mem_joined (consistent : registry.Consistent) :
    (number, name) ∈ registry.joined subject ↔
      ∃ first, registry.firstOf? name subject = some first ∧ first.origin.sequence = number := by
  rw [joined, List.mem_filterMap]
  constructor
  · rintro ⟨relation, listed, found⟩
    obtain ⟨first, isFirst, same⟩ := Option.map_eq_some_iff.mp found
    cases same
    obtain ⟨place, stands⟩ := Array.getElem?_of_mem (Array.mem_toList_iff.mp listed)
    have got : registry.get relation.name = .ok relation :=
      get_eq_ok_iff.mpr ⟨place, consistent.aligned.find? stands, stands⟩
    exact ⟨first, by rw [firstOf?, got]; exact isFirst, rfl⟩
  · rintro ⟨first, found, rfl⟩
    rw [firstOf?] at found
    split at found
    · rename_i relation got
      obtain ⟨place, named, stands⟩ := get_eq_ok_iff.mp got
      have called : relation.name = name :=
        Declared.name_unique (consistent.aligned.find? stands) named
      exact ⟨relation, Array.mem_toList_iff.mpr (Array.mem_of_getElem? stands),
        by rw [found, called]; rfl⟩
    · cases found

/-- The numbers of first memberships are different. -/
theorem nodup_joined (consistent : registry.Consistent) (subject : ElementId) :
    ((registry.joined subject).map (·.1)).Nodup := by
  -- No relation gives more than one number, so theirs are some of all numbers.
  have sublist : ((registry.joined subject).map (·.1)).Sublist registry.sequences := by
    rw [joined, List.map_filterMap]
    refine filterMap_sublist_flatMap fun relation _ number found => ?_
    rw [Option.map_map] at found
    obtain ⟨first, isFirst, same⟩ := Option.map_eq_some_iff.mp found
    exact List.mem_map.mpr
      ⟨first, Array.mem_toList_iff.mpr (Array.mem_of_find?_eq_some isFirst), same⟩
  exact (consistent.counted.nodup_iff.mpr List.nodup_range).sublist sublist

theorem sortedJoined_pairwise (consistent : registry.Consistent) (subject : ElementId) :
    (registry.sortedJoined subject).Pairwise fun first second => first.1 < second.1 := by
  have sorted : (registry.sortedJoined subject).Pairwise fun first second =>
      decide (first.1 ≤ second.1) = true := by
    refine List.pairwise_mergeSort (fun first second third => ?_) (fun first second => ?_) _
    · simp only [decide_eq_true_eq]
      omega
    · simp only [Bool.or_eq_true, decide_eq_true_eq]
      omega
  have different := ((registry.sortedJoined_perm subject).map (·.1)).nodup_iff.mpr
    (consistent.nodup_joined subject)
  have apart := List.pairwise_map.mp different
  exact (sorted.and apart).imp fun {_ _} both => lt_of_le_of_ne (of_decide_eq_true both.1) both.2

theorem mem_relationsOf (consistent : registry.Consistent) :
    name ∈ registry.relationsOf subject ↔ registry.isMember name subject = true := by
  rw [relationsOf_eq, isMember_iff, List.mem_map]
  constructor
  · rintro ⟨⟨number, name⟩, listed, rfl⟩
    obtain ⟨first, found, -⟩ :=
      consistent.mem_joined.mp ((registry.sortedJoined_perm subject).mem_iff.mp listed)
    exact ⟨first, found⟩
  · rintro ⟨first, found⟩
    exact ⟨(first.origin.sequence, name), (registry.sortedJoined_perm subject).mem_iff.mpr
      (consistent.mem_joined.mpr ⟨first, found, rfl⟩), rfl⟩

theorem relationsOf_pairwise (consistent : registry.Consistent) (subject : ElementId) :
    (registry.relationsOf subject).Pairwise fun one other => ∃ first second,
      registry.firstOf? one subject = some first ∧ registry.firstOf? other subject = some second ∧
        first.origin.sequence < second.origin.sequence := by
  rw [relationsOf_eq, List.pairwise_map]
  refine (consistent.sortedJoined_pairwise subject).imp_of_mem fun {one other} here there less => ?_
  have perm := registry.sortedJoined_perm subject
  obtain ⟨first, found, number⟩ := consistent.mem_joined.mp (perm.mem_iff.mp here)
  obtain ⟨second, foundToo, numberToo⟩ := consistent.mem_joined.mp (perm.mem_iff.mp there)
  exact ⟨first, second, found, foundToo, by rwa [number, numberToo]⟩

theorem nodup_relationsOf (consistent : registry.Consistent) (subject : ElementId) :
    (registry.relationsOf subject).Nodup := by
  refine (consistent.relationsOf_pairwise subject).imp ?_
  rintro one _ ⟨first, second, found, foundToo, less⟩ rfl
  obtain rfl := Option.some.inj (found.symm.trans foundToo)
  exact Nat.lt_irrefl _ less

end Consistent

/-- Whatever is asked of a new registry, refused requests included: by the names, which are all
different, exactly the relations declared are found; these are in order, and all memberships
together are numbered without gaps.  A tuple is taken exactly if it is new, fits and has a relation,
and otherwise the registry stays as it is.  The relations of an element are those of which it is a
subject, each of them once, in the order in which it joined them. -/
theorem after_empty_consistent (history : List Request) :
    let registry := empty.after history
    registry.relations.toList.map (·.name) = (history.filterMap Request.name?).eraseDups ∧
      (∀ name place, registry.names.find? name = some place ↔
        ∃ relation, registry.relations[place]? = some relation ∧ relation.name = name) ∧
      (∀ relation ∈ registry.relations, relation.Orderly) ∧
      registry.sequences.Perm (List.range registry.memberCount) ∧
      (∀ name subject args statement,
        let taken := ∃ after, registry.insert name subject args statement = .ok (true, after)
        let after := (Request.insert name subject args statement).perform registry
        (∀ new, (∃ after, registry.insert name subject args statement = .ok (new, after)) ↔
          ∃ relation, registry.get name = .ok relation ∧ relation.arity = args.length + 1 ∧
            relation.holds (subject :: args) = !new) ∧
        (taken ∧ (∃ place, registry.names.find? name = some place ∧
            after = registry.put place ⟨subject, args, ⟨statement, registry.memberCount⟩⟩) ∨
          ¬taken ∧ after = registry)) ∧
      ∀ subject,
        (registry.relationsOf subject).Nodup ∧
        (∀ name, name ∈ registry.relationsOf subject ↔ registry.isMember name subject = true) ∧
        (registry.relationsOf subject).Pairwise fun one other => ∃ first second,
          registry.firstOf? one subject = some first ∧
            registry.firstOf? other subject = some second ∧
            first.origin.sequence < second.origin.sequence := by
  intro registry
  have consistent : registry.Consistent := consistent_empty.after history
  have names : registry.relations.toList.map (·.name) = registry.names.names.toList := by
    rw [← consistent.aligned, Array.toList_map]
  refine ⟨names.trans (names_after_empty history), fun name place => ?_, consistent.orderly, ?_,
    fun name subject args statement => ⟨fun new => exists_insert_iff, ?_⟩,
    fun subject => ⟨consistent.nodup_relationsOf subject, fun name => consistent.mem_relationsOf,
      consistent.relationsOf_pairwise subject⟩⟩
  · rw [Roster.find?_eq_some_iff, ← consistent.aligned, Array.getElem?_map, Option.map_eq_some_iff]
  · rw [← consistent.sequence_eq]
    exact consistent.counted
  · rw [← consistent.sequence_eq]
    exact registry.perform_insert_cases name subject args statement

/-- Springs are sources of something, and the first element is a source of the second. -/
def springs : List Request :=
  [.declare "Source" 2, .insert "Source" ⟨1⟩ [⟨2⟩] 10]

/-- The relation of sources with that one tuple. -/
def sources : Relation :=
  (Relation.ofArity "Source" 2).add ⟨⟨1⟩, [⟨2⟩], ⟨10, 0⟩⟩

theorem springs_consistent :
    let registry := empty.after springs
    sources ∈ registry.relations ∧ sources.Orderly ∧
      registry.sequences.Perm (List.range registry.memberCount) ∧
      (∃ after, registry.insert "Source" ⟨1⟩ [⟨2⟩] 5 = .ok (false, after)) ∧
      (Request.insert "Source" ⟨1⟩ [⟨2⟩] 5).perform registry = registry ∧
      (Request.insert "Liquid" ⟨2⟩ [] 6).perform registry = registry ∧
      "Source" ∈ registry.relationsOf ⟨1⟩ := by
  intro registry
  obtain ⟨declared, success⟩ : Succeeds (empty.declare "Source" 2) :=
    declare_succeeds_iff.mpr ⟨by decide, by decide⟩
  have stands : declared.relations[0]? = some (Relation.ofArity "Source" 2) := by
    rw [relations_of_declare success]
    rfl
  have named : declared.names.find? "Source" = some 0 :=
    (consistent_empty.declare success).aligned.find? stands
  have taken : declared.insert "Source" ⟨1⟩ [⟨2⟩] 10 =
      .ok (true, declared.put 0 ⟨⟨1⟩, [⟨2⟩], ⟨10, 0⟩⟩) := by
    have new : (Relation.ofArity "Source" 2).holds [⟨1⟩, ⟨2⟩] = false := by
      rw [← Bool.not_eq_true, Relation.holds_iff]
      rintro ⟨membership, listed, -⟩
      exact Array.not_mem_empty _ listed
    refine insert_eq_ok_iff.mpr ⟨0, _, named, stands, rfl, ?_⟩
    rw [insertAt_of_stands stands, sequence_declare success, new]
    rfl
  have whole : registry = declared.put 0 ⟨⟨1⟩, [⟨2⟩], ⟨10, 0⟩⟩ := by
    simp only [registry, springs, after, List.foldl_cons, List.foldl_nil, Request.perform, success,
      taken]
  have there : registry.relations[0]? = some sources := by
    rw [whole, relations_put, if_pos rfl, stands]
    rfl
  obtain ⟨names, index, orderly, numbers, requests, elements⟩ := after_empty_consistent springs
  have got : registry.get "Source" = .ok sources :=
    get_eq_ok_iff.mpr ⟨0, (index "Source" 0).mpr ⟨sources, there, rfl⟩, there⟩
  have held : sources.holds [⟨1⟩, ⟨2⟩] = true := by
    rw [Relation.holds_iff]
    exact ⟨_, Array.mem_push_self, rfl⟩
  have listed := Array.mem_of_getElem? there
  have known : ¬∃ after, registry.insert "Source" ⟨1⟩ [⟨2⟩] 5 = .ok (true, after) := by
    intro added
    obtain ⟨relation, found, -, lacks⟩ := ((requests "Source" ⟨1⟩ [⟨2⟩] 5).1 true).mp added
    rw [got] at found
    cases found
    rw [held] at lacks
    cases lacks
  have unknown : ¬∃ after, registry.insert "Liquid" ⟨2⟩ [] 6 = .ok (true, after) := by
    intro added
    obtain ⟨relation, found, -⟩ := ((requests "Liquid" ⟨2⟩ [] 6).1 true).mp added
    obtain ⟨place, placed, -⟩ := get_eq_ok_iff.mp found
    obtain ⟨relation, stands, name⟩ := (index "Liquid" place).mp placed
    have among : "Liquid" ∈ registry.relations.toList.map (·.name) :=
      List.mem_map.mpr ⟨relation, Array.mem_toList_iff.mpr (Array.mem_of_getElem? stands), name⟩
    rw [names] at among
    exact absurd among (by decide)
  refine ⟨listed, orderly sources listed, numbers,
    ((requests "Source" ⟨1⟩ [⟨2⟩] 5).1 false).mpr ⟨sources, got, rfl, held⟩,
    ((requests "Source" ⟨1⟩ [⟨2⟩] 5).2.resolve_left fun taken => known taken.1).2,
    ((requests "Liquid" ⟨2⟩ [] 6).2.resolve_left fun taken => unknown taken.1).2,
    ((elements ⟨1⟩).2.1 "Source").mpr ?_⟩
  rw [isMember_iff, firstOf?, got]
  exact ⟨⟨⟨1⟩, [⟨2⟩], ⟨10, 0⟩⟩, rfl⟩

end Registry
end FallingSand
