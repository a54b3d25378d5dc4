import FallingSand.Proofs.Mod.Ranks
import Mathlib.Data.List.Pairwise
import Mathlib.Data.List.Perm.Basic

/-!
# Calls on a catalog

A property or the shown name of an element is set by calls that each have a provenance.  A call
whose value the property does not accept is refused and changes nothing.  What an element has in the
end is what the last call of greatest rank has said, and calls of different ranks can be made in any
order.
-/

namespace FallingSand

/-- Assignments can be exchanged unless they are of one property and rank equal. -/
theorem Draft.assign_comm {key named : PropertyKey} {provenance origin : Provenance}
    (differ : key = named → provenance ≠ origin) (draft : Draft) (value given : Single) :
    (draft.assign key value provenance).assign named given origin =
      (draft.assign named given origin).assign key value provenance := by
  simp only [assign, mk.injEq, and_self, and_true, true_and]
  apply PerProperty.ext_get
  intro other
  simp only [PerProperty.get_set]
  by_cases same : key = named
  · subst same
    simp only [if_pos, prevail_comm (differ rfl)]
    split <;> rfl
  · rw [if_neg same, if_neg (Ne.symm same)]
    split
    · rename_i here
      rw [if_neg fun there => same (there.symm.trans here)]
    · rfl

namespace Catalog

/-! ## Calls and their answers -/

/-- A call that sets a property or the shown name of an element. -/
inductive Call where
  /-- Assign a property. -/
  | assign (id : ElementId) (key : PropertyKey) (value : Single) (provenance : Provenance)
  /-- Assign a property through a membership. -/
  | inherit (id : ElementId) (key : PropertyKey) (value : Single) (origin : Origin)
      (statement : Nat)
  /-- Set the name to show. -/
  | setDisplayName (id : ElementId) (text : String) (provenance : Provenance)

/-- What is set by a call. -/
inductive Content where
  /-- A property gets a value. -/
  | property (key : PropertyKey) (value : Single)
  /-- The shown name gets a text. -/
  | displayName (text : String)

namespace Content

/-- The property that is set, none for the shown name. -/
def key? : Content → Option PropertyKey
  | property key _ => some key
  | displayName _ => none

/-- Whether it can be set: a property has to accept its value. -/
def accepted : Content → Bool
  | property key value => key.accepts value
  | displayName _ => true

/-- The draft in which it has been set, unless it cannot be. -/
def write (content : Content) (provenance : Provenance) (draft : Draft) : Draft :=
  match content with
  | property key value =>
      if key.accepts value then draft.assign key value provenance else draft
  | displayName text => draft.setDisplayName text provenance

end Content

namespace Call

/-- The element that a call is about. -/
def subject : Call → ElementId
  | assign id _ _ _ | inherit id _ _ _ _ | setDisplayName id _ _ => id

/-- What is set by a call. -/
def content : Call → Content
  | assign _ key value _ | inherit _ key value _ _ => .property key value
  | setDisplayName _ text _ => .displayName text

/-- The provenance of a call. -/
def provenance : Call → Provenance
  | assign _ _ _ provenance | setDisplayName _ _ provenance => provenance
  | inherit _ _ _ origin statement => .inherited origin statement

/-- The property or shown name that is set. -/
def slot (call : Call) : ElementId × Option PropertyKey :=
  (call.subject, call.content.key?)

/-- How the catalog answers a call. -/
def answer (catalog : Catalog) : Call → Except Fault Catalog
  | assign id key value provenance => catalog.assign id key value provenance
  | inherit id key value origin statement => catalog.inherit id key value origin statement
  | setDisplayName id text provenance => .ok (catalog.setDisplayName id text provenance)

/-- The catalog after a call: a call that is refused leaves it as it is. -/
def perform (catalog : Catalog) (call : Call) : Catalog :=
  match call.answer catalog with
  | .ok changed => changed
  | .error _ => catalog

/-- The value that a call assigns to a property of an element, if it does and is accepted. -/
def assigned? (id : ElementId) (key : PropertyKey) (call : Call) : Option (Provenance × Single) :=
  match call.content with
  | .property property value =>
      if call.subject = id ∧ property = key ∧ key.accepts value then some (call.provenance, value)
      else none
  | .displayName _ => none

/-- The text that a call sets as the shown name of an element, if it does. -/
def shown? (id : ElementId) (call : Call) : Option (Provenance × String) :=
  match call.content with
  | .property _ _ => none
  | .displayName text => if call.subject = id then some (call.provenance, text) else none

end Call

/-- The catalog after calls in order. -/
def performAll (catalog : Catalog) (calls : List Call) : Catalog :=
  calls.foldl (fun before call => call.perform before) catalog

/-! ## Revisions -/

variable {catalog : Catalog} {id other : ElementId} {first second : Draft → Draft}

theorem getElem?_drafts_revise (catalog : Catalog) (id : ElementId) (change : Draft → Draft)
    (place : Nat) :
    (catalog.revise id change).drafts[place]? =
      if id.toNat = place then catalog.drafts[place]?.map change else catalog.drafts[place]? :=
  Array.getElem?_modify

/-- Catalogs are equal if they have the same names, drafts and number of direct assignments. -/
theorem ext_drafts {before after : Catalog} (names : before.names = after.names)
    (counted : before.nextDirect = after.nextDirect)
    (drafts : ∀ place : Nat, before.drafts[place]? = after.drafts[place]?) : before = after := by
  cases before
  cases after
  simp only [mk.injEq]
  exact ⟨names, Array.ext_getElem? drafts, counted⟩

theorem revise_of_same (same : ∀ draft, first draft = draft) :
    catalog.revise id first = catalog := by
  refine ext_drafts rfl rfl fun place => ?_
  rw [getElem?_drafts_revise]
  split
  · rw [funext same, Option.map_id']
  · rfl

theorem revise_comm (commutes : id = other → ∀ draft, second (first draft) = first (second draft)) :
    (catalog.revise id first).revise other second =
      (catalog.revise other second).revise id first := by
  refine ext_drafts rfl rfl fun place => ?_
  simp only [getElem?_drafts_revise]
  by_cases here : id.toNat = place
  · by_cases there : other.toNat = place
    · have same : id = other := ElementId.toNat_injective (here.trans there.symm)
      simp only [if_pos here, if_pos there, Option.map_map]
      exact congrArg (Option.map · _) (funext (commutes same))
    · simp only [if_pos here, if_neg there]
  · by_cases there : other.toNat = place
    · simp only [if_neg here, if_pos there]
    · simp only [if_neg here, if_neg there]

/-! ## What a call does -/

theorem Content.write_comm {content given : Content} {provenance origin : Provenance}
    (differ : content.key? = given.key? → provenance ≠ origin) (draft : Draft) :
    given.write origin (content.write provenance draft) =
      content.write provenance (given.write origin draft) := by
  cases content with
  | property key value =>
      cases given with
      | property named other =>
          have assigns := Draft.assign_comm (fun same : key = named => differ (congrArg some same))
            draft value other
          simp only [write]
          split
          · split
            · exact assigns
            · rfl
          · rfl
      | displayName text =>
          simp only [write]
          split <;> rfl
  | displayName text =>
      cases given with
      | property named other =>
          simp only [write]
          split <;> rfl
      | displayName other =>
          simp only [write, Draft.setDisplayName, prevail_comm (differ rfl)]

namespace Call

variable {call : Call} {catalog : Catalog} {id : ElementId}

theorem answer_of_property (catalog : Catalog) {key : PropertyKey} {value : Single}
    (content : call.content = .property key value) :
    call.answer catalog = catalog.assign call.subject key value call.provenance := by
  cases call <;> cases content <;> rfl

theorem answer_of_displayName (catalog : Catalog) {text : String}
    (content : call.content = .displayName text) :
    call.answer catalog = .ok (catalog.setDisplayName call.subject text call.provenance) := by
  cases call <;> cases content
  rfl

theorem assigned?_of_property {key named : PropertyKey} {value : Single}
    (content : call.content = .property named value) :
    call.assigned? id key =
      if call.subject = id ∧ named = key ∧ key.accepts value then some (call.provenance, value)
      else none := by
  rw [assigned?, content]

theorem assigned?_of_displayName (key : PropertyKey) {text : String}
    (content : call.content = .displayName text) : call.assigned? id key = none := by
  rw [assigned?, content]

theorem shown?_of_property {key : PropertyKey} {value : Single}
    (content : call.content = .property key value) : call.shown? id = none := by
  rw [shown?, content]

theorem shown?_of_displayName {text : String} (content : call.content = .displayName text) :
    call.shown? id = if call.subject = id then some (call.provenance, text) else none := by
  rw [shown?, content]

theorem answer_succeeds_iff : Succeeds (call.answer catalog) ↔ call.content.accepted = true := by
  cases content : call.content with
  | property key value =>
      rw [answer_of_property catalog content, Catalog.assign, Content.accepted]
      split
      · rename_i accepted
        exact iff_of_true (succeeds_ok _) accepted
      · rename_i refused
        exact iff_of_false (not_succeeds_error _) refused
  | displayName text =>
      rw [answer_of_displayName catalog content]
      exact iff_of_true (succeeds_ok _) rfl

theorem perform_of_refused (refused : ¬call.content.accepted = true) :
    call.perform catalog = catalog := by
  rw [perform]
  split
  · rename_i changed accepted
    exact absurd (answer_succeeds_iff.mp ⟨changed, accepted⟩) refused
  · rfl

theorem perform_eq_revise (catalog : Catalog) (call : Call) :
    call.perform catalog =
      catalog.revise call.subject (call.content.write call.provenance) := by
  cases content : call.content with
  | property key value =>
      by_cases accepted : key.accepts value = true
      · rw [perform, answer_of_property catalog content, Catalog.assign, if_pos accepted]
        exact congrArg (catalog.revise call.subject) (funext fun _ => (if_pos accepted).symm)
      · rw [perform_of_refused (by rwa [content])]
        exact (revise_of_same fun _ => if_neg accepted).symm
  | displayName text =>
      rw [perform, answer_of_displayName catalog content]
      rfl

theorem names_perform (catalog : Catalog) (call : Call) :
    (call.perform catalog).names = catalog.names := by
  rw [perform_eq_revise]
  rfl

theorem size_perform (catalog : Catalog) (call : Call) :
    (call.perform catalog).size = catalog.size :=
  congrArg Roster.size (call.names_perform catalog)

/-- Calls that do not say something of equal rank about the same thing can be exchanged. -/
theorem perform_comm {first second : Call}
    (differ : first.slot = second.slot → first.provenance ≠ second.provenance) (catalog : Catalog) :
    second.perform (first.perform catalog) = first.perform (second.perform catalog) := by
  simp only [perform_eq_revise]
  exact revise_comm fun same => Content.write_comm fun alike => differ (Prod.ext same alike)

theorem assignment?_perform (inside : id.toNat < catalog.size) (key : PropertyKey) (call : Call) :
    (call.perform catalog).assignment? id key =
      hear (catalog.assignment? id key) (call.assigned? id key) := by
  cases content : call.content with
  | property named value =>
      by_cases accepted : named.accepts value = true
      · rw [perform, answer_of_property catalog content, Catalog.assign, if_pos accepted]
        dsimp only
        rw [assignment?_assign, assigned?_of_property content]
        by_cases here : call.subject = id ∧ named = key
        · obtain ⟨rfl, rfl⟩ := here
          rw [if_pos ⟨rfl, rfl, inside⟩, if_pos ⟨rfl, rfl, accepted⟩]
          rfl
        · rw [if_neg fun all => here ⟨all.1, all.2.1⟩, if_neg fun all => here ⟨all.1, all.2.1⟩]
          rfl
      · rw [perform_of_refused (by rwa [content]), assigned?_of_property content]
        have unsaid : ¬(call.subject = id ∧ named = key ∧ key.accepts value = true) := by
          rintro ⟨-, rfl, taken⟩
          exact accepted taken
        rw [if_neg unsaid]
        rfl
  | displayName text =>
      rw [perform, answer_of_displayName catalog content, assigned?_of_displayName key content]
      exact assignment?_revise_of_same fun _ => rfl

end Call

/-- The name to show that stands for an element. -/
def displayed? (catalog : Catalog) (id : ElementId) : Option (Provenance × String) :=
  catalog.drafts[id.toNat]?.bind (·.displayName)

theorem displayed?_revise_of_same {change : Draft → Draft}
    (same : ∀ draft, (change draft).displayName = draft.displayName) :
    (catalog.revise id change).displayed? other = catalog.displayed? other := by
  rw [displayed?, displayed?, getElem?_drafts_revise]
  split
  · rw [Option.bind_map]
    exact congrArg _ (funext same)
  · rfl

namespace Call

variable {call : Call} {catalog : Catalog} {id : ElementId}

theorem displayed?_perform (inside : id.toNat < catalog.size) (call : Call) :
    (call.perform catalog).displayed? id = hear (catalog.displayed? id) (call.shown? id) := by
  cases content : call.content with
  | property key value =>
      rw [perform_eq_revise, content, shown?_of_property content]
      refine displayed?_revise_of_same fun draft => ?_
      rw [Content.write]
      split
      · rfl
      · rfl
  | displayName text =>
      rw [perform, answer_of_displayName catalog content, shown?_of_displayName content]
      dsimp only
      rw [Catalog.setDisplayName, displayed?, getElem?_drafts_revise]
      have drafted : id.toNat < catalog.drafts.size := by
        rw [catalog.size_drafts]
        exact inside
      by_cases here : call.subject = id
      · rw [if_pos (congrArg ElementId.toNat here), if_pos here, displayed?,
          Array.getElem?_eq_getElem drafted]
        rfl
      · rw [if_neg fun same => here (ElementId.toNat_injective same), if_neg here]
        rfl

end Call

/-! ## What calls amount to -/

theorem names_performAll (catalog : Catalog) (calls : List Call) :
    (catalog.performAll calls).names = catalog.names :=
  List.foldlRecOn (motive := fun after : Catalog => after.names = catalog.names) _ _ rfl
    fun _ same call _ => (call.names_perform _).trans same

theorem size_performAll (catalog : Catalog) (calls : List Call) :
    (catalog.performAll calls).size = catalog.size :=
  congrArg Roster.size (names_performAll catalog calls)

/-- What prevails of something that each call may say prevails of all that is said by calls. -/
theorem prevails_performAll {α : Type} (stands : Catalog → Option (Provenance × α))
    (said? : Call → Option (Provenance × α))
    (step : ∀ catalog call, id.toNat < size catalog →
      stands (call.perform catalog) = hear (stands catalog) (said? call))
    (inside : id.toNat < catalog.size) {heard : List (Provenance × α)}
    (prevails : Prevails heard (stands catalog)) (calls : List Call) :
    Prevails (heard ++ calls.filterMap said?) (stands (catalog.performAll calls)) := by
  induction calls generalizing catalog heard with
  | nil =>
      rw [List.filterMap_nil, List.append_nil]
      exact prevails
  | cons call calls induction =>
      have rest := induction ((call.size_perform catalog).symm ▸ inside)
        ((step catalog call inside).symm ▸ prevails.hear (said? call))
      have said : (said? call).toList ++ calls.filterMap said? =
          (call :: calls).filterMap said? := by
        rw [List.filterMap_cons]
        cases said? call <;> rfl
      rwa [List.append_assoc, said] at rest

/-- Calls no two of which say something of equal rank about the same thing have the same effect in
any order. -/
theorem performAll_perm {calls others : List Call} (reordered : calls.Perm others)
    (differ : calls.Pairwise fun one other => one.slot = other.slot →
      one.provenance ≠ other.provenance) (catalog : Catalog) :
    catalog.performAll calls = catalog.performAll others := by
  refine reordered.foldl_eq' (fun one listed other listedToo before => ?_) catalog
  by_cases same : one = other
  · rw [same]
  · have symmetric : Std.Symm fun one other : Call => one.slot = other.slot →
        one.provenance ≠ other.provenance := ⟨fun _ _ differ alike => (differ alike.symm).symm⟩
    exact Call.perform_comm (differ.forall listed listedToo same) before

/-! ## What is read off a catalog -/

theorem idOf_eq_ok_iff {name : String} :
    catalog.idOf name = .ok id ↔ catalog.names.find? name = some id.toNat := by
  rw [idOf]
  cases found : catalog.names.find? name with
  | none => simp
  | some place =>
      have few : place < 65536 := Nat.lt_of_lt_of_le (Roster.find?_lt found) catalog.size_le
      rw [Except.ok.injEq, Option.some.injEq]
      constructor
      · rintro rfl
        exact (UInt16.toNat_ofNat_of_lt' few).symm
      · rintro rfl
        exact congrArg ElementId.mk UInt16.ofNat_toNat

/-- The properties of a named element are those that it has in the finished table. -/
theorem resolve_of_idOf {name : String} (found : catalog.idOf name = .ok id)
    (relationsOf : ElementId → List String) :
    catalog.resolve name = .ok ((catalog.resolveAll relationsOf).get id).properties := by
  have place := idOf_eq_ok_iff.mp found
  obtain ⟨draft, _, stands, -, finished⟩ :=
    exists_get_resolveAll relationsOf (Roster.find?_lt place)
  rw [resolve, place, Option.bind_some, stands, finished]
  rfl

theorem displayName_resolveAll (catalog : Catalog) (relationsOf : ElementId → List String)
    (inside : id.toNat < catalog.size) :
    ((catalog.resolveAll relationsOf).get id).displayName =
      (catalog.displayed? id).map (·.2) := by
  obtain ⟨draft, _, stands, -, finished⟩ := exists_get_resolveAll relationsOf inside
  rw [finished, displayed?, stands]
  rfl

/-- After calls on a catalog, a property of an element has the value of the last accepted call of
greatest rank for it, or zero, and the shown name of an element is that of the last call of greatest
rank for it, if there is one; what stood before counts as a call before the others.  A call is
refused exactly for a value that its property does not accept, and then it leaves the catalog as it
is.  Calls of different ranks, as far as they are about the same thing, make the same catalog in any
order. -/
theorem performAll_settles (catalog : Catalog) (calls : List Call) :
    (∀ id : ElementId, id.toNat < catalog.size → ∀ relationsOf,
      let element := ((catalog.performAll calls).resolveAll relationsOf).get id
      (∀ key, ∃ winner,
        Prevails ((catalog.assignment? id key).toList ++ calls.filterMap (Call.assigned? id key))
          winner ∧
        element.properties.get key = (winner.map Prod.snd).getD Single.zero) ∧
      (∃ winner,
        Prevails ((catalog.displayed? id).toList ++ calls.filterMap (Call.shown? id)) winner ∧
        element.displayName = winner.map Prod.snd) ∧
      ∀ name, catalog.idOf name = .ok id →
        (catalog.performAll calls).resolve name = .ok element.properties) ∧
    (∀ call : Call, (Succeeds (call.answer catalog) ↔ call.content.accepted = true) ∧
      (¬call.content.accepted = true → call.perform catalog = catalog)) ∧
    ∀ others, calls.Perm others →
      (calls.Pairwise fun one other => one.slot = other.slot → one.provenance ≠ other.provenance) →
      catalog.performAll calls = catalog.performAll others := by
  refine ⟨fun id inside relationsOf => ⟨fun key => ?_, ?_, fun name found => ?_⟩,
    fun call => ⟨Call.answer_succeeds_iff, Call.perform_of_refused⟩,
    fun others reordered differ => performAll_perm reordered differ catalog⟩
  · have within : id.toNat < (catalog.performAll calls).size := by rwa [size_performAll]
    have prevails := prevails_performAll (·.assignment? id key) (Call.assigned? id key)
      (fun _ call inside => call.assignment?_perform inside key) inside (prevails_single _) calls
    exact ⟨_, prevails, get_properties_resolveAll _ relationsOf within key⟩
  · have within : id.toNat < (catalog.performAll calls).size := by rwa [size_performAll]
    have prevails := prevails_performAll (·.displayed? id) (Call.shown? id)
      (fun _ call inside => call.displayed?_perform inside) inside (prevails_single _) calls
    exact ⟨_, prevails, displayName_resolveAll _ relationsOf within⟩
  · refine resolve_of_idOf ?_ relationsOf
    rwa [idOf_eq_ok_iff, names_performAll, ← idOf_eq_ok_iff]

/-- Mud inherits a density through two memberships, the later one first, is refused a spread and
gets a name to show. -/
def wetting : List Call :=
  [.inherit ⟨1⟩ .density ⟨0x3f4ccccd⟩ ⟨20, 3⟩ 0, .inherit ⟨1⟩ .density ⟨0x3f666666⟩ ⟨10, 1⟩ 0,
    .assign ⟨1⟩ .spread ⟨0xbe99999a⟩ (.explicit 4),
    .setDisplayName ⟨1⟩ "Wet mud" (.inherited ⟨20, 3⟩ 1)]

theorem mud_settles : ∃ catalog, initial.define "Mud" "#402000" = .ok (⟨1⟩, catalog) ∧
    (⟨1⟩ : ElementId).toNat < catalog.size ∧
    wetting.Perm wetting.reverse ∧
    (wetting.Pairwise fun one other => one.slot = other.slot →
      one.provenance ≠ other.provenance) ∧
    (let element := ((catalog.performAll wetting).resolveAll fun _ => []).get ⟨1⟩
     element.properties.get .density = ⟨0x3f4ccccd⟩ ∧
      element.properties.get .spread = Single.zero ∧
      element.displayName = some "Wet mud") ∧
    catalog.performAll wetting = catalog.performAll wetting.reverse := by
  obtain ⟨⟨id, catalog⟩, success⟩ : Succeeds (initial.define "Mud" "#402000") :=
    define_succeeds_iff.mpr ⟨by decide, by decide⟩
  obtain ⟨rfl, names, drafts, -⟩ := define_eq_ok success
  have inside : (⟨1⟩ : ElementId).toNat < catalog.size := by
    rw [size, Roster.size, names]
    decide
  have unassigned (key : PropertyKey) : catalog.assignment? ⟨1⟩ key = none := by
    rw [assignment?, drafts]
    cases key <;> rfl
  have unnamed : catalog.displayed? ⟨1⟩ = none := by
    rw [displayed?, drafts]
    rfl
  have differ : wetting.Pairwise fun one other => one.slot = other.slot →
      one.provenance ≠ other.provenance := by decide
  have reordered : wetting.Perm wetting.reverse := (List.reverse_perm wetting).symm
  obtain ⟨settles, -, reorders⟩ := performAll_settles catalog wetting
  obtain ⟨properties, ⟨_, named, name⟩, -⟩ := settles ⟨1⟩ inside fun _ => []
  obtain ⟨_, dense, density⟩ := properties .density
  obtain ⟨_, spreads, spread⟩ := properties .spread
  rw [unassigned] at dense spreads
  rw [unnamed] at named
  have later : ∀ other ∈ [(Provenance.inherited ⟨10, 1⟩ 0, (⟨0x3f666666⟩ : Single))],
      other.1.rank < (Provenance.inherited ⟨20, 3⟩ 0).rank := by
    intro other listed
    obtain rfl := List.mem_singleton.mp listed
    exact Provenance.not_le_iff_rank_lt.mp (by decide)
  have densest : Prevails (wetting.filterMap (Call.assigned? ⟨1⟩ .density))
      (some (.inherited ⟨20, 3⟩ 0, ⟨0x3f4ccccd⟩)) :=
    ⟨[], _, rfl, fun _ listed => absurd listed List.not_mem_nil, later⟩
  have refused : Prevails (wetting.filterMap (Call.assigned? ⟨1⟩ .spread)) none :=
    show wetting.filterMap (Call.assigned? ⟨1⟩ .spread) = [] from rfl
  refine ⟨catalog, success, inside, reordered, differ, ⟨?_, ?_, ?_⟩,
    reorders wetting.reverse reordered differ⟩
  · rw [density, dense.unique densest]
    rfl
  · rw [spread, spreads.unique refused]
    rfl
  · rw [name, named.unique (prevails_single (some (.inherited ⟨20, 3⟩ 1, "Wet mud")))]
    rfl

end Catalog
end FallingSand
