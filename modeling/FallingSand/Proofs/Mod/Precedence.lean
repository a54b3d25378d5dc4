import FallingSand.Proofs.Mod.Origins
import FallingSand.Proofs.Mod.Renumbering
import Mathlib.Order.Monotone.Basic

/-!
# Only the order of ordinals matters

What is said about an element is weighed by provenances, which compare ordinals and ask for nothing
else about them.  So directives with other ordinals in the same order make the same elements and the
same rules of a mod, under those ordinals.
-/

namespace FallingSand

variable {f g : Nat → Nat}

/-! ## Provenances -/

namespace Origin

variable {first second : Origin}

theorem le_renumber (mono : StrictMono f) (first second : Origin) :
    (first.renumber f).le (second.renumber f) = first.le second := by
  rw [Bool.eq_iff_iff, le_iff, le_iff]
  exact or_congr mono.lt_iff_lt (and_congr_left fun _ => mono.injective.eq_iff)

theorem renumber_inj (mono : StrictMono f) :
    first.renumber f = second.renumber f ↔ first = second := by
  cases first
  cases second
  simp only [renumber, mk.injEq, mono.injective.eq_iff]

theorem max_renumber (mono : StrictMono f) (first second : Origin) :
    (first.renumber f).max (second.renumber f) = (first.max second).renumber f := by
  rw [max, le_renumber mono, max, apply_ite (renumber f)]

theorem max_default (origin : Origin) : (default : Origin).max origin = origin := by
  have least : (default : Origin).le origin = true := by
    rw [le_iff]
    have first : (default : Origin) = ⟨0, 0⟩ := rfl
    simp only [first]
    omega
  rw [max, if_pos least]

end Origin

theorem Row.latestOrigin_renumber (mono : StrictMono f) {row : Row} (met : row.origins ≠ []) :
    (row.renumber f).latestOrigin = row.latestOrigin.renumber f := by
  rw [latestOrigin, latestOrigin, renumber]
  cases origins : row.origins with
  | nil => exact absurd origins met
  | cons first rest =>
      rw [List.map_cons, List.foldl_cons, List.foldl_cons, Origin.max_default, Origin.max_default,
        List.foldl_map]
      clear origins met
      induction rest generalizing first with
      | nil => rfl
      | cons second rest induction =>
          rw [List.foldl_cons, List.foldl_cons, Origin.max_renumber mono, induction]

namespace Provenance

/-- The provenance under other ordinals. -/
def renumber (f : Nat → Nat) : Provenance → Provenance
  | inherited origin statement => inherited (origin.renumber f) (f statement)
  | explicit statement => explicit (f statement)

theorem le_renumber (mono : StrictMono f) (first second : Provenance) :
    (first.renumber f).le (second.renumber f) = first.le second := by
  cases first with
  | explicit first =>
      cases second with
      | explicit second => exact decide_eq_decide.mpr mono.le_iff_le
      | inherited _ _ => rfl
  | inherited origin first =>
      cases second with
      | explicit _ => rfl
      | inherited later second =>
          rw [Bool.eq_iff_iff, renumber, renumber, inherited_le_iff, inherited_le_iff, Ne,
            Origin.renumber_inj mono, Origin.le_renumber mono, mono.le_iff_le]

/-- What has been said under other ordinals. -/
def renumberOf {α : Type} (f : Nat → Nat) (said : Provenance × α) : Provenance × α :=
  (said.1.renumber f, said.2)

end Provenance

theorem prevail_renumber {α : Type} (mono : StrictMono f) (current : Option (Provenance × α))
    (provenance : Provenance) (value : α) :
    prevail (current.map (Provenance.renumberOf f)) (provenance.renumber f) value =
      (prevail current provenance value).map (Provenance.renumberOf f) := by
  cases current with
  | none => rfl
  | some standing =>
      rw [Option.map_some, prevail, prevail, Provenance.renumberOf]
      dsimp only
      rw [Provenance.le_renumber mono, apply_ite (Option.map (Provenance.renumberOf f))]
      rfl

theorem orderedUnique_renumber (mono : StrictMono f) (pieces : Array (Provenance × String)) :
    orderedUnique (pieces.map (Provenance.renumberOf f)) = orderedUnique pieces := by
  have sorted := List.map_mergeSort (l := pieces.toList) (f := Provenance.renumberOf f)
    (r := fun first second => first.1.le second.1) (s := fun first second => first.1.le second.1)
    fun first _ second _ => (Provenance.le_renumber mono first.1 second.1).symm
  rw [orderedUnique, Array.toList_map, ← sorted, List.map_map, orderedUnique]
  rfl

/-! ## Catalogs -/

namespace Draft

/-- The draft under other ordinals. -/
def renumber (f : Nat → Nat) (draft : Draft) : Draft where
  color := draft.color
  properties := draft.properties.map (Option.map (Provenance.renumberOf f))
  displayName := draft.displayName.map (Provenance.renumberOf f)
  descriptions := draft.descriptions.map (Provenance.renumberOf f)
  tags := draft.tags.map (Provenance.renumberOf f)

theorem renumber_ofColor (color : Option String) : (ofColor color).renumber f = ofColor color := by
  simp only [renumber, ofColor, Option.map_none, Array.map_empty, mk.injEq, true_and, and_true]
  rfl

/-- The element does not depend on the ordinals as long as their order is the same. -/
theorem finish_renumber (mono : StrictMono f) (draft : Draft) (id : ElementId) (name : String)
    (relations : List String) :
    (draft.renumber f).finish id name relations = draft.finish id name relations := by
  have properties : (draft.renumber f).resolve = draft.resolve := by
    apply PerProperty.ext_get
    intro key
    rw [resolve, resolve, renumber, PerProperty.get_map, PerProperty.get_map, PerProperty.get_map,
      Option.map_map]
    rfl
  have shown : (draft.renumber f).displayName.map (·.2) = draft.displayName.map (·.2) := by
    rw [renumber, Option.map_map]
    rfl
  rw [finish, properties, shown, renumber, orderedUnique_renumber mono,
    orderedUnique_renumber mono, finish]

theorem assign_renumber (mono : StrictMono f) (draft : Draft) (key : PropertyKey) (value : Single)
    (provenance : Provenance) :
    (draft.assign key value provenance).renumber f =
      (draft.renumber f).assign key value (provenance.renumber f) := by
  simp only [assign, renumber, mk.injEq, and_self, and_true, true_and]
  apply PerProperty.ext_get
  intro other
  rw [PerProperty.get_map, PerProperty.get_set, PerProperty.get_set, PerProperty.get_map,
    prevail_renumber mono, PerProperty.get_map, apply_ite (Option.map (Provenance.renumberOf f))]

theorem setDisplayName_renumber (mono : StrictMono f) (draft : Draft) (text : String)
    (provenance : Provenance) :
    (draft.setDisplayName text provenance).renumber f =
      (draft.renumber f).setDisplayName text (provenance.renumber f) := by
  simp only [setDisplayName, renumber, prevail_renumber mono]

theorem addTag_renumber (draft : Draft) (text : String) (provenance : Provenance) :
    (draft.addTag text provenance).renumber f =
      (draft.renumber f).addTag text (provenance.renumber f) := by
  simp only [addTag, renumber, Array.map_push, Provenance.renumberOf]

theorem addDescription_renumber (draft : Draft) (text : String) (provenance : Provenance) :
    (draft.addDescription text provenance).renumber f =
      (draft.renumber f).addDescription text (provenance.renumber f) := by
  simp only [addDescription, renumber, Array.map_push, Provenance.renumberOf]

end Draft

/-- The table with every element replaced. -/
def ElementTable.map (e : Element → Element) (table : ElementTable) : ElementTable where
  entries := table.entries.map e
  size_pos := by simpa using table.size_pos

theorem ElementTable.map_id (table : ElementTable) : table.map id = table := by
  simp only [ElementTable.map, Array.map_id]

namespace Catalog

/-- The catalog with every draft replaced. -/
def mapDrafts (change : Draft → Draft) (catalog : Catalog) : Catalog :=
  { catalog with
    drafts := catalog.drafts.map change
    size_drafts := by rw [Array.size_map, catalog.size_drafts] }

/-- Nothing has been said about the elements yet. -/
def Blank (catalog : Catalog) : Prop :=
  ∀ draft ∈ catalog.drafts, ∃ color, draft = Draft.ofColor color

variable {catalog : Catalog} {change alter altered : Draft → Draft}

theorem mapDrafts_of_blank (blank : catalog.Blank)
    (keeps : ∀ color, change (Draft.ofColor color) = Draft.ofColor color) :
    catalog.mapDrafts change = catalog := by
  have drafts : catalog.drafts.map change = catalog.drafts := by
    refine (Array.map_congr_left fun draft listed => ?_).trans (Array.map_id _)
    obtain ⟨color, rfl⟩ := blank draft listed
    exact keeps color
  simp only [mapDrafts, drafts]

theorem mapDrafts_revise (commutes : ∀ draft, change (alter draft) = altered (change draft))
    (id : ElementId) :
    (catalog.revise id alter).mapDrafts change = (catalog.mapDrafts change).revise id altered := by
  simp only [revise, mapDrafts, mk.injEq, true_and, and_true]
  exact map_modify commutes catalog.drafts id.toNat

theorem mapDrafts_revise_of_same (same : ∀ draft, change (alter draft) = change draft)
    (id : ElementId) : (catalog.revise id alter).mapDrafts change = catalog.mapDrafts change := by
  simp only [revise, mapDrafts, mk.injEq, true_and, and_true]
  apply Array.ext_getElem?
  intro place
  simp only [Array.getElem?_map, Array.getElem?_modify]
  split
  · simp only [Option.map_map, Function.comp_def, same]
  · rfl

theorem resolveAll_mapDrafts (catalog : Catalog) {e : Element → Element}
    (finishes : ∀ draft id name relations,
      (change draft).finish id name relations = e (draft.finish id name relations))
    (relationsOf : ElementId → List String) :
    (catalog.mapDrafts change).resolveAll relationsOf =
      (catalog.resolveAll relationsOf).map e := by
  simp only [resolveAll, ElementTable.map, mapDrafts, ElementTable.mk.injEq, Array.map_ofFn]
  refine congrArg Array.ofFn (funext fun place => ?_)
  have inside : place.val < catalog.drafts.size := place.isLt.trans_eq catalog.size_drafts.symm
  have kept : place.val < (catalog.drafts.map change).size := by rwa [Array.size_map]
  have drafted : (catalog.drafts.map change)[place.val] = change catalog.drafts[place.val] :=
    Array.getElem_map change kept
  exact (congrArg (fun draft : Draft => draft.finish _ _ _) drafted).trans (finishes _ _ _ _)

end Catalog

/-! ## Consequences -/

/-- The source of a rule under other ordinals. -/
def RuleSource.renumber (f : Nat → Nat) (source : RuleSource) : RuleSource :=
  { source with statement := f source.statement }

/-- The reaction under other ordinals. -/
def Reaction.renumber (f : Nat → Nat) (reaction : Reaction) : Reaction :=
  { reaction with source := reaction.source.renumber f }

/-- The transition under other ordinals. -/
def Transition.renumber (f : Nat → Nat) (transition : Transition) : Transition :=
  { transition with source := transition.source.renumber f }

namespace Consequence

/-- The consequence under other ordinals. -/
def renumber (f : Nat → Nat) : Consequence → Consequence
  | property id key value provenance => property id key value (provenance.renumber f)
  | tag id text provenance => tag id text (provenance.renumber f)
  | displayName id text provenance => displayName id text (provenance.renumber f)
  | description id text provenance => description id text (provenance.renumber f)
  | reaction rule => reaction (rule.renumber f)
  | transition rule => transition (rule.renumber f)

theorem reactions_renumber (consequences : List Consequence) :
    (consequences.map (renumber f)).filterMap reaction? =
      (consequences.filterMap reaction?).map (Reaction.renumber f) := by
  rw [List.filterMap_map, List.map_filterMap]
  refine List.filterMap_congr fun consequence _ => ?_
  cases consequence <;> rfl

theorem transitions_renumber (consequences : List Consequence) :
    (consequences.map (renumber f)).filterMap transition? =
      (consequences.filterMap transition?).map (Transition.renumber f) := by
  rw [List.filterMap_map, List.map_filterMap]
  refine List.filterMap_congr fun consequence _ => ?_
  cases consequence <;> rfl

theorem addTo_renumber (mono : StrictMono f) (catalog : Catalog) (consequence : Consequence) :
    addTo (catalog.mapDrafts (Draft.renumber f)) (consequence.renumber f) =
      (addTo catalog consequence).mapDrafts (Draft.renumber f) := by
  symm
  cases consequence with
  | property id key value provenance =>
      exact Catalog.mapDrafts_revise (fun draft => draft.assign_renumber mono _ _ _) id
  | tag id text provenance =>
      exact Catalog.mapDrafts_revise (fun draft => draft.addTag_renumber _ _) id
  | displayName id text provenance =>
      exact Catalog.mapDrafts_revise (fun draft => draft.setDisplayName_renumber mono _ _) id
  | description id text provenance =>
      exact Catalog.mapDrafts_revise (fun draft => draft.addDescription_renumber _ _) id
  | reaction rule => rfl
  | transition rule => rfl

theorem foldl_addTo_renumber (mono : StrictMono f) (catalog : Catalog)
    (consequences : List Consequence) :
    (consequences.map (renumber f)).foldl addTo (catalog.mapDrafts (Draft.renumber f)) =
      (consequences.foldl addTo catalog).mapDrafts (Draft.renumber f) := by
  induction consequences generalizing catalog with
  | nil => rfl
  | cons consequence consequences induction =>
      rw [List.map_cons, List.foldl_cons, List.foldl_cons, addTo_renumber mono, induction]

end Consequence

namespace Row

theorem origins_matchSlots {origin : Origin} {slots : List Slot} {ids : List ElementId}
    {row matched : Row} (found : matchSlots origin slots ids row = some matched) :
    matched.origins = row.origins :=
  matchSlots_induction (P := fun other => other.origins = row.origins)
    (fun _ _ _ _ same => same) found rfl

end Row

theorem Registry.length_origins {registry : Registry} {patterns : List Pattern} {row : Row}
    (listed : row ∈ registry.rows patterns) : row.origins.length = patterns.length := by
  induction patterns using List.reverseRecOn generalizing row with
  | nil =>
      obtain rfl := List.mem_singleton.mp listed
      rfl
  | append_singleton patterns pattern induction =>
      rw [rows_append] at listed
      obtain ⟨before, earlier, extended⟩ := List.mem_flatMap.mp listed
      obtain ⟨membership, -, picked⟩ := List.mem_filterMap.mp extended
      obtain ⟨matched, found, rfl⟩ := Option.map_eq_some_iff.mp picked
      rw [List.length_append, List.length_append, Row.origins_matchSlots found, induction earlier]
      rfl

namespace Directive

variable {p : List Nat → List Nat} {directive : Directive} {registry : Registry} {row : Row}
  {t : Template → Template}

theorem provenance_recast (mono : StrictMono f) (met : directive.patterns = [] ∨ row.origins ≠ [])
    (subject : Slot) :
    (directive.recast f p).provenance (row.renumber f) subject =
      (directive.provenance row subject).renumber f := by
  have patterns : (directive.recast f p).patterns = directive.patterns := rfl
  unfold provenance
  rw [patterns]
  split
  · rfl
  · rename_i enclosed
    have matched : row.origins ≠ [] := met.resolve_left (by simpa using enclosed)
    have latest := Row.latestOrigin_renumber mono matched
    cases subject with
    | element id =>
        simp only [latest]
        rfl
    | var name =>
        simp only [Row.find?_renumber, Option.map_map, latest]
        cases row.find? name <;> rfl

theorem consequence?_recast (mono : StrictMono f)
    (met : directive.patterns = [] ∨ row.origins ≠ []) (place : Nat) :
    (directive.recast f p).consequence? place (row.renumber f) =
      (directive.consequence? place row).map (Consequence.renumber f) := by
  have provenance := provenance_recast (p := p) mono met
  have elements : (row.renumber f).element? = row.element? := funext row.element?_renumber
  have action : (directive.recast f p).action = directive.action := rfl
  rw [consequence?, consequence?, action, elements]
  cases directive.action with
  | member relation subject args => rfl
  | property key subject value | tag subject text | displayName subject text
  | description subject text =>
      simp only [provenance, Option.map_map]
      rfl
  | reaction probability left right outLeft outRight =>
      dsimp only
      split <;> rfl
  | transition probability source target =>
      dsimp only
      split <;> rfl

theorem consequences_recast (mono : StrictMono f) :
    (directive.recast f p).consequences (registry.recast f t) =
      (directive.consequences registry).map (Consequence.renumber f) := by
  have patterns : (directive.recast f p).patterns = directive.patterns := rfl
  rw [consequences, patterns, Registry.rows_recast, consequences, List.map_filterMap,
    List.zipIdx_map, List.filterMap_map]
  refine List.filterMap_congr fun numbered listed => ?_
  have among := List.fst_mem_of_mem_zipIdx listed
  refine consequence?_recast mono ?_ numbered.2
  have origins := Registry.length_origins among
  by_contra neither
  rw [not_or, not_not] at neither
  rw [neither.2] at origins
  exact neither.1 (List.length_eq_zero_iff.mp origins.symm)

end Directive

/-! ## Rule sets -/

namespace RuleSet

/-- The rule set under other ordinals. -/
def renumber (f : Nat → Nat) (rules : RuleSet) : RuleSet :=
  ofRules rules.title rules.elements (rules.registry.recast f id)
    (rules.reactions.map (Reaction.renumber f)) (rules.transitions.map (Transition.renumber f))

theorem renumber_renumber (rules : RuleSet) :
    (rules.renumber f).renumber g = rules.renumber (g ∘ f) := by
  have reactions : Reaction.renumber g ∘ Reaction.renumber f = Reaction.renumber (g ∘ f) := rfl
  have transitions : Transition.renumber g ∘ Transition.renumber f = Transition.renumber (g ∘ f) :=
    rfl
  rw [renumber, renumber, renumber]
  dsimp only [ofRules]
  rw [Registry.recast_recast, List.map_map, List.map_map, reactions, transitions]
  rfl

end RuleSet

/-- A new element has nothing said about it. -/
theorem Catalog.Blank.define {catalog after : Catalog} {name color : String} {id : ElementId}
    (blank : catalog.Blank) (defined : catalog.define name color = .ok (id, after)) :
    after.Blank := by
  rw [Blank, (define_eq_ok defined).2.2.1]
  exact Array.forall_mem_push.mpr ⟨⟨_, rfl⟩, blank⟩

/-- No relation has a member yet. -/
def Registry.Unfilled (registry : Registry) : Prop :=
  ∀ relation ∈ registry.relations, relation.members = #[]

/-- A new relation has no member. -/
theorem Registry.Unfilled.declare {registry after : Registry} {name : String} {arity : Nat}
    (unfilled : registry.Unfilled) (declared : registry.declare name arity = .ok after) :
    after.Unfilled := by
  rw [Registry.declare] at declared
  split at declared
  · cases declared
  · split at declared
    · cases declared
    · cases declared
      exact Array.forall_mem_push.mpr ⟨rfl, unfilled⟩

namespace Declared

variable {declared : Declared} {directives : List Directive} {entries : List Entry}
  {p : List Nat → List Nat}

/-- Declarations say nothing about elements and fill no relations. -/
theorem blank_of_gathered (gathered : Declared.ofEntries entries = .ok declared) :
    declared.catalog.Blank ∧ declared.registry.Unfilled := by
  constructor
  · refine catalog_induction (P := Catalog.Blank) (fun draft listed => ⟨none, ?_⟩)
      (fun _ _ _ _ _ defined blank => Catalog.Blank.define blank defined) gathered
    simpa [Catalog.initial] using listed
  · refine registry_induction (P := Registry.Unfilled) (fun relation listed => ?_)
      (fun _ _ _ _ declared unfilled => Registry.Unfilled.declare unfilled declared) gathered
    cases Array.not_mem_empty relation listed

theorem withTemplates_recast {registry : Registry} (unfilled : registry.Unfilled)
    {others : List Directive} {t : Template → Template}
    (templates : ∀ place, templateOf others place = t (templateOf directives place)) :
    registry.withTemplates others = (registry.withTemplates directives).recast f t := by
  simp only [Registry.withTemplates, Registry.recast, Registry.mk.injEq, true_and, and_true]
  apply Array.ext_getElem?
  intro place
  simp only [Array.getElem?_mapIdx, Array.getElem?_map, Option.map_map]
  refine Option.map_congr fun relation stands => ?_
  have empty := unfilled relation (Array.mem_of_getElem? stands)
  simp only [Function.comp_apply, Relation.recast, empty, Array.map_empty, templates]

theorem closed_recast (gathered : Declared.ofEntries entries = .ok declared) :
    declared.closed (directives.map (Directive.recast f p)) =
      (declared.closed directives).recast f id := by
  have templates : declared.registry.withTemplates (directives.map (Directive.recast f p)) =
      (declared.registry.withTemplates directives).recast f id :=
    withTemplates_recast (blank_of_gathered gathered).2 (templateOf_recast directives)
  rw [closed, templates, Registry.close_recast, closed]

theorem consequences_recast (gathered : Declared.ofEntries entries = .ok declared)
    (mono : StrictMono f) :
    declared.consequences (directives.map (Directive.recast f p)) =
      (declared.consequences directives).map (Consequence.renumber f) := by
  rw [consequences, closed_recast gathered, List.flatMap_map, consequences, List.map_flatMap]
  exact List.flatMap_congr fun directive _ => directive.consequences_recast mono

/-- Directives with other ordinals in the same order make the same rule set under those ordinals. -/
theorem ruleSet_recast (gathered : Declared.ofEntries entries = .ok declared)
    (mono : StrictMono f) :
    declared.ruleSet (directives.map (Directive.recast f p)) =
      (declared.ruleSet directives).renumber f := by
  have blank : declared.catalog.mapDrafts (Draft.renumber f) = declared.catalog :=
    Catalog.mapDrafts_of_blank (blank_of_gathered gathered).1 Draft.renumber_ofColor
  have catalog := Consequence.foldl_addTo_renumber mono declared.catalog
    (declared.consequences directives)
  rw [blank] at catalog
  have relations : ((declared.closed directives).recast f id).relationsOf =
      (declared.closed directives).relationsOf := funext Registry.relationsOf_recast
  have elements := ((declared.consequences directives).foldl Consequence.addTo
    declared.catalog).resolveAll_mapDrafts (e := id) (fun draft => draft.finish_renumber mono)
    (declared.closed directives).relationsOf
  rw [ruleSet, consequences_recast gathered mono, closed_recast gathered, catalog, relations,
    elements, ElementTable.map_id, Consequence.reactions_renumber,
    Consequence.transitions_renumber]
  rfl

end Declared
end FallingSand
