import FallingSand.Proofs.Mod.Contents

/-!
# Titles, tags and texts

The title of a mod and the tags, names and descriptions that it gives to its elements are for people
to read.  Without them a mod compiles to the same elements, memberships and rules, up to ordinals
and but for what people would read.
-/

namespace FallingSand

/-! ## Without metadata -/

namespace Statement

/-- Whether the statement says something for people to read alone. -/
def isMetadata : Statement → Bool
  | .title _ | .tag _ _ | .name _ _ | .description _ _ => true
  | _ => false

mutual

/-- The statement with no metadata inside of it. -/
def withoutMetadata : Statement → Statement
  | .block own body => .block own (withoutMetadataOf body)
  | statement => statement

/-- The statements with no metadata among or inside of them. -/
def withoutMetadataOf : List Statement → List Statement
  | [] => []
  | statement :: rest =>
      if statement.isMetadata then withoutMetadataOf rest
      else withoutMetadata statement :: withoutMetadataOf rest

end

end Statement

/-- The mod with no metadata at any depth. -/
def Declarations.withoutMetadata (declarations : Declarations) : Declarations :=
  Statement.withoutMetadataOf declarations

/-- The element with nothing for people to read but its name and color. -/
def Element.withoutMetadata (element : Element) : Element :=
  { element with displayName := none, description := "", tags := [] }

/-- The template with properties alone. -/
def Template.withoutTags (template : Template) : Template :=
  { template with tags := [] }

/-- The rule set with nothing for people to read but names and colors. -/
def RuleSet.withoutMetadata (rules : RuleSet) : RuleSet :=
  ofRules none (rules.elements.map Element.withoutMetadata)
    (rules.registry.recast id Template.withoutTags) rules.reactions rules.transitions

/-! ## Contents -/

/-- Whether the entry is more than metadata. -/
def Entry.stays (entry : Entry) : Bool :=
  !entry.statement.isMetadata

namespace Statement

mutual

theorem contents_withoutMetadata (clauses : List Clause) :
    (statement : Statement) → statement.isMetadata = false →
      statement.withoutMetadata.contents clauses = (statement.contents clauses).filter Entry.stays
  | .block own body, _ => contentsOf_withoutMetadataOf (clauses ++ own) body
  | .element _ _, _ | .relation _ _, _ | .member _ _, _ | .property _ _ _, _
  | .reaction _ _ _ _ _, _ | .transition _ _ _, _ => rfl

theorem contentsOf_withoutMetadataOf (clauses : List Clause) :
    (statements : List Statement) →
      contentsOf clauses (withoutMetadataOf statements) =
        (contentsOf clauses statements).filter Entry.stays
  | [] => rfl
  | statement :: rest => by
      rw [withoutMetadataOf, contentsOf, List.filter_append,
        ← contentsOf_withoutMetadataOf clauses rest]
      split
      · rename_i metadata
        cases statement <;> cases metadata <;> rfl
      · rename_i plain
        rw [contentsOf, contents_withoutMetadata clauses statement (by simpa using plain)]

end

mutual

theorem headers_withoutMetadata :
    (statement : Statement) → statement.withoutMetadata.headers = statement.headers
  | .block own body => by
      rw [withoutMetadata, headers, headersOf_withoutMetadataOf body, headers]
  | .title _ | .element _ _ | .relation _ _ | .member _ _ | .property _ _ _ | .tag _ _
  | .name _ _ | .description _ _ | .reaction _ _ _ _ _ | .transition _ _ _ => rfl

theorem headersOf_withoutMetadataOf :
    (statements : List Statement) → headersOf (withoutMetadataOf statements) = headersOf statements
  | [] => rfl
  | statement :: rest => by
      rw [withoutMetadataOf, headersOf, ← headersOf_withoutMetadataOf rest]
      split
      · rename_i metadata
        cases statement <;> cases metadata <;> rfl
      · rw [headersOf, headers_withoutMetadata statement]

end

end Statement

/-! ## Gathering and checking -/

namespace Declared

variable {declared : Declared} {entries : List Entry} {directives : List Directive}

/-- What is declared besides the title. -/
def untitled (declared : Declared) : Declared :=
  { declared with title := none }

theorem untitled_of_isMetadata {entry : Entry} {after : Declared}
    (metadata : entry.statement.isMetadata = true) (added : declared.add entry = .ok after) :
    after.untitled = declared.untitled := by
  obtain ⟨path, clauses, statement⟩ := entry
  cases statement with
  | title text =>
      obtain ⟨_, -, rest⟩ := bind_eq_ok_iff.mp added
      cases rest
      rfl
  | tag | name | description =>
      cases added
      rfl
  | _ => cases metadata

theorem add_untitled {entry : Entry} {after : Declared}
    (plain : entry.statement.isMetadata = false) (added : declared.add entry = .ok after) :
    declared.untitled.add entry = .ok after.untitled := by
  obtain ⟨path, clauses, statement⟩ := entry
  cases statement with
  | title | tag | name | description => cases plain
  | element name color =>
      obtain ⟨_, top, rest⟩ := bind_eq_ok_iff.mp added
      obtain ⟨⟨_, catalog⟩, defined, rest⟩ := bind_eq_ok_iff.mp rest
      cases rest
      simp only [add, top, ok_bind]
      exact bind_eq_ok_iff.mpr ⟨_, defined, rfl⟩
  | relation name arity =>
      obtain ⟨_, top, rest⟩ := bind_eq_ok_iff.mp added
      obtain ⟨registry, declares, rest⟩ := bind_eq_ok_iff.mp rest
      cases rest
      simp only [add, top, ok_bind]
      exact bind_eq_ok_iff.mpr ⟨_, declares, rfl⟩
  | _ =>
      cases added
      rfl

theorem ofEntries_filter_stays (gathered : Declared.ofEntries entries = .ok declared) :
    Declared.ofEntries (entries.filter Entry.stays) = .ok declared.untitled := by
  have initial : Declared.initial = Declared.initial.untitled := rfl
  rw [ofEntries] at gathered ⊢
  rw [initial]
  generalize Declared.initial = before at gathered
  induction entries generalizing before with
  | nil =>
      cases gathered
      rfl
  | cons entry entries induction =>
      rw [List.foldlM_cons] at gathered
      obtain ⟨between, first, rest⟩ := bind_eq_ok_iff.mp gathered
      have added := Entry.locate_eq_ok first
      cases metadata : entry.statement.isMetadata with
      | true =>
          rw [List.filter_cons_of_neg (by simp [Entry.stays, metadata]),
            ← untitled_of_isMetadata metadata added]
          exact induction _ rest
      | false =>
          rw [List.filter_cons_of_pos (by simp [Entry.stays, metadata]), List.foldlM_cons,
            add_untitled metadata added]
          exact induction _ rest

end Declared

/-! ## Directives -/

/-- Whether the directive says something for people to read alone. -/
def Directive.isMetadata (directive : Directive) : Bool :=
  match directive.action with
  | .tag _ _ | .displayName _ _ | .description _ _ => true
  | _ => false

/-- Whether the directive is more than metadata. -/
def Directive.stays (directive : Directive) : Bool :=
  !directive.isMetadata

namespace Declared

variable {declared : Declared} {entries : List Entry} {directives : List Directive}

theorem stays_of_bare? {entry : Entry} {directive : Directive}
    (found : declared.bare? entry = some directive) : directive.stays = entry.stays := by
  rw [bare?] at found
  split at found
  · rename_i result success
    have yields := yields_of_directive? success
    generalize (0 : Nat) = ordinal at yields
    cases yields with
    | silent _ => cases found
    | directive directs =>
        cases found
        have acts := directs.acts
        rw [Directive.stays, Entry.stays, Directive.isMetadata]
        generalize entry.statement = statement at acts
        generalize directive.action = action at acts
        cases acts <;> rfl
  · cases found

theorem filterMap_bare?_stays :
    (entries.filter Entry.stays).filterMap declared.bare? =
      (entries.filterMap declared.bare?).filter Directive.stays := by
  rw [List.filterMap_filter, List.filter_filterMap]
  refine List.filterMap_congr fun entry _ => ?_
  cases found : declared.bare? entry with
  | none => simp
  | some directive =>
      rw [← stays_of_bare? found]
      cases kept : directive.stays <;> simp [Option.filter, kept]

end Declared

/-! ## The closed registry -/

/-- What says nothing may be left out. -/
theorem flatMap_filter_of_nil {α β : Type} {keep : α → Bool} {parts : α → List β} {items : List α}
    (nil : ∀ item, keep item = false → parts item = []) :
    (items.filter keep).flatMap parts = items.flatMap parts := by
  induction items with
  | nil => rfl
  | cons item items induction =>
      cases kept : keep item with
      | true => rw [List.filter_cons_of_pos kept, List.flatMap_cons, List.flatMap_cons, induction]
      | false =>
          rw [List.filter_cons_of_neg (by simp [kept]), induction, List.flatMap_cons,
            nil item kept, List.nil_append]

namespace Directive

variable {directive : Directive}

theorem templateProperties_of_not_stays (idle : directive.stays = false) (place : Nat) :
    directive.templateProperties place = [] := by
  rw [stays, isMetadata] at idle
  rw [templateProperties]
  cases action : directive.action <;> simp_all

theorem templateTags_of_stays (stays : directive.stays = true) (place : Nat) :
    directive.templateTags place = [] := by
  rw [Directive.stays, isMetadata] at stays
  rw [templateTags]
  cases action : directive.action <;> simp_all

theorem memberLength?_of_not_stays (idle : directive.stays = false) :
    directive.memberLength? = none := by
  rw [stays, isMetadata] at idle
  rw [memberLength?]
  cases action : directive.action <;> simp_all

theorem assertAll_of_not_stays (idle : directive.stays = false) (registry : Registry) :
    directive.assertAll registry = registry := by
  have rests (row : Row) : directive.assertRow registry row = registry := by
    rw [stays, isMetadata] at idle
    rw [assertRow]
    cases action : directive.action <;> simp_all
  exact List.foldl_fixed' rests _

end Directive

theorem templateOf_filter_stays (directives : List Directive) (place : Nat) :
    templateOf (directives.filter Directive.stays) place =
      (templateOf directives place).withoutTags := by
  simp only [templateOf, Template.withoutTags, Template.mk.injEq, List.flatMap_eq_nil_iff]
  refine ⟨flatMap_filter_of_nil fun directive idle => ?_, fun directive listed => ?_⟩
  · exact directive.templateProperties_of_not_stays idle place
  · exact directive.templateTags_of_stays (List.mem_filter.mp listed).2 place

namespace Registry

theorem round_filter_stays (directives : List Directive) (registry : Registry) :
    registry.round (directives.filter Directive.stays) = registry.round directives := by
  induction directives generalizing registry with
  | nil => rfl
  | cons directive directives induction =>
      cases kept : directive.stays with
      | true =>
          rw [List.filter_cons_of_pos kept]
          exact induction (directive.assertAll registry)
      | false =>
          rw [List.filter_cons_of_neg (by simp [kept]), induction, round, round, List.foldl_cons,
            Directive.assertAll_of_not_stays kept]

theorem close_filter_stays (directives : List Directive) (elements : Nat) (registry : Registry) :
    registry.close (directives.filter Directive.stays) elements =
      registry.close directives elements := by
  have facts : (directives.filter Directive.stays).filter Directive.isFact =
      (directives.filter Directive.isFact).filter Directive.stays := List.filter_comm _ _ _
  have derivations : ((directives.filter Directive.stays).filter fun directive =>
        !directive.isFact && directive.memberLength?.isSome) =
      directives.filter fun directive => !directive.isFact && directive.memberLength?.isSome := by
    rw [List.filter_filter]
    refine List.filter_congr fun directive _ => ?_
    cases kept : directive.stays with
    | true => exact Bool.and_true _
    | false => simp [Directive.memberLength?_of_not_stays kept]
  rw [close, facts, round_filter_stays, derivations, close]

end Registry

/-! ## Consequences -/

namespace Consequence

/-- Whether the consequence is more than metadata. -/
def stays : Consequence → Bool
  | .tag _ _ _ | .displayName _ _ _ | .description _ _ _ => false
  | _ => true

theorem renumber_id (consequence : Consequence) : consequence.renumber id = consequence := by
  have same (provenance : Provenance) : provenance.renumber id = provenance := by
    cases provenance <;> rfl
  cases consequence with
  | reaction | transition => rfl
  | _ => rw [renumber, same]

end Consequence

namespace Directive

variable {directive : Directive} {registry : Registry}

theorem consequences_recast_templates (t : Template → Template) :
    directive.consequences (registry.recast id t) = directive.consequences registry := by
  have recast : directive.consequences (registry.recast id t) =
      (directive.consequences registry).map (Consequence.renumber id) :=
    directive.consequences_recast (p := id) strictMono_id
  rw [recast, List.map_congr_left fun consequence _ => consequence.renumber_id, List.map_id']

theorem stays_of_mem_consequences {consequence : Consequence}
    (listed : consequence ∈ directive.consequences registry) :
    consequence.stays = directive.stays := by
  obtain ⟨row, -, place, success⟩ := exists_row_of_mem_consequences listed
  rw [consequence?] at success
  rw [stays, isMetadata]
  split at success
  case h_1 => cases success
  case h_6 action | h_7 action =>
    split at success
    · cases success
      rw [action]
      rfl
    · cases success
  all_goals
    rename_i action
    obtain ⟨_, -, rfl⟩ := Option.map_eq_some_iff.mp success
    rw [action]
    rfl

end Directive

namespace Draft

/-- The draft with nothing for people to read but its color. -/
def withoutMetadata (draft : Draft) : Draft :=
  { draft with displayName := none, descriptions := #[], tags := #[] }

theorem finish_withoutMetadata (draft : Draft) (id : ElementId) (name : String)
    (relations : List String) :
    draft.withoutMetadata.finish id name relations =
      (draft.finish id name relations).withoutMetadata := by
  have empty : orderedUnique #[] = [] := by simp [orderedUnique]
  simp only [finish, withoutMetadata, Element.withoutMetadata, empty]
  rfl

end Draft

namespace Consequence

theorem addTo_withoutMetadata (catalog : Catalog) {consequence : Consequence}
    (stays : consequence.stays = true) :
    addTo (catalog.mapDrafts Draft.withoutMetadata) consequence =
      (addTo catalog consequence).mapDrafts Draft.withoutMetadata := by
  cases consequence with
  | property id key value provenance =>
      have commutes (draft : Draft) : (draft.assign key value provenance).withoutMetadata =
          draft.withoutMetadata.assign key value provenance := rfl
      exact (Catalog.mapDrafts_revise commutes id).symm
  | reaction | transition => rfl
  | _ => cases stays

theorem mapDrafts_addTo_of_not_stays (catalog : Catalog) {consequence : Consequence}
    (idle : consequence.stays = false) :
    (addTo catalog consequence).mapDrafts Draft.withoutMetadata =
      catalog.mapDrafts Draft.withoutMetadata := by
  cases consequence with
  | tag id | displayName id | description id =>
      refine Catalog.mapDrafts_revise_of_same ?_ id
      exact fun _ => rfl
  | _ => cases idle

theorem foldl_addTo_filter_stays (catalog : Catalog) (consequences : List Consequence) :
    (consequences.filter stays).foldl addTo (catalog.mapDrafts Draft.withoutMetadata) =
      (consequences.foldl addTo catalog).mapDrafts Draft.withoutMetadata := by
  induction consequences generalizing catalog with
  | nil => rfl
  | cons consequence consequences induction =>
      rw [List.foldl_cons, ← induction]
      cases kept : consequence.stays with
      | true =>
          rw [List.filter_cons_of_pos kept, List.foldl_cons, addTo_withoutMetadata catalog kept]
      | false =>
          rw [List.filter_cons_of_neg (by simp [kept]), mapDrafts_addTo_of_not_stays catalog kept]

theorem reactions_filter_stays (consequences : List Consequence) :
    (consequences.filter stays).filterMap reaction? = consequences.filterMap reaction? := by
  rw [List.filterMap_filter]
  refine List.filterMap_congr fun consequence _ => ?_
  cases consequence <;> rfl

theorem transitions_filter_stays (consequences : List Consequence) :
    (consequences.filter stays).filterMap transition? = consequences.filterMap transition? := by
  rw [List.filterMap_filter]
  refine List.filterMap_congr fun consequence _ => ?_
  cases consequence <;> rfl

end Consequence

/-! ## Rule sets -/

namespace Declared

variable {declared : Declared} {entries : List Entry} {directives : List Directive}

theorem closed_filter_stays (gathered : Declared.ofEntries entries = .ok declared) :
    declared.untitled.closed (directives.filter Directive.stays) =
      (declared.closed directives).recast id Template.withoutTags := by
  have templates : declared.untitled.registry.withTemplates (directives.filter Directive.stays) =
      (declared.registry.withTemplates directives).recast id Template.withoutTags :=
    withTemplates_recast (blank_of_gathered gathered).2 (templateOf_filter_stays directives)
  have same : directives.map (Directive.recast id id) = directives := List.map_id' directives
  have closes : ((declared.registry.withTemplates directives).recast id Template.withoutTags).close
      (directives.map (Directive.recast id id)) declared.catalog.size =
        (declared.closed directives).recast id Template.withoutTags :=
    Registry.close_recast declared.catalog.size
  rw [closed, Registry.close_filter_stays, templates, ← closes, same]
  rfl

theorem consequences_filter_stays (gathered : Declared.ofEntries entries = .ok declared) :
    declared.untitled.consequences (directives.filter Directive.stays) =
      (declared.consequences directives).filter Consequence.stays := by
  have kept (directive : Directive) (stays : directive.stays = true) :
      (directive.consequences (declared.closed directives)).filter Consequence.stays =
        directive.consequences (declared.closed directives) :=
    List.filter_eq_self.mpr fun consequence listed =>
      (Directive.stays_of_mem_consequences listed).trans stays
  have left (directive : Directive) (idle : directive.stays = false) :
      (directive.consequences (declared.closed directives)).filter Consequence.stays = [] :=
    List.filter_eq_nil_iff.mpr fun consequence listed => by
      rw [Directive.stays_of_mem_consequences listed, idle]
      exact Bool.false_ne_true
  rw [consequences, closed_filter_stays gathered, consequences, List.filter_flatMap,
    ← flatMap_filter_of_nil left]
  refine List.flatMap_congr fun directive listed => ?_
  rw [Directive.consequences_recast_templates, kept directive (List.mem_filter.mp listed).2]

/-- Directives that are metadata matter to what people read alone. -/
theorem ruleSet_filter_stays (gathered : Declared.ofEntries entries = .ok declared) :
    declared.untitled.ruleSet (directives.filter Directive.stays) =
      (declared.ruleSet directives).withoutMetadata := by
  have blank : declared.catalog.mapDrafts Draft.withoutMetadata = declared.catalog :=
    Catalog.mapDrafts_of_blank (blank_of_gathered gathered).1 fun _ => rfl
  have catalog := Consequence.foldl_addTo_filter_stays declared.catalog
    (declared.consequences directives)
  rw [blank] at catalog
  have relations : ((declared.closed directives).recast id Template.withoutTags).relationsOf =
      (declared.closed directives).relationsOf := funext Registry.relationsOf_recast
  have elements := ((declared.consequences directives).foldl Consequence.addTo
    declared.catalog).resolveAll_mapDrafts Draft.finish_withoutMetadata
    (declared.closed directives).relationsOf
  have kept : declared.untitled.catalog = declared.catalog := rfl
  rw [ruleSet, consequences_filter_stays gathered, closed_filter_stays gathered, kept, catalog,
    relations, elements, Consequence.reactions_filter_stays, Consequence.transitions_filter_stays]
  rfl

end Declared

namespace Declarations

/-- A mod that compiles does so without its metadata too, and to the same rule set, up to ordinals
and but for what people would read. -/
theorem compile_withoutMetadata {declarations : Declarations} {rules : RuleSet}
    (compiled : declarations.compile = .ok rules) :
    ∃ others, declarations.withoutMetadata.compile = .ok others ∧
      others.withoutOrdinals = rules.withoutMetadata.withoutOrdinals := by
  obtain ⟨declared, directives, gathered, checked, startless, rfl⟩ := compile_eq_ok_iff.mp compiled
  have contents : declarations.withoutMetadata.contents =
      declarations.contents.filter Entry.stays :=
    Statement.contentsOf_withoutMetadataOf [] declarations
  have headers : declarations.withoutMetadata.headers = declarations.headers :=
    Statement.headersOf_withoutMetadataOf declarations
  have regathered : Declared.ofEntries declarations.withoutMetadata.entries =
      .ok declared.untitled := by
    have said := Declared.ofEntries_contents.mp gathered
    rw [Declared.ofEntries_contents, filterMap_content?, contents, ← filterMap_content?]
    exact Declared.ofEntries_filter_stays said
  have lists := Declared.lists_of_gathered gathered
  have untitled : declared.untitled.Lists (Vocabulary.initial.extend declarations.entries) :=
    ⟨lists.elements, lists.names, lists.arities⟩
  have fits := (Declared.directives_succeeds_iff lists).mp ⟨directives, checked⟩
  obtain ⟨others, rechecked⟩ := (Declared.directives_succeeds_iff untitled).mpr
    (checks_of_contents (contents ▸ List.filter_subset_self _) (headers ▸ List.Subset.refl _) fits)
  have bares : others.map Directive.bare =
      (directives.filter Directive.stays).map Directive.bare := by
    have bare : declared.untitled.bare? = declared.bare? := rfl
    have stays : Directive.stays ∘ Directive.bare = Directive.stays := rfl
    rw [Declared.map_bare_directives rechecked, ← Declared.filterMap_bare?_contents,
      filterMap_content?, contents, bare, Declared.filterMap_bare?_stays, ← filterMap_content?,
      Declared.filterMap_bare?_contents, ← Declared.map_bare_directives checked, List.filter_map,
      stays]
  have same := Declared.withoutOrdinals_ruleSet regathered
    ((Declared.pairwise_ordinal checked).filter _) (Declared.pairwise_ordinal rechecked) bares
  rw [Declared.ruleSet_filter_stays gathered] at same
  refine ⟨_, compile_eq_ok_iff.mpr
    ⟨declared.untitled, others, regathered, rechecked, ?_, rfl⟩, same⟩
  rw [← Declared.startless_ruleSet, ← RuleSet.startless_withoutOrdinals, same,
    RuleSet.startless_withoutOrdinals]
  exact Declared.startless_ruleSet.mpr startless

/-- Warm things glow, and people are told so. -/
def lantern : Declarations :=
  [.title "Lantern",
    .block [⟨"Warm", [.var "thing"]⟩]
      [.tag (.var "thing") "glows", .property .density (.var "thing") Single.one,
        .description (.var "thing") "It glows."],
    .name (.element "Wax") "Candle", .element "Wax" "#ffffd0", .relation "Warm" 1,
    .member "Warm" [.element "Wax"],
    .transition Single.one (.element "Wax") (.element "Empty")]

/-- The same with nothing for people to read but names and colors. -/
def lanternBare : Declarations :=
  [.block [⟨"Warm", [.var "thing"]⟩] [.property .density (.var "thing") Single.one],
    .element "Wax" "#ffffd0", .relation "Warm" 1, .member "Warm" [.element "Wax"],
    .transition Single.one (.element "Wax") (.element "Empty")]

theorem lantern_withoutMetadata : ∃ rules others,
    lantern.compile = .ok rules ∧ lanternBare.compile = .ok others ∧
      others.withoutOrdinals = rules.withoutMetadata.withoutOrdinals := by
  have compiles : Succeeds lantern.compile := compile_succeeds (by decide)
    ⟨by decide, by decide, by decide, by decide⟩ (by decide) (by decide)
  obtain ⟨rules, compiled⟩ := compiles
  obtain ⟨others, recompiled, same⟩ := compile_withoutMetadata compiled
  exact ⟨rules, others, compiled, recompiled, same⟩

end Declarations
end FallingSand
