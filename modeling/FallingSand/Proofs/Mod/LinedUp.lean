import FallingSand.Proofs.FirstPlaces
import FallingSand.Proofs.Mod.Identifiers
import FallingSand.Proofs.Mod.Tags

/-!
# Texts that line up

The tags of an element and the pieces of its description are kept as they are given.  In the end
they are sorted by provenance, those of equal provenance in the order of giving, and of equal texts
the first is kept.  So a text stands where it was given with its least provenance, and first with
that one.  The order of giving matters among equal provenances only.
-/

namespace FallingSand

/-! ## Sorted pieces -/

/-- Where a piece stands: by the rank of its provenance, and after that by its place. -/
abbrev Standing : Type :=
  ((Nat ×ₗ Nat ×ₗ Nat) ⊕ₗ Nat) ×ₗ Nat

/-- Where a text stands, each time that it is given. -/
def standings (pieces : List (Provenance × String)) (text : String) : Set Standing :=
  {standing | ∃ provenance place, pieces[place]? = some (provenance, text) ∧
    toLex (provenance.rank, place) = standing}

/-- The texts of some pieces, each of them once, by their least standings. -/
structure LinedUp (pieces : List (Provenance × String)) (texts : List String) : Prop where
  /-- No text is there twice. -/
  nodup : texts.Nodup
  /-- The texts are those of the pieces. -/
  mem_iff : ∀ text, text ∈ texts ↔ ∃ provenance, (provenance, text) ∈ pieces
  /-- Earlier texts have lower least standings. -/
  before_iff : ∀ first ∈ texts, ∀ second ∈ texts, texts.idxOf first < texts.idxOf second ↔
    ∃ one other, IsLeast (standings pieces first) one ∧ IsLeast (standings pieces second) other ∧
      one < other

section Pieces

variable {pieces others : List (Provenance × String)} {texts : List String}

/-- Pieces line up in one way only. -/
theorem LinedUp.unique {other : List String} (linedUp : LinedUp pieces texts)
    (alike : LinedUp pieces other) : texts = other := by
  have perm : texts.Perm other := (List.perm_ext_iff_of_nodup linedUp.nodup alike.nodup).mpr
    fun text => (linedUp.mem_iff text).trans (alike.mem_iff text).symm
  have inOrder {texts : List String} (nodup : texts.Nodup) :
      texts.Pairwise fun first second => texts.idxOf first < texts.idxOf second := by
    refine List.pairwise_iff_getElem.mpr fun first second before after earlier => ?_
    rwa [nodup.idxOf_getElem, nodup.idxOf_getElem]
  refine List.Perm.eq_of_pairwise (fun _ _ _ _ earlier later => absurd later earlier.not_gt) ?_
    (inOrder alike.nodup) perm
  refine (inOrder linedUp.nodup).imp_of_mem fun {first second} one another earlier => ?_
  rw [alike.before_iff first (perm.mem_iff.mp one) second (perm.mem_iff.mp another)]
  exact (linedUp.before_iff first one second another).mp earlier

theorem le_trans_of_pieces (first second third : Provenance × String)
    (one : first.1.le second.1 = true) (following : second.1.le third.1 = true) :
    first.1.le third.1 = true :=
  Provenance.le_trans one following

theorem le_total_of_pieces (first second : Provenance × String) :
    (first.1.le second.1 || second.1.le first.1) = true := by
  rw [Bool.or_eq_true]
  exact Provenance.le_total first.1 second.1

/-- The pieces in order, each with its place. -/
def ranked (pieces : List (Provenance × String)) : List ((Provenance × String) × Nat) :=
  pieces.zipIdx.mergeSort (List.zipIdxLE fun first second => first.1.le second.1)

/-- Where a piece with a place stands. -/
def standing (piece : (Provenance × String) × Nat) : Standing :=
  toLex (piece.1.1.rank, piece.2)

theorem mem_ranked {piece : Provenance × String} {place : Nat} :
    (piece, place) ∈ ranked pieces ↔ pieces[place]? = some piece := by
  rw [ranked, List.mem_mergeSort, List.mk_mem_zipIdx_iff_getElem?]

theorem orderedUnique_eq_ranked (pieces : List (Provenance × String)) :
    orderedUnique pieces.toArray = ((ranked pieces).map (·.1.2)).eraseDups := by
  rw [orderedUnique, List.toList_toArray, ← List.mergeSort_zipIdx, List.map_map]
  rfl

theorem standing_le_of_zipIdxLE {first second : (Provenance × String) × Nat}
    (inOrder : List.zipIdxLE (fun first second => first.1.le second.1) first second = true) :
    standing first ≤ standing second := by
  rw [standing, standing, Prod.Lex.toLex_le_toLex]
  rw [List.zipIdxLE] at inOrder
  split at inOrder
  · rename_i ahead
    have higher := Provenance.le_iff_rank_le.mp ahead
    split at inOrder
    · rename_i behind
      exact Or.inr ⟨higher.antisymm (Provenance.le_iff_rank_le.mp behind),
        of_decide_eq_true inOrder⟩
    · rename_i apart
      exact Or.inl (Provenance.not_le_iff_rank_lt.mp apart)
  · cases inOrder

theorem ranked_pairwise (pieces : List (Provenance × String)) :
    (ranked pieces).Pairwise fun first second => standing first < standing second := by
  have sorted := List.pairwise_mergeSort (List.zipIdxLE_trans le_trans_of_pieces)
    (List.zipIdxLE_total le_total_of_pieces) pieces.zipIdx
  have places : ((ranked pieces).map Prod.snd).Nodup :=
    ((List.mergeSort_perm _ _).map Prod.snd).nodup_iff.mpr
      (List.zipIdx_map_snd 0 pieces ▸ List.nodup_range')
  refine (sorted.and (List.pairwise_map.mp places)).imp fun {first second} both => ?_
  refine (standing_le_of_zipIdxLE both.1).lt_of_ne fun same => both.2 ?_
  exact congrArg (fun standing : Standing => (ofLex standing).2) same

theorem standings_eq (pieces : List (Provenance × String)) (text : String) :
    standings pieces text =
      {found | ∃ piece ∈ ranked pieces, piece.1.2 = text ∧ standing piece = found} := by
  ext found
  constructor
  · rintro ⟨provenance, place, given, rfl⟩
    exact ⟨((provenance, text), place), mem_ranked.mpr given, rfl, rfl⟩
  · rintro ⟨⟨⟨provenance, text⟩, place⟩, listed, rfl, rfl⟩
    exact ⟨provenance, place, mem_ranked.mp listed, rfl⟩

/-- Sorting by provenance and keeping the first of equal texts lines them up. -/
theorem linedUp_orderedUnique (pieces : List (Provenance × String)) :
    LinedUp pieces (orderedUnique pieces.toArray) where
  nodup := nodup_eraseDups _
  mem_iff text := by simp [mem_orderedUnique]
  before_iff first one second other := by
    rw [orderedUnique_eq_ranked] at one other ⊢
    replace one := List.mem_eraseDups.mp one
    replace other := List.mem_eraseDups.mp other
    rw [idxOf_eraseDups_lt_iff one other]
    -- Among the ranked pieces, each text has its least standing at its first place.
    have ordered := ranked_pairwise pieces
    obtain ⟨piece, here, least⟩ := exists_isLeast_at_idxOf ordered one
    obtain ⟨further, there, lowest⟩ := exists_isLeast_at_idxOf ordered other
    simp only [standings_eq]
    obtain ⟨inside, rfl⟩ := List.getElem?_eq_some_iff.mp here
    obtain ⟨within, rfl⟩ := List.getElem?_eq_some_iff.mp there
    constructor
    · intro earlier
      exact ⟨_, _, least, lowest, List.pairwise_iff_getElem.mp ordered _ _ inside within earlier⟩
    · rintro ⟨low, high, isLow, isHigh, less⟩
      rw [isLow.unique least, isHigh.unique lowest] at less
      refine Nat.lt_of_not_le fun notEarlier => less.not_ge ?_
      rcases notEarlier.eq_or_lt with same | later
      · simp only [same, le_refl]
      · exact (List.pairwise_iff_getElem.mp ordered _ _ within inside later).le

/-! ## The order of giving -/

/-- The pieces that are given with a provenance, in order. -/
def under (provenance : Provenance) (pieces : List (Provenance × String)) :
    List (Provenance × String) :=
  pieces.filter fun piece => piece.1 = provenance

theorem mem_under_iff {provenance : Provenance} {piece : Provenance × String} :
    piece ∈ under provenance pieces ↔ piece ∈ pieces ∧ piece.1 = provenance := by
  rw [under, List.mem_filter, decide_eq_true_eq]

/-- Sorting leaves the pieces of a provenance in order. -/
theorem under_mergeSort (provenance : Provenance) (pieces : List (Provenance × String)) :
    under provenance (pieces.mergeSort fun first second => first.1.le second.1) =
      under provenance pieces := by
  have alike : (under provenance pieces).Pairwise fun first second =>
      first.1.le second.1 = true := by
    refine List.pairwise_of_forall_mem_list fun first one second other => ?_
    rw [(mem_under_iff.mp one).2, (mem_under_iff.mp other).2, Provenance.le_iff_rank_le]
  -- The pieces of one provenance are sorted among themselves, so sorting keeps them as they are.
  have kept := (List.sublist_mergeSort le_trans_of_pieces le_total_of_pieces alike
    List.filter_sublist).filter fun piece => piece.1 = provenance
  have whole : (under provenance pieces).filter (fun piece => piece.1 = provenance) =
      under provenance pieces := List.filter_filter.trans (by simp only [Bool.and_self, under])
  rw [whole] at kept
  exact (kept.eq_of_length ((List.mergeSort_perm pieces _).filter _).length_eq.symm).symm

theorem mem_of_under_eq (same : ∀ provenance, under provenance pieces = under provenance others)
    {piece : Provenance × String} (listed : piece ∈ pieces) : piece ∈ others := by
  have found : piece ∈ under piece.1 pieces := mem_under_iff.mpr ⟨listed, rfl⟩
  rw [same] at found
  exact (mem_under_iff.mp found).1

theorem rank_le_of_sorted {first piece : Provenance × String}
    (sorted : (first :: pieces).Pairwise fun first second => first.1.le second.1 = true)
    (listed : piece ∈ first :: pieces) : first.1.rank ≤ piece.1.rank := by
  rcases List.mem_cons.mp listed with rfl | later
  · exact le_refl _
  · exact Provenance.le_iff_rank_le.mp ((List.pairwise_cons.mp sorted).1 piece later)

/-- Sorted pieces are told by those of each provenance. -/
theorem eq_of_sorted (sorted : pieces.Pairwise fun first second => first.1.le second.1 = true)
    (alike : others.Pairwise fun first second => first.1.le second.1 = true)
    (same : ∀ provenance, under provenance pieces = under provenance others) :
    pieces = others := by
  induction pieces generalizing others with
  | nil =>
      exact (List.eq_nil_iff_forall_not_mem.mpr fun piece listed =>
        List.not_mem_nil (mem_of_under_eq (fun provenance => (same provenance).symm) listed)).symm
  | cons piece pieces induction =>
      have first := mem_of_under_eq same List.mem_cons_self
      cases others with
      | nil => exact absurd first List.not_mem_nil
      | cons other others =>
          have second := mem_of_under_eq (fun provenance => (same provenance).symm)
            List.mem_cons_self
          -- Both heads rank lowest, so they stand first among the pieces of one provenance.
          have equal : piece.1 = other.1 := Provenance.rank_injective
            ((rank_le_of_sorted sorted second).antisymm (rank_le_of_sorted alike first))
          have heads := same piece.1
          simp only [under, List.filter_cons, equal, decide_true, if_true, List.cons.injEq] at heads
          obtain ⟨rfl, -⟩ := heads
          refine congrArg (piece :: ·) (induction (List.pairwise_cons.mp sorted).2
            (List.pairwise_cons.mp alike).2 fun provenance => ?_)
          have rest := same provenance
          simp only [under, List.filter_cons] at rest
          split at rest
          · exact (List.cons.inj rest).2
          · exact rest

/-- The texts line up alike if the pieces of each provenance are given in the same order. -/
theorem orderedUnique_congr
    (same : ∀ provenance, under provenance pieces = under provenance others) :
    orderedUnique pieces.toArray = orderedUnique others.toArray := by
  have sorted (pieces : List (Provenance × String)) :=
    List.pairwise_mergeSort le_trans_of_pieces le_total_of_pieces pieces
  have equal := eq_of_sorted (sorted pieces) (sorted others) fun provenance => by
    rw [under_mergeSort, under_mergeSort, same]
  rw [orderedUnique, orderedUnique, List.toList_toArray, List.toList_toArray, equal]

theorem under_eq_of_perm (perm : pieces.Perm others) (distinct : (pieces.map (·.1)).Nodup)
    (provenance : Provenance) : under provenance pieces = under provenance others := by
  have few : (under provenance pieces).length ≤ 1 := by
    have count := List.nodup_iff_count_le_one.mp distinct provenance
    rwa [List.count, List.countP_map, List.countP_eq_length_filter] at count
  have kept : (under provenance pieces).Perm (under provenance others) := perm.filter _
  match found : under provenance pieces with
  | [] =>
      rw [found] at kept
      exact kept.nil_eq
  | [piece] =>
      rw [found] at kept
      exact List.singleton_perm.mp kept
  | _ :: _ :: _ =>
      rw [found] at few
      exact absurd few (by simp)

end Pieces

/-! ## What an element collects -/

/-- What texts are collected for. -/
inductive Collection where
  /-- The tags. -/
  | tags
  /-- The description. -/
  | description
  deriving DecidableEq

/-- The pieces that a draft has so far. -/
def Draft.pieces (draft : Draft) : Collection → Array (Provenance × String)
  | .tags => draft.tags
  | .description => draft.descriptions

namespace Draft

variable {collection : Collection}

theorem pieces_addTag (draft : Draft) (text : String) (provenance : Provenance) :
    ((draft.addTag text provenance).pieces collection).toList =
      (draft.pieces collection).toList ++
        if collection = .tags then [(provenance, text)] else [] := by
  cases collection with
  | tags => exact Array.toList_push
  | description => exact (List.append_nil _).symm

theorem pieces_addDescription (draft : Draft) (text : String) (provenance : Provenance) :
    ((draft.addDescription text provenance).pieces collection).toList =
      (draft.pieces collection).toList ++
        if collection = .description then [(provenance, text)] else [] := by
  cases collection with
  | tags => exact (List.append_nil _).symm
  | description => exact Array.toList_push

end Draft

namespace Catalog

variable {catalog : Catalog} {id subject : ElementId} {collection : Collection}

/-- The pieces that an element has been given so far. -/
def piecesOf (catalog : Catalog) (collection : Collection) (id : ElementId) :
    List (Provenance × String) :=
  ((catalog.drafts[id.toNat]?.map fun draft => draft.pieces collection).getD #[]).toList

theorem piecesOf_revise {change : Draft → Draft} {added : List (Provenance × String)}
    (adds : ∀ draft, ((change draft).pieces collection).toList =
      (draft.pieces collection).toList ++ added) (inside : id.toNat < catalog.size) :
    (catalog.revise subject change).piecesOf collection id =
      catalog.piecesOf collection id ++ if subject = id then added else [] := by
  have drafted : id.toNat < catalog.drafts.size := catalog.size_drafts.symm ▸ inside
  rw [piecesOf, piecesOf, getElem?_drafts_revise, Array.getElem?_eq_getElem drafted]
  by_cases here : subject = id
  · rw [here, if_pos rfl, if_pos rfl]
    exact adds _
  · have elsewhere : subject.toNat ≠ id.toNat := fun same => here (ElementId.toNat_injective same)
    rw [if_neg here, if_neg elsewhere, List.append_nil]

theorem Content.pieces_write (content : Content) (provenance : Provenance) (draft : Draft) :
    (content.write provenance draft).pieces collection = draft.pieces collection := by
  cases content with
  | property key value =>
      rw [write]
      split
      · cases collection <;> rfl
      · rfl
  | displayName text => cases collection <;> rfl

/-- Calls set other things. -/
theorem Call.piecesOf_perform (call : Call) (inside : id.toNat < catalog.size) :
    (call.perform catalog).piecesOf collection id = catalog.piecesOf collection id := by
  have same (draft : Draft) :
      ((call.content.write call.provenance draft).pieces collection).toList =
        (draft.pieces collection).toList ++ [] := by
    rw [Content.pieces_write, List.append_nil]
  rw [Call.perform_eq_revise, piecesOf_revise same inside, ite_self, List.append_nil]

namespace Operation

/-- The piece that an operation gives to an element, if it does. -/
def piece? (collection : Collection) (id : ElementId) : Operation → Option (Provenance × String)
  | addTag subject text provenance =>
      if subject = id ∧ collection = .tags then some (provenance, text) else none
  | addDescription subject text provenance =>
      if subject = id ∧ collection = .description then some (provenance, text) else none
  | define _ _ | assignDirect _ _ _ | call _ => none

theorem size_le_perform (catalog : Catalog) (operation : Operation) :
    catalog.size ≤ (operation.perform catalog).size := by
  rw [← length_nameList, ← length_nameList]
  cases silent : operation.name? with
  | none => rw [nameList_perform_of_name? silent]
  | some name =>
      cases operation <;> cases silent
      rw [nameList_perform_define]
      split
      · simp
      · exact le_refl _

/-- An operation adds its piece behind those that are there. -/
theorem piecesOf_perform (operation : Operation) (inside : id.toNat < catalog.size) :
    (operation.perform catalog).piecesOf collection id =
      catalog.piecesOf collection id ++ (operation.piece? collection id).toList := by
  cases operation with
  | define name color =>
      rw [piece?, Option.toList_none, List.append_nil, perform]
      split
      · rename_i defined success
        have drafted : id.toNat < catalog.drafts.size := catalog.size_drafts.symm ▸ inside
        rw [piecesOf, (define_eq_ok success).2.2.1, Array.getElem?_push_lt drafted, piecesOf,
          Array.getElem?_eq_getElem drafted]
      · rfl
  | assignDirect name key value =>
      rw [piece?, Option.toList_none, List.append_nil, perform]
      cases found : catalog.idOf name with
      | error fault => rw [assignDirect_of_error found]
      | ok subject =>
          rw [assignDirect_of_idOf found]
          exact Call.piecesOf_perform _ inside
  | call made =>
      rw [piece?, Option.toList_none, List.append_nil]
      exact made.piecesOf_perform inside
  | addTag subject text provenance =>
      refine (piecesOf_revise (fun draft => draft.pieces_addTag text provenance) inside).trans ?_
      rw [piece?, ← ite_and]
      split <;> rfl
  | addDescription subject text provenance =>
      refine (piecesOf_revise (fun draft => draft.pieces_addDescription text provenance)
        inside).trans ?_
      rw [piece?, ← ite_and]
      split <;> rfl

end Operation

theorem size_le_after (catalog : Catalog) (history : List Operation) :
    catalog.size ≤ (catalog.after history).size := by
  induction history generalizing catalog with
  | nil => exact le_refl _
  | cons operation history induction =>
      exact (operation.size_le_perform catalog).trans (induction (operation.perform catalog))

/-- The pieces that operations give to an element, in order. -/
def given (collection : Collection) (id : ElementId) (history : List Operation) :
    List (Provenance × String) :=
  history.filterMap (Operation.piece? collection id)

/-- An element has the pieces that it had, and then those that the operations give it. -/
theorem piecesOf_after (history : List Operation) (inside : id.toNat < catalog.size) :
    (catalog.after history).piecesOf collection id =
      catalog.piecesOf collection id ++ given collection id history := by
  induction history generalizing catalog with
  | nil => exact (List.append_nil _).symm
  | cons operation history induction =>
      have rest := induction (inside.trans_le (operation.size_le_perform catalog))
      rw [operation.piecesOf_perform inside, List.append_assoc] at rest
      refine rest.trans (congrArg (catalog.piecesOf collection id ++ ·) ?_)
      rw [given, given, List.filterMap_cons]
      cases operation.piece? collection id <;> rfl

theorem tags_resolveAll_eq (relationsOf : ElementId → List String)
    (inside : id.toNat < catalog.size) :
    ((catalog.resolveAll relationsOf).get id).tags =
      orderedUnique (catalog.piecesOf .tags id).toArray :=
  catalog.tags_resolveAll relationsOf inside

theorem description_resolveAll (relationsOf : ElementId → List String)
    (inside : id.toNat < catalog.size) :
    ((catalog.resolveAll relationsOf).get id).description =
      String.join (orderedUnique (catalog.piecesOf .description id).toArray) := by
  obtain ⟨draft, name, stands, -, finished⟩ := exists_get_resolveAll relationsOf inside
  rw [finished, piecesOf, stands]
  rfl

/-- Pieces given in another order line up alike if their provenances are different. -/
theorem orderedUnique_after_perm {history others : List Operation}
    (inside : id.toNat < catalog.size) (perm : history.Perm others)
    (distinct : ((given collection id history).map (·.1)).Nodup) :
    orderedUnique ((catalog.after others).piecesOf collection id).toArray =
      orderedUnique ((catalog.after history).piecesOf collection id).toArray := by
  refine orderedUnique_congr fun provenance => ?_
  rw [piecesOf_after others inside, piecesOf_after history inside, under, List.filter_append,
    under, List.filter_append]
  exact congrArg (_ ++ ·) (under_eq_of_perm (perm.filterMap _) distinct provenance).symm

/-- Whatever operations follow, an element has the tags that it has been given, lined up, and its
description is made of the pieces that it has been given, lined up.  If the operations come in
another order, neither changes unless two tags, or two pieces of the description, are given to the
element with one provenance. -/
theorem after_linesUp (inside : id.toNat < catalog.size) (history : List Operation)
    (relationsOf : ElementId → List String) :
    let element := ((catalog.after history).resolveAll relationsOf).get id
    LinedUp (catalog.piecesOf .tags id ++ given .tags id history) element.tags ∧
      (∃ texts, LinedUp (catalog.piecesOf .description id ++ given .description id history) texts ∧
        element.description = String.join texts) ∧
      ∀ others : List Operation, history.Perm others →
        let other := ((catalog.after others).resolveAll relationsOf).get id
        (((given .tags id history).map (·.1)).Nodup → other.tags = element.tags) ∧
          (((given .description id history).map (·.1)).Nodup →
            other.description = element.description) := by
  intro element
  have within (history : List Operation) : id.toNat < (catalog.after history).size :=
    inside.trans_le (catalog.size_le_after history)
  have tags : element.tags =
      orderedUnique (catalog.piecesOf .tags id ++ given .tags id history).toArray := by
    rw [tags_resolveAll_eq relationsOf (within history), piecesOf_after history inside]
  have description : element.description = String.join (orderedUnique
      (catalog.piecesOf .description id ++ given .description id history).toArray) := by
    rw [description_resolveAll relationsOf (within history), piecesOf_after history inside]
  refine ⟨tags ▸ linedUp_orderedUnique _, ⟨_, linedUp_orderedUnique _, description⟩,
    fun others perm => ⟨fun distinct => ?_, fun distinct => ?_⟩⟩
  · rw [tags_resolveAll_eq relationsOf (within others),
      orderedUnique_after_perm inside perm distinct]
    exact (tags_resolveAll_eq relationsOf (within history)).symm
  · rw [description_resolveAll relationsOf (within others),
      orderedUnique_after_perm inside perm distinct]
    exact (description_resolveAll relationsOf (within history)).symm

/-- What is said about sand: some of it by name and some through memberships. -/
def falling : List Operation :=
  [.addDescription ⟨1⟩ "Falls. " (.inherited ⟨30, 2⟩ 0),
    .addDescription ⟨1⟩ "Solid. " (.inherited ⟨10, 1⟩ 0), .addTag ⟨1⟩ "(all)" (.explicit 12),
    .addTag ⟨1⟩ "Dusts" (.inherited ⟨30, 2⟩ 0), .addTag ⟨1⟩ "Dusts" (.inherited ⟨31, 4⟩ 0)]

theorem falling_linesUp :
    let catalog := initial.after [.define "Sand" "#d8e090"]
    let sand := ((catalog.after falling).resolveAll fun _ => []).get ⟨1⟩
    let other := ((catalog.after falling.reverse).resolveAll fun _ => []).get ⟨1⟩
    sand.tags = ["Dusts", "(all)"] ∧ sand.description = "Solid. Falls. " ∧
      other.tags = sand.tags ∧ other.description = sand.description := by
  intro catalog sand other
  obtain ⟨⟨id, defined⟩, success⟩ : Succeeds (initial.define "Sand" "#d8e090") :=
    define_succeeds_iff.mpr ⟨by decide, by decide⟩
  have whole : catalog = defined := after_define success []
  have drafts := (define_eq_ok success).2.2.1
  have inside : (⟨1⟩ : ElementId).toNat < catalog.size := by
    rw [whole, size, ← defined.size_drafts, drafts]
    decide
  have blank (collection : Collection) : catalog.piecesOf collection ⟨1⟩ = [] := by
    rw [whole, piecesOf, drafts]
    cases collection <;> rfl
  obtain ⟨tags, ⟨texts, description, joined⟩, reordered⟩ :=
    after_linesUp inside falling fun _ => []
  rw [blank, List.nil_append] at tags description
  have two : orderedUnique (given .tags ⟨1⟩ falling).toArray = ["Dusts", "(all)"] := by
    simp [orderedUnique, given, falling, Operation.piece?, List.mergeSort, Provenance.le,
      Origin.le, List.eraseDups_cons]
  have both : orderedUnique (given .description ⟨1⟩ falling).toArray = ["Solid. ", "Falls. "] := by
    simp [orderedUnique, given, falling, Operation.piece?, List.mergeSort, Provenance.le,
      Origin.le, List.eraseDups_cons]
  rw [description.unique (linedUp_orderedUnique _), both] at joined
  obtain ⟨sameTags, sameDescription⟩ := reordered falling.reverse (List.reverse_perm _).symm
  exact ⟨(tags.unique (linedUp_orderedUnique _)).trans two, joined.trans (by decide),
    sameTags (by decide), sameDescription (by decide)⟩

end Catalog
end FallingSand
