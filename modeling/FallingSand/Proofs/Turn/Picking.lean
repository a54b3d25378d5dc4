import FallingSand.Mod.Rule
import FallingSand.Proofs.Random.Stream

/-!
# The first candidate to fire

Candidates are tried one after another, each with the next number of the random source, until one
has a number below its probability.  Which one that is, how many have been tried and what is left of
the source is told once, and everything else about a try follows from that.
-/

namespace FallingSand

variable {α : Type} {probability : α → Single} {draws : Nat → Single} {first : α}
  {candidates : List α} {fired : Option α} {tried : Nat}

/-- Of some candidates, each with the number at its place, the first one whose number is below its
probability, and how many have been tried by then. -/
inductive Picks (probability : α → Single) (draws : Nat → Single) (candidates : List α) :
    Option α → Nat → Prop where
  /-- A candidate fires after all before it have been passed over. -/
  | fires {place : Nat} {candidate : α} (stands : candidates[place]? = some candidate)
      (below : (draws place).lt (probability candidate) = true)
      (passed : ∀ earlier < place, ∀ other, candidates[earlier]? = some other →
        (draws earlier).lt (probability other) = false) :
      Picks probability draws candidates (some candidate) (place + 1)
  /-- All candidates are passed over. -/
  | idle (passed : ∀ place other, candidates[place]? = some other →
        (draws place).lt (probability other) = false) :
      Picks probability draws candidates none candidates.length

theorem Picks.cons (above : (draws 0).lt (probability first) = false)
    (picks : Picks probability (fun place => draws (place + 1)) candidates fired tried) :
    Picks probability draws (first :: candidates) fired (tried + 1) := by
  cases picks with
  | @fires place candidate stands below passed =>
      refine .fires stands below fun earlier before other given => ?_
      cases earlier with
      | zero => exact Option.some.inj given ▸ above
      | succ earlier => exact passed earlier (Nat.lt_of_succ_lt_succ before) other given
  | idle passed =>
      refine .idle fun place other given => ?_
      cases place with
      | zero => exact Option.some.inj given ▸ above
      | succ place => exact passed place other given

theorem Picks.mem {candidate : α}
    (picks : Picks probability draws candidates (some candidate) tried) :
    candidate ∈ candidates := by
  cases picks with
  | fires stands _ _ => exact List.mem_of_getElem? stands

/-- What fires with a number that is not negative has some chance. -/
theorem Picks.isPositive {candidate : α}
    (picks : Picks probability draws candidates (some candidate) tried)
    (least : ∀ place, Single.zero.le (draws place) = true) :
    (probability candidate).isPositive = true := by
  cases picks with
  | fires _ below _ => exact Single.lt_of_le_of_lt (least _) below

/-- As long as the numbers are below one, not all are passed over if one is certain. -/
theorem Picks.isSome (picks : Picks probability draws candidates fired tried)
    (most : ∀ place, (draws place).lt Single.one = true) {candidate : α}
    (listed : candidate ∈ candidates) (certain : probability candidate = Single.one) :
    fired.isSome = true := by
  cases picks with
  | fires _ _ _ => rfl
  | idle passed =>
      obtain ⟨place, stands⟩ := List.getElem?_of_mem listed
      have above := passed place candidate stands
      rw [certain, most place] at above
      cases above

variable {σ : Type} [RandomSource σ]

open RandomSource (after draw Proper)

theorem firstFiring_of_lt {source : σ} (below : (draw source 0).lt (probability first) = true) :
    firstFiring probability (first :: candidates) source = (some first, after source 1) :=
  if_pos below

theorem firstFiring_of_not_lt {source : σ}
    (above : ¬(draw source 0).lt (probability first) = true) :
    firstFiring probability (first :: candidates) source =
      firstFiring probability candidates (after source 1) :=
  if_neg above

/-- Candidates are tried in their order, each with a number of its own. -/
theorem exists_picks_firstFiring (probability : α → Single) (candidates : List α) (source : σ) :
    ∃ fired tried, Picks probability (draw source) candidates fired tried ∧
      firstFiring probability candidates source = (fired, after source tried) := by
  induction candidates generalizing source with
  | nil => exact ⟨none, 0, .idle (by simp), rfl⟩
  | cons first rest induction =>
      by_cases below : (draw source 0).lt (probability first) = true
      · exact ⟨some first, 1, .fires rfl below (by simp), firstFiring_of_lt below⟩
      · obtain ⟨fired, tried, picks, same⟩ := induction (after source 1)
        refine ⟨fired, tried + 1, .cons (Bool.not_eq_true _ ▸ below) picks, ?_⟩
        rw [firstFiring_of_not_lt below, same]
        rfl

/-- Candidates behind a certain one are never tried, and so they may be missing. -/
theorem firstFiring_of_sublist {precedes : α → α → Prop} {kept : List α}
    (sublist : kept.Sublist candidates) (ordered : candidates.Pairwise precedes)
    (asymm : ∀ first second, precedes first second → ¬precedes second first)
    (missing : ∀ candidate ∈ candidates, candidate ∉ kept →
      ∃ earlier ∈ candidates, precedes earlier candidate ∧ probability earlier = Single.one)
    {source : σ} (proper : Proper source) :
    firstFiring probability kept source = firstFiring probability candidates source := by
  induction sublist generalizing source with
  | slnil => rfl
  | @cons kept rest first sublist _ =>
      -- the head is kept, since nothing stands before it
      have leads := (List.pairwise_cons.mp ordered).1
      have dropped : first ∉ kept := fun listed =>
        asymm _ _ (leads first (sublist.subset listed)) (leads first (sublist.subset listed))
      obtain ⟨earlier, listed, before, -⟩ := missing first List.mem_cons_self dropped
      rcases List.mem_cons.mp listed with rfl | later
      · exact absurd before (asymm _ _ before)
      · exact absurd before (asymm _ _ (leads earlier later))
  | @cons_cons kept rest first sublist induction =>
      obtain ⟨leads, ordered⟩ := List.pairwise_cons.mp ordered
      by_cases below : (draw source 0).lt (probability first) = true
      · rw [firstFiring_of_lt below, firstFiring_of_lt below]
      · rw [firstFiring_of_not_lt below, firstFiring_of_not_lt below]
        refine induction ordered (fun candidate listed dropped => ?_) proper.tail
        have other : candidate ≠ first := by
          rintro rfl
          exact asymm _ _ (leads candidate listed) (leads candidate listed)
        obtain ⟨earlier, given, before, certain⟩ :=
          missing candidate (List.mem_cons_of_mem _ listed) (by simp [other, dropped])
        rcases List.mem_cons.mp given with rfl | later
        -- the head has been passed over, so it is not certain
        · exact absurd (certain ▸ (proper 0).2) below
        · exact ⟨earlier, later, before, certain⟩

end FallingSand
