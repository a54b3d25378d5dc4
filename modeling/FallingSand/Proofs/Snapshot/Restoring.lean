import FallingSand.Proofs.Snapshot.Loading
import FallingSand.Proofs.Tick.Known
import Mathlib.Logic.Relation

/-!
# Worlds that can be restored

A world begins as an unoccupied grid.  It is painted on with elements of a mod, cleared, and
advanced by the rules of the mod.  Nothing of this leads out of the elements of the mod, so the
snapshot of any such world can be loaded, and what is loaded has the same snapshot.
-/

namespace FallingSand

/-- One thing that is done to a grid under the rules of a mod.  What fails changes nothing. -/
inductive Grid.Alters (rules : RuleSet) (grid : Grid) : Grid → Prop where
  /-- One cell is painted. -/
  | set (position : Position) {element : ElementId} (known : rules.elements.Knows element)
      {next : Grid} (painted : grid.set position element = .ok next) : Alters rules grid next
  /-- One cell is painted with a named element. -/
  | paint (position : Position) (name : String) {next : Grid}
      (painted : grid.paint rules.elements position name = .ok next) : Alters rules grid next
  /-- A rectangle is painted. -/
  | fillRectangle (corner : Position) (width height : Int) {element : ElementId}
      (known : rules.elements.Knows element) {next : Grid}
      (painted : grid.fillRectangle corner width height element = .ok next) :
      Alters rules grid next
  /-- A row is painted. -/
  | fillRow (y : Int) {element : ElementId} (known : rules.elements.Knows element) {next : Grid}
      (painted : grid.fillRow y element = .ok next) : Alters rules grid next
  /-- Every cell becomes unoccupied. -/
  | clear : Alters rules grid grid.clear
  /-- A tick passes over the whole grid. -/
  | step {σ : Type} [RandomSource σ] (source : σ) : Alters rules grid (grid.step rules source).2.1
  /-- A tick passes over bands. -/
  | stepBanded (bands : List Rows) (seed : UInt64) :
      Alters rules grid (grid.stepBanded rules bands seed).2

/-! ## Elements stay known -/

theorem ElementTable.Named.knows_of_idOf? {table : ElementTable} (named : table.Named)
    {name : String} {id : ElementId} (found : table.idOf? name = some id) : table.Knows id := by
  obtain ⟨place, stands, rfl⟩ := Option.map_eq_some_iff.mp found
  obtain ⟨inside, -, -⟩ := Array.findIdx?_eq_some_iff_getElem.mp stands
  have number : (⟨UInt16.ofNat place⟩ : ElementId).toNat = place :=
    UInt16.toNat_ofNat_of_lt' (Nat.lt_of_lt_of_le inside named.size_le)
  rwa [Knows, number]

namespace Grid

variable {table : ElementTable} {rules : RuleSet} {grid next fresh : Grid} {element : ElementId}

theorem known_set {position : Position} (known : grid.board.Known table)
    (knows : table.Knows element) (painted : grid.set position element = .ok next) :
    next.board.Known table := by
  obtain ⟨site, -, rest⟩ := bind_eq_ok_iff.mp painted
  cases rest
  exact known.fill [site] knows

theorem known_fillRectangle {corner : Position} {width height : Int}
    (known : grid.board.Known table) (knows : table.Knows element)
    (painted : grid.fillRectangle corner width height element = .ok next) :
    next.board.Known table := by
  rw [fillRectangle] at painted
  split at painted
  · cases painted
    exact known
  · obtain ⟨_, -, rest⟩ := bind_eq_ok_iff.mp painted
    obtain ⟨_, -, rest⟩ := bind_eq_ok_iff.mp rest
    cases rest
    exact known.fill _ knows

theorem known_create {width height : Nat} {edge : Edge} (table : ElementTable)
    (created : create width height edge = .ok fresh) : fresh.board.Known table := by
  rw [create] at created
  split at created
  · cases created
    exact Board.known_empty _ table
  · cases created

theorem Alters.known (named : rules.elements.Named) (closed : rules.Closed)
    (alters : grid.Alters rules next) (known : grid.board.Known rules.elements) :
    next.board.Known rules.elements := by
  cases alters with
  | set _ knows painted => exact known_set known knows painted
  | paint position name painted =>
      rw [Grid.paint] at painted
      split at painted
      · rename_i element found
        exact known_set known (named.knows_of_idOf? found) painted
      · cases painted
  | fillRectangle _ _ _ knows painted => exact known_fillRectangle known knows painted
  | fillRow _ knows painted => exact known_fillRectangle known knows painted
  | clear => exact Board.known_empty _ _
  | step source => exact closed.keeps_known.step grid source known
  | stepBanded bands seed => exact closed.keeps_known.stepBanded bands seed grid known

end Grid

/-- Whatever has been done to a grid under the rules of a mod, all its cells hold elements of the
mod, and its snapshot can be loaded: that gives a grid of the same size and tick with the same
elements at all positions, and with the same snapshot. -/
theorem reached_restores {declarations : Declarations} {rules : RuleSet}
    (compiled : declarations.compile = .ok rules) {width height : Nat} {edge : Edge}
    {fresh grid : Grid} (created : Grid.create width height edge = .ok fresh)
    (reached : Relation.ReflTransGen (Grid.Alters rules) fresh grid) :
    let table := rules.elements
    grid.board.Known table ∧
      ∃ restored, Grid.ofSnapshot table (grid.snapshot table) = .ok restored ∧
        restored.size = grid.size ∧ restored.tick = grid.tick ∧
        (∀ position, (restored.cell? position).map Cell.element =
          (grid.cell? position).map Cell.element) ∧
        restored.snapshot table = grid.snapshot table := by
  intro table
  have named : table.Named := Declarations.named_of_compile compiled
  have closed := Declarations.closed_of_compile compiled
  have known : grid.board.Known table := by
    induction reached with
    | refl => exact Grid.known_create table created
    | tail _ alters earlier => exact alters.known named closed earlier
  refine ⟨known, _, Grid.ofSnapshot_snapshot named grid known, rfl, rfl, fun position => ?_, ?_⟩
  · rw [Grid.cell?, Grid.cell?, Option.map_map, Option.map_map]
    refine Option.map_congr fun site _ => ?_
    simp only [Function.comp_apply, Board.bare, Board.cell_map]
    rfl
  · exact Grid.snapshot_bare .wall grid.tick grid.board table

/-- Salt is strewn on a grid, acid is painted into it, and two ticks pass. -/
theorem strewn_restores : ∃ rules fresh strewn dripped,
    dissolving.compile = .ok rules ∧ Grid.create 3 6 .wrap = .ok fresh ∧
      fresh.fillRow 4 ⟨2⟩ = .ok strewn ∧ strewn.set ⟨1, 0⟩ ⟨1⟩ = .ok dripped ∧
      let grid := ((dripped.step rules (Xoshiro.ofSeed 7)).2.1.stepBanded rules (bandRows 6 2) 7).2
      ∃ restored,
        Grid.ofSnapshot rules.elements (grid.snapshot rules.elements) = .ok restored ∧
          restored.snapshot rules.elements = grid.snapshot rules.elements := by
  obtain ⟨rules, compiled⟩ := compiles_dissolving
  obtain ⟨acid, salt⟩ := knows_dissolving compiled
  obtain ⟨fresh, created⟩ : Succeeds (Grid.create 3 6 .wrap) := ⟨_, rfl⟩
  have strews : Succeeds (fresh.fillRow 4 ⟨2⟩) := by
    cases created
    exact ⟨_, rfl⟩
  obtain ⟨strewn, salted⟩ := strews
  have drips : Succeeds (strewn.set ⟨1, 0⟩ ⟨1⟩) := by
    cases created
    cases salted
    exact ⟨_, rfl⟩
  obtain ⟨dripped, painted⟩ := drips
  refine ⟨rules, fresh, strewn, dripped, compiled, created, salted, painted, ?_⟩
  intro grid
  have painting : Relation.ReflTransGen (Grid.Alters rules) fresh dripped :=
    (Relation.ReflTransGen.single (.fillRow 4 salt salted)).tail (.set ⟨1, 0⟩ acid painted)
  have reached : Relation.ReflTransGen (Grid.Alters rules) fresh grid :=
    (painting.tail (.step (Xoshiro.ofSeed 7))).tail (.stepBanded (bandRows 6 2) 7)
  obtain ⟨-, restored, loads, -, -, -, same⟩ := reached_restores compiled created reached
  exact ⟨restored, loads, same⟩

end FallingSand
