import FallingSand.Main
import FallingSand.Random.Script
import FallingSand.Text.Lenient
import FallingSand.Proofs.Mod.Rules
import FallingSand.Proofs.Tick.Movement
import FallingSand.Proofs.Tick.Reactions
import FallingSand.Proofs.Tick.Frame
import FallingSand.Proofs.Tick.Windows
import FallingSand.Proofs.Tick.Passes
import FallingSand.Proofs.Grid.Column
import FallingSand.Proofs.Mod.Values
import FallingSand.Proofs.Number.Whole
import FallingSand.Proofs.Tick.Settling
import FallingSand.Proofs.Mod.Meaning
import FallingSand.Proofs.Mod.Checked
import FallingSand.Proofs.Mod.Verdict
import FallingSand.Proofs.Mod.Named
import FallingSand.Proofs.Mod.Reordering
import FallingSand.Proofs.Tick.Weights
import FallingSand.Proofs.Random.Fair
import FallingSand.Proofs.Tick.Certain
import FallingSand.Proofs.Tick.Unsplit
import FallingSand.Proofs.Mod.Bequests
import FallingSand.Proofs.Mod.Inheritance
import FallingSand.Proofs.Tick.MovedOnce
import FallingSand.Proofs.Tick.Depth
import FallingSand.Proofs.Tick.Marks
import FallingSand.Proofs.Snapshot.Resuming
import FallingSand.Proofs.Snapshot.Restoring
import FallingSand.Proofs.Mod.Refactoring
import FallingSand.Proofs.Mod.Metadata
import FallingSand.Proofs.Tick.StripTicks
import FallingSand.Proofs.Tick.Cylinder
import FallingSand.Proofs.Tick.Quiet
import FallingSand.Proofs.Tick.Decay
import FallingSand.Proofs.Mod.Faults
import FallingSand.Proofs.Mod.Misplaced
import FallingSand.Proofs.Mod.Derivations
import FallingSand.Proofs.Turn.Outcome
import FallingSand.Proofs.Mod.Tags
import FallingSand.Proofs.Mod.Templates
import FallingSand.Proofs.Tick.RigidFall
import FallingSand.Proofs.Turn.Capped
import FallingSand.Proofs.Turn.Trying
import FallingSand.Proofs.Random.Unbiased
import FallingSand.Proofs.Tick.Seeds
import FallingSand.Proofs.Mod.Direct
import FallingSand.Proofs.Mod.LinedUp
import FallingSand.Proofs.Mod.Requests
import FallingSand.Proofs.Grid.Neighborhood
import FallingSand.Proofs.Grid.Painting
import FallingSand.Proofs.Snapshot.Renaming
import FallingSand.Proofs.Snapshot.Counting
import FallingSand.Proofs.Turn.Resolving
import FallingSand.Proofs.Mod.Positions
import FallingSand.Proofs.Mod.Product
import FallingSand.Proofs.Mod.Discovery
