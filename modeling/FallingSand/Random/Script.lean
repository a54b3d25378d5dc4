import FallingSand.Random.Source

/-!
# Scripted and recorded sources

A script answers every draw from a fixed list of numbers, over and over, which makes a run
predictable.  A recorded source draws from another one and keeps the list of requests.
-/

namespace FallingSand

/-- A source that replays a list of numbers cyclically. -/
structure Script where
  /-- The numbers to replay. -/
  draws : Array Single
  /-- How many have been taken. -/
  taken : Nat

namespace Script

/-- A script before its first draw. -/
def ofDraws (draws : Array Single) : Script where
  draws
  taken := 0

/-- The number that the next draw takes; an empty script repeats zero. -/
def current (script : Script) : Single :=
  script.draws.getD (script.taken % script.draws.size) Single.zero

/-- The script after one draw. -/
def advance (script : Script) : Script :=
  { script with taken := script.taken + 1 }

instance : RandomSource Script where
  coin script := (script.current.lt Single.half, script.advance)
  number script := (script.current, script.advance)
  index last script :=
    (⟨(script.current.mul (Single.ofNat (last + 1))).truncate last,
      Nat.lt_succ_of_le (Single.truncate_le _ _)⟩, script.advance)

end Script

/-- A request made of a random source. -/
inductive Draw where
  /-- A coin. -/
  | coin
  /-- A number. -/
  | number
  /-- An index below `size`. -/
  | index (size : Nat)
  deriving DecidableEq, Repr

/-- A source together with the requests made of it. -/
structure Recorded (σ : Type) where
  /-- The source that answers. -/
  source : σ
  /-- The requests so far, the latest first. -/
  draws : List Draw

namespace Recorded

/-- Start recording. -/
def start {σ : Type} (source : σ) : Recorded σ where
  source
  draws := []

/-- Keep a request and the source that answered it. -/
def record {σ α : Type} (draws : List Draw) (draw : Draw) (answer : α × σ) : α × Recorded σ :=
  (answer.1, { source := answer.2, draws := draw :: draws })

instance {σ : Type} [RandomSource σ] : RandomSource (Recorded σ) where
  coin state := record state.draws .coin (RandomSource.coin state.source)
  number state := record state.draws .number (RandomSource.number state.source)
  index last state := record state.draws (.index (last + 1)) (RandomSource.index last state.source)

end Recorded
end FallingSand
