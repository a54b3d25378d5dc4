import FallingSand.Session.Failure
import FallingSand.Session.Files
import FallingSand.Settings.Run
import FallingSand.Snapshot.Bytes
import FallingSand.Snapshot.Text

/-!
# Keeping snapshots

A snapshot is kept in a file, as text or as bytes.  It is written beside its place first and then
put there, so that nobody finds half a snapshot.
-/

namespace FallingSand

namespace Snapshot

/-- The content of a file that keeps a snapshot. -/
def encode (snapshot : Snapshot) : SnapshotFormat → ByteArray
  | .text => snapshot.toText.toUTF8
  | .bytes => ⟨snapshot.toBytes.toArray⟩

variable {m : Type → Type} [Monad m] [FileStore m]

/-- Keep a snapshot in a file. -/
def save (snapshot : Snapshot) (path : String) (format : SnapshotFormat) :
    m (Except Failure Unit) := do
  let first := FilePath.temporary path
  if ← FileStore.write first (snapshot.encode format) then
    if ← FileStore.rename first path then return .ok ()
    else return .error (.renameSnapshot path)
  else return .error (.writeSnapshot first)

/-- Load the snapshot that a file keeps. -/
def load (path : String) (format : SnapshotFormat) : m (Except Failure Snapshot) := do
  match format with
  | .text =>
      match ← FileStore.readText path with
      | none => return .error (.readSnapshot path)
      | some content =>
          match ofText? content with
          | some snapshot => return .ok snapshot
          | none => return .error .parseSnapshot
  | .bytes =>
      match ← FileStore.read path with
      | none => return .error (.readSnapshot path)
      | some content =>
          match ofBytes? content.toList with
          | some snapshot => return .ok snapshot
          | none => return .error .decodeSnapshot

end Snapshot
end FallingSand
