import RunLedger.Ledger.Error
import RunLedger.Storage.Disk

/-!
# Uploads

An artifact is sent in pieces, after the digest that it will have. The pieces are written to a file beside the place of
the artifact, which takes that place once the digest of all pieces is the announced one; otherwise it is removed. The
steps of an upload are separate, so that those of several uploads can come in any order.

* `verified_of_finish`: an upload that finishes was sent octets with the announced digest.
-/

namespace RunLedger.Ledger

/-- A piece of what is sent. -/
inductive UploadChunk where
  /-- Announces the digest of the artifact. -/
  | metadata (checksum : String)
  | data (bytes : Bytes)
  deriving DecidableEq

/-- An artifact that is being received. -/
structure Upload where
  key : Digest
  /-- The open file that the pieces are written to. -/
  inode : Nat
  /-- How many octets were written. -/
  received : Nat
  hasher : Blake3.Hasher

namespace Upload

/-- Where an artifact is kept. -/
def target (directory : String) (key : Digest) : String := joinPath directory key.text

/-- Where an artifact is collected. -/
def part (directory : String) (key : Digest) : String := joinPath directory (key.text ++ ".part")

/-- Opens an empty file for the pieces. -/
def start (d : Disk) (directory : String) (key : Digest) : Except IoError (Upload × Disk) :=
  (d.openEmpty (part directory key)).map fun (inode, d) => (⟨key, inode, 0, .empty⟩, d)

/-- Writes one piece behind the others. -/
def write (u : Upload) (d : Disk) (bytes : Bytes) : Upload × Disk :=
  ({ u with received := u.received + bytes.length, hasher := u.hasher.update bytes }, d.writeAt u.inode u.received bytes)

/-- Gives up. -/
def discard (u : Upload) (d : Disk) (directory : String) : Disk := ((d.remove (part directory u.key)).toOption).getD d

/-- Puts the artifact in its place, if it has the digest that was announced. -/
def finish (u : Upload) (d : Disk) (directory : String) : Except Error Digest × Disk :=
  let actual := Digest.ofHasher u.hasher
  if actual = u.key then
    match d.rename (part directory u.key) (target directory u.key) with
    | .ok d => (.ok u.key, d)
    | .error e => (.error (.io e), d)
  else (.error (.checksumMismatch u.key actual), u.discard d directory)

/-- Writes the pieces that are left and finishes. -/
def receive (u : Upload) (d : Disk) (directory : String) : List UploadChunk → Except Error Digest × Disk
  | [] => u.finish d directory
  | .data bytes :: chunks =>
    let (u, d) := u.write d bytes
    receive u d directory chunks
  | .metadata _ :: _ => (.error .duplicateMetadata, u.discard d directory)

theorem verified_of_finish {u : Upload} {d d' : Disk} {directory : String} {key : Digest}
    (h : u.finish d directory = (.ok key, d')) : key = u.key ∧ Digest.ofHasher u.hasher = key := by
  unfold finish at h
  dsimp only at h
  split at h
  · split at h <;> cases h
    exact ⟨rfl, by assumption⟩
  · cases h

end Upload

/-- Receives a whole upload into a directory. -/
def receiveUpload (d : Disk) (directory : String) : List UploadChunk → Except Error Digest × Disk
  | .metadata checksum :: chunks =>
    match Digest.ofText checksum with
    | .error fault => (.error (.invalidChecksum fault), d)
    | .ok key =>
      match Upload.start d directory key with
      | .error e => (.error (.io e), d)
      | .ok (u, d) => u.receive d directory chunks
  | _ => (.error .missingMetadata, d)

end RunLedger.Ledger
