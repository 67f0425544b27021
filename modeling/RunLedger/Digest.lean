import RunLedger.Blake3.Tree
import RunLedger.Text.Hex

/-!
# Digests

A digest is 32 octets. `Digest.of` is the BLAKE3 hash of a byte string; it keys stored artifacts, and its first four
octets check every record of a log. Digests are written as 64 lowercase hexadecimal digits and read in either case.

* `ofText_text`: a written digest reads back.
-/

namespace RunLedger

/-- The hash of a byte string. -/
structure Digest where
  block : Block 32
  deriving DecidableEq, Repr, Inhabited

namespace Digest

/-- The octets of a digest. -/
def bytes (d : Digest) : Bytes := d.block.bytes

/-- The digest that the top of a hash tree gives. -/
def ofNode (node : Blake3.Node) : Digest := ⟨⟨node.rootBytes, node.length_rootBytes⟩⟩

/-- The digest of everything a hasher has read. -/
def ofHasher (h : Blake3.Hasher) : Digest := ofNode h.node

/-- The digest of a byte string. -/
def of (data : Bytes) : Digest := ofHasher (Blake3.Hasher.empty.update data)

/-- The check value of a record: the first four octets. -/
def check (d : Digest) : Bytes := d.bytes.take 4

/-- Whether a byte string has this digest. -/
def verify (d : Digest) (data : Bytes) : Bool := of data = d

/-- The digest as lowercase hexadecimal text. -/
def text (d : Digest) : String := Text.Hex.encode d.bytes

/-- Why a text writes no digest. -/
inductive Error where
  | notHex (fault : Text.Hex.Error)
  /-- The text writes this many octets. -/
  | wrongLength (found : Nat)
  deriving DecidableEq, Repr

/-- The wording of a fault. -/
def Error.message : Error → String
  | .notHex fault => "Invalid hash: " ++ fault.message
  | .wrongLength found => s!"Invalid hash: expected 32 bytes, got {found}"

/-- The digest that a text of hexadecimal digits writes. -/
def ofText (s : String) : Except Error Digest :=
  match Text.Hex.decode s with
  | .error fault => .error (.notHex fault)
  | .ok bytes =>
    match Block.ofBytes? 32 bytes with
    | some block => .ok ⟨block⟩
    | none => .error (.wrongLength bytes.length)

@[simp] theorem length_bytes (d : Digest) : d.bytes.length = 32 := d.block.length_bytes

@[simp] theorem length_check (d : Digest) : d.check.length = 4 := by simp [check]

/-- A written digest is read back. -/
theorem ofText_text (d : Digest) : ofText d.text = .ok d := by
  simp [ofText, text, Text.Hex.decode_encode, bytes]

end Digest

end RunLedger
