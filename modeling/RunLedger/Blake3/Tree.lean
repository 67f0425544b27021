import RunLedger.Blake3.Compression

/-!
# The BLAKE3 hash tree

The input is cut into chunks of 1024 octets, the last one holding what remains. Every chunk is a leaf; the left subtree
of an inner node holds the largest power of two of chunks that leaves at least one for the right. `Hasher` takes the
input in pieces and keeps the leaves of all complete chunks with what follows them.

* `readLeaf_eq`: the leaf in front of an input is that of its first 1024 octets.
-/

namespace RunLedger.Blake3

/-- Octets in a chunk. -/
def chunkLength : Nat := 1024

/-- The leaf that ends after so many more blocks than one, or with the octets, and the octets behind it. The blocks before
gave `chain`. -/
def leafFrom (index : Nat) : Nat → Chain → UInt32 → Bytes → Node × Bytes
  | 0, chain, start, bytes =>
    let (block, rest) := Words.read bytes
    let length := if rest.isEmpty then bytes.length else 64
    (⟨chain, block, UInt64.ofNat index, UInt32.ofNat length, start ||| chunkEnd⟩, rest)
  | more + 1, chain, start, bytes =>
    let (block, rest) := Words.read bytes
    if rest.isEmpty then
      (⟨chain, block, UInt64.ofNat index, UInt32.ofNat bytes.length, start ||| chunkEnd⟩, [])
    else leafFrom index more (compress chain block (UInt64.ofNat index) 64 start) 0 rest

/-- The leaf of the chunk in front of some octets, which has the given number, and the octets behind the chunk. -/
def readLeaf (index : Nat) (bytes : Bytes) : Node × Bytes := leafFrom index 15 Chain.initial chunkStart bytes

/-- The leaf of the chunk with the given number. -/
def leaf (index : Nat) (chunk : Bytes) : Node := (readLeaf index chunk).1

theorem leafFrom_snd (index more : Nat) (chain : Chain) (start : UInt32) (bytes : Bytes) :
    (leafFrom index more chain start bytes).2 = bytes.drop (64 * (more + 1)) := by
  induction more generalizing chain start bytes with
  | zero => exact Words.read_snd bytes
  | succ more ih =>
    simp only [leafFrom, Words.read_snd, List.isEmpty_iff]
    split
    · rename_i h
      have := List.drop_eq_nil_iff.mp h
      exact (List.drop_eq_nil_of_le (by omega)).symm
    · rw [ih, List.drop_drop]
      congr 1
      omega

theorem leafFrom_take (index more : Nat) (chain : Chain) (start : UInt32) (bytes : Bytes) :
    (leafFrom index more chain start (bytes.take (64 * (more + 1)))).1 = (leafFrom index more chain start bytes).1 := by
  induction more generalizing chain start bytes with
  | zero =>
    simp only [leafFrom, Words.read_snd, List.isEmpty_iff, List.drop_eq_nil_iff]
    rw [Words.read_take (Nat.le_refl 64)]
    by_cases h : bytes.length ≤ 64
    · rw [List.take_of_length_le h]
    · have hl : (bytes.take (64 * (0 + 1))).length = 64 := by rw [List.length_take]; omega
      rw [hl, if_neg h, ite_self]
  | succ more ih =>
    simp only [leafFrom, Words.read_snd, List.isEmpty_iff]
    rw [Words.read_take (by omega)]
    by_cases h : bytes.length ≤ 64
    · rw [List.take_of_length_le (by omega)]
    · have hr : bytes.drop 64 ≠ [] := fun he => h (List.drop_eq_nil_iff.mp he)
      have ht : (bytes.take (64 * (more + 1 + 1))).drop 64 = (bytes.drop 64).take (64 * (more + 1)) := by
        rw [List.drop_take]
        congr 1
      have hn : (bytes.drop 64).take (64 * (more + 1)) ≠ [] := fun he => by
        rcases List.take_eq_nil_iff.mp he with he | he
        · omega
        · exact hr he
      rw [ht, if_neg hn, if_neg hr, ih]

/-- The leaf in front of some octets is that of the first 1024 of them. -/
theorem readLeaf_eq (index : Nat) (bytes : Bytes) :
    readLeaf index bytes = (leaf index (bytes.take chunkLength), bytes.drop chunkLength) :=
  Prod.ext (leafFrom_take index 15 _ _ bytes).symm (leafFrom_snd index 15 _ _ bytes)

/-- The complete chunks at the front, each leaving at least one octet, and the octets after them. The leaves of the
chunks are pushed on `leaves`, which holds those before. -/
def absorb (leaves : List Node) (count : Nat) (bytes : Bytes) : List Node × Nat × Bytes :=
  match _h : readLeaf count bytes with
  | (_, []) => (leaves, count, bytes)
  | (node, b :: rest) => absorb (node :: leaves) (count + 1) (b :: rest)
termination_by bytes.length
decreasing_by
  have hd := congrArg (fun r => r.2.length) ((readLeaf_eq count bytes).symm.trans _h)
  simp only [List.length_drop, List.length_cons, chunkLength] at hd
  simp only [List.length_cons]
  omega

/-- The largest power of two below `n`, for `n` above one. -/
def leftCount (n : Nat) : Nat := Nat.pow 2 (Nat.log2 (n - 1))

/-- The top node over a row of leaves. -/
def top (leaves : List Node) : Node :=
  match leaves with
  | [] => leaf 0 []
  | [node] => node
  | a :: b :: rest =>
    let left := (a :: b :: rest).take (leftCount (rest.length + 2))
    let right := (a :: b :: rest).drop (leftCount (rest.length + 2))
    Node.join (top left).value (top right).value
termination_by leaves.length
decreasing_by
  all_goals
    have h : Nat.pow 2 (Nat.log2 (rest.length + 1)) ≤ rest.length + 1 := Nat.log2_self_le (by omega)
    have h' : 0 < Nat.pow 2 (Nat.log2 (rest.length + 1)) := Nat.two_pow_pos _
    simp only [leftCount, List.length_take, List.length_drop, List.length_cons,
      show rest.length + 2 - 1 = rest.length + 1 from rfl]
    omega

/-- What has been read of an input: the leaves of its complete chunks, latest first, their number, and the octets after
them. -/
structure Hasher where
  leaves : List Node
  count : Nat
  pending : Bytes
  deriving Inhabited

/-- Nothing read yet. -/
def Hasher.empty : Hasher := ⟨[], 0, []⟩

/-- Reads one more piece of the input. -/
def Hasher.update (h : Hasher) (piece : Bytes) : Hasher :=
  let (leaves, count, pending) := absorb h.leaves h.count (h.pending ++ piece)
  ⟨leaves, count, pending⟩

/-- The top node over everything read. -/
def Hasher.node (h : Hasher) : Node := top (leaf h.count h.pending :: h.leaves).reverse

end RunLedger.Blake3
