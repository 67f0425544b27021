import RunLedger.Bytes

/-!
# The BLAKE3 compression function

A `Chain` is eight 32-bit words, the value that is carried from block to block and from the leaves of the hash tree to
its root. A `Node` is the last compression of a chunk or of a parent, held back until it is known whether it is the root:
`Node.chain` finishes it as an inner node, `Node.rootBytes` as the root.
-/

namespace RunLedger.Blake3

/-- Eight words: a chaining value. -/
structure Chain where
  a0 : UInt32
  a1 : UInt32
  a2 : UInt32
  a3 : UInt32
  a4 : UInt32
  a5 : UInt32
  a6 : UInt32
  a7 : UInt32
  deriving DecidableEq, Repr, Inhabited

/-- Sixteen words: a message block, or the state of a compression. -/
structure Words where
  w0 : UInt32
  w1 : UInt32
  w2 : UInt32
  w3 : UInt32
  w4 : UInt32
  w5 : UInt32
  w6 : UInt32
  w7 : UInt32
  w8 : UInt32
  w9 : UInt32
  w10 : UInt32
  w11 : UInt32
  w12 : UInt32
  w13 : UInt32
  w14 : UInt32
  w15 : UInt32
  deriving DecidableEq, Repr, Inhabited

/-- The initial chaining value: the fractional parts of the square roots of the first eight primes. -/
def Chain.initial : Chain :=
  ⟨0x6A09E667, 0xBB67AE85, 0x3C6EF372, 0xA54FF53A, 0x510E527F, 0x9B05688C, 0x1F83D9AB, 0x5BE0CD19⟩

/-- Rotation of a word to the right, by less than its width. -/
@[inline] def rotate (x n : UInt32) : UInt32 := (x >>> n) ||| (x <<< (32 - n))

/-- One quarter of a round: four words mixed with two message words. -/
@[inline] def quarter (a b c d x y : UInt32) : UInt32 × UInt32 × UInt32 × UInt32 :=
  let a := a + b + x
  let d := rotate (d ^^^ a) 16
  let c := c + d
  let b := rotate (b ^^^ c) 12
  let a := a + b + y
  let d := rotate (d ^^^ a) 8
  let c := c + d
  let b := rotate (b ^^^ c) 7
  (a, b, c, d)

/-- One round: the four columns of the state, then its four diagonals. -/
def Words.round (s m : Words) : Words :=
  let (s0, s4, s8, s12) := quarter s.w0 s.w4 s.w8 s.w12 m.w0 m.w1
  let (s1, s5, s9, s13) := quarter s.w1 s.w5 s.w9 s.w13 m.w2 m.w3
  let (s2, s6, s10, s14) := quarter s.w2 s.w6 s.w10 s.w14 m.w4 m.w5
  let (s3, s7, s11, s15) := quarter s.w3 s.w7 s.w11 s.w15 m.w6 m.w7
  let (s0, s5, s10, s15) := quarter s0 s5 s10 s15 m.w8 m.w9
  let (s1, s6, s11, s12) := quarter s1 s6 s11 s12 m.w10 m.w11
  let (s2, s7, s8, s13) := quarter s2 s7 s8 s13 m.w12 m.w13
  let (s3, s4, s9, s14) := quarter s3 s4 s9 s14 m.w14 m.w15
  ⟨s0, s1, s2, s3, s4, s5, s6, s7, s8, s9, s10, s11, s12, s13, s14, s15⟩

/-- The order in which the next round takes the message words. -/
def Words.permute (m : Words) : Words :=
  ⟨m.w2, m.w6, m.w3, m.w10, m.w7, m.w0, m.w4, m.w13, m.w1, m.w11, m.w12, m.w5, m.w9, m.w14, m.w15, m.w8⟩

/-- This many rounds, the message permuted between them. -/
def Words.rounds : Nat → Words → Words → Words
  | 0, s, _ => s
  | n + 1, s, m => Words.rounds n (s.round m) m.permute

/-- The low half of the compression: the next chaining value. -/
def compress (chain : Chain) (block : Words) (counter : UInt64) (length flags : UInt32) : Chain :=
  let s : Words := ⟨chain.a0, chain.a1, chain.a2, chain.a3, chain.a4, chain.a5, chain.a6, chain.a7,
    Chain.initial.a0, Chain.initial.a1, Chain.initial.a2, Chain.initial.a3,
    counter.toUInt32, (counter >>> 32).toUInt32, length, flags⟩
  let s := Words.rounds 7 s block
  ⟨s.w0 ^^^ s.w8, s.w1 ^^^ s.w9, s.w2 ^^^ s.w10, s.w3 ^^^ s.w11, s.w4 ^^^ s.w12, s.w5 ^^^ s.w13, s.w6 ^^^ s.w14,
    s.w7 ^^^ s.w15⟩

/-- Marks the first block of a chunk. -/
def chunkStart : UInt32 := 1

/-- Marks the last block of a chunk. -/
def chunkEnd : UInt32 := 2

/-- Marks an inner node of the tree. -/
def parent : UInt32 := 4

/-- Marks the root of the tree. -/
def root : UInt32 := 8

/-- The word that the first four octets write, least significant first, and the octets behind them. Octets that are
missing count as zeros. -/
@[inline] def takeWord : Bytes → UInt32 × Bytes
  | a :: b :: c :: d :: rest =>
    (a.toUInt32 ||| (b.toUInt32 <<< 8) ||| (c.toUInt32 <<< 16) ||| (d.toUInt32 <<< 24), rest)
  | short => (UInt32.ofNat (Bytes.toNatLE short), [])

/-- The block that the first 64 octets write, and the octets behind them. Octets that are missing count as zeros. -/
def Words.read (b : Bytes) : Words × Bytes :=
  let (w0, b) := takeWord b
  let (w1, b) := takeWord b
  let (w2, b) := takeWord b
  let (w3, b) := takeWord b
  let (w4, b) := takeWord b
  let (w5, b) := takeWord b
  let (w6, b) := takeWord b
  let (w7, b) := takeWord b
  let (w8, b) := takeWord b
  let (w9, b) := takeWord b
  let (w10, b) := takeWord b
  let (w11, b) := takeWord b
  let (w12, b) := takeWord b
  let (w13, b) := takeWord b
  let (w14, b) := takeWord b
  let (w15, b) := takeWord b
  (⟨w0, w1, w2, w3, w4, w5, w6, w7, w8, w9, w10, w11, w12, w13, w14, w15⟩, b)

/-- The octets of a chaining value, each word least significant first. -/
def Chain.bytes (c : Chain) : Bytes :=
  [c.a0, c.a1, c.a2, c.a3, c.a4, c.a5, c.a6, c.a7].flatMap fun w => Bytes.ofNatLE 4 w.toNat

/-- The last compression of a chunk or parent. -/
structure Node where
  chain : Chain
  block : Words
  counter : UInt64
  length : UInt32
  flags : UInt32
  deriving Inhabited

/-- The value of the node inside the tree. -/
def Node.value (n : Node) : Chain := compress n.chain n.block n.counter n.length n.flags

/-- The 32 octets that the node gives as the root of the tree. -/
def Node.rootBytes (n : Node) : Bytes := (compress n.chain n.block 0 n.length (n.flags ||| root)).bytes

/-- The node above two subtrees. -/
def Node.join (left right : Chain) : Node where
  chain := Chain.initial
  block := ⟨left.a0, left.a1, left.a2, left.a3, left.a4, left.a5, left.a6, left.a7,
    right.a0, right.a1, right.a2, right.a3, right.a4, right.a5, right.a6, right.a7⟩
  counter := 0
  length := 64
  flags := parent

theorem takeWord_snd (b : Bytes) : (takeWord b).2 = b.drop 4 := by
  match b with
  | _ :: _ :: _ :: _ :: _ => rfl
  | [] | [_] | [_, _] | [_, _, _] => rfl

theorem takeWord_take {n : Nat} (h : 4 ≤ n) (b : Bytes) : (takeWord (b.take n)).1 = (takeWord b).1 := by
  obtain ⟨m, rfl⟩ := Nat.exists_eq_add_of_le' h
  match b with
  | _ :: _ :: _ :: _ :: _ => rfl
  | [] | [_] | [_, _] | [_, _, _] => rfl

/-- A block is 64 octets long. -/
theorem Words.read_snd (b : Bytes) : (Words.read b).2 = b.drop 64 := by
  simp [Words.read, takeWord_snd, List.drop_drop]

/-- A block depends on its own octets only. -/
theorem Words.read_take {n : Nat} (h : 64 ≤ n) (b : Bytes) : (Words.read (b.take n)).1 = (Words.read b).1 := by
  have hw : ∀ k, k + 4 ≤ n → (takeWord ((b.take n).drop k)).1 = (takeWord (b.drop k)).1 := fun k hk => by
    rw [List.drop_take]
    exact takeWord_take (by omega) _
  have h0 := hw 0 (by omega)
  simp only [List.drop_zero] at h0
  simp only [Words.read, takeWord_snd, List.drop_drop, Nat.reduceAdd, h0]
  rw [hw 4 (by omega), hw 8 (by omega), hw 12 (by omega), hw 16 (by omega), hw 20 (by omega), hw 24 (by omega),
    hw 28 (by omega), hw 32 (by omega), hw 36 (by omega), hw 40 (by omega), hw 44 (by omega), hw 48 (by omega),
    hw 52 (by omega), hw 56 (by omega), hw 60 (by omega)]

theorem Chain.length_bytes (c : Chain) : c.bytes.length = 32 := by
  simp [Chain.bytes, List.flatMap_cons]

theorem Node.length_rootBytes (n : Node) : n.rootBytes.length = 32 := Chain.length_bytes _

end RunLedger.Blake3
