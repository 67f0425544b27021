import RunLedger.Proofs.Identifier.Text
import RunLedger.Proofs.Message.Wire
import RunLedger.Proofs.Text.Utf8

/-!
# No form is shorter than the written one

The reader takes forms that are never written: numbers with unneeded groups, and octets behind the message. None of them
is shorter than what is written. `Spends r cost` says so of the reader `r`: wherever it answers a value, it took at least
as many octets as the value costs. Every reader of a part of a message spends what the part is written with
(`spends_varint`, `spends_text`, `spends_list`, …, `spends_event`), and so does the reader of messages (`spends_message`).
-/

namespace RunLedger.Wire

/-- The reader takes at least as many octets as the value that it answers costs. -/
def Spends {α : Type} (r : Reader α) (cost : α → Nat) : Prop :=
  ∀ bytes a rest, r bytes = .ok (a, rest) → cost a + rest.length ≤ bytes.length

/-! ## Readers one after the other -/

section Readers

variable {α β : Type} {r : Reader α} {f : α → Reader β} {cost : α → Nat} {total : β → Nat}

/-- A value that is paid for already. -/
theorem Spends.pure {a : α} (h : cost a = 0) : Spends (Pure.pure a) cost := by
  intro bytes b rest hb
  cases hb
  omega

/-- A value that costs no more than what was taken in front of it. -/
theorem Spends.paid {b : β} {paid : Nat} (h : total b ≤ paid) : Spends (Pure.pure b) fun b => total b - paid :=
  .pure (Nat.sub_eq_zero_of_le h)

/-- What the first reader took is paid for, and the rest of the cost falls to the second. -/
theorem Spends.bind (h : Spends r cost) (h' : ∀ a, Spends (f a) fun b => total b - cost a) : Spends (r >>= f) total := by
  intro bytes b rest hb
  rw [bind_apply] at hb
  split at hb
  · rename_i a middle ha
    have hfirst : cost a + middle.length ≤ bytes.length := h bytes a middle ha
    have hsecond : total b - cost a + rest.length ≤ middle.length := h' a middle b rest hb
    omega
  · cases hb

/-- Where there is a value, what follows from it pays. -/
theorem Spends.ofOption_bind {o : Option α} (h : ∀ a, o = some a → Spends (f a) total) :
    Spends (Reader.ofOption o >>= f) total := by
  cases o with
  | none => exact nofun
  | some a => exact h a rfl

end Readers

/-! ## Numbers -/

theorem length_varint_of_lt {n : Nat} (h : n < 128) : (varint n).length = 1 := by
  rw [varint, if_pos h, List.length_singleton]

theorem length_varint_mono {m n : Nat} (h : m ≤ n) : (varint m).length ≤ (varint n).length := by
  induction n using Nat.strongRecOn generalizing m with
  | ind n ih =>
    by_cases hm : m < 128
    · rw [length_varint_of_lt hm]
      exact List.length_pos_iff.mpr (varint_ne_nil n)
    · have hn : ¬n < 128 := by omega
      have hrest : (varint (m / 128)).length ≤ (varint (n / 128)).length := ih (n / 128) (by omega) (by omega)
      rw [varint, if_neg hm, varint.eq_def n, if_neg hn, List.length_cons, List.length_cons]
      omega

/-- **A number takes no fewer octets than it is written with,** however it is padded. -/
theorem spends_varint {last : Nat} (hlast : last < 128) (more : Nat) :
    Spends (readVarint last more) fun n => (varint n).length := by
  intro bytes n rest h
  induction more generalizing bytes n with
  | zero =>
    cases bytes with
    | nil => cases h
    | cons b bytes =>
      rw [readVarint] at h
      split at h
      · cases h
        simp only [length_varint_of_lt (show b.toNat < 128 by omega), List.length_cons]
        omega
      · cases h
  | succ more ih =>
    cases bytes with
    | nil => cases h
    | cons b bytes =>
      rw [readVarint] at h
      split at h
      · rename_i hb
        cases h
        simp only [length_varint_of_lt hb, List.length_cons]
        omega
      · split at h
        · rename_i k rest' hk
          cases h
          have hrest : (varint k).length + rest.length ≤ bytes.length := ih bytes k hk
          have hdiv : (b.toNat - 128 + 128 * k) / 128 = k := by
            have := b.toNat_lt
            omega
          show (varint _).length + _ ≤ _
          rw [varint]
          split
          · rw [List.length_singleton, List.length_cons]
            omega
          · rw [hdiv, List.length_cons, List.length_cons]
            omega
        · cases h

theorem spends_u64 : Spends readU64 fun n => (varint n).length := spends_varint (by omega) 9

theorem spends_u32 : Spends readU32 fun n => (varint n).length := spends_varint (by omega) 4

theorem spends_word64 : Spends readWord64 fun n => (u64 n).length := by
  refine spends_u64.bind fun n => .paid (length_varint_mono ?_)
  rw [UInt64.toNat_ofNat']
  exact Nat.mod_le n _

theorem spends_word32 : Spends readWord32 fun n => (u32 n).length := by
  refine spends_u32.bind fun n => .paid (length_varint_mono ?_)
  rw [UInt32.toNat_ofNat']
  exact Nat.mod_le n _

/-! ## Byte strings, texts and lists -/

theorem spends_take (n : Nat) : Spends (take n) List.length := by
  intro bytes front rest h
  unfold take at h
  split at h
  · rename_i hsplit
    cases h
    obtain ⟨-, rfl⟩ := Bytes.split?_eq_some_iff.mp hsplit
    exact Nat.le_of_eq List.length_append.symm
  · cases h

theorem length_of_take {n : Nat} {bytes front rest : Bytes} (h : take n bytes = .ok (front, rest)) : front.length = n := by
  unfold take at h
  split at h
  · rename_i hsplit
    cases h
    exact (Bytes.split?_eq_some_iff.mp hsplit).1
  · cases h

theorem spends_blob : Spends readBlob fun bytes => (blob bytes).length := by
  refine spends_u64.bind fun n bytes front rest h => ?_
  have htaken := spends_take n bytes front rest h
  simp only [blob, List.length_append, length_of_take h] at htaken ⊢
  omega

/-- A text is written with the octets that it was read from. -/
theorem spends_text : Spends readText fun s => (text s).length := by
  refine spends_blob.bind fun bytes => ?_
  cases hs : Text.Utf8.decode bytes with
  | error e => exact nofun
  | ok s =>
    refine .paid (Nat.le_of_eq ?_)
    rw [text, Text.Utf8.decode_eq_ok_iff.mp hs]

section Lists

variable {α : Type} {r : Reader α} {write : α → Bytes}

/-- The items that are read behind those that were read already pay for themselves. -/
theorem spends_readMany (h : Spends r fun a => (write a).length) {read xs : List α} {n : Nat} {bytes rest : Bytes}
    (hread : readMany r read n bytes = .ok (xs, rest)) :
    ∃ more, xs = read.reverse ++ more ∧ more.length = n ∧ (more.flatMap write).length + rest.length ≤ bytes.length := by
  induction n generalizing read bytes with
  | zero =>
    cases hread
    exact ⟨[], by simp⟩
  | succ n ih =>
    rw [readMany] at hread
    split at hread
    · rename_i a middle ha
      obtain ⟨more, rfl, rfl, hmore⟩ := ih hread
      have hitem : (write a).length + middle.length ≤ bytes.length := h bytes a middle ha
      refine ⟨a :: more, by simp, rfl, ?_⟩
      rw [List.flatMap_cons, List.length_append]
      omega
    · cases hread

theorem spends_list (h : Spends r fun a => (write a).length) : Spends (readList r) fun xs => (list write xs).length := by
  refine spends_u64.bind fun n bytes xs rest hread => ?_
  obtain ⟨more, rfl, rfl, hmore⟩ := spends_readMany h hread
  simp only [list, List.length_append]
  omega

end Lists

/-! ## The parts of a message -/

theorem spends_uuid : Spends readUuid fun u => (uuid u).length := by
  refine spends_blob.bind fun bytes => ?_
  cases hu : (Block.ofBytes? 16 bytes).map Uuid.mk with
  | none => exact nofun
  | some u =>
    refine .paid (Nat.le_of_eq ?_)
    obtain ⟨block, hblock, rfl⟩ := Option.map_eq_some_iff.mp hu
    rw [uuid, Uuid.bytes, Block.ofBytes?_eq_some_iff.mp hblock]

theorem spends_timestamp : Spends readTimestamp fun t => (timestamp t).length := by
  refine spends_word64.bind fun seconds => spends_word32.bind fun nanos => .pure ?_
  simp only [timestamp, List.length_append]
  omega

theorem spends_double : Spends readDouble fun d => (double d).length := by
  intro bytes d rest h
  rw [readDouble, bind_apply] at h
  split at h
  · rename_i front _ hfront
    cases h
    have htaken := spends_take 8 bytes front _ hfront
    rw [length_of_take hfront] at htaken
    simpa [double] using htaken
  · cases h

theorem spends_operationId : Spends readOperationId fun id => (operationId id).length := by
  refine spends_text.bind fun s => ?_
  cases hid : OperationId.ofText s with
  | error e => exact nofun
  | ok id =>
    refine .paid (Nat.le_of_eq ?_)
    rw [operationId, OperationId.name_of_ofText hid]

theorem stateTag_of_stateOfTag? {tag : Nat} {s : TaskState} (h : stateOfTag? tag = some s) : stateTag s = tag := by
  unfold stateOfTag? at h
  split at h <;> cases h <;> rfl

theorem outcomeTag_of_outcomeOfTag? {tag : Nat} {o : Outcome} (h : outcomeOfTag? tag = some o) : outcomeTag o = tag := by
  unfold outcomeOfTag? at h
  split at h <;> cases h <;> rfl

theorem spends_preamble : Spends readPreamble fun p => (preamble p).length := by
  refine spends_word64.bind fun major => spends_word64.bind fun minor => spends_word64.bind fun patch =>
    spends_timestamp.bind fun notBefore => spends_timestamp.bind fun notAfter => .pure ?_
  simp only [preamble, List.length_append]
  omega

theorem spends_task : Spends readTask fun t => (task t).length := by
  refine spends_text.bind fun id => spends_text.bind fun description => spends_u32.bind fun tag =>
    .ofOption_bind fun state hstate => .pure ?_
  simp only [task, stateTag_of_stateOfTag? hstate, List.length_append]
  omega

theorem spends_metric : Spends readMetric fun m => (metric m).length := by
  refine spends_text.bind fun name => spends_double.bind fun value => (spends_list spends_text).bind fun tags => .pure ?_
  simp only [metric, List.length_append]
  omega

theorem spends_coverage : Spends readCoverage fun c => (coverage c).length := by
  refine spends_text.bind fun format => spends_text.bind fun path => .pure ?_
  simp only [coverage, List.length_append]
  omega

theorem spends_op : Spends readOp fun o => (op o).length := by
  refine spends_operationId.bind fun name => (spends_list spends_operationId).bind fun ancestors =>
    spends_u32.bind fun tag => .ofOption_bind fun outcome houtcome => spends_word64.bind fun elapsed => .pure ?_
  simp only [op, outcomeTag_of_outcomeOfTag? houtcome, List.length_append]
  omega

/-! ## Messages -/

/-- The fields of an event, behind the number of its kind. -/
theorem spends_fields {α : Type} {r : Reader α} {write : α → Bytes} {kind : α → Event} {tag : Nat}
    (h : Spends r fun a => (write a).length) (hkind : ∀ a, event (kind a) = varint tag ++ write a) :
    Spends (r >>= fun a => Pure.pure (kind a)) fun e => (event e).length - (varint tag).length := by
  refine h.bind fun a => .pure ?_
  rw [hkind, List.length_append]
  omega

/-- The number that selects the reader of the fields is the one that the event is written with. -/
theorem spends_event : Spends readEvent fun e => (event e).length := by
  refine spends_u32.bind fun tag => ?_
  unfold readEventOf
  split
  · exact spends_fields spends_preamble fun _ => rfl
  · exact .pure (Nat.sub_self _)
  · exact spends_fields spends_task fun _ => rfl
  · exact spends_fields spends_metric fun _ => rfl
  · exact spends_fields spends_coverage fun _ => rfl
  · exact spends_fields spends_op fun _ => rfl
  · intro bytes e rest h
    cases h

/-- **A message is read from no fewer octets than it is written with.** -/
theorem spends_message : Spends readMessage fun m => (message m).length := by
  refine spends_uuid.bind fun id => spends_timestamp.bind fun time => spends_event.bind fun e => .pure ?_
  simp only [message, List.length_append]
  omega

end RunLedger.Wire
