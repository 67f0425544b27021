import RunLedger.Message.Wire

/-!
# Messages read back

`Reads r octets a`: wherever the octets stand, the reader `r` takes them and answers `a`, and what follows is left. Each
part of a message is read from the octets that write it (`reads_text`, `reads_list`, `reads_preamble`, …,
`reads_event`), and so is the message (`reads_message`). The only bound is that of the counts in front of texts and
lists: they are 64-bit numbers, so the octets of the message must be fewer than `UInt64.size`.

A message that is a preamble has no texts and no lists, so it is always short (`length_message_le`). How long a sample is
depends on its name and its tags (`length_message_metric_le`).
-/

namespace RunLedger.Wire

/-- The reader takes these octets, whatever follows them, and answers the value. -/
def Reads {α : Type} (r : Reader α) (octets : Bytes) (a : α) : Prop := ∀ rest, r (octets ++ rest) = .ok (a, rest)

/-! ## Readers one after the other -/

section Readers

variable {α β : Type} {r : Reader α} {f : α → Reader β} {octets octets' : Bytes} {a : α} {b : β}

theorem Reads.pure (a : α) : Reads (Pure.pure a) [] a := fun _ => rfl

theorem Reads.ofOption {o : Option α} (h : o = some a) : Reads (Reader.ofOption o) [] a := by
  subst h
  exact fun _ => rfl

/-- Octets of two readers that follow one another. -/
theorem Reads.bind (h : Reads r octets a) (h' : Reads (f a) octets' b) : Reads (r >>= f) (octets ++ octets') b := by
  intro rest
  rw [List.append_assoc, bind_apply, h]
  exact h' rest

/-- The last reader that takes octets. -/
theorem Reads.last (h : Reads r octets a) (h' : Reads (f a) [] b) : Reads (r >>= f) octets b := by
  rw [← List.append_nil octets]
  exact h.bind h'

end Readers

/-! ## Numbers, texts and lists -/

theorem reads_word64 (n : UInt64) : Reads readWord64 (u64 n) n := by
  have h : Reads readU64 (u64 n) n.toNat := readU64_varint n.toNat_lt
  have := h.last (f := fun k => Pure.pure (UInt64.ofNat k)) (Reads.pure _)
  rwa [UInt64.ofNat_toNat] at this

theorem reads_word32 (n : UInt32) : Reads readWord32 (u32 n) n := by
  have h : Reads readU32 (u32 n) n.toNat := readU32_varint n.toNat_lt
  have := h.last (f := fun k => Pure.pure (UInt32.ofNat k)) (Reads.pure _)
  rwa [UInt32.ofNat_toNat] at this

theorem length_encode_le (s : String) : (Text.Utf8.encode s).length ≤ (text s).length := by simp [text, blob]

theorem reads_text {s : String} (h : (text s).length < UInt64.size) : Reads readText (text s) s :=
  readText_text (Nat.lt_of_le_of_lt (length_encode_le s) h)

theorem varint_ne_nil (n : Nat) : varint n ≠ [] := by
  rw [varint]
  split <;> simp

theorem length_text_pos (s : String) : 0 < (text s).length := by
  have := List.length_pos_iff.mpr (varint_ne_nil (Text.Utf8.encode s).length)
  simp only [text, blob, List.length_append]
  omega

section Lists

variable {α : Type} {write : α → Bytes} {xs : List α}

/-- An item takes no more octets than the list it is in. -/
theorem length_item_le {x : α} (hx : x ∈ xs) : (write x).length ≤ (list write xs).length := by
  have : (write x).length ≤ (xs.flatMap write).length := by
    rw [List.flatMap_def]
    exact (List.sublist_flatten_of_mem (List.mem_map_of_mem hx)).length_le
  simp only [list, List.length_append]
  omega

/-- If no item is written without octets, a list has no more items than octets. -/
theorem length_le_list (h : ∀ x, 0 < (write x).length) : xs.length ≤ (list write xs).length := by
  have : xs.length ≤ (xs.flatMap write).length := by
    induction xs with
    | nil => simp
    | cons x xs ih =>
      have := h x
      simp only [List.length_cons, List.flatMap_cons, List.length_append]
      omega
  simp only [list, List.length_append]
  omega

theorem reads_list {r : Reader α} (hl : (list write xs).length < UInt64.size) (hw : ∀ x, 0 < (write x).length)
    (h : ∀ x, (write x).length < UInt64.size → Reads r (write x) x) : Reads (readList r) (list write xs) xs :=
  readList_list (Nat.lt_of_le_of_lt (length_le_list hw) hl)
    fun x hx => h x (Nat.lt_of_le_of_lt (length_item_le hx) hl)

end Lists

/-! ## The parts of a message -/

theorem reads_uuid (u : Uuid) : Reads readUuid (uuid u) u := by
  have hl : u.bytes.length = 16 := u.block.length_bytes
  refine Reads.last (fun rest => readBlob_blob (by rw [hl]; decide) rest) (Reads.ofOption ?_)
  simp [Uuid.bytes]

theorem reads_timestamp (t : Timestamp) : Reads readTimestamp (timestamp t) t :=
  (reads_word64 t.seconds).bind ((reads_word32 t.nanos).last (Reads.pure _))

theorem reads_double (d : Double) : Reads readDouble (double d) d := by
  have h : Reads (take 8) (double d) (double d) := take_append (by simp [double])
  have := h.last (f := fun bytes => Pure.pure (Double.mk (UInt64.ofNat (Bytes.toNatLE bytes)))) (Reads.pure _)
  rwa [double, Bytes.toNatLE_ofNatLE (show _ < Nat.pow 256 8 from d.bits.toNat_lt), UInt64.ofNat_toNat] at this

theorem reads_operationId {id : OperationId} (h : (operationId id).length < UInt64.size) :
    Reads readOperationId (operationId id) id := by
  refine (reads_text h).last (Reads.ofOption ?_)
  rw [OperationId.ofText, dif_neg id.ne_empty, dif_neg id.separator_notMem]
  rfl

theorem reads_stateTag (s : TaskState) : Reads readU32 (varint (stateTag s)) (stateTag s) :=
  readU32_varint (by cases s <;> decide)

theorem stateOfTag?_stateTag (s : TaskState) : stateOfTag? (stateTag s) = some s := by cases s <;> rfl

theorem reads_outcomeTag (o : Outcome) : Reads readU32 (varint (outcomeTag o)) (outcomeTag o) :=
  readU32_varint (by cases o <;> decide)

theorem outcomeOfTag?_outcomeTag (o : Outcome) : outcomeOfTag? (outcomeTag o) = some o := by cases o <;> rfl

theorem reads_preamble (p : Preamble) : Reads readPreamble (preamble p) p := by
  simp only [preamble, List.append_assoc]
  exact (reads_word64 _).bind ((reads_word64 _).bind ((reads_word64 _).bind
    ((reads_timestamp _).bind ((reads_timestamp _).last (Reads.pure _)))))

theorem reads_task {t : Task} (h : (task t).length < UInt64.size) : Reads readTask (task t) t := by
  simp only [task, List.append_assoc, List.length_append] at h ⊢
  exact (reads_text (by omega)).bind ((reads_text (by omega)).bind
    ((reads_stateTag _).last ((Reads.ofOption (stateOfTag?_stateTag _)).last (Reads.pure _))))

theorem reads_metric {m : Metric} (h : (metric m).length < UInt64.size) : Reads readMetric (metric m) m := by
  simp only [metric, List.append_assoc, List.length_append] at h ⊢
  exact (reads_text (by omega)).bind ((reads_double _).bind
    ((reads_list (by omega) length_text_pos fun _ => reads_text).last (Reads.pure _)))

theorem reads_coverage {c : Coverage} (h : (coverage c).length < UInt64.size) :
    Reads readCoverage (coverage c) c := by
  simp only [coverage, List.length_append] at h ⊢
  exact (reads_text (by omega)).bind ((reads_text (by omega)).last (Reads.pure _))

theorem reads_op {o : Op} (h : (op o).length < UInt64.size) : Reads readOp (op o) o := by
  simp only [op, List.append_assoc, List.length_append] at h ⊢
  refine (reads_operationId (by omega)).bind (Reads.bind (a := o.ancestors) ?_ ((reads_outcomeTag _).bind
    ((Reads.ofOption (outcomeOfTag?_outcomeTag _)).bind ((reads_word64 _).last (Reads.pure _)))))
  exact reads_list (by omega) (fun id => length_text_pos id.name) fun _ => reads_operationId

/-! ## Messages -/

/-- The number of an event's kind selects the reader of its fields. -/
theorem reads_event {e : Event} (h : (event e).length < UInt64.size) : Reads readEvent (event e) e := by
  have tag {n : Nat} (hn : n < 6) : Reads readU32 (varint n) n := readU32_varint (Nat.lt_trans hn (by decide))
  cases e with
  | preamble p => exact (tag (by decide)).bind ((reads_preamble p).last (Reads.pure _))
  | heartbeat => exact (tag (by decide)).last (Reads.pure _)
  | task t =>
    simp only [event, List.length_append] at h
    exact (tag (by decide)).bind ((reads_task (by omega)).last (Reads.pure _))
  | metric m =>
    simp only [event, List.length_append] at h
    exact (tag (by decide)).bind ((reads_metric (by omega)).last (Reads.pure _))
  | coverage c =>
    simp only [event, List.length_append] at h
    exact (tag (by decide)).bind ((reads_coverage (by omega)).last (Reads.pure _))
  | op o =>
    simp only [event, List.length_append] at h
    exact (tag (by decide)).bind ((reads_op (by omega)).last (Reads.pure _))

/-- **A written message is read back, whatever follows it.** -/
theorem reads_message {m : Message} (h : (message m).length < UInt64.size) : Reads readMessage (message m) m := by
  simp only [message, List.append_assoc, List.length_append] at h ⊢
  exact (reads_uuid _).bind ((reads_timestamp _).bind ((reads_event (by omega)).last (Reads.pure _)))

/-! ## How long messages are -/

theorem length_varint_le {n groups : Nat} (h : n < Nat.pow 128 (groups + 1)) : (varint n).length ≤ groups + 1 := by
  induction groups generalizing n with
  | zero =>
    have h : n < 128 := h
    rw [varint, if_pos h]
    simp
  | succ groups ih =>
    have h : n < Nat.pow 128 (groups + 1) * 128 := h
    rw [varint]
    split
    · simp
    · have := ih ((Nat.div_lt_iff_lt_mul (by omega)).mpr h)
      simp only [List.length_cons]
      omega

theorem length_u64_le (n : UInt64) : (u64 n).length ≤ 10 :=
  length_varint_le (Nat.lt_of_lt_of_le n.toNat_lt (by decide))

theorem length_u32_le (n : UInt32) : (u32 n).length ≤ 5 :=
  length_varint_le (Nat.lt_of_lt_of_le n.toNat_lt (by decide))

theorem length_uuid_le (u : Uuid) : (uuid u).length ≤ 17 := by
  have hl : u.bytes.length = 16 := u.block.length_bytes
  have : (varint u.bytes.length).length ≤ 1 := length_varint_le (by rw [hl]; decide)
  simp only [uuid, blob, List.length_append]
  omega

theorem length_timestamp_le (t : Timestamp) : (timestamp t).length ≤ 15 := by
  have := length_u64_le t.seconds
  have := length_u32_le t.nanos
  simp only [timestamp, List.length_append]
  omega

theorem length_preamble_le (p : Preamble) : (preamble p).length ≤ 60 := by
  have := length_u64_le p.version.major
  have := length_u64_le p.version.minor
  have := length_u64_le p.version.patch
  have := length_timestamp_le p.notBefore
  have := length_timestamp_le p.notAfter
  simp only [preamble, List.length_append]
  omega

/-- A message is little longer than its event. -/
theorem length_message_le_event (m : Message) : (message m).length ≤ 32 + (event m.event).length := by
  have := length_uuid_le m.id.uuid
  have := length_timestamp_le m.time
  simp only [message, List.length_append]
  omega

/-- A message that is a preamble is short, whatever it says. -/
theorem length_message_le {m : Message} {p : Preamble} (h : m.event = .preamble p) : (message m).length ≤ 93 := by
  have := length_message_le_event m
  have := length_preamble_le p
  have : (varint 0).length ≤ 1 := length_varint_le (by decide)
  simp only [h, event, List.length_append] at *
  omega

/-- A text is written with at most as many octets in front of it as its length has groups. -/
theorem length_text_le {s : String} {groups : Nat} (h : (Text.Utf8.encode s).length < Nat.pow 128 (groups + 1)) :
    (text s).length ≤ groups + 1 + (Text.Utf8.encode s).length := by
  have := length_varint_le h
  simp only [text, blob, List.length_append]
  omega

/-- Texts that are short all together are short when they are written. -/
theorem length_flatMap_text_le {texts : List String} {groups : Nat}
    (h : (texts.map Text.Utf8.encode).flatten.length < Nat.pow 128 (groups + 1)) :
    (texts.flatMap text).length ≤ texts.length * (groups + 1) + (texts.map Text.Utf8.encode).flatten.length := by
  induction texts with
  | nil => simp
  | cons s texts ih =>
    simp only [List.map_cons, List.flatten_cons, List.length_append] at h ⊢
    have hs : (text s).length ≤ groups + 1 + (Text.Utf8.encode s).length := length_text_le (by omega)
    have hrest := ih (by omega)
    rw [List.flatMap_cons, List.length_append, List.length_cons, Nat.succ_mul]
    omega

/-- How long a message that is a sample is, by the lengths of its name and its tags. -/
theorem length_message_metric_le {m : Message} {x : Metric} (groups : Nat) (h : m.event = .metric x)
    (hn : (Text.Utf8.encode x.name).length < Nat.pow 128 (groups + 1)) (hc : x.tags.length < Nat.pow 128 (groups + 1))
    (ht : (x.tags.map Text.Utf8.encode).flatten.length < Nat.pow 128 (groups + 1)) :
    (message m).length ≤ 41 + (x.tags.length + 2) * (groups + 1) + (Text.Utf8.encode x.name).length +
      (x.tags.map Text.Utf8.encode).flatten.length := by
  have hmessage := length_message_le_event m
  have htag : (varint 3).length ≤ 1 := length_varint_le (by decide)
  have hname := length_text_le hn
  have hvalue : (double x.value).length = 8 := Bytes.length_ofNatLE 8 _
  have hcount := length_varint_le hc
  have htags := length_flatMap_text_le ht
  simp only [h, event, metric, list, List.length_append] at hmessage
  rw [Nat.add_mul]
  omega

end RunLedger.Wire
