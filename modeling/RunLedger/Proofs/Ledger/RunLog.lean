import RunLedger.Ledger.RunLog
import RunLedger.Proofs.Log.Reading
import RunLedger.Proofs.Storage.Disk

/-!
# What appending does to a log

A path holds messages if they are what the records of its file say, from the first octet to the last, and there is no
file only if there are no messages (`Disk.Holds`). The end of such a log is known rightly, or not at all
(`RunLog.Knows`).

* `restore_of_holds`: a log without damage is not cut, and its end is found.
* `place_eq`, `fault?_eq_none_iff`: which messages can follow so many records, and which records they become.
* `RunLog.append_spec`: a batch is refused and leaves the log as it was, or its frames come behind the log as a whole;
  what was known of the end of the log stays right.
-/

namespace RunLedger

/-- The file at the path, if any, consists of the records of the messages. -/
structure Disk.Holds (d : Disk) (path : String) (ms : List Message) : Prop where
  entry : d.names.get? path ≠ some .directory
  whole : Whole (d.octets path) ms

namespace Disk.Holds

variable {d d' : Disk} {path : String} {ms : List Message}

theorem of_same (h : d.Holds path ms) (hs : d.Same d' path) : d'.Holds path ms :=
  ⟨by rw [hs.entry]; exact h.entry, by rw [hs.octets_eq]; exact h.whole⟩

theorem readAll_eq (h : d.Holds path ms) : readAll (d.octets path) = ⟨ms, none⟩ := readAll_whole h.whole

/-- If there is no file there are no messages. -/
theorem read_eq (h : d.Holds path ms) :
    (d.read path = .error .notFound ∧ d.octets path = [] ∧ ms = []) ∨ d.read path = .ok (d.octets path) := by
  rw [Disk.read_eq]
  cases he : d.names.get? path with
  | none =>
    have ho := octets_of_absent he
    have hms := h.readAll_eq
    rw [ho, readAll_whole .nil] at hms
    exact Or.inl ⟨rfl, ho, (congrArg ReadOutcome.messages hms).symm⟩
  | some entry =>
    cases entry with
    | file inode => exact Or.inr rfl
    | directory => exact absurd he h.entry

end Disk.Holds

namespace Ledger

/-! ## The records of a batch -/

/-- A preamble that the reader can read. -/
def Opens (reader : Version) (m : Message) : Prop := ∃ p, m.preamble? = some p ∧ reader.canRead p.version

theorem Opens.fits {reader : Version} {m : Message} (h : Opens reader m) : Frame.Fits m := by
  obtain ⟨p, hp, -⟩ := h
  exact Frame.fits_of_preamble (by simp [hp])

/-- The first message of a log is a preamble that the reader can read, and no other message is a preamble. -/
structure Headed (reader : Version) (ms : List Message) : Prop where
  head : ∀ m, ms.head? = some m → Opens reader m
  tail : ∀ m ∈ ms.tail, m.preamble? = none

/-- What is put in front of a batch: a preamble, if the log is empty and the batch has none at its head. -/
def opening (records : Nat) (supplied : Message) (batch : List Message) : List Message :=
  if records = 0 ∧ batch.head?.any fun m => m.preamble?.isNone then [supplied] else []

@[simp] theorem opening_nil (records : Nat) (supplied : Message) : opening records supplied [] = [] := by
  simp [opening]

/-- The records that messages become behind so many records and octets. -/
def placed (record offset : Nat) : List Message → List Persisted
  | [] => []
  | m :: ms => ⟨record, offset + (Frame.of m).length, m⟩ :: placed (record + 1) (offset + (Frame.of m).length) ms

@[simp] theorem length_placed (record offset : Nat) (ms : List Message) :
    (placed record offset ms).length = ms.length := by
  induction ms generalizing record offset with
  | nil => rfl
  | cons m ms ih => simp [placed, ih]

theorem placed_append (record offset : Nat) (ms ms' : List Message) : placed record offset (ms ++ ms') =
    placed record offset ms ++ placed (record + ms.length) (offset + (framed ms).length) ms' := by
  induction ms generalizing record offset with
  | nil => rfl
  | cons m ms ih =>
    simp only [List.cons_append, placed, ih, framed_cons, List.length_append, List.length_cons]
    rw [Nat.add_assoc offset, Nat.add_assoc record, Nat.add_comm 1]

theorem headed_nil (reader : Version) : Headed reader [] := ⟨fun _ h => by simp at h, fun _ h => by simp at h⟩

/-- Messages come behind a log if the first one opens it, should it be empty, and no later one is a preamble. -/
theorem Headed.append {reader : Version} {ms new : List Message} (h : Headed reader ms)
    (hh : ms = [] → ∀ m, new.head? = some m → Opens reader m)
    (ht : ∀ m ∈ new.drop (1 - ms.length), m.preamble? = none) : Headed reader (ms ++ new) := by
  cases ms with
  | nil => exact ⟨hh rfl, by simpa using ht⟩
  | cons m ms =>
    refine ⟨by simpa using h.head, fun x hx => ?_⟩
    rcases List.mem_append.mp hx with hx | hx
    · exact h.tail x hx
    · exact ht x (by simpa using hx)

/-- Why messages cannot come behind so many records, if they cannot: the first one that may not is to blame. -/
def fault? (run : RunId) (record : Nat) : List Message → Option Error
  | [] => none
  | m :: ms =>
    if 0 < record && m.preamble?.isSome then some (.misplacedPreamble run record)
    else if Frame.Fits m then fault? run (record + 1) ms
    else some (.frame (.tooLarge (Wire.message m).length))

/-- **Whether messages can be placed depends on how many records precede them, not on how many octets.** -/
theorem place_eq (run : RunId) (record offset : Nat) (ms : List Message) : place run record offset ms =
    match fault? run record ms with
    | some e => .error e
    | none => .ok (placed record offset ms, framed ms) := by
  induction ms generalizing record offset with
  | nil => rfl
  | cons m ms ih =>
    rw [place, fault?]
    by_cases hp : 0 < record && m.preamble?.isSome
    · rw [if_pos hp, if_pos hp]
    · rw [if_neg hp, if_neg hp]
      by_cases hf : Frame.Fits m
      · simp only [Frame.encode_of_fits hf, if_pos hf, ih]
        cases fault? run (record + 1) ms <;> rfl
      · rw [Frame.encode_of_not_fits hf, if_neg hf]

/-- Messages can be placed if all fit and none is a preamble, unless it becomes the first record. -/
theorem fault?_eq_none_iff {run : RunId} {record : Nat} {ms : List Message} : fault? run record ms = none ↔
    (∀ m ∈ ms, Frame.Fits m) ∧ ∀ m ∈ ms.drop (1 - record), m.preamble? = none := by
  induction ms generalizing record with
  | nil => simp [fault?]
  | cons m ms ih =>
    have ih := @ih (record + 1)
    rw [show 1 - (record + 1) = 0 by omega, List.drop_zero] at ih
    by_cases hfit : Frame.Fits m
    · -- whether the message itself may be a preamble depends on its record
      rcases Nat.eq_zero_or_pos record with rfl | hr
      · simpa [fault?, hfit] using ih
      · by_cases hp : m.preamble? = none
        · simp [fault?, hfit, hp, ih, Nat.sub_eq_zero_of_le hr]
        · simp [fault?, hr, hp, Option.isSome_iff_ne_none, Nat.sub_eq_zero_of_le hr]
    · by_cases hp : 0 < record && m.preamble?.isSome <;> simp [fault?, hp, hfit]

theorem opened_of_ok {records : Nat} {reader : Version} {supplied : Message} {batch new : List Message}
    (h : opened records reader supplied batch = .ok new) : new = opening records supplied batch ++ batch := by
  unfold opened at h
  split at h
  · cases h
    simp [opening]
  · rename_i m ms
    by_cases hr : records = 0
    · rw [if_pos hr] at h
      split at h
      · rename_i hp
        cases h
        simp [opening, hr, hp]
      · rename_i p hp
        split at h
        · cases h
          simp [opening, hp]
        · cases h
    · rw [if_neg hr] at h
      cases h
      simp [opening, hr]

/-- The first record of a log is a preamble that can be read, if the one that is supplied is. -/
theorem opens_of_opened {records : Nat} {reader : Version} {supplied m : Message} {batch new : List Message}
    (h : opened records reader supplied batch = .ok new) (hs : Opens reader supplied) (hr : records = 0)
    (hm : new.head? = some m) : Opens reader m := by
  unfold opened at h
  split at h
  · cases h
    cases hm
  · rw [if_pos hr] at h
    split at h
    · cases h
      cases hm
      exact hs
    · rename_i p hp
      split at h
      · rename_i hc
        cases h
        cases hm
        exact ⟨p, hp, hc⟩
      · cases h

/-- Why a batch cannot come behind so many records, if it cannot. -/
def refusal? (c : Config) (run : RunId) (records : Nat) (supplied : Message) (batch : List Message) : Option Error :=
  match opened records c.schemaVersion supplied batch with
  | .error fault => some (.log fault)
  | .ok messages => fault? run records messages

/-- What a batch that is not refused becomes, and that it can be placed. -/
theorem of_not_refused {c : Config} {run : RunId} {records : Nat} {supplied : Message} {batch : List Message}
    (h : refusal? c run records supplied batch = none) :
    opened records c.schemaVersion supplied batch = .ok (opening records supplied batch ++ batch) ∧
      fault? run records (opening records supplied batch ++ batch) = none := by
  unfold refusal? at h
  split at h
  · cases h
  · rename_i messages ho
    obtain rfl := opened_of_ok ho
    exact ⟨ho, h⟩

/-! ## The end of a log -/

/-- The end is that of the log at the path, which holds the messages, and the open file, if any, is that log. -/
structure Tail.Knows (t : Tail) (d : Disk) (path : String) (ms : List Message) : Prop where
  records_eq : t.records = ms.length
  bytes_eq : t.bytes = (d.octets path).length
  entry : ∀ inode, t.inode = some inode → d.names.get? path = some (.file inode)

/-- The end of the log is known rightly, or not at all. -/
def RunLog.Knows (log : RunLog) (d : Disk) (path : String) (ms : List Message) : Prop :=
  ∀ t, log.tail = some t → t.Knows d path ms

section Append

variable {d d' : Disk} {path : String} {ms : List Message}

theorem Tail.Knows.of_same {t : Tail} (h : t.Knows d path ms) (hs : d.Same d' path) : t.Knows d' path ms :=
  ⟨h.records_eq, by rw [hs.octets_eq]; exact h.bytes_eq, fun inode hi => hs.entry.trans (h.entry inode hi)⟩

theorem RunLog.Knows.of_same {log : RunLog} (h : log.Knows d path ms) (hs : d.Same d' path) : log.Knows d' path ms :=
  fun t ht => (h t ht).of_same hs

/-- Finding the end of a log without damage changes nothing. -/
theorem Tail.restore_of_holds (h : d.Holds path ms) :
    Tail.restore d path = .ok (⟨none, ms.length, (d.octets path).length⟩, d) := by
  rcases h.read_eq with ⟨hr, ho, rfl⟩ | hr
  · rw [restore, hr, ho]
    rfl
  · simp only [restore, hr, h.readAll_eq]

theorem RunLog.findTail_spec {log : RunLog} (hk : log.Knows d path ms) (h : d.Holds path ms) :
    ∃ t, log.findTail d path = .ok (t, d) ∧ t.Knows d path ms := by
  cases ht : log.tail with
  | some t => exact ⟨t, by simp [findTail, ht], hk t ht⟩
  | none =>
    have hf : log.findTail d path = Tail.restore d path := by simp [findTail, ht]
    exact ⟨_, hf.trans (Tail.restore_of_holds h), ⟨rfl, rfl, fun _ hi => by cases hi⟩⟩

/-- What a disk is, and what is known of the end of a log, after the frames of messages came behind the log. -/
structure Grown (d d' : Disk) (path : String) (ms new : List Message) (t : Tail) : Prop where
  sound : d'.Sound
  octets_eq : d'.octets path = d.octets path ++ framed new
  fits : ∀ m ∈ new, Frame.Fits m
  holds : d'.Holds path (ms ++ new)
  knows : t.Knows d' path (ms ++ new)
  same : ∀ p, p ≠ path → d.Same d' p

theorem Grown.refl {t : Tail} (hs : d.Sound) (h : d.Holds path ms) (hk : t.Knows d path ms) :
    Grown d d path ms [] t where
  sound := hs
  octets_eq := by simp
  fits _ hm := by cases hm
  holds := by simpa using h
  knows := by simpa using hk
  same p _ := .refl d p

/-- What is written comes behind the log, and the end moves with it. -/
theorem Tail.write_spec {t : Tail} {new : List Message} (hs : d.Sound) (h : d.Holds path ms) (hk : t.Knows d path ms)
    (hfit : ∀ m ∈ new, Frame.Fits m) :
    ∃ t' d', t.write d path new.length (framed new) = .ok (t', d') ∧ Grown d d' path ms new t' := by
  -- the file as it was opened before, or as it is opened now
  have hopen : ∃ inode d₁, t.write d path new.length (framed new) =
        .ok (⟨some inode, t.records + new.length, t.bytes + (framed new).length⟩, d₁.append inode (framed new)) ∧
      d₁.Sound ∧ d₁.names.get? path = some (.file inode) ∧ d₁.octets path = d.octets path ∧
      ∀ p, p ≠ path → d.Same d₁ p := by
    cases hi : t.inode with
    | some inode =>
      exact ⟨inode, d, by simp [write, hi, bind, Except.bind], hs, hk.entry inode hi, rfl, fun p _ => .refl d p⟩
    | none =>
      obtain ⟨inode, d₁, ho, hrest⟩ := Disk.openFile_spec hs h.entry
      exact ⟨inode, d₁, by simp [write, hi, ho, bind, Except.bind], hrest⟩
  obtain ⟨inode, d₁, hw, hs₁, he, hoct, hsame⟩ := hopen
  obtain ⟨hs₂, he₂, hoct₂, hsame₂⟩ := Disk.append_spec hs₁ he (framed new)
  rw [hoct] at hoct₂
  refine ⟨_, _, hw, hs₂, hoct₂, hfit, ⟨by simp [he₂], ?_⟩, ⟨?_, ?_, ?_⟩, fun p hp => (hsame p hp).trans (hsame₂ p hp)⟩
  · rw [hoct₂]
    exact h.whole.append (whole_framed hfit)
  · rw [hk.records_eq, List.length_append]
  · rw [hk.bytes_eq, hoct₂, List.length_append]
  · intro i hi
    cases hi
    exact he₂

/-! ## Batches -/

variable {c : Config} {run : RunId} {supplied : Message}

/-- A batch that is refused is not appended. -/
theorem Tail.append_of_refused {t : Tail} {batch : List Message} {e : Error}
    (h : refusal? c run t.records supplied batch = some e) : t.append d c run supplied batch = .error e := by
  have hne : batch.isEmpty = false := by
    cases batch with
    | nil => cases h
    | cons m rest => rfl
  unfold refusal? at h
  split at h
  · rename_i fault ho
    cases h
    simp [append, hne, ho, Except.mapError, bind, Except.bind]
  · rename_i messages ho
    simp [append, hne, ho, place_eq, h, Except.mapError, bind, Except.bind]

/-- A batch that is not refused comes behind the log as a whole. -/
theorem Tail.append_of_not_refused {t : Tail} {batch : List Message} (hs : d.Sound) (h : d.Holds (c.logPath run) ms)
    (hk : t.Knows d (c.logPath run) ms) (hr : refusal? c run ms.length supplied batch = none) :
    let new := opening ms.length supplied batch ++ batch
    ∃ t' d', t.append d c run supplied batch =
        .ok (⟨batch.length, ms.length + (opening ms.length supplied batch).length⟩,
          placed ms.length (d.octets (c.logPath run)).length new, t', d') ∧
      Grown d d' (c.logPath run) ms new t' := by
  intro new
  cases hb : batch with
  | nil =>
    have hn : new = [] := by simp [new, hb, opening]
    refine ⟨t, d, ?_, hn ▸ .refl hs h hk⟩
    simp [append, hn, opening, placed, hk.records_eq, pure, Except.pure]
  | cons m rest =>
    rw [← hb]
    have hne : batch.isEmpty = false := by simp [hb]
    obtain ⟨ho, hf⟩ := of_not_refused hr
    obtain ⟨t', d', hw, hgrown⟩ := Tail.write_spec hs h hk (fault?_eq_none_iff.mp hf).1
    have hcount : new.length - batch.length = (opening ms.length supplied batch).length := by simp [new]
    refine ⟨t', d', ?_, hgrown⟩
    simp only [append, hne, hk.records_eq, hk.bytes_eq, ho, place_eq, hf, length_placed, hw, Except.mapError, bind,
      Except.bind, pure, Except.pure, Bool.false_eq_true, if_false]
    rw [hcount]

/-- A batch is refused, or comes behind the log as a whole. -/
theorem Tail.append_spec {t : Tail} (batch : List Message) (hs : d.Sound) (h : d.Holds (c.logPath run) ms)
    (hk : t.Knows d (c.logPath run) ms) (hsup : Opens c.schemaVersion supplied) :
    let new := opening ms.length supplied batch ++ batch
    (∃ e, t.append d c run supplied batch = .error e) ∨
    ∃ t' d', t.append d c run supplied batch =
        .ok (⟨batch.length, ms.length + (opening ms.length supplied batch).length⟩,
          placed ms.length (d.octets (c.logPath run)).length new, t', d') ∧
      Grown d d' (c.logPath run) ms new t' ∧ (Headed c.schemaVersion ms → Headed c.schemaVersion (ms ++ new)) := by
  intro new
  cases hr : refusal? c run ms.length supplied batch with
  | some e => exact Or.inl ⟨e, append_of_refused (by rwa [hk.records_eq])⟩
  | none =>
    right
    obtain ⟨t', d', ha, hgrown⟩ := append_of_not_refused hs h hk hr
    obtain ⟨ho, hf⟩ := of_not_refused hr
    refine ⟨t', d', ha, hgrown, fun hd => hd.append ?_ (fault?_eq_none_iff.mp hf).2⟩
    rintro rfl x hx
    exact opens_of_opened ho hsup rfl hx

/-- **A batch is refused and leaves the log as it was, or comes behind it as a whole.** In front of the batch comes the
supplied preamble if it is needed; the answer counts the records in front of the batch; what is to be published are the
records that came behind the log. -/
theorem RunLog.append_spec {log : RunLog} (batch : List Message) (hs : d.Sound) (h : d.Holds (c.logPath run) ms)
    (hk : log.Knows d (c.logPath run) ms) (hsup : Opens c.schemaVersion supplied) :
    let new := opening ms.length supplied batch ++ batch
    (∃ e t, log.append d c run supplied batch = (.error e, ⟨some t, log.live⟩, d) ∧ t.Knows d (c.logPath run) ms) ∨
    ∃ t d', log.append d c run supplied batch =
        (.ok (⟨batch.length, ms.length + (opening ms.length supplied batch).length⟩,
          placed ms.length (d.octets (c.logPath run)).length new), ⟨some t, log.live || !batch.isEmpty⟩, d') ∧
      Grown d d' (c.logPath run) ms new t ∧ (Headed c.schemaVersion ms → Headed c.schemaVersion (ms ++ new)) := by
  intro new
  obtain ⟨t, ht, hkt⟩ := findTail_spec hk h
  rcases Tail.append_spec batch hs h hkt hsup with ⟨e, he⟩ | ⟨t', d', ha, hgrown, hhead⟩
  · exact Or.inl ⟨e, t, by simp only [append, ht, he], hkt⟩
  · exact Or.inr ⟨t', d', by simp only [append, ht, ha, new], hgrown, hhead⟩

end Append

end Ledger

end RunLedger
