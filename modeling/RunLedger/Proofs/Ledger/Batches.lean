import RunLedger.Proofs.Ledger.Demands

/-!
# Which batches are accepted

A message offends if the record that it would become may not be such a message (`offence?`). The records of a batch come
behind those of the log, and behind a preamble of the ledger if the log has none and the batch opens without one
(`injected`). A batch is refused for the offence of its earliest message that offends (`firstOffence?`,
`refusal?_eq`), and accepted if none does, which is so for the batches that are `WellFormed`
(`firstOffence?_eq_none_iff`). What is refused leaves no trace (`dispatch_of_refused`).

* `dispatch_accepts_iff`: all this about a dispatch to any ledger, whatever was demanded of it before.
-/

namespace RunLedger.Ledger

/-! ## Offences -/

/-- How many records come in front of a batch that were not sent: a preamble, if the log has no records and the batch
opens with something else. -/
def injected (records : Nat) (batch : List Message) : Nat :=
  if records = 0 ∧ ∃ m, batch.head? = some m ∧ m.preamble? = none then 1 else 0

/-- What is wrong with a message that would become the record with a number. -/
def offence? (reader : Version) (run : RunId) (record : Nat) (m : Message) : Option Error :=
  match m.preamble? with
  | some p =>
    if 0 < record then some (.misplacedPreamble run record)
    else if reader.canRead p.version then none
    else some (.log (.incompatibleVersion p.version reader))
  | none => if Frame.Fits m then none else some (.frame (.tooLarge (Wire.message m).length))

/-- What is wrong with the earliest message that offends, if the messages become records from a number on. -/
def firstOffence? (reader : Version) (run : RunId) (record : Nat) : List Message → Option Error
  | [] => none
  | m :: ms => (offence? reader run record m).or (firstOffence? reader run (record + 1) ms)

/-- The batches that may come behind so many records: every message fits a frame, no preamble comes behind the first
record, and the log does not open with a preamble that the reader cannot read. -/
structure WellFormed (reader : Version) (records : Nat) (batch : List Message) : Prop where
  fits : ∀ m ∈ batch, (Wire.message m).length ≤ Frame.maxPayload
  placed : ∀ i m, batch[i]? = some m → 0 < records + injected records batch + i → m.preamble? = none
  readable : records = 0 → ∀ m p, batch.head? = some m → m.preamble? = some p → reader.canRead p.version

section Offences

variable {reader : Version} {run : RunId} {record : Nat} {m : Message} {ms : List Message} {e : Error}

theorem offence?_eq_none_iff : offence? reader run record m = none ↔
    (Wire.message m).length ≤ Frame.maxPayload ∧ (0 < record → m.preamble? = none) ∧
      (record = 0 → ∀ p, m.preamble? = some p → reader.canRead p.version) := by
  unfold offence?
  cases hp : m.preamble? with
  | none =>
    by_cases hf : Frame.Fits m
    · simp [hf, show (Wire.message m).length ≤ Frame.maxPayload from hf]
    · simp [hf, show ¬(Wire.message m).length ≤ Frame.maxPayload from hf]
  | some p =>
    -- a preamble fits a frame, whatever it says
    have hfit : (Wire.message m).length ≤ Frame.maxPayload := Frame.fits_of_preamble (by simp [hp])
    rcases Nat.eq_zero_or_pos record with rfl | hr
    · simp [hfit]
    · simp [hfit, hr, Nat.ne_of_gt hr]

/-- **The error is that of the earliest message that offends.** -/
theorem firstOffence?_eq_some_iff : firstOffence? reader run record ms = some e ↔
    ∃ i m, ms[i]? = some m ∧ offence? reader run (record + i) m = some e ∧
      ∀ j m', j < i → ms[j]? = some m' → offence? reader run (record + j) m' = none := by
  induction ms generalizing record with
  | nil => simp [firstOffence?]
  | cons m ms ih =>
    rw [firstOffence?]
    cases ho : offence? reader run record m with
    | some e' =>
      rw [Option.some_or]
      constructor
      · intro he
        exact ⟨0, m, rfl, ho.trans he, fun j m' hj => absurd hj (Nat.not_lt_zero j)⟩
      · rintro ⟨i, m', hi, hoff, hbefore⟩
        cases i with
        | zero =>
          cases hi
          exact ho.symm.trans hoff
        | succ i => exact absurd (hbefore 0 m (Nat.succ_pos i) rfl) (by simp [ho])
    | none =>
      -- the messages behind the first one count from the next record on
      have hshift (i : Nat) : record + 1 + i = record + (i + 1) := by omega
      simp only [Option.none_or, ih, hshift]
      constructor
      · rintro ⟨i, m', hi, hoff, hbefore⟩
        refine ⟨i + 1, m', hi, hoff, fun j m'' hj hm'' => ?_⟩
        cases j with
        | zero =>
          cases hm''
          exact ho
        | succ j => exact hbefore j m'' (Nat.lt_of_succ_lt_succ hj) hm''
      · rintro ⟨i, m', hi, hoff, hbefore⟩
        cases i with
        | zero =>
          cases hi
          exact absurd hoff (by simp [ho])
        | succ i => exact ⟨i, m', hi, hoff, fun j m'' hj hm'' => hbefore (j + 1) m'' (Nat.succ_lt_succ hj) hm''⟩

theorem firstOffence?_eq_none_iff : firstOffence? reader run record ms = none ↔
    ∀ i m, ms[i]? = some m → offence? reader run (record + i) m = none := by
  induction ms generalizing record with
  | nil => simp [firstOffence?]
  | cons m ms ih =>
    have hshift (i : Nat) : record + 1 + i = record + (i + 1) := by omega
    simp only [firstOffence?, Option.or_eq_none_iff, ih, hshift]
    constructor
    · rintro ⟨hm, hms⟩ i m' hi
      cases i with
      | zero =>
        cases hi
        exact hm
      | succ i => exact hms i m' hi
    · intro h
      exact ⟨h 0 m rfl, fun i m' hi => h (i + 1) m' hi⟩

/-- A batch is well-formed if none of its messages offends. -/
theorem wellFormed_iff {records : Nat} {batch : List Message} : WellFormed reader records batch ↔
    firstOffence? reader run (records + injected records batch) batch = none := by
  rw [firstOffence?_eq_none_iff]
  constructor
  · intro h i m hi
    refine offence?_eq_none_iff.mpr ⟨h.fits m (List.mem_of_getElem? hi), h.placed i m hi, fun hzero p hp => ?_⟩
    obtain rfl : i = 0 := by omega
    exact h.readable (by omega) m p (by rwa [List.head?_eq_getElem?]) hp
  · intro h
    constructor
    case fits =>
      intro m hm
      obtain ⟨i, hi⟩ := List.getElem?_of_mem hm
      exact (offence?_eq_none_iff.mp (h i m hi)).1
    case placed => exact fun i m hi => (offence?_eq_none_iff.mp (h i m hi)).2.1
    case readable =>
      intro hzero m p hm hp
      have hnone : injected records batch = 0 := by
        rw [injected, if_neg]
        rintro ⟨-, m', hm', hp'⟩
        rw [hm] at hm'
        cases hm'
        rw [hp] at hp'
        cases hp'
      rw [List.head?_eq_getElem?] at hm
      exact (offence?_eq_none_iff.mp (h 0 m hm)).2.2 (by omega) p hp

/-- Behind the first record only misplaced preambles and long messages are to blame. -/
theorem fault?_eq (hr : 0 < record) : fault? run record ms = firstOffence? reader run record ms := by
  induction ms generalizing record with
  | nil => rfl
  | cons m ms ih =>
    rw [fault?, firstOffence?, offence?, ih (Nat.succ_pos record)]
    cases hp : m.preamble? with
    | some p => simp [hr]
    | none => by_cases hf : Frame.Fits m <;> simp [hf]

/-- **A batch is refused for its first offence.** -/
theorem refusal?_eq {c : Config} {records : Nat} {supplied : Message} {batch : List Message}
    (hs : Opens c.schemaVersion supplied) : refusal? c run records supplied batch =
      firstOffence? c.schemaVersion run (records + injected records batch) batch := by
  cases batch with
  | nil => rfl
  | cons m ms =>
    rcases Nat.eq_zero_or_pos records with rfl | hr
    · cases hp : m.preamble? with
      | none =>
        -- the supplied preamble is the first record
        have hi : injected 0 (m :: ms) = 1 := by simp [injected, hp]
        have ho : opened 0 c.schemaVersion supplied (m :: ms) = .ok (supplied :: m :: ms) := by simp [opened, hp]
        have hf : fault? run 0 (supplied :: m :: ms) = fault? run 1 (m :: ms) := by simp [fault?, hs.fits]
        rw [refusal?, ho, hi]
        exact hf.trans (fault?_eq Nat.one_pos)
      | some p =>
        have hi : injected 0 (m :: ms) = 0 := by simp [injected, hp]
        have hfit : Frame.Fits m := Frame.fits_of_preamble (by simp [hp])
        rw [hi, firstOffence?, offence?, hp]
        by_cases hc : c.schemaVersion.canRead p.version
        · have ho : opened 0 c.schemaVersion supplied (m :: ms) = .ok (m :: ms) := by simp [opened, hp, hc]
          have hf : fault? run 0 (m :: ms) = fault? run 1 ms := by simp [fault?, hfit]
          rw [refusal?, ho]
          simpa [hc] using hf.trans (fault?_eq Nat.one_pos)
        · have ho : opened 0 c.schemaVersion supplied (m :: ms) =
              .error (.incompatibleVersion p.version c.schemaVersion) := by simp [opened, hp, hc]
          rw [refusal?, ho]
          simp [hc]
    · have hi : injected records (m :: ms) = 0 := by simp [injected, Nat.ne_of_gt hr]
      have ho : opened records c.schemaVersion supplied (m :: ms) = .ok (m :: ms) := by simp [opened, Nat.ne_of_gt hr]
      rw [refusal?, ho, hi]
      exact fault?_eq hr

end Offences

/-! ## Dispatches -/

section Dispatch

variable {l : Ledger} {run run' : RunId} {batch : List Message}

/-- What a dispatch answers is settled by the first offence of its batch. -/
theorem dispatch_answer (h : l.Informed) (hf : l.file run ≠ .error .isDirectory) (batch : List Message) :
    let records := (l.messages run).length
    (l.dispatch run batch).1 =
      match firstOffence? l.config.schemaVersion run (records + injected records batch) batch with
      | some e => .error e
      | none => .ok ⟨batch.length, records + (opening records l.suppliedPreamble batch).length⟩ := by
  intro records
  have hrecords : (readAll ((l.file run).toOption.getD [])).messages.length = records := by
    rw [← octets_eq_getD]
    rfl
  rw [(dispatch_appendTo h run batch).1, appendTo, if_neg hf]
  dsimp only
  rw [hrecords, refusal?_eq l.opens_suppliedPreamble]
  cases firstOffence? l.config.schemaVersion run (records + injected records batch) batch <;> rfl

/-- A batch that is refused or empty is published to nobody. -/
theorem watches_dispatch_of_unacknowledged (hn : ∀ ack, (l.dispatch run batch).1 = .ok ack → batch = []) :
    (l.dispatch run batch).2.watches = l.watches := by
  have hs : (l.hold run).2.suppliedPreamble = l.suppliedPreamble := by simp [suppliedPreamble]
  cases hdone : (l.hold run).1.append l.disk l.config run l.suppliedPreamble batch with
  | mk result rest =>
    obtain ⟨log, disk⟩ := rest
    cases result with
    | error e => simp [dispatch, hs, hdone]
    | ok done =>
      obtain ⟨ack, records⟩ := done
      obtain rfl : batch = [] := hn ack (by simp [dispatch, hs, hdone])
      obtain rfl : records = [] := by
        unfold RunLog.append at hdone
        split at hdone
        · cases hdone
        · simp only [Tail.append, List.isEmpty_nil, if_true, pure, Except.pure] at hdone
          cases hdone
          rfl
      simp [dispatch, hs, hdone, mapFeeds]

/-- What a refused batch leaves, or an empty one. -/
structure Untouched (l l' : Ledger) (run : RunId) : Prop where
  /-- What is no record at the end of the log may be cut off; no file is made. -/
  file_eq : l'.file run = (l.file run).map intact
  others : ∀ run', run' ≠ run → l'.file run' = l.file run'
  messages_eq : ∀ run', l'.messages run' = l.messages run'
  /-- The next record has the number that it had before. -/
  next_eq : (l'.dispatch run []).1 = .ok ⟨0, (l.messages run).length⟩
  watches_eq : l'.watches = l.watches

/-- **What is refused leaves no trace.** -/
theorem dispatch_of_refused (h : l.Informed) (hf : l.file run ≠ .error .isDirectory)
    (hn : ∀ ack, (l.dispatch run batch).1 = .ok ack → batch = []) : Untouched l (l.dispatch run batch).2 run := by
  obtain ⟨hanswer, hsettled⟩ := dispatch_appendTo h run batch
  have hfile : (l.dispatch run batch).2.file run = (l.file run).map intact := by
    rw [hanswer] at hn
    exact hsettled.file_eq.trans (appendTo_of_unacknowledged hn)
  have hmessages (run' : RunId) : (l.dispatch run batch).2.messages run' = l.messages run' := by
    rw [messages, messages, octets_eq_getD, octets_eq_getD]
    by_cases hr : run' = run
    · subst hr
      rw [hfile]
      cases hl : l.file run' with
      | error e => rfl
      | ok log =>
        show (readAll (intact log)).messages = (readAll log).messages
        rw [readAll_intact (h.recoverable_file hl)]
    · rw [hsettled.others run' hr]
  refine ⟨hfile, hsettled.others, hmessages, ?_, watches_dispatch_of_unacknowledged hn⟩
  have hdirectory : (l.dispatch run batch).2.file run ≠ .error .isDirectory := by
    rw [hsettled.file_eq]
    exact appendTo_ne_directory hf _ _ _ _
  rw [dispatch_answer hsettled.informed hdirectory []]
  simp [firstOffence?, hmessages]

end Dispatch

/-- **Well-formed batches are accepted, and all others are refused without a trace.** Whatever is in the files when a
ledger is opened, as long as no directory stands where the log should be, and whatever is demanded of it before: a batch
is accepted if and only if it is well-formed behind the records that the log has; if it is refused, then for the earliest
of its messages that offends; and if it is refused or empty, then no file is made, the messages of all logs and the
number of the next record are those of before, and nobody who watches is told anything. -/
theorem dispatch_accepts_iff {config : Config} {disk : Disk} {clock : Clock} (hs : disk.Sound) (hb : disk.Bounded)
    {run : RunId} (hd : disk.names.get? (config.logPath run) ≠ some .directory) {demands : List Demand}
    (hr : ∀ d ∈ demands, d.Rooted config.root) (batch : List Message) :
    let before := (start config disk clock).meeting demands
    let reader := before.config.schemaVersion
    let records := (before.messages run).length
    let first := records + injected records batch
    let answer := (before.dispatch run batch).1
    ((∃ ack, answer = .ok ack) ↔ WellFormed reader records batch) ∧
      (∀ e, answer = .error e ↔ ∃ i m, batch[i]? = some m ∧ offence? reader run (first + i) m = some e ∧
        ∀ j m', j < i → batch[j]? = some m' → offence? reader run (first + j) m' = none) ∧
      (batch = [] ∨ (∃ e, answer = .error e) → Untouched before (before.dispatch run batch).2 run) := by
  intro before reader records first answer
  have hstart : (start config disk clock).Informed := informed_of_empty hs hb rfl
  have hfile : (start config disk clock).file run ≠ .error .isDirectory := by
    show disk.read (config.logPath run) ≠ _
    rw [Disk.read_eq]
    split
    · exact fun he => by cases he
    · rename_i he
      exact absurd he hd
    · exact fun he => by cases he
  obtain ⟨hi, -⟩ := informed_meeting hstart hr
  have hf : before.file run ≠ .error .isDirectory := file_ne_directory_meeting hstart hr hfile
  have hanswer : answer = match firstOffence? reader run first batch with
      | some e => .error e
      | none => .ok ⟨batch.length, records + (opening records before.suppliedPreamble batch).length⟩ :=
    dispatch_answer hi hf batch
  refine ⟨?_, fun e => ?_, fun hnone => dispatch_of_refused hi hf fun ack hack => ?_⟩
  · rw [wellFormed_iff, hanswer]
    cases firstOffence? reader run first batch <;> simp
  · rw [← firstOffence?_eq_some_iff, hanswer]
    cases firstOffence? reader run first batch <;> simp
  · rcases hnone with hnil | ⟨e, he⟩
    · exact hnil
    · rw [show answer = .ok ack from hack] at he
      cases he

/-- A batch with a preamble out of place, for a log that is torn and was opened again under a newer schema. -/
theorem dispatch_accepts_iff_torn :
    let config := Config.rootedAt "d"
    let clock : Clock := ⟨⟨0, 0⟩, 0⟩
    let run : RunId := ⟨.ofNat 1⟩
    let m (n : Nat) : Message := ⟨⟨.ofNat n⟩, ⟨5, 6⟩, .heartbeat⟩
    let p : Message := ⟨⟨.ofNat 9⟩, ⟨5, 6⟩, .preamble ⟨config.schemaVersion, ⟨5, 6⟩, ⟨7, 0⟩⟩⟩
    let disk := ((start config .empty clock).after [.dispatch run [p]]).disk.append 0 ((Frame.of (m 1)).take 5)
    let demands : List Demand := [.request (.watch run), .upload [.metadata (Digest.of [1]).text, .data [1]],
      .request (.restart { config with schemaVersion := ⟨1, 5, 0⟩ })]
    let before := (start config disk clock).meeting demands
    disk.Sound ∧ disk.Bounded ∧ disk.names.get? (config.logPath run) ≠ some .directory ∧
      (∀ d ∈ demands, d.Rooted config.root) ∧
      (before.dispatch run [m 2, p, p]).1 = .error (.misplacedPreamble run 2) ∧
      ¬WellFormed before.config.schemaVersion (before.messages run).length [m 2, p, p] ∧
      Untouched before (before.dispatch run [m 2, p, p]).2 run := by
  intro config clock run m p disk demands before
  have hs : disk.Sound := (consistent_after (consistent_start config clock) (by simp [Request.Keeps])).1.sound.modify 0 _
  have hb : disk.Bounded := by decide +kernel
  have hd : disk.names.get? (config.logPath run) ≠ some .directory := by decide +kernel
  have hr : ∀ d ∈ demands, d.Rooted config.root := by simp [demands, Demand.Rooted]
  have hanswer : (before.dispatch run [m 2, p, p]).1 = .error (.misplacedPreamble run 2) := by decide +kernel
  obtain ⟨haccepts, -, huntouched⟩ := dispatch_accepts_iff hs hb hd hr [m 2, p, p]
  refine ⟨hs, hb, hd, hr, hanswer, fun hw => ?_, huntouched (Or.inr ⟨_, hanswer⟩)⟩
  obtain ⟨ack, hack⟩ := haccepts.mpr hw
  exact absurd (hanswer.symm.trans hack) (by simp)

end RunLedger.Ledger
