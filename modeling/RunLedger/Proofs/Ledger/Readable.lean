import RunLedger.Proofs.Ledger.Recovery

/-!
# Which logs can be read after a dispatch

A log is read as parts that hold all its messages in order (`flatMap_chunked`), if it opens with a preamble that the
ledger can read. A dispatch looks at that preamble only when it writes it. So messages that were acknowledged are read
back if the dispatch started the log, or found a log that could be read; behind any other log they are acknowledged all
the same, and the log stays unreadable (`logs_after_dispatch`, `logs_refuse_acknowledged`).
-/

namespace RunLedger.Ledger

/-! ## Logs in parts -/

@[simp] theorem flatten_parts {α : Type} (length : Nat) (xs : List α) : (parts length xs).flatten = xs := by
  fun_induction parts length xs with
  | case1 => rfl
  | case2 x xs ih => rw [List.flatten_cons, ih, List.cons_append, List.take_append_drop]

@[simp] theorem flatMap_chunked (read : ReadOutcome) (pieces : List (List Message)) :
    (chunked read pieces).flatMap LogChunk.messages = pieces.flatten := by
  fun_induction chunked read pieces with
  | case1 => rfl
  | case2 ms => simp
  | case3 ms rest _ ih => simp [ih]

/-- What is read of a log that is there. -/
theorem logs_of_file {l : Ledger} {run : RunId} {log : Bytes} (h : l.file run = .ok log) :
    (∀ fault, openingPreamble (readAll log).messages l.config.schemaVersion = .error fault →
      l.logs run = .error (.log fault)) ∧
    (∀ p, openingPreamble (readAll log).messages l.config.schemaVersion = .ok p →
      ∃ chunks, l.logs run = .ok chunks ∧ chunks.flatMap LogChunk.messages = (readAll log).messages) := by
  have hread : l.disk.read (l.config.logPath run) = .ok log := h
  constructor
  · intro fault hf
    simp [logs, hread, readLog, hf, Except.map]
  · intro p hp
    refine ⟨_, by simp only [logs, hread, readLog, hp, Except.map]; rfl, by simp⟩

/-! ## What a log opens with -/

/-- A log opens with a preamble if that is its first message and the reader knows its schema. -/
theorem openingPreamble_eq_ok_iff {ms : List Message} {reader : Version} {p : Preamble} :
    openingPreamble ms reader = .ok p ↔
      ms.head?.bind Message.preamble? = some p ∧ reader.canRead p.version = true := by
  cases hp : ms.head?.bind Message.preamble? with
  | none => simp [openingPreamble, hp]
  | some q =>
    simp only [openingPreamble, hp, Option.some.injEq]
    by_cases hc : reader.canRead q.version = true
    · rw [if_pos hc, Except.ok.injEq]
      exact ⟨fun h => ⟨h, h ▸ hc⟩, And.left⟩
    · rw [if_neg hc]
      exact ⟨fun h => (by cases h), fun h => absurd (h.1 ▸ h.2) hc⟩

/-- What a log holds if it can be read. -/
theorem readLog_eq_ok_iff {log : Bytes} {reader : Version} {contents : LogContents} :
    readLog log reader = .ok contents ↔
      openingPreamble (readAll log).messages reader = .ok contents.preamble ∧ contents.read = readAll log := by
  obtain ⟨preamble, read⟩ := contents
  cases hp : openingPreamble (readAll log).messages reader with
  | error fault => simp [readLog, hp, Except.map]
  | ok p => simp [readLog, hp, Except.map, eq_comm]

/-- Whether a log can be read is decided by its first message. -/
theorem openingPreamble_append {ms : List Message} (h : ms ≠ []) (ms' : List Message) (reader : Version) :
    openingPreamble (ms ++ ms') reader = openingPreamble ms reader := by
  rw [openingPreamble, openingPreamble, List.head?_append, Option.or_of_isSome (by simpa using h)]

theorem openingPreamble_of_opens {ms : List Message} {m : Message} {reader : Version} (hm : ms.head? = some m)
    (h : Opens reader m) : ∃ p, openingPreamble ms reader = .ok p := by
  obtain ⟨p, hp, hc⟩ := h
  exact ⟨p, by simp [openingPreamble, hm, hp, hc]⟩

/-- A batch that starts a log makes it readable. -/
theorem openingPreamble_of_not_refused {c : Config} {run : RunId} {supplied : Message} {batch : List Message}
    (h : refusal? c run 0 supplied batch = none) (hs : Opens c.schemaVersion supplied) (hb : batch ≠ []) :
    ∃ p, openingPreamble (opening 0 supplied batch ++ batch) c.schemaVersion = .ok p := by
  have hne : opening 0 supplied batch ++ batch ≠ [] := by simp [hb]
  have hm := List.head?_eq_some_head hne
  exact openingPreamble_of_opens hm (opens_of_opened (of_not_refused h).1 hs rfl hm)

/-! ## Dispatches -/

section Dispatch

variable {l : Ledger} {run : RunId} {batch : List Message} {ack : Ack}

/-- Messages that are acknowledged are read back behind those that were found. -/
theorem file_of_acknowledged (h : l.Informed) (hack : (l.dispatch run batch).1 = .ok ack) (hne : batch ≠ []) :
    let found := l.messages run
    let front := opening found.length l.suppliedPreamble batch
    refusal? l.config run found.length l.suppliedPreamble batch = none ∧
      ack = ⟨batch.length, found.length + front.length⟩ ∧
      ∃ log, (l.dispatch run batch).2.file run = .ok log ∧ readAll log = ⟨found ++ (front ++ batch), none⟩ := by
  intro found front
  obtain ⟨hanswer, hsettled⟩ := dispatch_appendTo h run batch
  have hacked := hanswer.symm.trans hack
  obtain ⟨hfit, hout⟩ := appendTo_of_acknowledged hacked hne
  obtain ⟨hrefusal, hnumbers⟩ := refusal?_of_acknowledged hacked
  rw [← octets_eq_getD] at hfit hout hrefusal hnumbers
  exact ⟨hrefusal, hnumbers, _, hsettled.file_eq.trans hout, readAll_intact_append (h.recoverable run) hfit⟩

/-- What a log opens with after messages were acknowledged: with what it opened before, unless it is new. -/
theorem logs_of_acknowledged (h : l.Informed) (hack : (l.dispatch run batch).1 = .ok ack) (hne : batch ≠ []) :
    let found := l.messages run
    let read := (l.dispatch run batch).2.logs run
    ((found = [] ∨ ∃ p, openingPreamble found l.config.schemaVersion = .ok p) → ∃ chunks, read = .ok chunks ∧
      ack.accepted = batch.length ∧
      ((chunks.flatMap LogChunk.messages).drop ack.first).take ack.accepted = batch) ∧
    (found ≠ [] → ∀ fault, openingPreamble found l.config.schemaVersion = .error fault →
      read = .error (.log fault)) := by
  intro found read
  obtain ⟨hrefusal, hnumbers, log, hlog, hall⟩ := file_of_acknowledged h hack hne
  obtain ⟨hrefused, hread⟩ := logs_of_file hlog
  rw [hall, (l.dispatch_fields run batch).2.1] at hrefused hread
  constructor
  · intro hfound
    obtain ⟨p, hp⟩ : ∃ p, openingPreamble (found ++ (opening found.length l.suppliedPreamble batch ++ batch))
        l.config.schemaVersion = .ok p := by
      by_cases hnil : found = []
      · rw [show l.messages run = [] from hnil] at hrefusal
        rw [hnil]
        exact openingPreamble_of_not_refused hrefusal l.opens_suppliedPreamble hne
      · rw [openingPreamble_append hnil]
        exact hfound.resolve_left hnil
    obtain ⟨chunks, hchunks, hms⟩ := hread p hp
    refine ⟨chunks, hchunks, by rw [hnumbers], ?_⟩
    rw [hms, hnumbers]
    simp [← List.append_assoc]
  · intro hnil fault hf
    exact hrefused fault ((openingPreamble_append hnil _ _).trans hf)

end Dispatch

/-- **What a dispatch acknowledges can be read, unless the log could not be read before.** Whatever is in the files when
a ledger is opened, and whatever it is asked before: if the log has no records, or opens with a preamble that the ledger
can read, then messages that are acknowledged are read back at their records; if not, they are acknowledged all the same
and the log is refused to its readers, for the same reason as before. -/
theorem logs_after_dispatch {config : Config} {disk : Disk} {clock : Clock} (hs : disk.Sound) (hb : disk.Bounded)
    {rs : List Request} (hr : ∀ r ∈ rs, r.Keeps config) {run : RunId} {batch : List Message} {ack : Ack}
    (hack : (((start config disk clock).after rs).dispatch run batch).1 = .ok ack) (hne : batch ≠ []) :
    let before := (start config disk clock).after rs
    let found := before.messages run
    let read := (before.dispatch run batch).2.logs run
    ((found = [] ∨ ∃ p, openingPreamble found config.schemaVersion = .ok p) → ∃ chunks, read = .ok chunks ∧
      ack.accepted = batch.length ∧
      ((chunks.flatMap LogChunk.messages).drop ack.first).take ack.accepted = batch) ∧
    (found ≠ [] → ∀ fault, openingPreamble found config.schemaVersion = .error fault → read = .error (.log fault)) := by
  intro before found read
  obtain ⟨hi, ha⟩ := informed_after (l := start config disk clock) (informed_of_empty hs hb rfl) hr
  have hversion : before.config.schemaVersion = config.schemaVersion := ha.2
  rw [← hversion]
  exact logs_of_acknowledged hi hack hne

/-- A log that was written with an older schema of the same kind, and is read in parts of one message. -/
theorem logs_after_dispatch_older :
    let old := { Config.rootedAt "d" with schemaVersion := ⟨1, 0, 0⟩ }
    let config := { old with schemaVersion := ⟨1, 2, 0⟩, logChunk := 1 }
    let clock : Clock := ⟨⟨0, 0⟩, 0⟩
    let run : RunId := ⟨.ofNat 1⟩
    let m (n : Nat) : Message := ⟨⟨.ofNat n⟩, ⟨5, 6⟩, .heartbeat⟩
    let disk := ((start old .empty clock).after [.dispatch run [m 1]]).disk
    let rs : List Request := [.watch run, .dispatch run [m 2]]
    let before := (start config disk clock).after rs
    disk.Sound ∧ disk.Bounded ∧ (∀ r ∈ rs, r.Keeps config) ∧
      (before.dispatch run [m 3, m 4]).1 = .ok ⟨2, 3⟩ ∧
      ∃ chunks, (before.dispatch run [m 3, m 4]).2.logs run = .ok chunks ∧
        ((chunks.flatMap LogChunk.messages).drop 3).take 2 = [m 3, m 4] := by
  intro old config clock run m disk rs before
  have hs : disk.Sound := (consistent_after (consistent_start old clock) (by simp [Request.Keeps])).1.sound
  have hb : disk.Bounded := by decide +kernel
  have hr : ∀ r ∈ rs, r.Keeps config := by simp [rs, Request.Keeps]
  have hack : (before.dispatch run [m 3, m 4]).1 = .ok ⟨2, 3⟩ := by decide +kernel
  have hfound : openingPreamble (before.messages run) config.schemaVersion =
      .ok (.startingAt old.schemaVersion clock.time old.preambleValidity) := by decide +kernel
  obtain ⟨chunks, hchunks, -, hbatch⟩ := (logs_after_dispatch hs hb hr hack (by simp)).1 (Or.inr ⟨_, hfound⟩)
  exact ⟨hs, hb, hr, hack, chunks, hchunks, hbatch⟩

/-- A ledger of another schema goes on with a log that it does not read. -/
theorem logs_refuse_acknowledged :
    let old := { Config.rootedAt "d" with schemaVersion := ⟨1, 0, 0⟩ }
    let config := { old with schemaVersion := ⟨2, 0, 0⟩ }
    let run : RunId := ⟨.ofNat 1⟩
    let m (n : Nat) : Message := ⟨⟨.ofNat n⟩, ⟨5, 6⟩, .heartbeat⟩
    let l := (start old .empty ⟨⟨0, 0⟩, 0⟩).after [.dispatch run [m 1], .restart config]
    (l.dispatch run [m 2]).1 = .ok ⟨1, 2⟩ ∧
      (l.dispatch run [m 2]).2.logs run = .error (.log (.incompatibleVersion ⟨1, 0, 0⟩ ⟨2, 0, 0⟩)) := by
  decide +kernel

end RunLedger.Ledger
