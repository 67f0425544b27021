import RunLedger.Proofs.Ledger.Numbering
import RunLedger.Proofs.Log.Recovery

/-!
# Logs of which nothing is remembered

A ledger remembers the ends of the logs that it appended to. That is no more than it would find in the files: a ledger is
`Informed` if what it remembers is right, and what a dispatch does to an informed ledger is a function `appendTo` of the
file alone (`dispatch_appendTo`). Every request keeps a ledger informed (`informed_after`), whatever was in the files
when it was opened (`informed_of_empty`). Until messages are acknowledged, a file loses at most what was no record of it
(`file_map_intact_after`), so the first of them come behind the last record that can be read.
-/

namespace RunLedger

namespace Ledger

/-! ## What a batch does to a file -/

/-- The answer to a batch, and what becomes of the file of a log, if nothing but the file is known. -/
def appendTo (c : Config) (run : RunId) (supplied : Message) (batch : List Message) (file : Except IoError Bytes) :
    Except Error Ack × Except IoError Bytes :=
  if file = .error .isDirectory then (.error (.io .isDirectory), file)
  else
    let log := file.toOption.getD []
    let records := (readAll log).messages.length
    match refusal? c run records supplied batch with
    | some e => (.error e, file.map intact)
    | none =>
      let front := opening records supplied batch
      (.ok ⟨batch.length, records + front.length⟩,
        if batch = [] then file.map intact else .ok (intact log ++ framed (front ++ batch)))

section AppendTo

variable {c : Config} {run : RunId} {supplied : Message} {batch : List Message} {file : Except IoError Bytes} {ack : Ack}

/-- What is cut off a file makes no difference to a batch. -/
theorem appendTo_map_intact (h : ∀ log, file = .ok log → Recoverable log) :
    appendTo c run supplied batch (file.map intact) = appendTo c run supplied batch file := by
  cases file with
  | error e => rfl
  | ok log =>
    have hlog := h log rfl
    simp [appendTo, Except.map, Except.toOption, readAll_intact hlog, intact_intact hlog]

/-- A batch that is refused, or has no messages, leaves what is intact. -/
theorem appendTo_of_unacknowledged (h : ∀ ack, (appendTo c run supplied batch file).1 = .ok ack → batch = []) :
    (appendTo c run supplied batch file).2 = file.map intact := by
  unfold appendTo at h ⊢
  by_cases hf : file = .error .isDirectory
  · rw [if_pos hf, hf]
    rfl
  · rw [if_neg hf] at h ⊢
    dsimp only at h ⊢
    split
    · rfl
    · rename_i hr
      simp only [hr] at h
      rw [if_pos (h _ rfl)]

/-- A batch that is acknowledged is not refused. -/
theorem refusal?_of_acknowledged (h : (appendTo c run supplied batch file).1 = .ok ack) :
    let records := (readAll (file.toOption.getD [])).messages.length
    refusal? c run records supplied batch = none ∧
      ack = ⟨batch.length, records + (opening records supplied batch).length⟩ := by
  intro records
  unfold appendTo at h
  by_cases hf : file = .error .isDirectory
  · rw [if_pos hf] at h
    cases h
  · rw [if_neg hf] at h
    dsimp only at h
    split at h
    · cases h
    · rename_i hr
      cases h
      exact ⟨hr, rfl⟩

/-- Messages that are acknowledged come behind what is intact. -/
theorem appendTo_of_acknowledged (h : (appendTo c run supplied batch file).1 = .ok ack) (hb : batch ≠ []) :
    let log := file.toOption.getD []
    let front := opening (readAll log).messages.length supplied batch
    (∀ m ∈ front ++ batch, Frame.Fits m) ∧
      (appendTo c run supplied batch file).2 = .ok (intact log ++ framed (front ++ batch)) := by
  intro log front
  have hr := (refusal?_of_acknowledged h).1
  refine ⟨(fault?_eq_none_iff.mp (of_not_refused hr).2).1, ?_⟩
  unfold appendTo at h ⊢
  by_cases hf : file = .error .isDirectory
  · rw [if_pos hf] at h
    cases h
  · rw [if_neg hf]
    simp only [hr]
    rw [if_neg hb]

end AppendTo

/-- What is remembered of the end of a log is right, and the log is not damaged if anything is remembered. -/
def RunLog.Right (log : RunLog) (d : Disk) (path : String) : Prop :=
  ∀ t, log.tail = some t →
    d.Holds path (readAll (d.octets path)).messages ∧ t.Knows d path (readAll (d.octets path)).messages

section Append

variable {d d' : Disk} {path : String} {c : Config} {run : RunId} {supplied : Message}

theorem RunLog.Right.of_same {log : RunLog} (h : log.Right d path) (hs : d.Same d' path) : log.Right d' path := by
  intro t ht
  obtain ⟨hh, hk⟩ := h t ht
  rw [hs.octets_eq]
  exact ⟨hh.of_same hs, hk.of_same hs⟩

/-- The disk after the end of a log was found: what is no record is cut off, and the end is known. -/
structure Found (d d' : Disk) (path : String) (t : Tail) : Prop where
  sound : d'.Sound
  read_eq : d'.read path = (d.read path).map intact
  octets_eq : d'.octets path = intact (d.octets path)
  holds : d'.Holds path (readAll (d.octets path)).messages
  knows : t.Knows d' path (readAll (d.octets path)).messages
  same : ∀ p, p ≠ path → d.Same d' p

theorem Found.read_ne_directory {t : Tail} (h : Found d d' path t) : d.read path ≠ .error .isDirectory := by
  intro hr
  rcases h.holds.read_eq with ⟨ha, -, -⟩ | ha <;> simp [h.read_eq, hr, Except.map] at ha

/-- The end of a log without damage is found without a change. -/
theorem Found.of_holds {t : Tail} (hs : d.Sound) (h : d.Holds path (readAll (d.octets path)).messages)
    (hk : t.Knows d path (readAll (d.octets path)).messages) : Found d d path t where
  sound := hs
  read_eq := by
    rcases h.read_eq with ⟨hr, -, -⟩ | hr
    · rw [hr]
      rfl
    · rw [hr, Except.map, intact_of_whole h.whole]
  octets_eq := (intact_of_whole h.whole).symm
  holds := h
  knows := hk
  same p _ := .refl d p

/-- Whatever is in a file, its end is found. -/
theorem Tail.restore_spec (hs : d.Sound) (he : d.names.get? path ≠ some .directory)
    (hr : Recoverable (d.octets path)) : ∃ t d', Tail.restore d path = .ok (t, d') ∧ Found d d' path t := by
  cases hcut : (readAll (d.octets path)).truncatedAt with
  | none =>
    have hi : intact (d.octets path) = d.octets path := by simp [intact, hcut]
    have hh : d.Holds path (readAll (d.octets path)).messages := ⟨he, by rw [Recoverable, hi] at hr; exact hr⟩
    exact ⟨_, d, restore_of_holds hh, .of_holds hs hh ⟨rfl, rfl, fun _ h => by cases h⟩⟩
  | some stop =>
    -- only a file can have an end that is to be cut off
    obtain ⟨inode, hf⟩ : ∃ inode, d.names.get? path = some (.file inode) := by
      cases hn : d.names.get? path with
      | none => rw [Disk.octets_of_absent hn, readAll_whole .nil] at hcut; cases hcut
      | some entry =>
        cases entry with
        | file inode => exact ⟨inode, rfl⟩
        | directory => exact absurd hn he
    have hi : intact (d.octets path) = (d.octets path).take stop := by simp [intact, hcut]
    obtain ⟨hs', he', ho', hsame⟩ := Disk.setLength_spec hs hf (truncatedAt_le hcut)
    rw [← hi] at ho'
    refine ⟨⟨none, (readAll (d.octets path)).messages.length, stop⟩, d.setLength inode stop, ?_, hs', ?_, ho',
      ⟨by simp [he'], by rw [ho']; exact hr⟩, ⟨rfl, ?_, fun _ h => by cases h⟩, hsame⟩
    · simp [restore, Disk.read_of_file hf, hcut, Disk.truncate, hf, Except.map]
    · rw [Disk.read_of_file he', Disk.read_of_file hf, ho']
      rfl
    · rw [ho', length_intact, hcut]
      rfl

theorem RunLog.findTail_of_right {log : RunLog} (hs : d.Sound) (he : d.names.get? path ≠ some .directory)
    (hr : Recoverable (d.octets path)) (hlog : log.Right d path) :
    ∃ t d', log.findTail d path = .ok (t, d') ∧ Found d d' path t := by
  cases ht : log.tail with
  | some t => exact ⟨t, d, by simp [findTail, ht], .of_holds hs (hlog t ht).1 (hlog t ht).2⟩
  | none =>
    have hf : log.findTail d path = Tail.restore d path := by simp [findTail, ht]
    rw [hf]
    exact Tail.restore_spec hs he hr

/-- An end that was found takes a batch, or refuses it, as is said of the file alone. -/
theorem Tail.append_appendTo {t : Tail} {d₁ : Disk} (supplied : Message) (batch : List Message)
    (h : Found d d₁ (c.logPath run) t) :
    let out := appendTo c run supplied batch (d.read (c.logPath run))
    (∃ e, t.append d₁ c run supplied batch = .error e ∧ out = (.error e, d₁.read (c.logPath run))) ∨
    ∃ ack records t' d' ms, t.append d₁ c run supplied batch = .ok (ack, records, t', d') ∧
      out = (.ok ack, d'.read (c.logPath run)) ∧ d'.Sound ∧ d'.Holds (c.logPath run) ms ∧
      t'.Knows d' (c.logPath run) ms ∧ ∀ p, p ≠ c.logPath run → d₁.Same d' p := by
  intro out
  have hread := h.read_ne_directory
  have hoct := d.octets_eq_getD (c.logPath run)
  cases hr : refusal? c run (readAll (d.octets (c.logPath run))).messages.length supplied batch with
  | some e =>
    left
    refine ⟨e, append_of_refused (by rwa [h.knows.records_eq]), ?_⟩
    simp only [out, appendTo, hread, if_false, ← hoct, hr, h.read_eq]
  | none =>
    right
    by_cases hb : batch = []
    · subst hb
      refine ⟨⟨0, t.records⟩, [], t, d₁, _, by simp [append, pure, Except.pure], ?_, h.sound, h.holds, h.knows,
        fun p _ => .refl d₁ p⟩
      simp only [out, appendTo, hread, if_false, ← hoct, hr, h.read_eq, h.knows.records_eq, opening_nil, if_true,
        List.length_nil, Nat.add_zero]
    · obtain ⟨t', d', ha, hgrown⟩ := append_of_not_refused h.sound h.holds h.knows hr
      refine ⟨_, _, t', d', _, ha, ?_, hgrown.sound, hgrown.holds, hgrown.knows, hgrown.same⟩
      have hfile : d'.read (c.logPath run) = .ok (intact (d.octets (c.logPath run)) ++
          framed (opening (readAll (d.octets (c.logPath run))).messages.length supplied batch ++ batch)) := by
        rw [← h.octets_eq, ← hgrown.octets_eq]
        exact Disk.read_of_ne_nil (by simp [hgrown.octets_eq, hb])
      simp only [out, appendTo, hread, if_false, ← hoct, hr, hb, hfile]

/-- What an append does to the disk: to the file at the path what is said, and nothing to others. What is then
remembered is right, and the file can be recovered if it is damaged later. -/
structure Appended (d d' : Disk) (path : String) (log' : RunLog) (file : Except IoError Bytes) : Prop where
  sound : d'.Sound
  read_eq : d'.read path = file
  right : log'.Right d' path
  recoverable : Recoverable (d'.octets path)
  same : ∀ p, p ≠ path → d.Same d' p

/-- What is remembered of a log that holds messages is right if it is its end. -/
theorem Appended.of_knows {ms : List Message} {t : Tail} {live : Bool} (hs : d'.Sound) (hh : d'.Holds path ms)
    (hk : t.Knows d' path ms) (hsame : ∀ p, p ≠ path → d.Same d' p) :
    Appended d d' path ⟨some t, live⟩ (d'.read path) where
  sound := hs
  read_eq := rfl
  right t' ht' := by
    cases ht'
    rw [hh.readAll_eq]
    exact ⟨hh, hk⟩
  recoverable := recoverable_of_whole hh.whole
  same := hsame

/-- **What becomes of a batch and of the file does not depend on what is remembered of the log.** -/
theorem RunLog.append_appendTo {log : RunLog} (supplied : Message) (batch : List Message) (hs : d.Sound)
    (hr : Recoverable (d.octets (c.logPath run))) (hlog : log.Right d (c.logPath run)) :
    let done := log.append d c run supplied batch
    let out := appendTo c run supplied batch (d.read (c.logPath run))
    done.1.map Prod.fst = out.1 ∧ Appended d done.2.2 (c.logPath run) done.2.1 out.2 := by
  intro done out
  by_cases he : d.names.get? (c.logPath run) = some .directory
  · have hread : d.read (c.logPath run) = .error .isDirectory := by rw [Disk.read_eq, he]
    have hout : out = (.error (.io .isDirectory), d.read (c.logPath run)) := by simp [out, appendTo, hread]
    -- nothing can be remembered of a directory
    have htail : log.tail = none := by
      cases ht : log.tail with
      | none => rfl
      | some t => exact absurd he (hlog t ht).1.entry
    have hdone : done = (.error (.io .isDirectory), log, d) := by
      simp only [done, append, findTail, htail, Tail.restore, hread]
    rw [hdone, hout]
    exact ⟨rfl, hs, rfl, hlog, hr, fun p _ => .refl d p⟩
  · obtain ⟨t, d₁, hfind, hfound⟩ := findTail_of_right hs he hr hlog
    rcases Tail.append_appendTo supplied batch hfound with
      ⟨e, ha, hout⟩ | ⟨ack, records, t', d', ms, ha, hout, hs', hh, hk, hsame⟩
    · have hdone : done = (.error e, { log with tail := some t }, d₁) := by simp only [done, append, hfind, ha]
      rw [hdone, show out = _ from hout]
      exact ⟨rfl, .of_knows hfound.sound hfound.holds hfound.knows hfound.same⟩
    · have hdone : done = (.ok (ack, records), ⟨some t', log.live || !batch.isEmpty⟩, d') := by
        simp only [done, append, hfind, ha]
      rw [hdone, show out = _ from hout]
      exact ⟨rfl, .of_knows hs' hh hk fun p hp => (hfound.same p hp).trans (hsame p hp)⟩

end Append

/-! ## Ledgers that remember rightly -/

/-- The file of the log of a run. -/
def file (l : Ledger) (run : RunId) : Except IoError Bytes := l.disk.read (l.config.logPath run)

/-- What the ledger remembers of logs is right, and every log can be recovered if it is damaged. -/
structure Informed (l : Ledger) : Prop where
  sound : l.disk.Sound
  recoverable : ∀ run, Recoverable (l.octets run)
  right : ∀ {run log}, l.runs.get? run = some log → log.Right l.disk (l.config.logPath run)

section Informed

variable {l l' : Ledger} {run run' : RunId}

theorem octets_eq_getD (l : Ledger) (run : RunId) : l.octets run = (l.file run).toOption.getD [] :=
  Disk.octets_eq_getD _ _

theorem Kept.file_eq (h : Kept l l') (run : RunId) : l'.file run = l.file run := by
  rw [file, file, h.disk_eq, h.logPath_eq]

theorem Kept.informed (h : Kept l l') (hl : l.Informed) : l'.Informed where
  sound := by rw [h.disk_eq]; exact hl.sound
  recoverable run := by rw [h.octets_eq]; exact hl.recoverable run
  right {run log'} hlog' t ht := by
    obtain ⟨log, hlog, ht'⟩ := h.tail_eq hlog' ht
    rw [h.disk_eq, h.logPath_eq]
    exact hl.right hlog t ht'

/-- What a dispatch leaves of the files: that of its run as is said, and all others as they were. -/
structure Settled (l l' : Ledger) (run : RunId) (file : Except IoError Bytes) : Prop where
  config_eq : l'.config = l.config
  file_eq : l'.file run = file
  others : ∀ run', run' ≠ run → l'.file run' = l.file run'
  informed : l'.Informed

/-- A dispatch writes what the log of the run appends, and remembers what that log then knows. -/
theorem dispatch_fields (l : Ledger) (run : RunId) (batch : List Message) :
    let done := (l.hold run).1.append l.disk l.config run l.suppliedPreamble batch
    (l.dispatch run batch).1 = done.1.map Prod.fst ∧ (l.dispatch run batch).2.config = l.config ∧
      (l.dispatch run batch).2.disk = done.2.2 ∧
      (l.dispatch run batch).2.runs = (l.hold run).2.runs.set run done.2.1 := by
  intro done
  have hs : (l.hold run).2.suppliedPreamble = l.suppliedPreamble := by simp [suppliedPreamble]
  have hdone : (l.hold run).1.append l.disk l.config run l.suppliedPreamble batch = done := rfl
  obtain ⟨r, log, disk⟩ := done
  cases r <;> simp [dispatch, hs, hdone, mapFeeds, Except.map]

/-- **What a dispatch does is settled by the file alone**, whatever happened to the ledger before. -/
theorem dispatch_appendTo (h : l.Informed) (run : RunId) (batch : List Message) :
    let out := appendTo l.config run l.suppliedPreamble batch (l.file run)
    (l.dispatch run batch).1 = out.1 ∧ Settled l (l.dispatch run batch).2 run out.2 := by
  intro out
  have hlog : (l.hold run).1.Right l.disk (l.config.logPath run) := by
    have := ((kept_hold l run).informed h).right (l.hold_self run).1
    rwa [disk_hold, config_hold] at this
  obtain ⟨hanswer, hdone⟩ := RunLog.append_appendTo l.suppliedPreamble batch h.sound (h.recoverable run) hlog
  obtain ⟨ha, hc, hd, hr⟩ := l.dispatch_fields run batch
  rw [← hd] at hdone
  have hsame (run' : RunId) (hne : run' ≠ run) : l.disk.Same (l.dispatch run batch).2.disk (l.config.logPath run') :=
    hdone.same _ fun hp => hne (Config.logPath_inj hp)
  refine ⟨ha.trans hanswer, hc, ?_, fun run' hne => ?_, hdone.sound, fun run' => ?_, fun {run' log} hlog' => ?_⟩
  · rw [file, hc]
    exact hdone.read_eq
  · rw [file, hc]
    exact (hsame run' hne).read_eq
  · rw [octets, hc]
    by_cases hne : run' = run
    · rw [hne]
      exact hdone.recoverable
    · rw [(hsame run' hne).octets_eq]
      exact h.recoverable run'
  · rw [hc]
    by_cases hne : run' = run
    · subst hne
      rw [hr, OrderedMap.get?_set, if_pos rfl] at hlog'
      cases hlog'
      exact hdone.right
    · rw [hr, OrderedMap.get?_set, if_neg (Ne.symm hne)] at hlog'
      exact (h.right (hold_eq_some hne hlog')).of_same (hsame run' hne)

/-- Every request keeps a ledger informed. -/
theorem informed_serve (h : l.Informed) {r : Request} (hr : r.Keeps l.config) :
    (l.serve r).2.Informed ∧ (l.serve r).2.config.Agrees l.config := by
  by_cases hd : ∃ run batch, r = .dispatch run batch
  · obtain ⟨run, batch, rfl⟩ := hd
    have hsettled := (dispatch_appendTo h run batch).2
    exact ⟨hsettled.informed, hsettled.config_eq ▸ .refl _⟩
  · have hkept := kept_serve hr fun run batch h => hd ⟨run, batch, h⟩
    exact ⟨hkept.informed h, hkept.agrees⟩

/-- **Every history keeps a ledger informed.** -/
theorem informed_after {rs : List Request} (h : l.Informed) (hr : ∀ r ∈ rs, r.Keeps l.config) :
    (l.after rs).Informed ∧ (l.after rs).config.Agrees l.config := after_of_serve informed_serve h hr

/-- Files change only by dispatches to their runs. -/
theorem file_serve (h : l.Informed) {r : Request} (hr : r.Keeps l.config) (hd : ∀ batch, r ≠ .dispatch run batch) :
    (l.serve r).2.file run = l.file run := by
  by_cases hd' : ∃ run' batch, r = .dispatch run' batch
  · obtain ⟨run', batch, rfl⟩ := hd'
    exact (dispatch_appendTo h run' batch).2.others run fun he => hd batch (by rw [he])
  · exact (kept_serve hr fun run' batch h => hd' ⟨run', batch, h⟩).file_eq run

theorem Informed.recoverable_file (h : l.Informed) {log : Bytes} (hl : l.file run = .ok log) : Recoverable log := by
  rw [← Disk.octets_of_read hl]
  exact h.recoverable run

/-- A request that gets no messages acknowledged takes off a file at most what is not intact. -/
theorem file_map_intact_serve (h : l.Informed) {r : Request} (hr : r.Keeps l.config)
    (hn : acks run [(r, (l.serve r).1)] = []) : ((l.serve r).2.file run).map intact = (l.file run).map intact := by
  by_cases hd : ∃ batch, r = .dispatch run batch
  · obtain ⟨batch, rfl⟩ := hd
    obtain ⟨hanswer, hsettled⟩ := dispatch_appendTo h run batch
    have hnone (ack : Ack) (hack : (l.dispatch run batch).1 = .ok ack) : batch = [] := by
      simpa [acks, serve, hack] using hn
    rw [hanswer] at hnone
    have hfile : (l.serve (.dispatch run batch)).2.file run = (l.file run).map intact :=
      hsettled.file_eq.trans (appendTo_of_unacknowledged hnone)
    rw [hfile]
    cases hl : l.file run with
    | error e => rfl
    | ok log => simp only [Except.map, intact_intact (h.recoverable_file hl)]
  · rw [file_serve h hr fun batch hb => hd ⟨batch, hb⟩]

/-- **As long as no messages are acknowledged, a file loses at most what is not intact.** -/
theorem file_map_intact_after {rs : List Request} (h : l.Informed) (hr : ∀ r ∈ rs, r.Keeps l.config)
    (hn : acks run (l.events rs) = []) : ((l.after rs).file run).map intact = (l.file run).map intact := by
  induction rs using List.reverseRecOn with
  | nil => rfl
  | append_singleton rs r ih =>
    have hr' : ∀ r ∈ rs, r.Keeps l.config := fun x hx => hr x (List.mem_append_left _ hx)
    obtain ⟨hi, ha⟩ := informed_after h hr'
    rw [events_concat, acks_append, List.append_eq_nil_iff] at hn
    rw [after_concat, file_map_intact_serve hi ((hr r (by simp)).of_agrees ha) hn.2]
    exact ih hr' hn.1

end Informed

/-! ## Opening a ledger on files that may be damaged -/

/-- A ledger that holds no runs remembers nothing, so it may find anything in the files. -/
theorem informed_of_empty {l : Ledger} (hs : l.disk.Sound) (hb : l.disk.Bounded) (hr : l.runs = .empty) :
    l.Informed where
  sound := hs
  recoverable _ := recoverable_of_length_lt (hb.length_octets_lt _)
  right h := by
    rw [hr] at h
    cases h

/-- **A log goes on behind its last good record.** Whatever is in the file of a run when a ledger is opened again, and
whatever it is asked before: the first messages that are acknowledged for the run come behind the records that can be
read, and behind a preamble of the ledger, if there are no records and the messages do not open with one; the rest of
the file is gone, and all is read back. A dispatch that is refused or has no messages leaves the records that can be
read. -/
theorem dispatch_after_restart {l : Ledger} {config : Config} (hs : l.disk.Sound) (hb : l.disk.Bounded)
    {rs : List Request} (hr : ∀ r ∈ rs, r.Keeps config) {run : RunId}
    (hn : acks run ((l.restart config).events rs) = []) {log : Bytes}
    (hl : l.disk.read (config.logPath run) = .ok log) (batch : List Message) :
    let before := (l.restart config).after rs
    let found := readAll log
    let stop := found.truncatedAt.getD log.length
    let front := opening found.messages.length before.suppliedPreamble batch
    let answer := (before.dispatch run batch).1
    let file := (before.dispatch run batch).2.disk.read (config.logPath run)
    (∀ ack, answer = .ok ack → batch ≠ [] →
      ack = ⟨batch.length, found.messages.length + front.length⟩ ∧
      ∃ frames, Frame.encodeAll (front ++ batch) = .ok frames ∧ file = .ok (log.take stop ++ frames) ∧
        readAll (log.take stop ++ frames) = ⟨found.messages ++ (front ++ batch), none⟩) ∧
    (batch = [] ∨ (∃ e, answer = .error e) → file = .ok (log.take stop)) := by
  intro before found stop front answer file
  have hstart : (l.restart config).Informed := informed_of_empty hs hb rfl
  obtain ⟨hi, ha⟩ := informed_after hstart hr
  obtain ⟨hanswer, hsettled⟩ := dispatch_appendTo hi run batch
  have hrec : Recoverable log := hstart.recoverable_file hl
  have hfile : file = (before.dispatch run batch).2.file run := by
    rw [Ledger.file, hsettled.config_eq, ha.logPath_eq]
    rfl
  have hbefore : appendTo before.config run before.suppliedPreamble batch (before.file run) =
      appendTo before.config run before.suppliedPreamble batch (.ok log) := by
    rw [← appendTo_map_intact fun _ => hi.recoverable_file, file_map_intact_after hstart hr hn,
      appendTo_map_intact fun _ => hstart.recoverable_file]
    exact congrArg _ hl
  rw [hbefore] at hanswer hsettled
  constructor
  · intro ack hack hne
    have hack := hanswer.symm.trans hack
    obtain ⟨hfit, hout⟩ := appendTo_of_acknowledged hack hne
    exact ⟨(refusal?_of_acknowledged hack).2, _, encodeAll_of_fits hfit, hfile.trans (hsettled.file_eq.trans hout),
      readAll_intact_append hrec hfit⟩
  · intro hnone
    refine hfile.trans (hsettled.file_eq.trans (appendTo_of_unacknowledged fun ack hack => ?_))
    rcases hnone with hnil | ⟨e, he⟩
    · exact hnil
    · rw [show answer = .ok ack from hanswer.trans hack] at he
      cases he

/-- A log whose second record is torn, after a dispatch that was refused. -/
theorem dispatch_after_restart_torn :
    let config := Config.rootedAt "d"
    let run : RunId := ⟨.ofNat 1⟩
    let m (n : Nat) : Message := ⟨⟨.ofNat n⟩, ⟨5, 6⟩, .heartbeat⟩
    let p : Message := ⟨⟨.ofNat 9⟩, ⟨5, 6⟩, .preamble ⟨config.schemaVersion, ⟨5, 6⟩, ⟨7, 0⟩⟩⟩
    let whole := (start config .empty ⟨⟨0, 0⟩, 0⟩).after [.dispatch run [p]]
    let l : Ledger := { whole with disk := whole.disk.append 0 ((Frame.of (m 1)).take 5) }
    let rs : List Request := [.watch run, .dispatch run [m 2, p]]
    let before := (l.restart config).after rs
    let log := framed [p] ++ (Frame.of (m 1)).take 5
    l.disk.Sound ∧ l.disk.Bounded ∧ (∀ r ∈ rs, r.Keeps config) ∧ acks run ((l.restart config).events rs) = [] ∧
      l.disk.read (config.logPath run) = .ok log ∧ readAll log = ⟨[p], some (framed [p]).length⟩ ∧
      (before.dispatch run [m 3]).1 = .ok ⟨1, 1⟩ ∧
      ∃ frames, Frame.encodeAll [m 3] = .ok frames ∧
        (before.dispatch run [m 3]).2.disk.read (config.logPath run) = .ok (framed [p] ++ frames) ∧
        readAll (framed [p] ++ frames) = ⟨[p, m 3], none⟩ := by
  intro config run m p whole l rs before log
  have hs : l.disk.Sound :=
    (consistent_after (consistent_start config _) (by simp [Request.Keeps])).1.sound.modify 0 _
  have hb : l.disk.Bounded := by decide +kernel
  have hr : ∀ r ∈ rs, r.Keeps config := by simp [rs, Request.Keeps]
  have hn : acks run ((l.restart config).events rs) = [] := by decide +kernel
  have hl : l.disk.read (config.logPath run) = .ok log := by decide +kernel
  have hread : readAll log = ⟨[p], some (framed [p]).length⟩ := by decide +kernel
  have hack : (before.dispatch run [m 3]).1 = .ok ⟨1, 1⟩ := by decide +kernel
  obtain ⟨-, frames, hf, hfile, hall⟩ := (dispatch_after_restart hs hb hr hn hl [m 3]).1 _ hack (by simp)
  have hcut : log.take (framed [p]).length = framed [p] := List.take_left
  have hfront (supplied : Message) : opening 1 supplied [m 3] = [] := by simp [opening]
  simp only [hread, Option.getD_some, hcut, List.length_singleton, hfront, List.nil_append,
    List.singleton_append] at hf hfile hall
  exact ⟨hs, hb, hr, hn, hl, hread, hack, frames, hf, by rw [hfile], hall⟩

end Ledger

end RunLedger
