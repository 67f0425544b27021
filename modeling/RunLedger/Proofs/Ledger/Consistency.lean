import RunLedger.Proofs.Ledger.History
import RunLedger.Proofs.Ledger.Path

/-!
# What every history keeps

A ledger is `Consistent` if every log consists of the frames of its messages, opens with its only preamble, and is
known rightly where the ledger holds its run. Opened on an empty disk it is consistent, and every request keeps it so
(`consistent_serve`, `consistent_after`).

Only a dispatch writes. `dispatch_spec` says all that it does; the other requests leave the disk as it is and forget
ends of logs at most (`Kept`). So one request adds to the log of a run what `added` says (`messages_serve`), and logs
only grow (`messages_prefix`).
-/

namespace RunLedger.Ledger

/-- Every log is in order, and known rightly where its run is held. -/
structure Consistent (l : Ledger) : Prop where
  sound : l.disk.Sound
  holds : ∀ run, l.disk.Holds (l.config.logPath run) (l.messages run)
  octets_eq : ∀ run, l.octets run = framed (l.messages run)
  fits : ∀ run, ∀ m ∈ l.messages run, Frame.Fits m
  knows : ∀ {run log}, l.runs.get? run = some log → log.Knows l.disk (l.config.logPath run) (l.messages run)
  headed : ∀ run, Headed l.config.schemaVersion (l.messages run)

/-- Nothing is written, and no end of a log is known that was not known before. -/
structure Kept (l l' : Ledger) : Prop where
  disk_eq : l'.disk = l.disk
  agrees : l'.config.Agrees l.config
  tail_eq : ∀ {run log' t}, l'.runs.get? run = some log' → log'.tail = some t →
    ∃ log, l.runs.get? run = some log ∧ log.tail = some t

/-- What a dispatch does when messages, or none, come behind the log of its run: the log grows, its end is known, and
the records that it grew by are published to those who watch the run. -/
structure Dispatched (l l' : Ledger) (run : RunId) (new : List Message) (live : Bool) : Prop where
  config_eq : l'.config = l.config
  grown : ∃ t, Grown l.disk l'.disk (l.config.logPath run) (l.messages run) new t ∧
    l'.runs.get? run = some ⟨some t, live⟩
  others : ∀ run', run' ≠ run → l'.runs.get? run' = (l.hold run).2.runs.get? run'
  watches_eq : l'.watches = l.watches.map (·.map fun w =>
    if w.run = run then
      { w with feed := (placed (l.messages run).length (l.octets run).length new).foldl Feed.push w.feed }
    else w)

/-- What a request adds to the log of a run: a dispatched batch, unless it is refused. -/
def added (l : Ledger) (r : Request) (run : RunId) : List Message :=
  match r, (l.serve r).1 with
  | .dispatch run' batch, .dispatched (.ok _) =>
    if run' = run then opening (l.messages run).length l.suppliedPreamble batch ++ batch else []
  | _, _ => []

section

variable {l l' : Ledger} {run run' : RunId}

/-! ## Requests that write nothing -/

theorem Kept.logPath_eq (h : Kept l l') (run : RunId) : l'.config.logPath run = l.config.logPath run :=
  h.agrees.logPath_eq run

theorem Kept.octets_eq (h : Kept l l') (run : RunId) : l'.octets run = l.octets run := by
  rw [octets, octets, h.disk_eq, h.logPath_eq]

theorem Kept.messages_eq (h : Kept l l') (run : RunId) : l'.messages run = l.messages run := by
  rw [messages, messages, h.octets_eq]

theorem Kept.consistent (h : Kept l l') (hl : l.Consistent) : l'.Consistent where
  sound := by rw [h.disk_eq]; exact hl.sound
  holds run := by rw [h.disk_eq, h.logPath_eq, h.messages_eq]; exact hl.holds run
  octets_eq run := by rw [h.octets_eq, h.messages_eq]; exact hl.octets_eq run
  fits run := by rw [h.messages_eq]; exact hl.fits run
  knows {run log'} hlog' t ht := by
    obtain ⟨log, hlog, ht'⟩ := h.tail_eq hlog' ht
    rw [h.disk_eq, h.logPath_eq, h.messages_eq]
    exact hl.knows hlog t ht'
  headed run := by rw [h.agrees.2, h.messages_eq]; exact hl.headed run

theorem Kept.of_runs_eq (hd : l'.disk = l.disk) (hc : l'.config = l.config) (hr : l'.runs = l.runs) : Kept l l' :=
  ⟨hd, hc ▸ .refl _, fun hlog ht => ⟨_, hr ▸ hlog, ht⟩⟩

theorem kept_hold (l : Ledger) (run : RunId) : Kept l (l.hold run).2 := by
  refine ⟨by simp, by simp [Config.Agrees], fun {run' log' t} hlog ht => ?_⟩
  by_cases hr : run' = run
  · subst hr
    obtain ⟨hself, hbefore⟩ := l.hold_self run'
    obtain rfl := Option.some.inj (hself.symm.trans hlog)
    rcases hbefore with hb | ⟨-, hnew⟩
    · exact ⟨_, hb, ht⟩
    · -- of a run that is new nothing is known
      rw [hnew] at ht
      cases ht
  · exact ⟨_, hold_eq_some hr hlog, ht⟩

theorem kept_close (l : Ledger) (run : RunId) : Kept l (l.close run).2 := by
  unfold close
  split
  · rename_i log h
    split
    · refine ⟨rfl, .refl _, fun {run' log' t} hlog ht => ?_⟩
      simp only [mapFeeds, OrderedMap.get?_set] at hlog
      split at hlog
      · rename_i hr
        subst hr
        cases hlog
        exact ⟨log, h, ht⟩
      · exact ⟨log', hlog, ht⟩
    · exact .of_runs_eq rfl rfl rfl
  · exact .of_runs_eq rfl rfl rfl

/-- **Only a dispatch writes.** -/
theorem kept_serve {r : Request} (hr : r.Keeps l.config) (hd : ∀ run batch, r ≠ .dispatch run batch) :
    Kept l (l.serve r).2 := by
  cases r with
  | dispatch run batch => exact absurd rfl (hd run batch)
  | watch run =>
    simp only [serve, watch]
    split
    · have h := kept_hold l run
      exact ⟨h.disk_eq, h.agrees, h.tail_eq⟩
    · exact .of_runs_eq rfl rfl rfl
  | poll number =>
    simp only [serve, next]
    split <;> exact .of_runs_eq rfl rfl rfl
  | leave number => exact .of_runs_eq rfl rfl rfl
  | close run => exact kept_close l run
  | logs run => exact .of_runs_eq rfl rfl rfl
  | release => exact ⟨rfl, .refl _, fun hlog ht => ⟨_, release_eq_some hlog, ht⟩⟩
  | restart c => exact ⟨rfl, hr, fun hlog _ => by simp [serve] at hlog⟩
  | wait clock => exact .of_runs_eq rfl rfl rfl

/-! ## Dispatches -/

theorem opens_suppliedPreamble (l : Ledger) : Opens l.config.schemaVersion l.suppliedPreamble :=
  ⟨_, rfl, Version.canRead_self _⟩

/-- **A dispatch is refused and adds nothing, or adds its batch, and in front of it a preamble if the log needs one.** -/
theorem dispatch_spec (h : l.Consistent) (run : RunId) (batch : List Message) :
    let front := opening (l.messages run).length l.suppliedPreamble batch
    (∃ e, (l.dispatch run batch).1 = .error e ∧ Dispatched l (l.dispatch run batch).2 run [] (l.hold run).1.live) ∨
    ((l.dispatch run batch).1 = .ok ⟨batch.length, (l.messages run).length + front.length⟩ ∧
      Dispatched l (l.dispatch run batch).2 run (front ++ batch) ((l.hold run).1.live || !batch.isEmpty) ∧
      Headed l.config.schemaVersion (l.messages run ++ (front ++ batch))) := by
  intro front
  have hheld := (kept_hold l run).consistent h
  have hk : (l.hold run).1.Knows l.disk (l.config.logPath run) (l.messages run) := by
    have := hheld.knows (l.hold_self run).1
    rwa [(kept_hold l run).messages_eq, disk_hold, config_hold] at this
  have hs : (l.hold run).2.suppliedPreamble = l.suppliedPreamble := by simp [suppliedPreamble]
  rcases RunLog.append_spec batch h.sound (h.holds run) hk l.opens_suppliedPreamble with
    ⟨e, t, ha, ht⟩ | ⟨t, d', ha, hgrown, hhead⟩
  · left
    refine ⟨e, by simp [dispatch, hs, ha], ⟨by simp [dispatch, hs, ha], ⟨t, ?_, by simp [dispatch, hs, ha]⟩,
      fun run' hr => ?_, ?_⟩⟩
    · simpa [dispatch, hs, ha] using Grown.refl h.sound (h.holds run) ht
    · simp [dispatch, hs, ha, Ne.symm hr]
    · simp [dispatch, hs, ha, placed]
  · right
    refine ⟨by simp [dispatch, hs, ha, front], ⟨by simp [dispatch, hs, ha, mapFeeds], ⟨t, ?_, ?_⟩, fun run' hr => ?_, ?_⟩,
      hhead (h.headed run)⟩
    · simpa [dispatch, hs, ha, mapFeeds] using hgrown
    · simp [dispatch, hs, ha, mapFeeds]
    · simp [dispatch, hs, ha, mapFeeds, Ne.symm hr]
    · simp [dispatch, hs, ha, mapFeeds, front, octets]

section

variable {new : List Message} {live : Bool}

theorem Dispatched.octets_self (h : Dispatched l l' run new live) : l'.octets run = l.octets run ++ framed new := by
  obtain ⟨t, hg, -⟩ := h.grown
  rw [octets, h.config_eq, hg.octets_eq, octets]

theorem Dispatched.octets_other (h : Dispatched l l' run new live) (hr : run' ≠ run) :
    l'.octets run' = l.octets run' := by
  obtain ⟨t, hg, -⟩ := h.grown
  have hp : l.config.logPath run' ≠ l.config.logPath run := fun hp => hr (Config.logPath_inj hp)
  rw [octets, h.config_eq, (hg.same _ hp).octets_eq, octets]

theorem Dispatched.messages_self (h : Dispatched l l' run new live) : l'.messages run = l.messages run ++ new := by
  obtain ⟨t, hg, -⟩ := h.grown
  rw [messages, octets, h.config_eq, hg.holds.readAll_eq]

theorem Dispatched.messages_other (h : Dispatched l l' run new live) (hr : run' ≠ run) :
    l'.messages run' = l.messages run' := by
  rw [messages, h.octets_other hr, messages]

theorem Dispatched.consistent (h : Dispatched l l' run new live) (hl : l.Consistent)
    (hh : Headed l.config.schemaVersion (l.messages run ++ new)) : l'.Consistent := by
  obtain ⟨t, hg, hself⟩ := h.grown
  have hsame (run' : RunId) (hr : run' ≠ run) : l.disk.Same l'.disk (l.config.logPath run') :=
    hg.same _ fun hp => hr (Config.logPath_inj hp)
  constructor
  case sound => exact hg.sound
  case holds =>
    intro run'
    rw [h.config_eq]
    by_cases hr : run' = run
    · rw [hr, h.messages_self]
      exact hg.holds
    · rw [h.messages_other hr]
      exact (hl.holds run').of_same (hsame run' hr)
  case octets_eq =>
    intro run'
    by_cases hr : run' = run
    · rw [hr, h.messages_self, h.octets_self, hl.octets_eq, framed_append]
    · rw [h.messages_other hr, h.octets_other hr, hl.octets_eq]
  case fits =>
    intro run'
    by_cases hr : run' = run
    · rw [hr, h.messages_self]
      intro m hm
      exact (List.mem_append.mp hm).elim (hl.fits run m) (hg.fits m)
    · rw [h.messages_other hr]
      exact hl.fits run'
  case knows =>
    intro run' log hlog
    rw [h.config_eq]
    by_cases hr : run' = run
    · rw [hr, hself] at hlog
      cases hlog
      rw [hr, h.messages_self]
      exact fun t' ht' => Option.some.inj ht' ▸ hg.knows
    · rw [h.others run' hr] at hlog
      rw [h.messages_other hr]
      exact (hl.knows (hold_eq_some hr hlog)).of_same (hsame run' hr)
  case headed =>
    intro run'
    rw [h.config_eq]
    by_cases hr : run' = run
    · rw [hr, h.messages_self]
      exact hh
    · rw [h.messages_other hr]
      exact hl.headed run'

end

/-! ## One request -/

theorem added_eq_nil {r : Request} (hd : ∀ run batch, r ≠ .dispatch run batch) (run : RunId) : l.added r run = [] := by
  cases r with
  | dispatch run batch => exact absurd rfl (hd run batch)
  | _ => rfl

/-- **A request adds to a log what was dispatched to its run and not refused.** -/
theorem messages_serve (h : l.Consistent) {r : Request} (hr : r.Keeps l.config) (run : RunId) :
    (l.serve r).2.messages run = l.messages run ++ l.added r run := by
  by_cases hd : ∃ run' batch, r = .dispatch run' batch
  · obtain ⟨run', batch, rfl⟩ := hd
    have hs : (l.serve (.dispatch run' batch)).2 = (l.dispatch run' batch).2 := rfl
    rcases dispatch_spec h run' batch with ⟨e, he, hspec⟩ | ⟨hok, hspec, -⟩
    · have ha : l.added (.dispatch run' batch) run = [] := by simp [added, serve, he]
      rw [hs, ha, List.append_nil]
      by_cases hrun : run = run'
      · rw [hrun, hspec.messages_self, List.append_nil]
      · exact hspec.messages_other hrun
    · rw [hs]
      by_cases hrun : run = run'
      · subst hrun
        rw [hspec.messages_self]
        simp [added, serve, hok]
      · rw [hspec.messages_other hrun]
        simp [added, serve, hok, Ne.symm hrun]
  · have hd' : ∀ run' batch, r ≠ .dispatch run' batch := fun run' batch h => hd ⟨run', batch, h⟩
    rw [added_eq_nil hd', List.append_nil, (kept_serve hr hd').messages_eq]

/-- **Every request keeps logs in order.** -/
theorem consistent_serve (h : l.Consistent) {r : Request} (hr : r.Keeps l.config) :
    (l.serve r).2.Consistent ∧ (l.serve r).2.config.Agrees l.config := by
  by_cases hd : ∃ run batch, r = .dispatch run batch
  · obtain ⟨run, batch, rfl⟩ := hd
    rcases dispatch_spec h run batch with ⟨e, -, hspec⟩ | ⟨-, hspec, hh⟩
    · exact ⟨hspec.consistent h (by simpa using h.headed run), hspec.config_eq ▸ .refl _⟩
    · exact ⟨hspec.consistent h hh, hspec.config_eq ▸ .refl _⟩
  · have hkept := kept_serve hr fun run batch h => hd ⟨run, batch, h⟩
    exact ⟨hkept.consistent h, hkept.agrees⟩

/-! ## Histories -/

/-- A ledger on an empty disk is in order. -/
theorem consistent_start (config : Config) (clock : Clock) : (start config .empty clock).Consistent := by
  have ho (run : RunId) : (start config .empty clock).octets run = [] := Disk.octets_of_absent rfl
  have hm (run : RunId) : (start config .empty clock).messages run = [] := by
    rw [messages, ho, readAll_whole .nil]
  constructor
  case sound => exact Disk.sound_empty
  case holds =>
    intro run
    have ho := ho run
    rw [octets] at ho
    refine ⟨by simp [start, Disk.empty], ?_⟩
    rw [hm, ho]
    exact .nil
  case octets_eq => exact fun run => by rw [ho, hm, framed_nil]
  case fits => exact fun run m h => by rw [hm] at h; cases h
  case knows => exact fun h => by cases h
  case headed => exact fun run => by rw [hm]; exact headed_nil _

/-- **Every history keeps logs in order.** -/
theorem consistent_after {rs : List Request} (h : l.Consistent) (hr : ∀ r ∈ rs, r.Keeps l.config) :
    (l.after rs).Consistent ∧ (l.after rs).config.Agrees l.config := after_of_serve consistent_serve h hr

/-- **Logs only grow.** -/
theorem messages_prefix {before rs : List Request} (h : l.Consistent) (hr : ∀ r ∈ rs, r.Keeps l.config)
    (hb : before <+: rs) (run : RunId) : (l.after before).messages run <+: (l.after rs).messages run := by
  obtain ⟨later, rfl⟩ := hb
  induction later using List.reverseRecOn with
  | nil => simp
  | append_singleton later r ih =>
    rw [← List.append_assoc] at hr ⊢
    have hr' : ∀ r ∈ before ++ later, r.Keeps l.config := fun x hx => hr x (List.mem_append_left _ hx)
    obtain ⟨hc, ha⟩ := consistent_after h hr'
    rw [after_concat, messages_serve hc ((hr r (by simp)).of_agrees ha)]
    exact (ih hr').trans (List.prefix_append _ _)

/-- The files of logs only grow. -/
theorem length_octets_le {before rs : List Request} (h : l.Consistent) (hr : ∀ r ∈ rs, r.Keeps l.config)
    (hb : before <+: rs) (run : RunId) : ((l.after before).octets run).length ≤ ((l.after rs).octets run).length := by
  have hr' : ∀ r ∈ before, r.Keeps l.config := fun r hx => hr r (hb.subset hx)
  rw [(consistent_after h hr').1.octets_eq, (consistent_after h hr).1.octets_eq]
  obtain ⟨new, hnew⟩ := messages_prefix h hr hb run
  rw [← hnew, framed_append, List.length_append]
  omega

end

end RunLedger.Ledger
