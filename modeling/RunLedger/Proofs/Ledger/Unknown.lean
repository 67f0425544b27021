import RunLedger.Proofs.Ledger.Demands

/-!
# Which runs are unknown

The messages of a run are unknown if it has no log (`logs_unknown_iff`), but a run can be watched as soon as the ledger
holds it (`watch_unknown_iff`). A run without a log comes to be held by a dispatch that leaves no log: of no messages, or
of a batch that is refused (`InVain`). From then on, and until it is let go, the run can be watched although it has no log
(`watch_after_vain`, `watch_unlogged`). There is no other way: unless that happened since the ledger was opened, a run is
unknown to those who watch exactly if it is unknown to those who read (`unknown_after`).
-/

namespace RunLedger.Ledger

/-- A dispatch to a run without a log that gets no messages acknowledged. -/
def InVain (l : Ledger) (run : RunId) (batch : List Message) : Prop :=
  l.file run = .error .notFound ∧ ∀ ack, (l.dispatch run batch).1 = .ok ack → batch = []

/-- Since the ledger was opened last there was a dispatch to the run in vain. -/
def HeldInVain (l : Ledger) (demands : List Demand) (run : RunId) : Prop :=
  ∃ before batch later, demands = before ++ .request (.dispatch run batch) :: later ∧
    (l.meeting before).InVain run batch ∧ ∀ c, .request (.restart c) ∉ later

section

variable {l : Ledger} {run run' : RunId} {batch : List Message}

/-! ## What unknown means -/

theorem file_eq_notFound_iff : l.file run = .error .notFound ↔ l.disk.contains (l.config.logPath run) = false := by
  rw [file, Disk.read_eq, Disk.contains, OrderedMap.contains]
  split
  · rename_i he
    simp [he]
  · rename_i he
    simp [he]
  · rename_i he
    simp [he]

/-- **A run is unknown to those who read if it has no log.** -/
theorem logs_unknown_iff : l.logs run = .error (.unknownRun run) ↔ l.file run = .error .notFound := by
  unfold logs file
  cases l.disk.read (l.config.logPath run) with
  | error e => cases e <;> simp
  | ok log =>
    dsimp only
    split <;> simp

/-- **A run is unknown to those who watch if it has no log and is not held.** -/
theorem watch_unknown_iff : (l.watch run).1 = .error (.unknownRun run) ↔
    l.runs.contains run = false ∧ l.file run = .error .notFound := by
  rw [file_eq_notFound_iff]
  unfold watch
  split
  · rename_i h
    simp only [Bool.or_eq_true] at h
    rcases h with h | h <;> simp [h]
  · rename_i h
    simpa using h

/-- Who asks to watch a run that is held can watch it. -/
theorem watch_of_held (h : l.runs.contains run) : (l.watch run).1 = .ok l.watches.length := by
  simp [watch, h]

/-! ## How a run comes to be held -/

theorem contains_hold (h : (l.hold run).2.runs.contains run') : run' = run ∨ l.runs.contains run' := by
  by_cases hr : run' = run
  · exact Or.inl hr
  · right
    obtain ⟨log, hlog⟩ := Option.isSome_iff_exists.mp h
    exact Option.isSome_iff_exists.mpr ⟨log, hold_eq_some hr hlog⟩

/-- A ledger that was opened just now holds no runs. -/
theorem ne_restart_of_contains {d : Demand} (h : (l.meet d).runs.contains run) (c : Config) :
    d ≠ .request (.restart c) := by
  rintro rfl
  cases h

/-- **A run that is held was held before, or was dispatched to,** or had a log when somebody began to watch it. -/
theorem contains_meet {d : Demand} (h : (l.meet d).runs.contains run) :
    (∃ batch, d = .request (.dispatch run batch)) ∨ l.runs.contains run ∨ l.file run ≠ .error .notFound := by
  cases d with
  | upload chunks =>
    right; left
    simp only [meet, upload] at h
    split at h
    · exact h
    · split at h <;> exact h
  | request r =>
    cases r with
    | dispatch run' batch =>
      by_cases hr : run' = run
      · exact Or.inl ⟨batch, by rw [hr]⟩
      · right; left
        have hruns := (l.dispatch_fields run' batch).2.2.2
        have hheld : (l.hold run').2.runs.contains run := by
          have hset : ((l.dispatch run' batch).2.runs).contains run := h
          rwa [hruns, OrderedMap.contains, OrderedMap.get?_set, if_neg hr] at hset
        exact (contains_hold hheld).resolve_left fun he => hr he.symm
    | watch run' =>
      right
      simp only [meet, serve, watch] at h
      split at h
      · rename_i hknown
        rcases contains_hold h with rfl | hheld
        · rcases Bool.or_eq_true_iff.mp hknown with hheld | hlog
          · exact Or.inl hheld
          · exact Or.inr fun hn => by simp [file_eq_notFound_iff.mp hn] at hlog
        · exact Or.inl hheld
      · exact Or.inl h
    | poll number =>
      right; left
      simp only [meet, serve, next] at h
      split at h <;> exact h
    | close run' =>
      right; left
      simp only [meet, serve, close] at h
      split at h
      · rename_i log hlog
        split at h
        · by_cases hr : run' = run
          · subst hr
            exact Option.isSome_iff_exists.mpr ⟨log, hlog⟩
          · simpa [mapFeeds, OrderedMap.contains, hr] using h
        · exact h
      · exact h
    | release =>
      obtain ⟨log, hlog⟩ := Option.isSome_iff_exists.mp h
      exact Or.inr (Or.inl (Option.isSome_iff_exists.mpr ⟨log, release_eq_some hlog⟩))
    | restart c => exact absurd rfl (ne_restart_of_contains h c)
    | leave number => exact Or.inr (Or.inl h)
    | logs run' => exact Or.inr (Or.inl h)
    | wait clock => exact Or.inr (Or.inl h)

/-! ## Dispatches in vain -/

/-- **After a dispatch in vain a run can be watched that has no log.** -/
theorem watch_after_vain (h : l.Informed) (hv : l.InVain run batch) :
    (l.dispatch run batch).2.logs run = .error (.unknownRun run) ∧
      ((l.dispatch run batch).2.watch run).1 = .ok (l.dispatch run batch).2.watches.length := by
  obtain ⟨hnone, hn⟩ := hv
  obtain ⟨hanswer, hsettled⟩ := dispatch_appendTo h run batch
  constructor
  · rw [hanswer] at hn
    rw [logs_unknown_iff, hsettled.file_eq, appendTo_of_unacknowledged hn, hnone]
    rfl
  · refine watch_of_held ?_
    rw [(l.dispatch_fields run batch).2.2.2, OrderedMap.contains, OrderedMap.get?_set, if_pos rfl]
    rfl

/-- A dispatch to a run that has no log afterwards was in vain. -/
theorem inVain_of_notFound (h : l.Informed) (hf : (l.dispatch run batch).2.file run = .error .notFound) :
    l.InVain run batch := by
  obtain ⟨hanswer, hsettled⟩ := dispatch_appendTo h run batch
  have hn (ack : Ack) (hack : (l.dispatch run batch).1 = .ok ack) : batch = [] := by
    by_cases hb : batch = []
    · exact hb
    · -- acknowledged messages are in the file
      have hout := (appendTo_of_acknowledged (hanswer.symm.trans hack) hb).2
      rw [hsettled.file_eq, hout] at hf
      cases hf
  refine ⟨?_, hn⟩
  rw [hanswer] at hn
  rw [hsettled.file_eq, appendTo_of_unacknowledged hn] at hf
  cases hl : l.file run with
  | ok log =>
    rw [hl] at hf
    cases hf
  | error e =>
    rw [hl] at hf
    cases hf
    rfl

/-- **Only a dispatch in vain makes a ledger hold a run without a log.** -/
theorem heldInVain_of_held (h : l.Informed) (hruns : l.runs = .empty) {demands : List Demand}
    (hr : ∀ d ∈ demands, d.Rooted l.config.root) (hheld : (l.meeting demands).runs.contains run)
    (hf : (l.meeting demands).file run = .error .notFound) : l.HeldInVain demands run := by
  induction demands using List.reverseRecOn with
  | nil =>
    rw [meeting_nil, hruns] at hheld
    cases hheld
  | append_singleton ds d ih =>
    have hds : ∀ d ∈ ds, d.Rooted l.config.root := fun d hm => hr d (List.mem_append_left _ hm)
    obtain ⟨hi, hroot⟩ := informed_meeting h hds
    have hd : d.Rooted (l.meeting ds).config.root := hroot.symm ▸ hr d (by simp)
    rw [meeting_concat] at hheld hf
    by_cases hdispatch : ∃ batch, d = .request (.dispatch run batch)
    · obtain ⟨batch, rfl⟩ := hdispatch
      exact ⟨ds, batch, [], rfl, inVain_of_notFound hi hf, fun c hc => by cases hc⟩
    · -- nothing else happened to the file, so the run was held before
      have hsame : ((l.meeting ds).meet d).file run = (l.meeting ds).file run :=
        file_meet hi hd fun batch hb => hdispatch ⟨batch, hb⟩
      rw [hsame] at hf
      have hbefore := (contains_meet hheld).resolve_left hdispatch
      obtain ⟨before, batch, later, rfl, hvain, hlater⟩ := ih hds (hbefore.resolve_right fun hn => hn hf) hf
      refine ⟨before, batch, later ++ [d], by simp, hvain, fun c hc => ?_⟩
      rcases List.mem_append.mp hc with hc | hc
      · exact hlater c hc
      · exact ne_restart_of_contains hheld c (List.mem_singleton.mp hc).symm

end

/-- **A run is unknown to those who watch if it is unknown to those who read, unless it is held in vain.** Whatever was
demanded of a ledger that was opened on an empty disk: reading a run fails because it is unknown exactly if it has no
log; then watching it fails for the same reason, unless since the ledger was opened last there was a dispatch to the run
that left it without a log. In that case the watch begins. -/
theorem unknown_after (config : Config) (clock : Clock) {demands : List Demand}
    (hr : ∀ d ∈ demands, d.Rooted config.root) (run : RunId) :
    let now := (start config .empty clock).meeting demands
    (now.logs run = .error (.unknownRun run) ↔ now.disk.read (now.config.logPath run) = .error .notFound) ∧
      ((now.watch run).1 = .error (.unknownRun run) → now.logs run = .error (.unknownRun run)) ∧
      (now.logs run = .error (.unknownRun run) → (now.watch run).1 = .error (.unknownRun run) ∨
        (now.watch run).1 = .ok now.watches.length ∧ (start config .empty clock).HeldInVain demands run) := by
  intro now
  have hb : Disk.empty.Bounded := by decide
  have hi : (start config .empty clock).Informed := informed_of_empty Disk.sound_empty hb rfl
  refine ⟨logs_unknown_iff, fun hw => logs_unknown_iff.mpr (watch_unknown_iff.mp hw).2, fun hl => ?_⟩
  have hf := logs_unknown_iff.mp hl
  cases hheld : now.runs.contains run with
  | false => exact Or.inl (watch_unknown_iff.mpr ⟨hheld, hf⟩)
  | true => exact Or.inr ⟨watch_of_held hheld, heldInVain_of_held hi rfl hr hheld hf⟩

/-- Before and behind a restart: a batch that is refused, for a run without a log. -/
theorem unknown_after_refused :
    let config := Config.rootedAt "d"
    let clock : Clock := ⟨⟨0, 0⟩, 0⟩
    let run : RunId := ⟨.ofNat 1⟩
    let p : Message := ⟨⟨.ofNat 9⟩, ⟨5, 6⟩, .preamble ⟨⟨7, 0, 0⟩, ⟨5, 6⟩, ⟨7, 0⟩⟩⟩
    let held : List Demand := [.request (.dispatch run [p])]
    let demands : List Demand := held ++ [.request (.restart { config with logChunk := 1 })]
    let now := (start config .empty clock).meeting demands
    (∀ d ∈ demands, d.Rooted config.root) ∧
      (now.logs run = .error (.unknownRun run) ↔ now.disk.read (now.config.logPath run) = .error .notFound) ∧
      (now.watch run).1 = .error (.unknownRun run) ∧ now.logs run = .error (.unknownRun run) := by
  intro config clock run p held demands now
  have hr : ∀ d ∈ demands, d.Rooted config.root := by simp [demands, held, Demand.Rooted]
  have hwatch : (now.watch run).1 = .error (.unknownRun run) := by decide +kernel
  obtain ⟨hlogs, hunknown, -⟩ := unknown_after config clock hr run
  exact ⟨hr, hlogs, hwatch, hunknown hwatch⟩

/-- A run that nothing was written for can be watched and not read. -/
theorem watch_unlogged :
    let run : RunId := ⟨.ofNat 1⟩
    let now := (start (.rootedAt "d") .empty ⟨⟨0, 0⟩, 0⟩).meeting [.request (.dispatch run [])]
    (now.watch run).1 = .ok 0 ∧ now.logs run = .error (.unknownRun run) := by
  decide +kernel

end RunLedger.Ledger
