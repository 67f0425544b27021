import RunLedger.Ledger.Basic
import RunLedger.Proofs.Ledger.RunLog

/-!
# Histories of a ledger

A history is a list of requests that are served one after the other: `after` is the ledger that they leave, `events`
are the requests with their answers. What a history left in the logs is seen through `octets` and `messages`.

* `after_append`, `events_append`: a history goes on from where its first part ended.
* `after_of_serve`: what every request keeps, every history keeps.
* `hold_eq_some`, `hold_of_watched`: a run that is held is held on, or let go if nobody watches it or it is closed; it
  never changes meanwhile.
-/

namespace RunLedger.Ledger

/-- What a ledger can be asked to do. -/
inductive Request where
  | dispatch (run : RunId) (batch : List Message)
  | watch (run : RunId)
  /-- Asks a watch for the next thing that it has to say. -/
  | poll (number : Nat)
  | leave (number : Nat)
  | close (run : RunId)
  | logs (run : RunId)
  /-- Lets go of idle runs, although there may be room for more. -/
  | release
  /-- Ends the ledger and opens it again on its files. -/
  | restart (config : Config)
  /-- Sets the clock to any time. -/
  | wait (clock : Clock)
  deriving DecidableEq

/-- What a ledger answers. -/
inductive Answer where
  | dispatched (result : Except Error Ack)
  | watching (result : Except Error Nat)
  | said (what : Poll)
  | closed (wasLive : Bool)
  | read (result : Except Error (List LogChunk))
  | done
  deriving DecidableEq

/-- Serves one request. -/
def serve (l : Ledger) : Request → Answer × Ledger
  | .dispatch run batch => (l.dispatch run batch).map .dispatched id
  | .watch run => (l.watch run).map .watching id
  | .poll number => (l.next number).map .said id
  | .leave number => (.done, l.leave number)
  | .close run => (l.close run).map .closed id
  | .logs run => (.read (l.logs run), l)
  | .release => (.done, l.release)
  | .restart config => (.done, l.restart config)
  | .wait clock => (.done, { l with clock := clock })

/-- The ledger after requests. -/
def after (l : Ledger) (requests : List Request) : Ledger := requests.foldl (fun l r => (l.serve r).2) l

/-- Requests with the answers that they get one after the other. -/
def events (l : Ledger) : List Request → List (Request × Answer)
  | [] => []
  | r :: rs => (r, (l.serve r).1) :: events (l.serve r).2 rs

/-- Settings that say alike where logs lie and what is in them. -/
def Config.Agrees (c c' : Config) : Prop := c.root = c'.root ∧ c.schemaVersion = c'.schemaVersion

/-- The ledger is opened again on the same logs only. -/
def Request.Keeps (c : Config) : Request → Prop
  | .restart c' => c'.Agrees c
  | _ => True

/-- The octets of the log of a run. -/
def octets (l : Ledger) (run : RunId) : Bytes := l.disk.octets (l.config.logPath run)

/-- The messages in the log of a run. -/
def messages (l : Ledger) (run : RunId) : List Message := (readAll (l.octets run)).messages

/-! ## Settings -/

section Settings

variable {c c' c'' : Config}

theorem Config.Agrees.refl (c : Config) : c.Agrees c := ⟨rfl, rfl⟩

theorem Config.Agrees.symm (h : c.Agrees c') : c'.Agrees c := ⟨h.1.symm, h.2.symm⟩

theorem Config.Agrees.trans (h : c.Agrees c') (h' : c'.Agrees c'') : c.Agrees c'' :=
  ⟨h.1.trans h'.1, h.2.trans h'.2⟩

theorem Config.Agrees.logPath_eq (h : c.Agrees c') (run : RunId) : c.logPath run = c'.logPath run := by
  simp only [logPath, runsDirectory, h.1]

theorem Request.Keeps.of_agrees {r : Request} (hr : r.Keeps c) (h : c'.Agrees c) : r.Keeps c' := by
  cases r with
  | restart config => exact hr.trans h.symm
  | _ => trivial

end Settings

/-! ## Parts of a history -/

@[simp] theorem after_nil (l : Ledger) : l.after [] = l := rfl

theorem after_append (l : Ledger) (rs rs' : List Request) : l.after (rs ++ rs') = (l.after rs).after rs' :=
  List.foldl_append

theorem after_concat (l : Ledger) (rs : List Request) (r : Request) :
    l.after (rs ++ [r]) = ((l.after rs).serve r).2 := l.after_append rs [r]

theorem events_append (l : Ledger) (rs rs' : List Request) :
    l.events (rs ++ rs') = l.events rs ++ (l.after rs).events rs' := by
  induction rs generalizing l with
  | nil => rfl
  | cons r rs ih => simp [events, ih, after]

theorem events_concat (l : Ledger) (rs : List Request) (r : Request) :
    l.events (rs ++ [r]) = l.events rs ++ [(r, ((l.after rs).serve r).1)] := l.events_append rs [r]

/-- **What every request keeps, every history keeps.** -/
theorem after_of_serve {P : Ledger → Prop}
    (hserve : ∀ {l : Ledger}, P l → ∀ {r : Request}, r.Keeps l.config →
      P (l.serve r).2 ∧ (l.serve r).2.config.Agrees l.config)
    {l : Ledger} {rs : List Request} (h : P l) (hr : ∀ r ∈ rs, r.Keeps l.config) :
    P (l.after rs) ∧ (l.after rs).config.Agrees l.config := by
  induction rs generalizing l with
  | nil => exact ⟨h, .refl _⟩
  | cons r rs ih =>
    obtain ⟨hs, ha⟩ := hserve h (hr r List.mem_cons_self)
    obtain ⟨hafter, ha'⟩ := ih hs fun r' hr' => (hr r' (List.mem_cons_of_mem _ hr')).of_agrees ha
    exact ⟨hafter, ha'.trans ha⟩

/-! ## Runs that are held -/

section Hold

variable {l : Ledger} {run run' : RunId} {log : RunLog}

/-- Holding a run changes nothing but which runs are held. -/
theorem hold_frame (l : Ledger) (run : RunId) : ∃ runs, (l.hold run).2 = { l with runs := runs } := by
  unfold hold
  split
  · exact ⟨_, rfl⟩
  · dsimp only
    split <;> exact ⟨_, rfl⟩

@[simp] theorem disk_hold (l : Ledger) (run : RunId) : (l.hold run).2.disk = l.disk := by
  obtain ⟨runs, h⟩ := l.hold_frame run
  rw [h]

@[simp] theorem config_hold (l : Ledger) (run : RunId) : (l.hold run).2.config = l.config := by
  obtain ⟨runs, h⟩ := l.hold_frame run
  rw [h]

@[simp] theorem clock_hold (l : Ledger) (run : RunId) : (l.hold run).2.clock = l.clock := by
  obtain ⟨runs, h⟩ := l.hold_frame run
  rw [h]

@[simp] theorem watches_hold (l : Ledger) (run : RunId) : (l.hold run).2.watches = l.watches := by
  obtain ⟨runs, h⟩ := l.hold_frame run
  rw [h]

theorem release_eq_some (h : l.release.runs.get? run = some log) : l.runs.get? run = some log := by
  simp only [release, OrderedMap.get?_filter] at h
  exact (Option.filter_eq_some_iff.mp h).1

/-- A live run that somebody watches is not let go. -/
theorem release_of_watched (h : l.runs.get? run = some log) (hl : log.live) (hw : l.isWatched run) :
    l.release.runs.get? run = some log := by
  simp [release, h, hl, hw]

/-- A run that was not held is new. -/
theorem hold_self (l : Ledger) (run : RunId) : (l.hold run).2.runs.get? run = some (l.hold run).1 ∧
    (l.runs.get? run = some (l.hold run).1 ∨ l.runs.get? run = none ∧ (l.hold run).1 = .new) := by
  unfold hold
  split
  · rename_i log h
    exact ⟨h, Or.inl h⟩
  · rename_i h
    simp [h]

/-- What is held of another run was held before. -/
theorem hold_eq_some (hr : run' ≠ run) (h : (l.hold run).2.runs.get? run' = some log) :
    l.runs.get? run' = some log := by
  unfold hold at h
  split at h
  · exact h
  · dsimp only at h
    rw [OrderedMap.get?_set, if_neg (Ne.symm hr)] at h
    split at h
    · exact release_eq_some h
    · exact h

/-- A live run that somebody watches is held on. -/
theorem hold_of_watched (h : l.runs.get? run' = some log) (hl : log.live) (hw : l.isWatched run') :
    (l.hold run).2.runs.get? run' = some log := by
  unfold hold
  split
  · exact h
  · rename_i hn
    have hr : run ≠ run' := by
      rintro rfl
      rw [h] at hn
      cases hn
    dsimp only
    rw [OrderedMap.get?_set, if_neg hr]
    split
    · exact release_of_watched h hl hw
    · exact h

end Hold

end RunLedger.Ledger
