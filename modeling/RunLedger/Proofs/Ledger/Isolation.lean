import Mathlib.Data.List.Forall2
import RunLedger.Proofs.Ledger.Readable

/-!
# Runs do not disturb each other

The requests that concern a run are answered as if there were no others: a ledger that serves many runs, lets go of them
and is opened again, and a ledger that serves only the one run, hold the same log of it and give the same answers. The
one thing that may differ is a preamble that the ledgers supply, each with its own clock (`isolated_after`).

The simulation relates files, not what the ledgers remember: the files are equal until the ledgers supply preambles, and
from then on they differ in the first record only (`Split`). By `dispatch_appendTo` that is all that matters.
-/

namespace RunLedger.Ledger

/-- Whether a request names the run. -/
def Request.concerns (run : RunId) : Request → Bool
  | .dispatch run' _ | .watch run' | .close run' | .logs run' => run' = run
  | _ => false

/-- The answers to dispatches to a run and to readings of its log. -/
def answersOf (run : RunId) (events : List (Request × Answer)) : List Answer :=
  events.filterMap fun
    | (.dispatch run' _, answer) | (.logs run', answer) => if run' = run then some answer else none
    | _ => none

/-- Files that differ in the first record only. -/
def Split (p p' : Message) (file file' : Except IoError Bytes) : Prop :=
  ∃ rest ms, Whole rest ms ∧ file = .ok (Frame.of p ++ rest) ∧ file' = .ok (Frame.of p' ++ rest)

/-- Answers that are the same but for the first message of a log that is read. -/
def SameBut (p p' : Message) (answer answer' : Answer) : Prop :=
  answer = answer' ∨ ∃ ms truncated chunks, answer = .read (.ok (⟨p :: ms, truncated⟩ :: chunks)) ∧
    answer' = .read (.ok (⟨p' :: ms, truncated⟩ :: chunks))

/-! ## Dispatches to related files -/

section AppendTo

variable {c c' : Config} {run : RunId} {p p' s s' : Message} {batch : List Message} {file file' : Except IoError Bytes}

/-- Whether a batch is refused does not depend on the preamble that the ledger supplies. -/
theorem refusal?_congr (hv : c.schemaVersion = c'.schemaVersion) (hs : Frame.Fits s) (hs' : Frame.Fits s')
    (records : Nat) (batch : List Message) :
    refusal? c run records s batch = refusal? c' run records s' batch := by
  unfold refusal? opened
  rw [hv]
  cases batch with
  | nil => rfl
  | cons m ms =>
    by_cases hr : records = 0
    · cases hm : m.preamble? with
      | none => simp [hr, hm, fault?, hs, hs']
      | some q => simp [hr, hm]
    · simp [hr]

/-- What is put in front of a batch is the same, or each ledger's own preamble in an empty log. -/
theorem opening_cases (records : Nat) (s s' : Message) (batch : List Message) :
    opening records s batch = opening records s' batch ∨
      records = 0 ∧ opening records s batch = [s] ∧ opening records s' batch = [s'] := by
  unfold opening
  split
  · rename_i h
    exact Or.inr ⟨h.1, rfl, rfl⟩
  · exact Or.inl rfl

/-- Behind the same file a batch gets the same answer, and leaves the same file unless preambles are supplied. -/
theorem appendTo_same (hv : c.schemaVersion = c'.schemaVersion) (hs : Frame.Fits s) (hs' : Frame.Fits s')
    (hrec : Recoverable (file.toOption.getD [])) (run : RunId) (batch : List Message) :
    (appendTo c run s batch file).1 = (appendTo c' run s' batch file).1 ∧
      ((appendTo c run s batch file).2 = (appendTo c' run s' batch file).2 ∨
        Split s s' (appendTo c run s batch file).2 (appendTo c' run s' batch file).2) := by
  unfold appendTo
  by_cases hf : file = .error .isDirectory
  · rw [if_pos hf, if_pos hf]
    exact ⟨rfl, Or.inl rfl⟩
  · rw [if_neg hf, if_neg hf]
    simp only [refusal?_congr hv hs hs']
    cases hr : refusal? c' run (readAll (file.toOption.getD [])).messages.length s' batch with
    | some e => exact ⟨rfl, Or.inl rfl⟩
    | none =>
      by_cases hb : batch = []
      · simp [hb]
      · rcases opening_cases (readAll (file.toOption.getD [])).messages.length s s' batch with ho | ⟨hn, ho, ho'⟩
        · simp [ho]
        · have hfit := (fault?_eq_none_iff.mp (of_not_refused hr).2).1
          have hnil := intact_of_messages_eq_nil hrec (List.eq_nil_of_length_eq_zero hn)
          refine ⟨by simp [ho, ho'], Or.inr ⟨framed batch, batch, whole_framed ?_, ?_, ?_⟩⟩
          · exact fun m hm => hfit m (List.mem_append_right _ hm)
          · simp [hb, hnil, ho]
          · simp [hb, hnil, ho']

/-- Behind files that are split a batch gets the same answer, and they stay split. -/
theorem appendTo_split (hv : c.schemaVersion = c'.schemaVersion) (hs : Frame.Fits s) (hs' : Frame.Fits s')
    (hp : Frame.Fits p) (hp' : Frame.Fits p') (h : Split p p' file file') (run : RunId) (batch : List Message) :
    (appendTo c run s batch file).1 = (appendTo c' run s' batch file').1 ∧
      Split p p' (appendTo c run s batch file).2 (appendTo c' run s' batch file').2 := by
  obtain ⟨rest, ms, hw, rfl, rfl⟩ := h
  have hopening (m : Message) : opening (ms.length + 1) m batch = [] := by simp [opening]
  simp only [appendTo, reduceCtorEq, if_false, Except.toOption, Option.getD_some, readAll_whole (whole_of_fits hw hp),
    readAll_whole (whole_of_fits hw hp'), List.length_cons, refusal?_congr hv hs hs', hopening, Except.map,
    intact_of_whole (whole_of_fits hw hp), intact_of_whole (whole_of_fits hw hp'), List.nil_append]
  cases hr : refusal? c' run (ms.length + 1) s' batch with
  | some e => exact ⟨rfl, rest, ms, hw, rfl, rfl⟩
  | none =>
    refine ⟨rfl, ?_⟩
    by_cases hb : batch = []
    · simp only [if_pos hb]
      exact ⟨rest, ms, hw, rfl, rfl⟩
    · have hfit := (fault?_eq_none_iff.mp (of_not_refused hr).2).1
      rw [hopening, List.nil_append] at hfit
      simp only [if_neg hb, List.append_assoc]
      exact ⟨_, _, hw.append (whole_framed hfit), rfl, rfl⟩

end AppendTo

/-! ## Reading related files -/

section Logs

variable {l l' : Ledger} {run : RunId} {p p' : Message}

theorem logs_congr (hf : l.file run = l'.file run) (hv : l.config.schemaVersion = l'.config.schemaVersion)
    (hc : l.config.logChunk = l'.config.logChunk) : l.logs run = l'.logs run := by
  have hread : l.disk.read (l.config.logPath run) = l'.disk.read (l'.config.logPath run) := hf
  rw [logs, logs, hread, hv, hc]

theorem chunked_cons (read : ReadOutcome) (ms : List Message) (rest : List (List Message)) :
    chunked read (ms :: rest) = ⟨ms, read.isTruncated && rest.isEmpty⟩ :: chunked read rest := by
  cases rest <;> simp [chunked]

theorem chunked_congr {read read' : ReadOutcome} (h : read.isTruncated = read'.isTruncated)
    (pieces : List (List Message)) : chunked read pieces = chunked read' pieces := by
  induction pieces with
  | nil => rfl
  | cons ms rest ih => rw [chunked_cons, chunked_cons, h, ih]

/-- What is read of a log that opens rightly. -/
theorem logs_of_opens {log : Bytes} {ms : List Message} (hf : l.file run = .ok log) (hw : Whole log (p :: ms))
    (hp : Opens l.config.schemaVersion p) :
    l.logs run = .ok (chunked ⟨p :: ms, none⟩ (parts (max 1 l.config.logChunk) (p :: ms))) := by
  have hread : l.disk.read (l.config.logPath run) = .ok log := hf
  have hm : (p :: ms).head? = some p := rfl
  obtain ⟨q, hq⟩ := openingPreamble_of_opens hm hp
  simp only [logs, hread, readLog, readAll_whole hw, hq, Except.map]

/-- Logs that are split are read alike but for the first message. -/
theorem logs_split (hs : Split p p' (l.file run) (l'.file run)) (hp : Opens l.config.schemaVersion p)
    (hp' : Opens l'.config.schemaVersion p') (hc : l.config.logChunk = l'.config.logChunk) :
    SameBut p p' (.read (l.logs run)) (.read (l'.logs run)) := by
  obtain ⟨rest, ms, hw, hf, hf'⟩ := hs
  rw [logs_of_opens hf (whole_of_fits hw hp.fits) hp, logs_of_opens hf' (whole_of_fits hw hp'.fits) hp', hc,
    chunked_congr (show ReadOutcome.isTruncated ⟨p' :: ms, none⟩ = ReadOutcome.isTruncated ⟨p :: ms, none⟩ from rfl), parts, parts, chunked_cons, chunked_cons]
  exact Or.inr ⟨_, _, _, rfl, rfl⟩

end Logs

/-! ## Histories with one configuration -/

section Settings

variable {l : Ledger}

theorem config_serve {r : Request} (h : ∀ c, r = .restart c → c = l.config) : (l.serve r).2.config = l.config := by
  cases r with
  | dispatch run batch => exact (l.dispatch_fields run batch).2.1
  | watch run =>
    simp only [serve, watch, Prod.map_snd, id]
    split <;> simp
  | poll number =>
    simp only [serve, next]
    split <;> rfl
  | close run =>
    simp only [serve, close]
    split
    · split <;> rfl
    · rfl
  | restart c => exact h c rfl
  | _ => rfl

theorem config_after {rs : List Request} (h : ∀ c, .restart c ∈ rs → c = l.config) :
    (l.after rs).config = l.config := by
  induction rs generalizing l with
  | nil => rfl
  | cons r rs ih =>
    have hs : (l.serve r).2.config = l.config := config_serve fun c hc => h c (by simp [hc])
    exact (ih fun c hc => (h c (List.mem_cons_of_mem _ hc)).trans hs.symm).trans hs

theorem keeps_of_restart {c : Config} {rs : List Request} (h : ∀ c', .restart c' ∈ rs → c' = c) :
    ∀ r ∈ rs, r.Keeps c := by
  intro r hr
  cases r with
  | restart c' => exact h c' hr ▸ .refl _
  | _ => trivial

end Settings

/-- A preamble that the ledger supplied names the schema of the ledger. -/
theorem version_of_supplies {l : Ledger} {rs : List Request} {p : Message} (h : l.Supplies rs p)
    (hr : ∀ c, .restart c ∈ rs → c = l.config) :
    p.preamble?.map Preamble.version = some l.config.schemaVersion := by
  obtain ⟨before, hb, rfl⟩ := h
  have hc : (l.after before).config = l.config := config_after fun c hc => hr c (hb.subset hc)
  exact congrArg (fun c : Config => some c.schemaVersion) hc

theorem opens_of_supplies {l : Ledger} {rs : List Request} {p : Message} (h : l.Supplies rs p)
    (hr : ∀ c, .restart c ∈ rs → c = l.config) : Opens l.config.schemaVersion p := by
  obtain ⟨q, hq, hv⟩ := Option.map_eq_some_iff.mp (version_of_supplies h hr)
  exact ⟨q, hq, hv ▸ Version.canRead_self _⟩

/-! ## Two ledgers that serve a run -/

/-- What two ledgers have of a run: the same file, and answers that were all the same; or files that are split by the
preambles that each of them supplied, and answers that are the same but for those. -/
def Twins (l : Ledger) (rs : List Request) (l' : Ledger) (rs' : List Request) (run : RunId) : Prop :=
  let answers := answersOf run (l.events rs)
  let answers' := answersOf run (l'.events rs')
  (l.after rs).file run = (l'.after rs').file run ∧ answers = answers' ∨
    ∃ p p', l.Supplies rs p ∧ l'.Supplies rs' p' ∧ Split p p' ((l.after rs).file run) ((l'.after rs').file run) ∧
      List.Forall₂ (SameBut p p') answers answers'

section Twins

variable {l l' : Ledger} {rs rs' : List Request} {run : RunId}

theorem forall₂_sameBut_refl (p p' : Message) (answers : List Answer) :
    List.Forall₂ (SameBut p p') answers answers := List.forall₂_same.mpr fun _ _ => Or.inl rfl

theorem answersOf_append (run : RunId) (es es' : List (Request × Answer)) :
    answersOf run (es ++ es') = answersOf run es ++ answersOf run es' := List.filterMap_append

theorem answersOf_of_not_concerns {r : Request} (hc : r.concerns run = false) (answer : Answer) :
    answersOf run [(r, answer)] = [] := by
  cases r <;> simp_all [answersOf, Request.concerns]

/-- A request that does not concern the run is served by one of the ledgers. -/
theorem Twins.serve_other (h : Twins l rs l' rs' run) {r : Request} (hc : r.concerns run = false)
    (hf : ((l.after rs).serve r).2.file run = (l.after rs).file run) : Twins l (rs ++ [r]) l' rs' run := by
  have ha : answersOf run (l.events (rs ++ [r])) = answersOf run (l.events rs) := by
    rw [events_concat, answersOf_append, answersOf_of_not_concerns hc, List.append_nil]
  unfold Twins
  rw [ha, after_concat, hf]
  rcases h with h | ⟨p, p', hp, hp', h⟩
  · exact Or.inl h
  · exact Or.inr ⟨p, p', hp.concat r, hp', h⟩

/-- A request is served by both ledgers, if what it does to files that are the same or split keeps them so. -/
theorem Twins.serve_both (h : Twins l rs l' rs' run) {r : Request}
    (hsame : (l.after rs).file run = (l'.after rs').file run →
      answersOf run [(r, ((l.after rs).serve r).1)] = answersOf run [(r, ((l'.after rs').serve r).1)] ∧
      (((l.after rs).serve r).2.file run = ((l'.after rs').serve r).2.file run ∨
        Split (l.after rs).suppliedPreamble (l'.after rs').suppliedPreamble (((l.after rs).serve r).2.file run)
          (((l'.after rs').serve r).2.file run)))
    (hsplit : ∀ p p', l.Supplies rs p → l'.Supplies rs' p' →
      Split p p' ((l.after rs).file run) ((l'.after rs').file run) →
      List.Forall₂ (SameBut p p') (answersOf run [(r, ((l.after rs).serve r).1)])
        (answersOf run [(r, ((l'.after rs').serve r).1)]) ∧
      Split p p' (((l.after rs).serve r).2.file run) (((l'.after rs').serve r).2.file run)) :
    Twins l (rs ++ [r]) l' (rs' ++ [r]) run := by
  unfold Twins
  rw [events_concat, events_concat, answersOf_append, answersOf_append, after_concat, after_concat]
  rcases h with ⟨hf, ha⟩ | ⟨p, p', hp, hp', hs, ha⟩
  · obtain ⟨hanswer, hfile | hfile⟩ := hsame hf
    · exact Or.inl ⟨hfile, by rw [ha, hanswer]⟩
    · refine Or.inr ⟨_, _, ⟨rs, List.prefix_append _ _, rfl⟩, ⟨rs', List.prefix_append _ _, rfl⟩, hfile, ?_⟩
      rw [ha, hanswer]
      exact forall₂_sameBut_refl _ _ _
  · obtain ⟨hanswer, hfile⟩ := hsplit p p' hp hp' hs
    exact Or.inr ⟨p, p', hp.concat r, hp'.concat r, hfile, List.rel_append ha hanswer⟩

/-- A dispatch to the run keeps the ledgers twins. -/
theorem Twins.dispatch (h : Twins l rs l' rs' run) (hi : (l.after rs).Informed) (hi' : (l'.after rs').Informed)
    (hr : ∀ c, .restart c ∈ rs → c = l.config) (hr' : ∀ c, .restart c ∈ rs' → c = l'.config)
    (hv : l.config.schemaVersion = l'.config.schemaVersion) (batch : List Message) :
    Twins l (rs ++ [.dispatch run batch]) l' (rs' ++ [.dispatch run batch]) run := by
  obtain ⟨ha, hs⟩ := dispatch_appendTo hi run batch
  obtain ⟨ha', hs'⟩ := dispatch_appendTo hi' run batch
  have hversion : (l.after rs).config.schemaVersion = (l'.after rs').config.schemaVersion := by
    rw [config_after hr, config_after hr', hv]
  have hfit := (l.after rs).opens_suppliedPreamble.fits
  have hfit' := (l'.after rs').opens_suppliedPreamble.fits
  have hanswers (l : Ledger) : answersOf run [(.dispatch run batch, (l.serve (.dispatch run batch)).1)] =
      [.dispatched (l.dispatch run batch).1] := by simp [answersOf, Ledger.serve]
  have hfile : ((l.after rs).serve (.dispatch run batch)).2.file run = _ := hs.file_eq
  have hfile' : ((l'.after rs').serve (.dispatch run batch)).2.file run = _ := hs'.file_eq
  refine h.serve_both (fun hf => ?_) fun p p' hp hp' hsplit => ?_
  · rw [hanswers, hanswers, ha, ha', hfile, hfile', ← hf]
    have hrec := hi.recoverable run
    rw [octets_eq_getD] at hrec
    obtain ⟨hanswer, hfiles⟩ := appendTo_same hversion hfit hfit' hrec run batch
    exact ⟨by rw [hanswer], hfiles⟩
  · rw [hanswers, hanswers, ha, ha', hfile, hfile']
    obtain ⟨hanswer, hfiles⟩ := appendTo_split hversion hfit hfit' (opens_of_supplies hp hr).fits
      (opens_of_supplies hp' hr').fits hsplit run batch
    rw [hanswer]
    exact ⟨forall₂_sameBut_refl _ _ _, hfiles⟩

/-- Reading the log of the run keeps the ledgers twins. -/
theorem Twins.logs (h : Twins l rs l' rs' run) (hr : ∀ c, .restart c ∈ rs → c = l.config)
    (hr' : ∀ c, .restart c ∈ rs' → c = l'.config) (hv : l.config.schemaVersion = l'.config.schemaVersion)
    (hc : l.config.logChunk = l'.config.logChunk) : Twins l (rs ++ [.logs run]) l' (rs' ++ [.logs run]) run := by
  have hanswers (l : Ledger) : answersOf run [(.logs run, (l.serve (.logs run)).1)] = [.read (l.logs run)] := by
    simp [answersOf, Ledger.serve]
  refine h.serve_both (fun hf => ?_) fun p p' hp hp' hsplit => ?_
  · rw [hanswers, hanswers, logs_congr hf]
    · exact ⟨rfl, Or.inl hf⟩
    · rw [config_after hr, config_after hr', hv]
    · rw [config_after hr, config_after hr', hc]
  · rw [hanswers, hanswers]
    refine ⟨.cons (logs_split hsplit ?_ ?_ ?_) .nil, hsplit⟩
    · rw [config_after hr]
      exact opens_of_supplies hp hr
    · rw [config_after hr']
      exact opens_of_supplies hp' hr'
    · rw [config_after hr, config_after hr', hc]

/-- A request that concerns the run but not its log keeps the ledgers twins. -/
theorem Twins.silent (h : Twins l rs l' rs' run) {r : Request} (ha : ∀ answer, answersOf run [(r, answer)] = [])
    (hf : ∀ l : Ledger, (l.serve r).2.file run = l.file run) : Twins l (rs ++ [r]) l' (rs' ++ [r]) run := by
  refine h.serve_both (fun hfile => ?_) fun p p' _ _ hsplit => ?_
  · rw [ha, ha, hf, hf]
    exact ⟨rfl, Or.inl hfile⟩
  · rw [ha, ha, hf, hf]
    exact ⟨.nil, hsplit⟩

theorem not_mem_own_restart (rs : List Request) (run : RunId) (c : Config) :
    .restart c ∉ rs.filter (·.concerns run) := fun h => by simpa [Request.concerns] using List.of_mem_filter h

/-- **Every history keeps twins**, of which one is asked only what concerns the run. -/
theorem twins_after (hi : l.Informed) (hi' : l'.Informed) (hf : l.file run = l'.file run)
    (hr : ∀ c, .restart c ∈ rs → c = l.config) (hv : l.config.schemaVersion = l'.config.schemaVersion)
    (hc : l.config.logChunk = l'.config.logChunk) : Twins l rs l' (rs.filter (·.concerns run)) run := by
  induction rs using List.reverseRecOn with
  | nil => exact Or.inl ⟨hf, rfl⟩
  | append_singleton rs r ih =>
    have hrs : ∀ c, .restart c ∈ rs → c = l.config := fun c hm => hr c (List.mem_append_left _ hm)
    have hown (c : Config) (hm : .restart c ∈ rs.filter (·.concerns run)) : c = l'.config :=
      absurd hm (not_mem_own_restart rs run c)
    have ih := ih hrs
    obtain ⟨hi₁, ha⟩ := informed_after hi (keeps_of_restart hrs)
    have hi₂ := (informed_after hi' (keeps_of_restart hown)).1
    by_cases hcon : r.concerns run
    · rw [List.filter_append, List.filter_cons_of_pos hcon, List.filter_nil]
      have hrun {run' : RunId} (h : decide (run' = run) = true) : run' = run := of_decide_eq_true h
      cases r with
      | dispatch run' batch =>
        obtain rfl := hrun hcon
        exact ih.dispatch hi₁ hi₂ hrs hown hv batch
      | logs run' =>
        obtain rfl := hrun hcon
        exact ih.logs hrs hown hv hc
      | watch run' =>
        exact ih.silent (fun _ => rfl) fun l => (kept_serve (r := .watch run') trivial (by simp)).file_eq run
      | close run' => exact ih.silent (fun _ => rfl) fun l => (kept_close l run').file_eq run
      | _ => cases hcon
    · rw [List.filter_append, List.filter_cons_of_neg hcon, List.filter_nil, List.append_nil]
      have hkeeps : r.Keeps (l.after rs).config :=
        (keeps_of_restart hr r (by simp)).of_agrees ha
      refine ih.serve_other (by simpa using hcon) (file_serve hi₁ hkeeps ?_)
      rintro batch rfl
      simp [Request.concerns] at hcon

end Twins

/-- **Runs do not disturb each other.** Two ledgers are opened on the same files, which may be damaged. One is asked
anything for any number of runs, is opened again any number of times with the same settings, and lets go of runs; the
other is asked what concerns one run only, and has room for however many runs. At every moment they hold the same
messages in the log of that run and have answered its dispatches and readings alike, but for the identifier and the
times of a preamble that each of them supplied. -/
theorem isolated_after {config : Config} {disk : Disk} (clock clock' : Clock) (room : Nat) (hs : disk.Sound)
    (hb : disk.Bounded) {rs : List Request} (hr : ∀ c, .restart c ∈ rs → c = config) (run : RunId) :
    let many := start config disk clock
    let alone := start { config with maxOpenRuns := room } disk clock'
    let own := rs.filter (·.concerns run)
    let contents := ((many.after rs).file run).map readAll
    let contents' := ((alone.after own).file run).map readAll
    let answers := answersOf run (many.events rs)
    let answers' := answersOf run (alone.events own)
    contents = contents' ∧ answers = answers' ∨
      ∃ p p', many.Supplies rs p ∧ alone.Supplies own p' ∧
        (∀ m ∈ [p, p'], m.preamble?.map Preamble.version = some config.schemaVersion) ∧
        List.Forall₂ (SameBut p p') answers answers' ∧
        ∃ ms, contents = .ok ⟨p :: ms, none⟩ ∧ contents' = .ok ⟨p' :: ms, none⟩ := by
  intro many alone own contents contents' answers answers'
  have hi : many.Informed := informed_of_empty hs hb rfl
  have hi' : alone.Informed := informed_of_empty hs hb rfl
  have htwins : Twins many rs alone own run := twins_after hi hi' rfl hr rfl rfl
  rcases htwins with ⟨hfile, hanswers⟩ | ⟨p, p', hp, hp', ⟨rest, ms, hw, hfile, hfile'⟩, hanswers⟩
  · exact Or.inl ⟨congrArg (Except.map readAll) hfile, hanswers⟩
  · have hown (c : Config) (hm : .restart c ∈ own) : c = alone.config := absurd hm (not_mem_own_restart rs run c)
    have hfit : Frame.Fits p := (opens_of_supplies hp hr).fits
    have hfit' : Frame.Fits p' := (opens_of_supplies hp' hown).fits
    have hversions : ∀ m ∈ [p, p'], m.preamble?.map Preamble.version = some config.schemaVersion := by
      rintro m hm
      rcases List.mem_pair.mp hm with rfl | rfl
      · exact version_of_supplies hp hr
      · exact version_of_supplies hp' hown
    refine Or.inr ⟨p, p', hp, hp', hversions, hanswers, ms, ?_, ?_⟩
    · show ((many.after rs).file run).map readAll = _
      rw [hfile, Except.map, readAll_whole (whole_of_fits hw hfit)]
    · show ((alone.after own).file run).map readAll = _
      rw [hfile', Except.map, readAll_whole (whole_of_fits hw hfit')]

/-- A ledger without room for idle runs, which is opened again, beside one with another clock. -/
theorem isolated_after_crowded :
    let config := { Config.rootedAt "d" with maxOpenRuns := 0 }
    let clock : Clock := ⟨⟨0, 0⟩, 0⟩
    let clock' : Clock := ⟨⟨9, 0⟩, 5⟩
    let run (n : Nat) : RunId := ⟨.ofNat n⟩
    let m (n : Nat) : Message := ⟨⟨.ofNat n⟩, ⟨5, 6⟩, .heartbeat⟩
    let rs : List Request := [.dispatch (run 1) [m 1], .dispatch (run 2) [m 2], .close (run 1), .restart config,
      .wait ⟨⟨3, 0⟩, 0⟩, .dispatch (run 1) [m 3], .watch (run 2), .release, .logs (run 1)]
    let many := start config .empty clock
    let alone := start { config with maxOpenRuns := 8 } .empty clock'
    let own := rs.filter (·.concerns (run 1))
    Disk.empty.Sound ∧ Disk.empty.Bounded ∧ (∀ c, .restart c ∈ rs → c = config) ∧
      own = [.dispatch (run 1) [m 1], .close (run 1), .dispatch (run 1) [m 3], .logs (run 1)] ∧
      ∃ p p', many.Supplies rs p ∧ alone.Supplies own p' ∧
        List.Forall₂ (SameBut p p') (answersOf (run 1) (many.events rs)) (answersOf (run 1) (alone.events own)) := by
  intro config clock clock' run m rs many alone own
  have hb : Disk.empty.Bounded := by decide
  have hr : ∀ c, .restart c ∈ rs → c = config := by simp [rs]
  have hown : own = [.dispatch (run 1) [m 1], .close (run 1), .dispatch (run 1) [m 3], .logs (run 1)] := by
    decide +kernel
  have hne : answersOf (run 1) (many.events rs) ≠ answersOf (run 1) (alone.events own) := by decide +kernel
  rcases isolated_after clock clock' 8 Disk.sound_empty hb hr (run 1) with ⟨-, h⟩ | ⟨p, p', hp, hp', -, h, -⟩
  · exact absurd h hne
  · exact ⟨Disk.sound_empty, hb, hr, hown, p, p', hp, hp', h⟩

end RunLedger.Ledger
