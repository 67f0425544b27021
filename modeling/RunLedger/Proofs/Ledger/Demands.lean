import RunLedger.Proofs.Ledger.Recovery
import RunLedger.Proofs.Ledger.Uploads

/-!
# All that is demanded of a ledger on one root

A ledger is sent artifacts between its requests, and it may be opened again with any settings, as long as its files are
those under the same root (`Demand.Rooted`). All that keeps a ledger `Informed` (`informed_meet`, `informed_meeting`),
and a file of a log changes only by a dispatch to its run (`file_meet`): artifacts and the records of uploads lie
elsewhere (`upload_spec`).
-/

namespace RunLedger.Ledger

/-- A request, or an artifact that is sent. -/
inductive Demand where
  | request (r : Request)
  | upload (chunks : List UploadChunk)
  deriving DecidableEq

/-- The ledger stays under its root when it is opened again; all other settings may change. -/
def Demand.Rooted (root : String) : Demand → Prop
  | .request (.restart c) => c.root = root
  | _ => True

/-- The ledger after one demand. -/
def meet (l : Ledger) : Demand → Ledger
  | .request r => (l.serve r).2
  | .upload chunks => (l.upload chunks).2

/-- The ledger after demands. -/
def meeting (l : Ledger) (demands : List Demand) : Ledger := demands.foldl meet l

@[simp] theorem meeting_nil (l : Ledger) : l.meeting [] = l := rfl

theorem meeting_concat (l : Ledger) (ds : List Demand) (d : Demand) :
    l.meeting (ds ++ [d]) = (l.meeting ds).meet d := by
  simp [meeting]

theorem Config.logPath_eq_of_root {c c' : Config} (h : c.root = c'.root) (run : RunId) :
    c.logPath run = c'.logPath run := by
  simp only [logPath, runsDirectory, h]

theorem Request.keeps_of_not_restart {r : Request} (h : ∀ c, r ≠ .restart c) (c : Config) : r.Keeps c := by
  cases r with
  | restart c' => exact absurd rfl (h c')
  | _ => trivial

section

variable {l : Ledger} {run run' : RunId}

/-! ## Uploads -/

/-- No log lies at a place of an artifact. -/
theorem Config.not_site_logPath (c : Config) (key : Digest) (run : RunId) :
    ¬Upload.Site c.uploadsDirectory key (c.logPath run) := by
  intro h
  rcases h with h | h
  · exact c.part_ne_logPath key run h.symm
  · exact c.target_ne_logPath key run h.symm

/-- **An upload leaves all logs as they are,** and everything that the ledger remembers. -/
theorem upload_spec (hs : l.disk.Sound) (chunks : List UploadChunk) :
    (l.upload chunks).2.disk.Sound ∧
      (∀ run, l.disk.Same (l.upload chunks).2.disk (l.config.logPath run)) ∧
      (l.upload chunks).2.config = l.config ∧ (l.upload chunks).2.runs = l.runs ∧
      (l.upload chunks).2.watches = l.watches := by
  obtain ⟨hs₁, hsame⟩ := receiveUpload_same hs l.config.uploadsDirectory chunks
  have hlogs (run : RunId) := hsame (l.config.logPath run) fun key => l.config.not_site_logPath key run
  unfold upload
  cases hreceived : receiveUpload l.disk l.config.uploadsDirectory chunks with
  | mk result d =>
    rw [hreceived] at hs₁ hlogs
    cases result with
    | error e => exact ⟨hs₁, hlogs, rfl, rfl, rfl⟩
    | ok key =>
      -- the record of the upload is written, unless a directory is in its place
      by_cases hd : d.names.get? (l.config.recordPath ⟨l.clock.stamp.id.uuid⟩) = some .directory
      · have hfail (bytes : Bytes) : d.replace (l.config.recordPath ⟨l.clock.stamp.id.uuid⟩) bytes =
            .error .isDirectory := by simp [Disk.replace, Disk.openEmpty, Disk.openFile, hd, Except.map]
        simp only [hfail]
        exact ⟨hs₁, hlogs, trivial, trivial, trivial⟩
      · obtain ⟨d', hr, hs₂, -, hsame₂⟩ := Disk.replace_spec hs₁ hd (Text.Utf8.encode key.text)
        simp only [hr]
        refine ⟨hs₂, fun run => (hlogs run).trans (hsame₂ _ fun h => ?_), trivial, trivial, trivial⟩
        exact l.config.recordPath_ne_logPath _ _ h.symm

/-! ## One demand -/

/-- **Every demand keeps a ledger informed.** -/
theorem informed_meet (h : l.Informed) {d : Demand} (hd : d.Rooted l.config.root) :
    (l.meet d).Informed ∧ (l.meet d).config.root = l.config.root := by
  cases d with
  | request r =>
    by_cases hr : ∃ c, r = .restart c
    · obtain ⟨c, rfl⟩ := hr
      have hroot : c.root = l.config.root := hd
      refine ⟨⟨h.sound, fun run => ?_, fun hlog => by simp [meet, serve] at hlog⟩, hroot⟩
      show Recoverable (l.disk.octets (c.logPath run))
      rw [Config.logPath_eq_of_root hroot]
      exact h.recoverable run
    · obtain ⟨hi, ha⟩ := informed_serve h (r.keeps_of_not_restart (fun c hc => hr ⟨c, hc⟩) l.config)
      exact ⟨hi, ha.1⟩
  | upload chunks =>
    obtain ⟨hs, hsame, hc, hr, -⟩ := upload_spec h.sound chunks
    refine ⟨⟨hs, fun run => ?_, fun {run log} hlog => ?_⟩, congrArg Config.root hc⟩
    · show Recoverable ((l.upload chunks).2.disk.octets ((l.upload chunks).2.config.logPath run))
      rw [hc, (hsame run).octets_eq]
      exact h.recoverable run
    · have hlog : l.runs.get? run = some log := hr ▸ hlog
      show log.Right (l.upload chunks).2.disk ((l.upload chunks).2.config.logPath run)
      rw [hc]
      exact (h.right hlog).of_same (hsame run)

/-- **The file of a log changes only by dispatches to its run.** -/
theorem file_meet (h : l.Informed) {d : Demand} (hd : d.Rooted l.config.root)
    (hn : ∀ batch, d ≠ .request (.dispatch run batch)) : (l.meet d).file run = l.file run := by
  cases d with
  | request r =>
    by_cases hr : ∃ c, r = .restart c
    · obtain ⟨c, rfl⟩ := hr
      have hroot : c.root = l.config.root := hd
      show l.disk.read (c.logPath run) = l.disk.read (l.config.logPath run)
      rw [Config.logPath_eq_of_root hroot]
    · exact file_serve h (r.keeps_of_not_restart (fun c hc => hr ⟨c, hc⟩) l.config) fun batch hb => hn batch (by rw [hb])
  | upload chunks =>
    obtain ⟨-, hsame, hc, -⟩ := upload_spec h.sound chunks
    show (l.upload chunks).2.disk.read ((l.upload chunks).2.config.logPath run) = _
    rw [hc, (hsame run).read_eq]
    rfl

/-- A batch makes no directory of a file. -/
theorem appendTo_ne_directory {file : Except IoError Bytes} (h : file ≠ .error .isDirectory) (c : Config) (run : RunId)
    (supplied : Message) (batch : List Message) : (appendTo c run supplied batch file).2 ≠ .error .isDirectory := by
  have hintact : file.map intact ≠ .error .isDirectory := by
    cases file with
    | ok log => exact fun he => by cases he
    | error e => exact h
  unfold appendTo
  rw [if_neg h]
  dsimp only
  split
  · exact hintact
  · split
    · exact hintact
    · exact fun he => by cases he

/-- Where no directory is, no demand makes one in place of a log. -/
theorem file_ne_directory_meet (h : l.Informed) {d : Demand} (hd : d.Rooted l.config.root)
    (hf : l.file run ≠ .error .isDirectory) : (l.meet d).file run ≠ .error .isDirectory := by
  by_cases hn : ∃ batch, d = .request (.dispatch run batch)
  · obtain ⟨batch, rfl⟩ := hn
    show (l.dispatch run batch).2.file run ≠ _
    rw [(dispatch_appendTo h run batch).2.file_eq]
    exact appendTo_ne_directory hf _ _ _ _
  · rw [file_meet h hd fun batch hb => hn ⟨batch, hb⟩]
    exact hf

/-! ## Histories -/

/-- **Whatever is demanded keeps a ledger informed.** -/
theorem informed_meeting (h : l.Informed) {ds : List Demand} (hd : ∀ d ∈ ds, d.Rooted l.config.root) :
    (l.meeting ds).Informed ∧ (l.meeting ds).config.root = l.config.root := by
  induction ds using List.reverseRecOn with
  | nil => exact ⟨h, rfl⟩
  | append_singleton ds d ih =>
    obtain ⟨hi, hroot⟩ := ih fun d hm => hd d (List.mem_append_left _ hm)
    rw [meeting_concat]
    obtain ⟨hi', hroot'⟩ := informed_meet hi (hroot.symm ▸ hd d (by simp))
    exact ⟨hi', hroot'.trans hroot⟩

theorem file_ne_directory_meeting (h : l.Informed) {ds : List Demand} (hd : ∀ d ∈ ds, d.Rooted l.config.root)
    (hf : l.file run ≠ .error .isDirectory) : (l.meeting ds).file run ≠ .error .isDirectory := by
  induction ds using List.reverseRecOn with
  | nil => exact hf
  | append_singleton ds d ih =>
    have hds : ∀ d ∈ ds, d.Rooted l.config.root := fun d hm => hd d (List.mem_append_left _ hm)
    obtain ⟨hi, hroot⟩ := informed_meeting h hds
    rw [meeting_concat]
    exact file_ne_directory_meet hi (hroot.symm ▸ hd d (by simp)) (ih hds)

end

end RunLedger.Ledger
