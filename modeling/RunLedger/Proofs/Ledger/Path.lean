import RunLedger.Ledger.Config
import RunLedger.Ledger.Upload
import RunLedger.Proofs.Digest

/-!
# Where the files of a ledger lie

A relative path is put behind the same front, whatever it is (`toList_joinPath`). So the logs of two runs have different
paths (`logPath_inj`), artifacts and the files that they are collected in have paths of their own for each digest
(`Upload.target_inj`, `Upload.part_inj`, `Upload.part_ne_target`), and so have the records of uploads
(`recordPath_inj`). None of these lies where a log lies (`recordPath_ne_logPath`, `target_ne_logPath`, `part_ne_logPath`).
-/

namespace RunLedger

/-- What stands in front of a relative path behind a base. -/
def pathFront (base : String) : List Char :=
  if base.isEmpty then [] else if base.toList.getLast? = some '/' then base.toList else base.toList ++ ['/']

theorem toList_joinPath (base : String) {tail : String} (h : tail.toList.head? ≠ some '/') :
    (joinPath base tail).toList = pathFront base ++ tail.toList := by
  unfold joinPath pathFront
  by_cases he : base.isEmpty
  · simp [he]
  · by_cases hl : base.toList.getLast? = some '/' <;> simp [he, h, hl]

theorem pathFront_of_append {base : String} {front : List Char} {c : Char} (hb : base.toList = front ++ [c])
    (hc : c ≠ '/') : pathFront base = front ++ [c, '/'] := by
  have he : base.isEmpty = false := by
    rw [Bool.eq_false_iff]
    intro h
    rw [String.isEmpty_iff] at h
    simp [h] at hb
  simp [pathFront, he, hb, hc]

namespace Ledger.Config

theorem pathFront_runsDirectory (c : Config) : pathFront c.runsDirectory = pathFront c.root ++ "runs/".toList := by
  have hr : c.runsDirectory.toList = pathFront c.root ++ "run".toList ++ ['s'] := by
    rw [runsDirectory, toList_joinPath _ (by decide), List.append_assoc]
    rfl
  rw [pathFront_of_append hr (by decide), List.append_assoc]
  rfl

theorem toList_logPath (c : Config) (run : RunId) :
    (c.logPath run).toList = pathFront c.root ++ "runs/".toList ++ run.text.toList ++ ".log".toList := by
  rw [logPath, toList_joinPath _ (by simp [RunId.text, RunId.tag]), pathFront_runsDirectory]
  simp [String.toList_append]

/-- **Different runs have different logs.** -/
theorem logPath_inj {c : Config} {run run' : RunId} (h : c.logPath run = c.logPath run') : run = run' := by
  have hl := congrArg String.toList h
  rw [toList_logPath, toList_logPath] at hl
  exact RunId.text_inj (String.toList_injective (List.append_cancel_left (List.append_cancel_right hl)))

theorem toList_recordPath (c : Config) (run : RunId) :
    (c.recordPath run).toList = pathFront c.root ++ "runs/".toList ++ run.text.toList ++ ".upload".toList := by
  rw [recordPath, toList_joinPath _ (by simp [RunId.text, RunId.tag]), pathFront_runsDirectory]
  simp [String.toList_append]

/-- **Different runs have different records of uploads.** -/
theorem recordPath_inj {c : Config} {run run' : RunId} (h : c.recordPath run = c.recordPath run') : run = run' := by
  have hl := congrArg String.toList h
  rw [toList_recordPath, toList_recordPath] at hl
  exact RunId.text_inj (String.toList_injective (List.append_cancel_left (List.append_cancel_right hl)))

/-- No record of an upload is the log of a run. -/
theorem recordPath_ne_logPath (c : Config) (run run' : RunId) : c.recordPath run ≠ c.logPath run' := by
  intro h
  have hl := congrArg (fun s : String => s.toList.getLast?) h
  simp only [toList_recordPath, toList_logPath] at hl
  rw [List.getLast?_append, Option.or_of_isSome (by decide), List.getLast?_append, Option.or_of_isSome (by decide)] at hl
  exact absurd hl (by decide)

end Ledger.Config

/-! ## Uploads -/

namespace Ledger.Upload

variable {directory : String} {key key' : Digest}

theorem head?_text_ne (key : Digest) (tail : String) : (key.text ++ tail).toList.head? ≠ some '/' := by
  intro h
  rw [String.toList_append, List.head?_append, Option.or_of_isSome] at h
  · exact key.separator_notMem_text (List.mem_of_head? h)
  · rw [List.isSome_head?, ← List.length_pos_iff, Digest.length_text]
    decide

theorem toList_target (directory : String) (key : Digest) :
    (target directory key).toList = pathFront directory ++ key.text.toList := by
  rw [target, toList_joinPath _ (by simpa using head?_text_ne key "")]

theorem toList_part (directory : String) (key : Digest) :
    (part directory key).toList = pathFront directory ++ (key.text.toList ++ ".part".toList) := by
  rw [part, toList_joinPath _ (head?_text_ne key ".part"), String.toList_append]

/-- **Different artifacts are kept at different places.** -/
theorem target_inj (h : target directory key = target directory key') : key = key' := by
  have hl := congrArg String.toList h
  rw [toList_target, toList_target] at hl
  exact Digest.text_inj (String.toList_injective (List.append_cancel_left hl))

/-- **Different artifacts are collected at different places.** -/
theorem part_inj (h : part directory key = part directory key') : key = key' := by
  have hl := congrArg String.toList h
  rw [toList_part, toList_part] at hl
  exact Digest.text_inj (String.toList_injective (List.append_cancel_right (List.append_cancel_left hl)))

/-- No artifact is kept where one is collected. -/
theorem part_ne_target (directory : String) (key key' : Digest) : part directory key ≠ target directory key' := by
  intro h
  have hl := congrArg (fun s : String => s.toList.length) h
  simp [toList_part, toList_target] at hl

end Ledger.Upload

namespace Ledger.Config

theorem pathFront_uploadsDirectory (c : Config) :
    pathFront c.uploadsDirectory = pathFront c.root ++ "uploads/".toList := by
  have hr : c.uploadsDirectory.toList = pathFront c.root ++ "upload".toList ++ ['s'] := by
    rw [uploadsDirectory, toList_joinPath _ (by decide), List.append_assoc]
    rfl
  rw [pathFront_of_append hr (by decide), List.append_assoc]
  rfl

/-- No artifact lies where the record of an upload lies. -/
theorem target_ne_recordPath (c : Config) (key : Digest) (run : RunId) :
    Upload.target c.uploadsDirectory key ≠ c.recordPath run := by
  intro h
  have hl := congrArg String.toList h
  rw [Upload.toList_target, toList_recordPath, pathFront_uploadsDirectory] at hl
  simp at hl

theorem part_ne_recordPath (c : Config) (key : Digest) (run : RunId) :
    Upload.part c.uploadsDirectory key ≠ c.recordPath run := by
  intro h
  have hl := congrArg String.toList h
  rw [Upload.toList_part, toList_recordPath, pathFront_uploadsDirectory] at hl
  simp at hl

theorem target_ne_logPath (c : Config) (key : Digest) (run : RunId) :
    Upload.target c.uploadsDirectory key ≠ c.logPath run := by
  intro h
  have hl := congrArg String.toList h
  rw [Upload.toList_target, toList_logPath, pathFront_uploadsDirectory] at hl
  simp at hl

theorem part_ne_logPath (c : Config) (key : Digest) (run : RunId) :
    Upload.part c.uploadsDirectory key ≠ c.logPath run := by
  intro h
  have hl := congrArg String.toList h
  rw [Upload.toList_part, toList_logPath, pathFront_uploadsDirectory] at hl
  simp at hl

end Ledger.Config

end RunLedger
