import RunLedger.Proofs.Identifier.Case
import RunLedger.Proofs.Ledger.Path

/-!
# The files of different runs

Two paths lead to the same place if they have the same names between their separators, where empty names and the name of
the directory itself do not count (`pathNames`). A relative path adds its names to those of its base
(`pathNames_joinPath`), so the last name of a path under the directory of runs is the text of a run with an ending
(`Ledger.Config.pathNames_logPath`, `Ledger.Config.pathNames_recordPath`).

* `RunId.told_by_text_and_files`: a run is read back from its text, and its files are at no place of another file.
-/

namespace RunLedger

/-- The names that a path leads through. -/
def pathNames (path : List Char) : List (List Char) :=
  (path.splitOn '/').filter fun name => name ≠ [] ∧ name ≠ ['.']

/-! ## Names behind names -/

theorem pathNames_append (front rest : List Char) :
    pathNames (front ++ '/' :: rest) = pathNames front ++ pathNames rest := by
  rw [pathNames, List.splitOn_append_cons_self, List.filter_append, pathNames, pathNames]

theorem pathNames_nil : pathNames [] = [] := rfl

theorem pathNames_of_name {name : List Char} (hseparator : '/' ∉ name) (hnil : name ≠ []) (hdot : name ≠ ['.']) :
    pathNames name = [name] := by
  rw [pathNames, List.splitOn_eq_singleton hseparator]
  exact List.filter_cons_of_pos (by simp [hnil, hdot])

/-- A path behind a base adds its names. -/
theorem pathNames_pathFront_append (base : String) (rest : List Char) :
    pathNames (pathFront base ++ rest) = pathNames base.toList ++ pathNames rest := by
  unfold pathFront
  by_cases he : base.isEmpty
  · rw [if_pos he, String.isEmpty_iff.mp he]
    rfl
  · rw [if_neg he]
    by_cases hl : base.toList.getLast? = some '/'
    · -- the separator that the base ends with has no name behind it
      obtain ⟨front, hfront⟩ := List.getLast?_eq_some_iff.mp hl
      rw [if_pos hl, hfront, List.append_assoc, List.singleton_append, pathNames_append, pathNames_append,
        pathNames_nil, List.append_nil]
    · rw [if_neg hl, List.append_assoc, List.singleton_append, pathNames_append]

/-- **A relative path adds its names to those of its base.** -/
theorem pathNames_joinPath (base : String) {tail : String} (h : tail.toList.head? ≠ some '/') :
    pathNames (joinPath base tail).toList = pathNames base.toList ++ pathNames tail.toList := by
  rw [toList_joinPath base h, pathNames_pathFront_append]

namespace RunId

/-- The text of a run, whatever ends it, is one name of a path. -/
theorem pathNames_text (r : RunId) {ending : List Char} (h : '/' ∉ ending) :
    pathNames (r.text.toList ++ ending) = [r.text.toList ++ ending] := by
  have htext : r.text.toList = tag ++ r.uuid.text.toList := String.toList_ofList
  have hdigits : ∀ c ∈ r.uuid.text.toList, c ≠ '/' := Uuid.of_mem_text (P := fun c => c ≠ '/') (by decide) (by decide)
  refine pathNames_of_name ?_ (by simp [htext, tag]) (by simp [htext, tag])
  rw [htext, List.append_assoc, List.mem_append, List.mem_append]
  rintro (hmem | hmem | hmem)
  · exact absurd hmem (by decide)
  · exact hdigits _ hmem rfl
  · exact h hmem

/-- The names of two files with the texts of runs in front of one ending. -/
theorem append_names_inj_iff {r r' : RunId} {around around' : List (List Char)} {name ending : List Char} :
    around ++ [name] ++ [r.text.toList ++ ending] = around' ++ [name] ++ [r'.text.toList ++ ending] ↔
      r = r' ∧ around = around' := by
  constructor
  · intro h
    obtain ⟨hplace, hname⟩ := List.append_singleton_inj.mp h
    have htext := List.append_cancel_right hname
    exact ⟨text_inj (String.toList_injective htext), List.append_cancel_right hplace⟩
  · rintro ⟨rfl, rfl⟩
    rfl

end RunId

namespace Ledger.Config

theorem pathNames_runsDirectory (c : Config) :
    pathNames c.runsDirectory.toList = pathNames c.root.toList ++ ["runs".toList] := by
  rw [runsDirectory, pathNames_joinPath _ (by decide)]
  rfl

/-- **A log has the name of its run.** -/
theorem pathNames_logPath (c : Config) (run : RunId) : pathNames (c.logPath run).toList =
    pathNames c.root.toList ++ ["runs".toList] ++ [run.text.toList ++ ".log".toList] := by
  rw [logPath, pathNames_joinPath _ (by simp [RunId.text, RunId.tag]), pathNames_runsDirectory, String.toList_append,
    run.pathNames_text (by decide)]

/-- **The record of an upload has the name of its run.** -/
theorem pathNames_recordPath (c : Config) (run : RunId) : pathNames (c.recordPath run).toList =
    pathNames c.root.toList ++ ["runs".toList] ++ [run.text.toList ++ ".upload".toList] := by
  rw [recordPath, pathNames_joinPath _ (by simp [RunId.text, RunId.tag]), pathNames_runsDirectory,
    String.toList_append, run.pathNames_text (by decide)]

/-- **The logs of runs are at one place only if the runs are the same,** and the directories. -/
theorem pathNames_logPath_inj {c c' : Config} {run run' : RunId} :
    pathNames (c.logPath run).toList = pathNames (c'.logPath run').toList ↔
      run = run' ∧ pathNames c.root.toList = pathNames c'.root.toList := by
  rw [pathNames_logPath, pathNames_logPath]
  exact RunId.append_names_inj_iff

theorem pathNames_recordPath_inj {c c' : Config} {run run' : RunId} :
    pathNames (c.recordPath run).toList = pathNames (c'.recordPath run').toList ↔
      run = run' ∧ pathNames c.root.toList = pathNames c'.root.toList := by
  rw [pathNames_recordPath, pathNames_recordPath]
  exact RunId.append_names_inj_iff

/-- **No log is where the record of an upload is,** since their names end differently. -/
theorem pathNames_logPath_ne_recordPath (c c' : Config) (run run' : RunId) :
    pathNames (c.logPath run).toList ≠ pathNames (c'.recordPath run').toList := by
  rw [pathNames_logPath, pathNames_recordPath]
  intro h
  have hname := congrArg List.getLast? (List.append_singleton_inj.mp h).2
  rw [List.getLast?_append, Option.or_of_isSome (by decide), List.getLast?_append, Option.or_of_isSome (by decide)]
    at hname
  exact absurd hname (by decide)

end Ledger.Config

namespace RunId

open Ledger (Config)

/-- **A run is told by its text and by its files.** It is read back from its text, and from its text without the tag, in
letters of either case or of both. The logs of two runs have the same path only if the runs are the same, and so have the
records of uploads; no log has the path of such a record. It is the same if paths count as the same that lead through the
same names, and for the files of different ledgers. -/
theorem told_by_text_and_files :
    (∀ r : RunId, ofText r.text = .ok r ∧ ofText r.uuid.text = .ok r ∧ ofText r.uuid.text.toUpper = .ok r ∧
      ∀ s : String, s.toLower = r.uuid.text → ofText s = .ok r ∧ ofText (String.ofList (tag ++ s.toList)) = .ok r) ∧
    (∀ (c : Config) (r r' : RunId), (c.logPath r = c.logPath r' ↔ r = r') ∧
      (c.recordPath r = c.recordPath r' ↔ r = r') ∧ c.logPath r ≠ c.recordPath r') ∧
    ∀ (c c' : Config) (r r' : RunId), let sameRoot := pathNames c.root.toList = pathNames c'.root.toList
      (pathNames (c.logPath r).toList = pathNames (c'.logPath r').toList ↔ r = r' ∧ sameRoot) ∧
      (pathNames (c.recordPath r).toList = pathNames (c'.recordPath r').toList ↔ r = r' ∧ sameRoot) ∧
      pathNames (c.logPath r).toList ≠ pathNames (c'.recordPath r').toList := by
  refine ⟨fun r => ⟨r.ofText_text, (ofText_of_toLower r.uuid.toLower_text).1,
    (ofText_of_toLower r.uuid.toLower_toUpper_text).1, fun s => ofText_of_toLower⟩, fun c r r' => ⟨?_, ?_, ?_⟩,
    fun c c' r r' => ⟨Config.pathNames_logPath_inj, Config.pathNames_recordPath_inj,
      c.pathNames_logPath_ne_recordPath c' r r'⟩⟩
  · exact ⟨Config.logPath_inj, congrArg c.logPath⟩
  · exact ⟨Config.recordPath_inj, congrArg c.recordPath⟩
  · exact (c.recordPath_ne_logPath r' r).symm

/-- A run in letters of both cases, and two runs under roots that are written differently. -/
theorem told_by_text_and_files_mixed :
    let r : RunId := ⟨.ofNat 0x550e8400e29b41d4a716446655440000⟩
    let s := "550E8400-e29b-41D4-a716-446655440000"
    let c := Config.rootedAt "data"
    let c' := Config.rootedAt "./data//"
    s.toLower = r.uuid.text ∧ ofText s = .ok r ∧ ofText (String.ofList (tag ++ s.toList)) = .ok r ∧
      pathNames (c.logPath r).toList = pathNames (c'.logPath r).toList ∧
      pathNames (c.logPath r).toList ≠ pathNames (c'.recordPath r).toList := by
  intro r s c c'
  have hs : s.toLower = r.uuid.text := by decide +kernel
  obtain ⟨hread, -, hplaces⟩ := told_by_text_and_files
  obtain ⟨-, -, -, hcase⟩ := hread r
  obtain ⟨hlogs, -, hapart⟩ := hplaces c c' r r
  exact ⟨hs, (hcase s hs).1, (hcase s hs).2, hlogs.mpr ⟨rfl, by decide⟩, hapart⟩

end RunId

end RunLedger
