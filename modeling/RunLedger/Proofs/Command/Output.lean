import RunLedger.Command
import RunLedger.Proofs.Ledger.Readable
import RunLedger.Proofs.Text.Utf8

/-!
# What commands print of a log

Lines without newlines can be told apart in the output (`splitOn_printed`). A log is printed in two ways: as a file, and
as the log of a run that a ledger hands out in chunks. Both come to the same function of the file (`lines?`,
`toOption_inspect`, `toOption_logs`), which gives lines exactly if the first record is a preamble that can be read
(`exists_lines?_iff`).

* `inspect_agrees_with_logs`: the two commands succeed for the same files, and print the same.
-/

namespace RunLedger

/-! ## Results without their failures -/

section Results

variable {ε ε' α β : Type}

theorem toOption_eq_some_iff {x : Except ε α} {a : α} : x.toOption = some a ↔ x = .ok a := by
  cases x <;> simp [Except.toOption]

theorem toOption_map (f : α → β) (x : Except ε α) : (x.map f).toOption = x.toOption.map f := by
  cases x <;> rfl

theorem toOption_mapError (f : ε → ε') (x : Except ε α) : (x.mapError f).toOption = x.toOption := by
  cases x <;> rfl

theorem toOption_bind (x : Except ε α) (f : α → Except ε β) :
    (x >>= f).toOption = x.toOption.bind fun a => (f a).toOption := by
  cases x <;> rfl

end Results

/-! ## Logs that can be read -/

/-- The first message of a log is that of the first record, if it can be decoded. -/
theorem head?_readAll (log : Bytes) : (readAll log).messages.head? = (Frame.decode log).toOption.map Prod.fst := by
  obtain ⟨front, rest, ms, rfl, hw, e, he⟩ := exists_whole log
  rw [readAll_eq hw he]
  cases hw with
  | nil =>
    rw [List.nil_append, he]
    rfl
  | @cons frame more m ms hd _ =>
    have hfirst := Frame.decode_take_append hd (more ++ rest)
    rw [List.take_length, ← List.append_assoc] at hfirst
    rw [hfirst]
    rfl

/-- A log can be read exactly if its first record is a preamble of a schema that the reader knows. -/
theorem exists_readLog_iff {log : Bytes} {reader : Version} :
    (∃ contents, readLog log reader = .ok contents) ↔
      ∃ m n p, Frame.decode log = .ok (m, n) ∧ m.preamble? = some p ∧ reader.canRead p.version = true := by
  constructor
  · rintro ⟨contents, h⟩
    obtain ⟨hp, hc⟩ := Ledger.openingPreamble_eq_ok_iff.mp (Ledger.readLog_eq_ok_iff.mp h).1
    obtain ⟨m, hm, hp⟩ := Option.bind_eq_some_iff.mp hp
    rw [head?_readAll] at hm
    obtain ⟨⟨m, n⟩, hd, rfl⟩ := Option.map_eq_some_iff.mp hm
    exact ⟨m, n, _, toOption_eq_some_iff.mp hd, hp, hc⟩
  · rintro ⟨m, n, p, hd, hp, hc⟩
    have hm : (readAll log).messages.head? = some m := by
      rw [head?_readAll, hd]
      rfl
    refine ⟨⟨p, readAll log⟩, Ledger.readLog_eq_ok_iff.mpr ⟨Ledger.openingPreamble_eq_ok_iff.mpr ⟨?_, hc⟩, rfl⟩⟩
    rw [hm]
    exact hp

namespace Command

/-! ## Lines -/

theorem output_of_eq_ok {r : Except Failure (List String)} {lines : List String} (h : r = .ok lines) :
    output r = printed lines := by
  subst h
  rfl

theorem toList_printed (lines : List String) :
    (printed lines).toList = lines.flatMap fun line => line.toList ++ ['\n'] := by
  have hfold (out : String) : (lines.foldl (fun out line => out ++ line ++ "\n") out).toList =
      out.toList ++ lines.flatMap fun line => line.toList ++ ['\n'] := by
    induction lines generalizing out with
    | nil => simp
    | cons line lines ih => simp [ih, String.toList_append]
  exact hfold ""

theorem encode_printed (lines : List String) :
    Text.Utf8.encode (printed lines) = lines.flatMap fun line => Text.Utf8.encode line ++ [10] := by
  rw [Text.Utf8.encode_eq, toList_printed, List.flatMap_assoc]
  congr 1
  funext line
  rw [List.flatMap_append, ← Text.Utf8.encode_eq]
  rfl

/-- **An output falls into its lines at the newlines,** if no line has one. -/
theorem splitOn_printed {lines : List String} (h : ∀ line ∈ lines, '\n' ∉ line.toList) :
    (Text.Utf8.encode (printed lines)).splitOn 10 = lines.map Text.Utf8.encode ++ [[]] := by
  rw [encode_printed]
  induction lines with
  | nil => rfl
  | cons line lines ih =>
    have hline : 10 ∉ Text.Utf8.encode line := Text.Utf8.notMem_encode (by decide) (h line List.mem_cons_self)
    rw [List.flatMap_cons, List.append_assoc, List.singleton_append, List.splitOn_append_cons_self_of_not_mem hline,
      ih fun l hl => h l (List.mem_cons_of_mem _ hl)]
    rfl

/-! ## Logs -/

/-- The lines of a log: one for each message, if there is a log that can be read. -/
def lines? (file : Except IoError Bytes) : Option (List String) :=
  file.toOption.bind fun log => (readLog log schemaVersion).toOption.map fun c => c.read.messages.map Message.line

/-- There are lines exactly if the first record is a preamble that can be read. -/
theorem exists_lines?_iff {file : Except IoError Bytes} : (∃ lines, lines? file = some lines) ↔
    ∃ log m n p, file = .ok log ∧ Frame.decode log = .ok (m, n) ∧ m.preamble? = some p ∧
      schemaVersion.canRead p.version = true := by
  cases file with
  | error e => simp [lines?, Except.toOption]
  | ok log =>
    have hread : (∃ lines, lines? (.ok log) = some lines) ↔ ∃ contents, readLog log schemaVersion = .ok contents := by
      cases hr : readLog log schemaVersion <;> simp [lines?, Except.toOption, hr]
    rw [hread, exists_readLog_iff]
    simp

theorem toOption_inspect (d : Disk) (clock : Clock) (path : String) :
    (run d clock (.inspect path)).1.toOption = lines? (d.read path) := by
  have hfile : (file d path).toOption = (d.read path).toOption := toOption_mapError _ _
  rw [lines?, ← hfile]
  simp only [run, toOption_bind, toOption_mapError]
  cases (file d path).toOption with
  | none => rfl
  | some log => cases hr : (readLog log schemaVersion).toOption <;> simp only [Option.bind, hr] <;> rfl

/-- The chunks that a ledger hands out of a log make up its messages. -/
theorem messages_of_logs (l : Ledger) (id : RunId) :
    (l.logs id).toOption.map (fun chunks => chunks.flatMap Ledger.LogChunk.messages) =
      (l.disk.read (l.config.logPath id)).toOption.bind fun log =>
        (readLog log l.config.schemaVersion).toOption.map fun c => c.read.messages := by
  cases hd : l.disk.read (l.config.logPath id) with
  | error e => cases e <;> simp [Ledger.logs, hd, Except.toOption]
  | ok log => cases hr : readLog log l.config.schemaVersion <;> simp [Ledger.logs, hd, hr, Except.toOption]

theorem toOption_logs (d : Disk) (clock : Clock) (root : String) (id : RunId) :
    (run d clock (.logs root id)).1.toOption = lines? (d.read ((Ledger.Config.rootedAt root).logPath id)) := by
  have hlines (chunks : List Ledger.LogChunk) : chunks.flatMap (fun c => c.messages.map Message.line) =
      (chunks.flatMap Ledger.LogChunk.messages).map Message.line := List.map_flatMap.symm
  have hmessages := congrArg (Option.map (List.map Message.line))
    (messages_of_logs (Ledger.start (.rootedAt root) d clock) id)
  simp only [Option.map_map, Option.map_bind, Function.comp_def, ← hlines] at hmessages
  simp only [run, toOption_mapError, toOption_map]
  exact hmessages

theorem output_of_toOption {r r' : Except Failure (List String)} (h : r.toOption = r'.toOption) :
    output r = output r' := by
  cases r <;> cases r' <;> cases h <;> rfl

/-- **A log is printed alike as a file and as the log of a run.** Whatever is in the file, or if there is none: both
commands succeed and print the same lines, or both fail and print nothing. They succeed exactly if the first record of
the file is a preamble of a schema that this library reads. Neither changes a file. -/
theorem inspect_agrees_with_logs (d : Disk) (clock clock' : Clock) (root : String) (id : RunId) :
    let path := joinPath (joinPath root "runs") (id.text ++ ".log")
    let inspected := run d clock (.inspect path)
    let logged := run d clock' (.logs root id)
    ((∃ lines, inspected.1 = .ok lines ∧ logged.1 = .ok lines) ∨
      (∃ e e', inspected.1 = .error e ∧ logged.1 = .error e') ∧ output inspected.1 = "" ∧ output logged.1 = "") ∧
    output inspected.1 = output logged.1 ∧
    ((∃ lines, inspected.1 = .ok lines) ↔ ∃ log m n p, d.read path = .ok log ∧ Frame.decode log = .ok (m, n) ∧
      m.preamble? = some p ∧ schemaVersion.canRead p.version = true) ∧
    inspected.2 = d ∧ logged.2 = d := by
  intro path inspected logged
  have hinspected : inspected.1.toOption = lines? (d.read path) := toOption_inspect d clock path
  have hsame : inspected.1.toOption = logged.1.toOption := hinspected.trans (toOption_logs d clock' root id).symm
  refine ⟨?_, output_of_toOption hsame, ?_, rfl, rfl⟩
  · cases hi : inspected.1 with
    | ok lines =>
      rw [hi] at hsame
      exact Or.inl ⟨lines, rfl, toOption_eq_some_iff.mp hsame.symm⟩
    | error e =>
      rw [hi] at hsame
      cases hl : logged.1 with
      | ok lines =>
        rw [hl] at hsame
        cases hsame
      | error e' => exact Or.inr ⟨⟨e, e', rfl, rfl⟩, rfl, rfl⟩
  · rw [← exists_lines?_iff, ← hinspected]
    simp only [toOption_eq_some_iff]

end Command

end RunLedger
