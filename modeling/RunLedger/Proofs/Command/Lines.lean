import RunLedger.Proofs.Command.Output
import RunLedger.Proofs.Message.Json

/-!
# Messages as lines of output

Both commands that print a log print the same lines of its messages (`output_of_readLog`). Since a message takes one
line and is read back from it, the messages of a log can be had from what is printed.

* `lines_read_back`: there is one line for each message, and each is read back; a metric that is not finite is not.
-/

namespace RunLedger.Command

/-- What is printed of a log that can be read, by either command. -/
theorem output_of_readLog {d : Disk} {path : String} {log : Bytes} {contents : LogContents}
    (hd : d.read path = .ok log) (hl : readLog log schemaVersion = .ok contents) (clock : Clock) :
    output (run d clock (.inspect path)).1 = printed (contents.read.messages.map Message.line) ∧
      ∀ root id, path = (Ledger.Config.rootedAt root).logPath id →
        output (run d clock (.logs root id)).1 = printed (contents.read.messages.map Message.line) := by
  have hlines : lines? (d.read path) = some (contents.read.messages.map Message.line) := by
    simp only [lines?, hd, hl, Except.toOption, Option.bind_some, Option.map_some]
  constructor
  · rw [← toOption_inspect d clock path, toOption_eq_some_iff] at hlines
    exact output_of_eq_ok hlines
  · intro root id hpath
    rw [hpath, ← toOption_logs d clock root id, toOption_eq_some_iff] at hlines
    exact output_of_eq_ok hlines

/-- **Messages can be had from the lines that are printed of them.** For all messages, whatever texts they hold, of
which the finite values of metrics come back when they are written and read as JSON:

* There is exactly one line for each message.
* Each line is read as its message, if the message is not a metric with a value that is not finite.
* The line of such a metric has a null in the place of the value, and is refused.
* These lines are what is written of a log with the messages, by either of the commands that print one. -/
theorem lines_read_back {messages : List Message}
    (h : ∀ m ∈ messages, ∀ v, m.value? = some v → v.isFinite = true → v.ReadsBack) :
    (Text.Utf8.encode (printed (messages.map Message.line))).splitOn 10 =
      messages.map (fun m => Text.Utf8.encode m.line) ++ [[]] ∧
    (∀ m ∈ messages, (∀ v, m.value? = some v → v.isFinite = true) → Message.ofLine? m.line = some m) ∧
    (∀ m ∈ messages, ∀ sample, m.event = .metric sample → sample.value.isFinite = false →
      m.line = (Json.record [("id", .text m.id.uuid.text), ("ts", m.time.toJson), ("event", .record [("Metric",
        .record [("name", .text sample.name), ("value", .null), ("tags", .array (sample.tags.map .text))])])]).print ∧
      Message.ofLine? m.line = none) ∧
    ∀ (d : Disk) (clock : Clock) (path : String) (log : Bytes) (contents : LogContents), d.read path = .ok log →
      readLog log schemaVersion = .ok contents → contents.read.messages = messages →
      output (run d clock (.inspect path)).1 = printed (messages.map Message.line) ∧
        ∀ root id, path = joinPath (joinPath root "runs") (id.text ++ ".log") →
          output (run d clock (.logs root id)).1 = printed (messages.map Message.line) := by
  refine ⟨?_, ?_, ?_, ?_⟩
  · have hplain : ∀ line ∈ messages.map Message.line, '\n' ∉ line.toList := by
      intro line hline
      obtain ⟨m, -, rfl⟩ := List.mem_map.mp hline
      exact m.newline_notMem_line
    rw [splitOn_printed hplain, List.map_map, Function.comp_def]
  · intro m hm hfinite
    exact Message.ofLine?_line fun v hv => h m hm v hv (hfinite v hv)
  · intro m _ sample hsample hv
    exact ⟨Message.line_of_not_finite hsample hv, Message.ofLine?_line_of_not_finite hsample hv⟩
  · rintro d clock path log contents hd hl rfl
    exact output_of_readLog hd hl clock

/-- A half, of which the literal is short. -/
theorem readsBack_half : (⟨0x3fe0000000000000⟩ : Double).ReadsBack := by
  rw [Double.readsBack_iff]
  decide +kernel

/-- A text with a newline, a quote and other such characters, a metric of one half, and one that is infinite. -/
theorem lines_read_back_controls :
    ∃ first second third : Message,
      first.event = .task ⟨"a/b", "line\nbreak \" \\ \u0001 \u007f é 😀", .initiated⟩ ∧
      second.event = .metric ⟨"m", ⟨0x3fe0000000000000⟩, ["x", "\t"]⟩ ∧
      third.event = .metric ⟨"m", ⟨0x7ff0000000000000⟩, []⟩ ∧
      (Text.Utf8.encode (printed ([first, second, third].map Message.line))).splitOn 10 =
        [Text.Utf8.encode first.line, Text.Utf8.encode second.line, Text.Utf8.encode third.line, []] ∧
      Message.ofLine? first.line = some first ∧ Message.ofLine? second.line = some second ∧
      Message.ofLine? third.line = none := by
  let first : Message := ⟨default, ⟨18446744073709551615, 4294967295⟩,
    .task ⟨"a/b", "line\nbreak \" \\ \u0001 \u007f é 😀", .initiated⟩⟩
  let second : Message := ⟨default, default, .metric ⟨"m", ⟨0x3fe0000000000000⟩, ["x", "\t"]⟩⟩
  let third : Message := ⟨default, default, .metric ⟨"m", ⟨0x7ff0000000000000⟩, []⟩⟩
  have hfirst : ∀ v, first.value? = some v → v.isFinite = true := by
    intro v hv
    cases hv
  have hsecond : ∀ v, second.value? = some v → v = ⟨0x3fe0000000000000⟩ := by
    intro v hv
    exact (Option.some.inj hv).symm
  have hthird : ∀ v, third.value? = some v → v.isFinite = false := by
    intro v hv
    rw [← Option.some.inj hv]
    decide
  have hread : ∀ m ∈ [first, second, third], ∀ v, m.value? = some v → v.isFinite = true → v.ReadsBack := by
    intro m hm v hv hfinite
    rcases List.mem_cons.mp hm with rfl | hm
    · cases hv
    rcases List.mem_cons.mp hm with rfl | hm
    · rw [hsecond v hv]
      exact readsBack_half
    · rw [List.mem_singleton.mp hm] at hv
      rw [hthird v hv] at hfinite
      cases hfinite
  obtain ⟨hlines, hback, hlost, -⟩ := lines_read_back hread
  refine ⟨first, second, third, rfl, rfl, rfl, hlines, hback first (by simp) hfirst, hback second (by simp) ?_,
    (hlost third (by simp) _ rfl (by decide)).2⟩
  intro v hv
  rw [hsecond v hv]
  decide

end RunLedger.Command
