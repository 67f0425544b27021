import RunLedger.Proofs.Ledger.Readable
import RunLedger.Proofs.Log.Writing

/-!
# Logs in chunks

A list that is not empty falls into parts of one length and a last part that is no longer and not empty
(`parts_concat`). The chunks of a log are its messages in such parts, and the last one alone tells whether the log ends
in something that is no record (`chunked_concat`). This is so exactly if the log is not whole (`isTruncated_iff`).

* `logs_in_chunks`: what is handed out of a log that can be read, for every length of chunks.
-/

namespace RunLedger

/-- **A log is read to its end exactly if it is whole.** -/
theorem isTruncated_iff {log : Bytes} : (readAll log).isTruncated = true ↔ ¬∃ ms, Whole log ms := by
  constructor
  · rintro h ⟨ms, hw⟩
    rw [readAll_whole hw] at h
    cases h
  · intro h
    by_contra hn
    exact h ⟨_, whole_of_not_truncated (Bool.eq_false_iff.mpr hn)⟩

namespace Ledger

/-- A log that can be read has messages. -/
theorem messages_ne_nil_of_readLog {log : Bytes} {reader : Version} {contents : LogContents}
    (h : readLog log reader = .ok contents) : contents.read.messages ≠ [] := by
  obtain ⟨hp, hread⟩ := readLog_eq_ok_iff.mp h
  intro hnil
  rw [← hread, hnil] at hp
  cases hp

/-- **A list falls into parts of one length and a rest that is no longer.** -/
theorem parts_concat {α : Type} {length : Nat} (hl : 0 < length) {xs : List α} (h : xs ≠ []) :
    ∃ front last, parts length xs = front ++ [last] ∧ (∀ part ∈ front, part.length = length) ∧
      last ≠ [] ∧ last.length ≤ length := by
  fun_induction parts length xs with
  | case1 => exact absurd rfl h
  | case2 x xs ih =>
    by_cases hrest : xs.drop (length - 1) = []
    · have hshort := List.drop_eq_nil_iff.mp hrest
      refine ⟨[], x :: xs.take (length - 1), ?_, fun part hp => absurd hp List.not_mem_nil, List.cons_ne_nil _ _, ?_⟩
      · rw [hrest, parts, List.nil_append]
      · rw [List.length_cons, List.length_take]
        omega
    · have hlong : length - 1 < xs.length := by
        by_contra hn
        exact hrest (List.drop_eq_nil_of_le (Nat.le_of_not_lt hn))
      obtain ⟨front, last, hparts, hfront, hlast⟩ := ih hrest
      refine ⟨(x :: xs.take (length - 1)) :: front, last, by rw [hparts, List.cons_append], ?_, hlast⟩
      refine List.forall_mem_cons.mpr ⟨?_, hfront⟩
      rw [List.length_cons, List.length_take]
      omega

/-- How many parts there are: no more than it takes to hold all. -/
theorem length_parts {α : Type} {length : Nat} (hl : 0 < length) (xs : List α) :
    (parts length xs).length = (xs.length + length - 1) / length := by
  fun_induction parts length xs with
  | case1 => exact (Nat.div_eq_of_lt (by simp only [List.length_nil]; omega)).symm
  | case2 x xs ih =>
    have hall : (x :: xs).length + length - 1 = xs.length + length := by rw [List.length_cons]; omega
    rw [List.length_cons, ih, List.length_drop, hall, Nat.add_div_right _ hl]
    by_cases hshort : xs.length ≤ length - 1
    · rw [Nat.sub_eq_zero_of_le hshort, Nat.div_eq_of_lt (a := xs.length) (by omega), Nat.div_eq_of_lt (by omega)]
    · have hrest : xs.length - (length - 1) + length - 1 = xs.length := by omega
      rw [hrest]

/-- Only the last chunk can be truncated. -/
theorem chunked_concat (read : ReadOutcome) (front : List (List Message)) (last : List Message) :
    chunked read (front ++ [last]) = front.map (fun ms => ⟨ms, false⟩) ++ [⟨last, read.isTruncated⟩] := by
  induction front with
  | nil => rfl
  | cons ms front ih =>
    have hne : front ++ [last] ≠ [] := List.concat_ne_nil last front
    obtain ⟨next, rest, hnext⟩ := List.exists_cons_of_ne_nil hne
    rw [List.cons_append, List.map_cons, List.cons_append, ← ih, hnext, chunked]
    exact List.cons_ne_nil next rest

/-- **Chunks lose nothing.** Of a log that can be read there is at least one chunk. All chunks but the last hold exactly
as many messages as a chunk may hold, which is one at least; the last holds no more, and is not empty. Together they are
the messages of the log. The last one alone can be truncated, and is exactly if the log does not end where a record
ends. -/
theorem logs_in_chunks {l : Ledger} {run : RunId} {log : Bytes} {contents : LogContents}
    (hlog : l.disk.read (l.config.logPath run) = .ok log)
    (hread : readLog log l.config.schemaVersion = .ok contents) :
    let length := max 1 l.config.logChunk
    ∃ front last, l.logs run = .ok (front ++ [last]) ∧
      (∀ c ∈ front, c.messages.length = length ∧ c.truncated = false) ∧
      last.messages ≠ [] ∧ last.messages.length ≤ length ∧ (last.truncated = true ↔ ¬∃ ms, Whole log ms) ∧
      (front ++ [last]).flatMap LogChunk.messages = contents.read.messages := by
  intro length
  have hne := messages_ne_nil_of_readLog hread
  have hlogs : l.logs run = .ok (chunked contents.read (parts length contents.read.messages)) := by
    simp only [logs, hlog, hread, length]
  obtain ⟨front, last, hparts, hfront, hlast, hle⟩ := parts_concat (Nat.le_max_left 1 l.config.logChunk) hne
  have hall : (chunked contents.read (parts length contents.read.messages)).flatMap LogChunk.messages =
      contents.read.messages := by rw [flatMap_chunked, flatten_parts]
  rw [hparts, chunked_concat] at hlogs hall
  refine ⟨_, _, hlogs, ?_, hlast, hle, ?_, hall⟩
  · intro c hc
    obtain ⟨ms, hms, rfl⟩ := List.mem_map.mp hc
    exact ⟨hfront ms hms, rfl⟩
  · rw [(readLog_eq_ok_iff.mp hread).2]
    exact isTruncated_iff

/-- A log of four messages with a torn record behind it, in chunks of two. -/
theorem logs_in_chunks_torn :
    let config := { Config.rootedAt "d" with logChunk := 2 }
    let run : RunId := ⟨.ofNat 1⟩
    let m (n : Nat) : Message := ⟨⟨.ofNat n⟩, ⟨5, 6⟩, .heartbeat⟩
    let first : Message := ⟨⟨.ofNat 0⟩, ⟨5, 6⟩, .preamble ⟨schemaVersion, ⟨5, 6⟩, ⟨9, 0⟩⟩⟩
    let log := framed [first, m 1, m 2, m 3] ++ [0, 0, 0]
    let l := start config ⟨OrderedMap.empty.set (config.logPath run) (.file 0), [.ofList log]⟩ ⟨⟨5, 6⟩, 0⟩
    ∃ contents, l.disk.read (l.config.logPath run) = .ok log ∧
      readLog log l.config.schemaVersion = .ok contents ∧ contents.read.messages = [first, m 1, m 2, m 3] ∧
      ∃ front last, l.logs run = .ok (front ++ [last]) ∧ (∀ c ∈ front, c.messages.length = 2 ∧ c.truncated = false) ∧
        last.messages ≠ [] ∧ last.messages.length ≤ 2 ∧ (last.truncated = true ↔ ¬∃ ms, Whole log ms) ∧
        (front ++ [last]).flatMap LogChunk.messages = [first, m 1, m 2, m 3] := by
  intro config run m first log l
  have hread : l.disk.read (l.config.logPath run) = .ok log := by decide +kernel
  have hall : (readAll log).messages = [first, m 1, m 2, m 3] := by decide +kernel
  have hcontents : readLog log l.config.schemaVersion = .ok ⟨⟨schemaVersion, ⟨5, 6⟩, ⟨9, 0⟩⟩, readAll log⟩ := by
    rw [readLog, hall]
    rfl
  refine ⟨_, hread, hcontents, hall, ?_⟩
  have h := logs_in_chunks hread hcontents
  rw [hall] at h
  exact h

end Ledger

end RunLedger
