import RunLedger.Proofs.Log.Reading

/-!
# What can be saved of a log

A log that is found after a crash may hold anything. Its `intact` octets are those in front of the first record that
cannot be read. Every log in memory is `Recoverable` (`recoverable_of_length_lt`): the intact octets are whole, with the
messages that are read of the log, so the log can be cut there and go on from there (`readAll_intact_append`). A log
without damage is intact altogether (`intact_of_whole`).
-/

namespace RunLedger

/-- The octets of a log in front of the first record that cannot be read: all of them, if there is none. -/
def intact (log : Bytes) : Bytes := log.take ((readAll log).truncatedAt.getD log.length)

/-- The intact octets of a log are whole, and the messages that are read of the log are theirs. -/
def Recoverable (log : Bytes) : Prop := Whole (intact log) (readAll log).messages

theorem truncatedAt_le {log : Bytes} {stop : Nat} (h : (readAll log).truncatedAt = some stop) : stop ≤ log.length := by
  obtain ⟨front, rest, ms, rfl, hw, e, he⟩ := exists_whole log
  rw [readAll_eq hw he] at h
  simp only at h
  split at h
  · cases h
  · cases h
    simp only [List.length_append]
    omega

theorem length_intact (log : Bytes) : (intact log).length = (readAll log).truncatedAt.getD log.length := by
  refine List.length_take_of_le ?_
  cases h : (readAll log).truncatedAt with
  | none => simp
  | some stop => simpa using truncatedAt_le h

theorem intact_of_whole {log : Bytes} {ms : List Message} (h : Whole log ms) : intact log = log := by
  simp [intact, readAll_whole h]

theorem recoverable_of_whole {log : Bytes} {ms : List Message} (h : Whole log ms) : Recoverable log := by
  rw [Recoverable, intact_of_whole h, readAll_whole h]
  exact h

/-- **The place where reading stops is a safe place to cut.** -/
theorem recoverable_of_length_lt {log : Bytes} (h : log.length < UInt64.size) : Recoverable log := by
  obtain ⟨front, rest, ms, rfl, hw, e, he⟩ := exists_whole log
  rw [List.length_append] at h
  have hstop : min front.length maxPosition = front.length := Nat.min_eq_left (by simp only [maxPosition]; omega)
  rw [Recoverable, intact, readAll_eq hw he, hstop]
  by_cases hr : rest = []
  · simpa [hr] using hw
  · simpa [hr] using hw

theorem readAll_intact {log : Bytes} (h : Recoverable log) : readAll (intact log) = ⟨(readAll log).messages, none⟩ :=
  readAll_whole h

theorem Whole.eq_nil {log : Bytes} (h : Whole log []) : log = [] := by
  cases h
  rfl

theorem intact_of_messages_eq_nil {log : Bytes} (h : Recoverable log) (hm : (readAll log).messages = []) :
    intact log = [] := by
  rw [Recoverable, hm] at h
  exact h.eq_nil

theorem intact_intact {log : Bytes} (h : Recoverable log) : intact (intact log) = intact log := intact_of_whole h

/-- Records that come behind the intact octets are found again behind the messages that were read. -/
theorem readAll_intact_append {log : Bytes} {ms : List Message} (h : Recoverable log) (hf : ∀ m ∈ ms, Frame.Fits m) :
    readAll (intact log ++ framed ms) = ⟨(readAll log).messages ++ ms, none⟩ :=
  readAll_whole (h.append (whole_framed hf))

end RunLedger
