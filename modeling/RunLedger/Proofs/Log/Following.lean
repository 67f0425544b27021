import RunLedger.Proofs.Log.Reading

/-!
# Following a log

A reader that follows a log reads it again each time that octets were appended to it, from the place where the read
before stopped (`Cursor.follow`). The pieces may end anywhere, inside a record too, and the log may be damaged: all the
reads together give what one read of the final log gives (`follow_start`).

The step is `read_append`. What a read has taken is whole, so it is taken again by a read of the longer log, which then
goes on where the first read stopped; a record that was incomplete, or that could not be read, has not moved the cursor.
-/

namespace RunLedger

namespace Cursor

/-- Reads a log as it is and again after each piece that is appended to it. Gives what each read found. -/
def follow (c : Cursor) (log : Bytes) : List Bytes → List ReadOutcome × Cursor
  | [] => ([(c.read log).1], (c.read log).2)
  | piece :: pieces =>
    let later := (c.read log).2.follow (log ++ piece) pieces
    ((c.read log).1 :: later.1, later.2)

theorem skip_skip (c : Cursor) (records octets records' octets' : Nat) :
    (c.skip records octets).skip records' octets' = c.skip (records + records') (octets + octets') := by
  simp only [skip, mk.injEq]
  omega

theorem valid_skip (c : Cursor) (records octets : Nat) : (c.skip records octets).Valid :=
  ⟨Nat.min_le_right _ _, Nat.min_le_right _ _⟩

/-- What is read from a place in a log, and where the cursor stands then. -/
theorem read_eq {c : Cursor} {before front rest : Bytes} {ms : List Message} {e : Frame.Error} (hc : c.Valid)
    (hat : c.offset = before.length) (hw : Whole front ms) (hr : Frame.decode rest = .error e) :
    c.read (before ++ (front ++ rest)) =
      (⟨ms, if rest = [] then none else some (c.skip ms.length front.length).offset⟩,
        c.skip ms.length front.length) := by
  have hle : c.offset ≤ (before ++ (front ++ rest)).length := by
    rw [hat, List.length_append]
    exact Nat.le_add_right _ _
  rw [read, if_pos hle, hat, List.drop_left, readOnto_eq hw hr hc]
  rfl

/-- **Reading on after octets were appended.** A read of the longer log takes what the read before took and what is read
from there on. -/
theorem read_append {c : Cursor} {log more : Bytes} (hc : c.Valid) (hat : c.offset ≤ log.length)
    (hsize : (log ++ more).length < UInt64.size) :
    c.read (log ++ more) =
        (⟨(c.read log).1.messages ++ ((c.read log).2.read (log ++ more)).1.messages,
          ((c.read log).2.read (log ++ more)).1.truncatedAt⟩, ((c.read log).2.read (log ++ more)).2) ∧
      (c.read log).2.Valid ∧ (c.read log).2.offset ≤ log.length := by
  obtain ⟨before, behind, rfl, hbefore⟩ : ∃ before behind, log = before ++ behind ∧ c.offset = before.length :=
    ⟨log.take c.offset, log.drop c.offset, (List.take_append_drop _ _).symm, (List.length_take_of_le hat).symm⟩
  obtain ⟨front, rest, ms, rfl, hw, e, he⟩ := exists_whole behind
  obtain ⟨front', rest', ms', hs, hw', e', he'⟩ := exists_whole (rest ++ more)
  simp only [List.length_append] at hsize
  have hskip : (c.skip ms.length front.length).offset = (before ++ front).length := by
    simp only [skip, List.length_append, maxPosition]
    omega
  rw [read_eq hc hbefore hw he]
  refine ⟨?_, valid_skip c _ _, by simp only [hskip, List.length_append]; omega⟩
  -- the longer log, split where the first read stopped and where the second one does
  have hstop : before ++ (front ++ rest) ++ more = before ++ front ++ (front' ++ rest') := by
    simp only [List.append_assoc, hs]
  have hend : before ++ front ++ (front' ++ rest') = before ++ (front ++ front' ++ rest') := by
    simp only [List.append_assoc]
  rw [hstop, read_eq (valid_skip c _ _) hskip hw' he', hend, read_eq hc hbefore (hw.append hw') he', skip_skip,
    List.length_append, List.length_append]

/-- A log that is followed from a place in it gives in the end what one read from there gives. -/
theorem follow_eq {c : Cursor} {log : Bytes} {pieces : List Bytes} (hc : c.Valid) (hat : c.offset ≤ log.length)
    (hsize : (log ++ pieces.flatten).length < UInt64.size) :
    let final := c.read (log ++ pieces.flatten)
    (c.follow log pieces).1.flatMap ReadOutcome.messages = final.1.messages ∧ (c.follow log pieces).2 = final.2 ∧
      ∃ last, (c.follow log pieces).1.getLast? = some last ∧ last.truncatedAt = final.1.truncatedAt := by
  induction pieces generalizing c log with
  | nil => simp [follow]
  | cons piece pieces ih =>
    have hall : log ++ (piece :: pieces).flatten = log ++ piece ++ pieces.flatten := by simp
    have hsize' : (log ++ (piece ++ pieces.flatten)).length < UInt64.size := by simpa using hsize
    obtain ⟨hread, hc', hat'⟩ := read_append hc hat hsize'
    rw [← List.append_assoc] at hread
    have hgrown : (c.read log).2.offset ≤ (log ++ piece).length := by
      rw [List.length_append]
      omega
    obtain ⟨hmessages, hcursor, last, hlast, htruncated⟩ := ih hc' hgrown (hall ▸ hsize)
    rw [hall, hread]
    refine ⟨?_, hcursor, last, ?_, htruncated⟩
    · rw [follow, List.flatMap_cons, hmessages]
    · rw [follow, List.getLast?_cons, hlast]
      rfl

/-- **Following a log reads what is read of it at once.** A cursor that starts at the beginning and reads the log after
each piece takes exactly the messages of the final log, ends where one read of it ends, and finds the same damage. -/
theorem follow_start (log : Bytes) (pieces : List Bytes) (hsize : (log ++ pieces.flatten).length < UInt64.size) :
    let final := log ++ pieces.flatten
    let (reads, c) := start.follow log pieces
    reads.flatMap ReadOutcome.messages = (readAll final).messages ∧ c = (start.read final).2 ∧
      ∃ last, reads.getLast? = some last ∧ last.truncatedAt = (readAll final).truncatedAt :=
  follow_eq valid_start (Nat.zero_le _) hsize

/-- The second of two records arrives in three pieces, cut inside its length and inside its payload. -/
theorem follow_start_torn :
    let beat (n : Nat) : Message := ⟨⟨.ofNat n⟩, ⟨0, 0⟩, .heartbeat⟩
    let frame := Frame.of (beat 2)
    let log := Frame.of (beat 1) ++ frame.take 3
    let pieces := [(frame.drop 3).take 7, frame.drop 10]
    (log ++ pieces.flatten).length < UInt64.size ∧
      (start.follow log pieces).1.flatMap ReadOutcome.messages = [beat 1, beat 2] ∧
      (start.follow log pieces).2 = ⟨2, (Frame.of (beat 1)).length + (Frame.of (beat 2)).length⟩ := by
  intro beat frame log pieces
  have hall : log ++ pieces.flatten = framed [beat 1, beat 2] := by
    have hdrop : (frame.drop 3).drop 7 = frame.drop 10 := List.drop_drop
    simp only [log, pieces, List.flatten_cons, List.flatten_nil, List.append_nil, framed_cons, framed_nil,
      List.append_assoc, ← hdrop, List.take_append_drop]
    rfl
  have hfit : ∀ m ∈ [beat 1, beat 2], Frame.Fits m := by decide +kernel
  have hsize : (log ++ pieces.flatten).length < UInt64.size := by
    rw [hall]
    simp only [framed_cons, framed_nil, List.length_append, Frame.length_of]
    decide +kernel
  obtain ⟨hmessages, hcursor, -⟩ := follow_start log pieces hsize
  rw [hall] at hmessages hcursor
  refine ⟨hsize, hmessages.trans (by rw [readAll_framed hfit]), hcursor.trans ?_⟩
  rw [read_start_framed hfit, skip_start (Nat.le_sub_one_of_lt (hall ▸ hsize))]
  simp only [framed_cons, framed_nil, List.append_nil, List.length_append, List.length_cons, List.length_nil]

end Cursor

end RunLedger
