import RunLedger.Proofs.Log.Following
import RunLedger.Proofs.Log.Recovery

/-!
# Walking through a log

A read takes one record after the other. Its step is `Cursor.step?`, and a number of steps is a walk (`Cursor.walk`): a
read goes on from where a walk ended (`read_of_walk`), and is itself the walk to where it ends (`walk_read`). If a read
starts behind some octets, it may count its offset from there (`readOnto_shift`).

`Cursor.Behind` says where walks from the start of a log come to (`Behind.walk`): a cursor stands behind the messages of
the first records. It still does after reading on (`Behind.read`), and whatever happens to the log behind its intact
octets (`Behind.intact_append`).
-/

namespace RunLedger

/-! ## Fronts of a log -/

/-- A record has at least one octet. -/
theorem Whole.length_le {log : Bytes} {ms : List Message} (h : Whole log ms) : ms.length ≤ log.length := by
  induction h with
  | nil => exact Nat.le_refl _
  | cons hd _ ih =>
    have hframe := (Frame.le_of_decode hd).1
    simp only [Frame.overhead] at hframe
    simp only [List.length_cons, List.length_append]
    omega

/-- **Of two whole fronts of a log, one is the front of the other.** -/
theorem Whole.split {a b x y : Bytes} {ms ms' : List Message} (ha : Whole a ms) (hb : Whole b ms')
    (h : a ++ x = b ++ y) (hle : ms.length ≤ ms'.length) :
    ∃ more new, b = a ++ more ∧ ms' = ms ++ new ∧ Whole more new := by
  induction ha generalizing b ms' with
  | nil => exact ⟨b, ms', rfl, rfl, hb⟩
  | @cons frame log m ms hd _ ih =>
    cases hb with
    | nil => cases hle
    | @cons frame' log' m' ms' hd' hw' =>
      -- both fronts begin with the record that the log begins with
      have hdecode := Frame.decode_take_append hd (log ++ x)
      have hdecode' := Frame.decode_take_append hd' (log' ++ y)
      rw [List.take_length, ← List.append_assoc, h] at hdecode
      rw [List.take_length, ← List.append_assoc, hdecode] at hdecode'
      obtain ⟨rfl, hlength⟩ := Prod.mk.inj (Except.ok.inj hdecode')
      rw [List.append_assoc, List.append_assoc] at h
      obtain ⟨rfl, hrest⟩ := List.append_inj h hlength
      obtain ⟨more, new, rfl, rfl, hmore⟩ := ih hw' hrest (Nat.le_of_succ_le_succ hle)
      exact ⟨more, new, (List.append_assoc _ _ _).symm, rfl, hmore⟩

namespace Cursor

/-! ## Steps and walks -/

/-- The message that a cursor stands in front of, and the cursor behind its record. -/
def step? (c : Cursor) (log : Bytes) : Option (Message × Cursor) :=
  match Frame.decode (log.drop c.offset) with
  | .ok (m, n) => some (m, c.advance n)
  | .error _ => none

/-- The messages of so many records from the cursor on, and the cursor behind them. -/
def walk (c : Cursor) (log : Bytes) : Nat → Option (List Message × Cursor)
  | 0 => some ([], c)
  | n + 1 => (c.step? log).bind fun next => (next.2.walk log n).map fun stop => (next.1 :: stop.1, stop.2)

section

variable {c c' : Cursor} {log : Bytes} {m : Message} {ms ms' : List Message}

theorem step?_of_ok {n : Nat} (h : Frame.decode (log.drop c.offset) = .ok (m, n)) :
    c.step? log = some (m, c.advance n) := by
  rw [step?, h]

theorem step?_of_error {e : Frame.Error} (h : Frame.decode (log.drop c.offset) = .error e) : c.step? log = none := by
  rw [step?, h]

/-- A read takes the record that it stands in front of, and goes on behind it. -/
theorem read_of_step (hsize : log.length < UInt64.size) (h : c.step? log = some (m, c')) :
    c.read log = (⟨m :: (c'.read log).1.messages, (c'.read log).1.truncatedAt⟩, (c'.read log).2) := by
  cases hd : Frame.decode (log.drop c.offset) with
  | error e =>
    rw [step?_of_error hd] at h
    cases h
  | ok r =>
    obtain ⟨m', n⟩ := r
    rw [step?_of_ok hd] at h
    cases h
    have hn := Frame.le_of_decode hd
    rw [List.length_drop, Frame.overhead] at hn
    have hstop : (c.advance n).offset = c.offset + n := Nat.min_eq_left (by simp only [maxPosition]; omega)
    obtain ⟨front, rest, ms, hs, hw, e, he⟩ := exists_whole ((log.drop c.offset).drop n)
    rw [read, if_pos (by omega), readOnto_of_ok hd, read, hstop, if_pos (by omega), ← List.drop_drop, hs,
      readOnto_eq hw he (valid_advance c n), readOnto_eq hw he (valid_advance c n)]
    rfl

/-- A read takes nothing if there is no record in front of it. -/
theorem read_of_not_step (h : c.step? log = none) : (c.read log).1.messages = [] ∧ (c.read log).2 = c := by
  cases hd : Frame.decode (log.drop c.offset) with
  | ok r =>
    rw [step?_of_ok hd] at h
    cases h
  | error e =>
    rw [read]
    split
    · rw [readOnto_of_error hd]
      exact ⟨rfl, rfl⟩
    · exact ⟨rfl, rfl⟩

/-- **A read goes on from where a walk ended.** -/
theorem read_of_walk (hsize : log.length < UInt64.size) {n : Nat} (h : c.walk log n = some (ms, c')) :
    c.read log = (⟨ms ++ (c'.read log).1.messages, (c'.read log).1.truncatedAt⟩, (c'.read log).2) := by
  induction n generalizing c ms with
  | zero =>
    cases h
    rfl
  | succ n ih =>
    obtain ⟨⟨m, next⟩, hstep, h⟩ := Option.bind_eq_some_iff.mp h
    obtain ⟨⟨ms, stop⟩, hwalk, h⟩ := Option.map_eq_some_iff.mp h
    cases h
    rw [read_of_step hsize hstep, ih hwalk]
    rfl

/-- **A read is a walk past all the records that it takes.** -/
theorem walk_read (hsize : log.length < UInt64.size) (c : Cursor) :
    c.walk log (c.read log).1.messages.length = some ((c.read log).1.messages, (c.read log).2) := by
  induction hn : (c.read log).1.messages.length generalizing c with
  | zero =>
    cases hstep : c.step? log with
    | none =>
      obtain ⟨hnil, hsame⟩ := read_of_not_step hstep
      rw [hnil, hsame, walk]
    | some r =>
      rw [read_of_step hsize hstep] at hn
      cases hn
  | succ n ih =>
    cases hstep : c.step? log with
    | none =>
      rw [(read_of_not_step hstep).1] at hn
      cases hn
    | some r =>
      obtain ⟨m, next⟩ := r
      have hread := read_of_step hsize hstep
      rw [hread, List.length_cons, Nat.add_right_cancel_iff] at hn
      rw [walk, hstep, Option.bind_some, ih next hn, hread]
      rfl

/-- A walk past whole records. -/
theorem walk_of_whole {before front : Bytes} (rest : Bytes) (hw : Whole front ms) (hc : c.Valid)
    (hat : c.offset = before.length) (hsize : (before ++ (front ++ rest)).length < UInt64.size) :
    c.walk (before ++ (front ++ rest)) ms.length = some (ms, c.skip ms.length front.length) := by
  induction hw generalizing c before with
  | nil => rw [List.length_nil, List.length_nil, walk, skip_zero hc]
  | @cons frame log m ms hd _ ih =>
    have hd' := Frame.decode_take_append hd (log ++ rest)
    rw [List.take_length] at hd'
    have hstep : c.step? (before ++ (frame ++ log ++ rest)) = some (m, c.advance frame.length) :=
      step?_of_ok (by rw [hat, List.drop_left, List.append_assoc, hd'])
    have hnext : (c.advance frame.length).offset = (before ++ frame).length := by
      simp only [List.length_append] at hsize
      simp only [advance, List.length_append, hat, maxPosition]
      omega
    have hlog : before ++ (frame ++ log ++ rest) = before ++ frame ++ (log ++ rest) := by
      simp only [List.append_assoc]
    rw [List.length_cons, walk, hstep, Option.bind_some, hlog, ih (valid_advance c _) hnext (hlog ▸ hsize),
      skip_advance, List.length_append]
    rfl

/-- **A read may count its offset from any octet in front of it.** -/
theorem readOnto_shift (k : Nat) (c : Cursor) (read : List Message) {rest : Bytes}
    (h : k + c.offset + rest.length ≤ maxPosition) : (Cursor.mk c.record (k + c.offset)).readOnto read rest =
      (⟨(c.readOnto read rest).1.messages, (c.readOnto read rest).1.truncatedAt.map (k + ·)⟩,
        ⟨(c.readOnto read rest).2.record, k + (c.readOnto read rest).2.offset⟩) := by
  induction hl : rest.length using Nat.strongRecOn generalizing c read rest with
  | ind length ih =>
    cases hd : Frame.decode rest with
    | error e =>
      rw [readOnto_of_error hd, readOnto_of_error hd]
      by_cases hnil : rest = []
      · simp only [hnil, if_true, Option.map_none]
      · simp only [hnil, if_false, Option.map_some]
    | ok r =>
      obtain ⟨m, n⟩ := r
      have hn := Frame.le_of_decode hd
      rw [Frame.overhead] at hn
      have hadvance : (Cursor.mk c.record (k + c.offset)).advance n =
          ⟨(c.advance n).record, k + (c.advance n).offset⟩ := by
        simp only [advance, Cursor.mk.injEq, true_and]
        omega
      have hstop : (c.advance n).offset ≤ c.offset + n := Nat.min_le_left _ _
      rw [readOnto_of_ok hd, readOnto_of_ok hd, hadvance]
      refine ih (rest.drop n).length ?_ _ _ ?_ rfl
      all_goals
        rw [List.length_drop]
        omega

end

/-! ## Behind the first records -/

/-- The cursor stands behind the first records of a log, and these are their messages. -/
structure Behind (c : Cursor) (log : Bytes) (ms : List Message) : Prop where
  offset_le : c.offset ≤ log.length
  whole : Whole (log.take c.offset) ms
  record_eq : c.record = ms.length

theorem behind_start (log : Bytes) : start.Behind log [] := ⟨Nat.zero_le _, .nil, rfl⟩

namespace Behind

variable {c c' : Cursor} {log : Bytes} {ms ms' : List Message}

theorem valid (h : c.Behind log ms) (hsize : log.length < UInt64.size) : c.Valid := by
  have hrecords := h.whole.length_le
  rw [List.length_take_of_le h.offset_le] at hrecords
  have hle := h.offset_le
  rw [Valid, h.record_eq]
  simp only [maxPosition]
  omega

/-- **Who stands behind more records stands behind the same ones first.** -/
theorem front_of_le (h : c.Behind log ms) (h' : c'.Behind log ms') (hr : c.record ≤ c'.record) : ms <+: ms' := by
  have hlog : log.take c.offset ++ log.drop c.offset = log.take c'.offset ++ log.drop c'.offset := by
    rw [List.take_append_drop, List.take_append_drop]
  obtain ⟨-, new, -, rfl, -⟩ := h.whole.split h'.whole hlog (by rwa [← h.record_eq, ← h'.record_eq])
  exact List.prefix_append ms new

/-- **Who reads on stands behind what was read.** -/
theorem read (h : c.Behind log ms) (hsize : log.length < UInt64.size) :
    (c.read log).2.Behind log (ms ++ (c.read log).1.messages) := by
  obtain ⟨before, behind, rfl, hbefore⟩ : ∃ before behind, log = before ++ behind ∧ c.offset = before.length :=
    ⟨log.take c.offset, log.drop c.offset, (List.take_append_drop _ _).symm, (List.length_take_of_le h.offset_le).symm⟩
  obtain ⟨front, rest, new, rfl, hw, e, he⟩ := exists_whole behind
  have hwhole := h.whole
  rw [hbefore, List.take_left] at hwhole
  have hrecords := (hwhole.append hw).length_le
  simp only [List.length_append] at hsize hrecords
  have hskip : c.skip new.length front.length = ⟨ms.length + new.length, before.length + front.length⟩ := by
    simp only [skip, h.record_eq, hbefore, maxPosition, Cursor.mk.injEq]
    omega
  rw [read_eq (h.valid (by simp only [List.length_append]; omega)) hbefore hw he, hskip]
  refine ⟨?_, ?_, List.length_append.symm⟩
  · simp only [List.length_append]
    omega
  · show Whole ((before ++ (front ++ rest)).take (before.length + front.length)) (ms ++ new)
    rw [← List.append_assoc, ← List.length_append, List.take_left]
    exact hwhole.append hw

/-- **Behind the first records is where a walk from the start comes to.** -/
theorem walk (h : c.Behind log ms) (hsize : log.length < UInt64.size) : start.walk log c.record = some (ms, c) := by
  have hvalid := h.valid hsize
  have hlength := List.length_take_of_le h.offset_le
  have hlog : [] ++ (log.take c.offset ++ log.drop c.offset) = log := List.take_append_drop c.offset log
  have hwalk := walk_of_whole (log.drop c.offset) h.whole valid_start rfl (hlog.symm ▸ hsize)
  rw [hlog, ← h.record_eq, hlength] at hwalk
  rw [hwalk, skip, start, Nat.zero_add, Nat.zero_add, Nat.min_eq_left hvalid.1, Nat.min_eq_left hvalid.2]

/-- What a read from the start takes is what is in front of the cursor, and what a read takes from there. -/
theorem read_start (h : c.Behind log ms) (hsize : log.length < UInt64.size) : start.read log =
    (⟨ms ++ (c.read log).1.messages, (c.read log).1.truncatedAt⟩, (c.read log).2) :=
  read_of_walk hsize (h.walk hsize)

/-- No record is in front of the cursor that is not intact. -/
theorem intact_eq (h : c.Behind log ms) (hlog : Recoverable log) :
    ∃ more new, intact log = log.take c.offset ++ more ∧ (readAll log).messages = ms ++ new := by
  have htake : log.take c.offset ++ log.drop c.offset =
      intact log ++ log.drop ((readAll log).truncatedAt.getD log.length) := by
    rw [intact, List.take_append_drop, List.take_append_drop]
  have hle : ms.length ≤ (readAll log).messages.length := by
    obtain ⟨front, rest, found, hs, hw, e, he⟩ := exists_whole log
    have hmessages : (readAll log).messages = found := by rw [hs, readAll_eq hw he]
    rw [hmessages]
    by_contra hlt
    -- otherwise a record could be read where none can
    obtain ⟨more, new, hmore, rfl, hnew⟩ := hw.split (x := rest) (y := log.drop c.offset) h.whole
      (by rw [List.take_append_drop, hs]) (by omega)
    have hrest : rest = more ++ log.drop c.offset := by
      have hlog : front ++ rest = front ++ (more ++ log.drop c.offset) := by
        rw [← List.append_assoc, ← hmore, List.take_append_drop, hs]
      exact List.append_cancel_left hlog
    cases hnew with
    | nil => simp at hlt
    | cons hd _ =>
      have hd' := Frame.decode_take_append hd
      rw [List.take_length] at hd'
      rw [hrest, List.append_assoc, hd'] at he
      cases he
  obtain ⟨more, new, hmore, hnew, -⟩ := h.whole.split hlog htake hle
  exact ⟨more, new, hmore, hnew⟩

/-- **Whatever comes behind the intact octets of a log leaves the cursor where it is.** -/
theorem intact_append (h : c.Behind log ms) (hlog : Recoverable log) (more : Bytes) :
    c.Behind (intact log ++ more) ms := by
  obtain ⟨rest, new, hintact, -⟩ := h.intact_eq hlog
  have hlength : c.offset = (log.take c.offset).length := (List.length_take_of_le h.offset_le).symm
  have hfront : intact log ++ more = log.take c.offset ++ (rest ++ more) := by rw [hintact, List.append_assoc]
  refine ⟨?_, ?_, h.record_eq⟩
  · rw [hfront, List.length_append, ← hlength]
    exact Nat.le_add_right _ _
  · rw [hfront, List.take_left' hlength.symm]
    exact h.whole

end Behind

end Cursor

end RunLedger
