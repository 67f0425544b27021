import RunLedger.Proofs.Log.Writing

/-!
# What writers count

A writer goes on with a log of so many records and octets, and counts what it writes. `w.wrote ms` is the writer behind
messages that were written in full: one write of all of them or one of each leaves the same writer (`wrote_wrote`).

On a target that never fails, a call either writes all its messages (`take_of_unbounded`), or one of them does not fit and
nothing changes (`take_of_not_fits`). So a history writes exactly what it acknowledges (`after_eq_wrote`).

* `after_append_of_appendBatch`: a batch that succeeds leaves the writer that single appends leave, on any target.
* `counted_after`: on a target that never fails the counters are exact, whatever calls were refused.
-/

namespace RunLedger

/-- A step that is a call of the writer, and no change of the room of its target. -/
def WriterStep.IsCall : WriterStep → Prop
  | .room _ => False
  | _ => True

/-! ## Targets with enough room -/

namespace Target

/-- A target that takes whatever is written to it. -/
def NeverFails (t : Target) : Prop := ∀ octets, (t.write octets).2 = .ok ()

/-- Whether so many more octets are taken. -/
def HasRoom (t : Target) (n : Nat) : Prop := ∀ room, t.room = some room → n ≤ room

theorem hasRoom_of_unbounded {t : Target} (h : t.room = none) (n : Nat) : t.HasRoom n := by
  intro room hroom
  rw [h] at hroom
  cases hroom

/-- A write for which there is room is taken as a whole. -/
theorem write_of_hasRoom {t : Target} {bytes : Bytes} (h : t.HasRoom bytes.length) :
    t.write bytes = (⟨t.content.append bytes, t.room.map (· - bytes.length)⟩, .ok ()) := by
  unfold write
  split
  · rename_i hroom
    rw [hroom, Option.map_none]
  · rename_i n hroom
    rw [if_pos (h n hroom), hroom, Option.map_some]

theorem hasRoom_of_write_ok {t : Target} {bytes : Bytes} (h : (t.write bytes).2 = .ok ()) : t.HasRoom bytes.length := by
  intro room hroom
  unfold write at h
  rw [hroom] at h
  dsimp only at h
  split at h
  · assumption
  · cases h

/-- The targets that never fail are those without a bound. -/
theorem neverFails_iff {t : Target} : t.NeverFails ↔ t.room = none := by
  constructor
  · intro h
    cases hroom : t.room with
    | none => rfl
    | some room =>
      have hfull := hasRoom_of_write_ok (h (List.replicate (room + 1) 0)) room hroom
      rw [List.length_replicate] at hfull
      omega
  · intro h octets
    rw [write_of_hasRoom (hasRoom_of_unbounded h _)]

end Target

namespace LogWriter

/-! ## Messages that were written in full -/

/-- The writer behind messages that were written in full. -/
def wrote (w : LogWriter) (ms : List Message) : LogWriter :=
  ⟨⟨w.target.content.append (framed ms), w.target.room.map (· - (framed ms).length)⟩,
    w.records + UInt64.ofNat ms.length, w.bytes + UInt64.ofNat (framed ms).length⟩

theorem data_wrote (w : LogWriter) (ms : List Message) : (w.wrote ms).target.data = w.target.data ++ framed ms :=
  Buffer.toList_append _ _

/-- A counter that stays below its size grows by what is added. -/
theorem toNat_add_ofNat {count : UInt64} {n : Nat} (h : count.toNat + n < UInt64.size) :
    (count + UInt64.ofNat n).toNat = count.toNat + n := by
  rw [UInt64.toNat_add, UInt64.toNat_ofNat_of_lt' (by omega), Nat.mod_eq_of_lt h]

theorem wrote_nil (w : LogWriter) : w.wrote [] = w := by
  have hcontent : w.target.content.append [] = w.target.content := by
    rw [← Buffer.toList_inj, Buffer.toList_append, List.append_nil]
  simp [wrote, hcontent]

/-- What is written in two parts is written as one. -/
theorem wrote_wrote (w : LogWriter) (ms ms' : List Message) : (w.wrote ms).wrote ms' = w.wrote (ms ++ ms') := by
  have hcontent : (w.target.content.append (framed ms)).append (framed ms') =
      w.target.content.append (framed (ms ++ ms')) := by
    rw [← Buffer.toList_inj]
    simp
  have hroom (room : Nat) :
      room - (framed ms).length - (framed ms').length = room - (framed (ms ++ ms')).length := by
    rw [framed_append, List.length_append]
    omega
  simp only [wrote, hcontent, Option.map_map, Function.comp_def, hroom, framed_append, List.length_append,
    UInt64.ofNat_add, UInt64.add_assoc]

theorem write_framed {w : LogWriter} {ms : List Message} (h : w.target.HasRoom (framed ms).length) :
    w.write ms.length (framed ms) = (w.wrote ms, .ok ()) := by
  simp only [write, Target.write_of_hasRoom h, wrote]

theorem append_of_hasRoom {w : LogWriter} {m : Message} (hm : Frame.Fits m)
    (h : w.target.HasRoom (Frame.of m).length) : w.append m = (w.wrote [m], .ok ()) := by
  have hframe : Frame.of m = framed [m] := by simp
  rw [append, Frame.encode_of_fits hm]
  rw [hframe] at h ⊢
  exact write_framed h

theorem appendBatch_of_hasRoom {w : LogWriter} {ms : List Message} (hms : ∀ m ∈ ms, Frame.Fits m)
    (h : w.target.HasRoom (framed ms).length) : w.appendBatch ms = (w.wrote ms, .ok ()) := by
  rw [appendBatch, encodeAll_of_fits hms]
  exact write_framed h

/-- A batch succeeds only if all its messages fit and there is room for all of them. -/
theorem of_appendBatch_ok {w : LogWriter} {ms : List Message} (h : (w.appendBatch ms).2 = .ok ()) :
    (∀ m ∈ ms, Frame.Fits m) ∧ w.target.HasRoom (framed ms).length := by
  have hms : ∀ m ∈ ms, Frame.Fits m := by
    obtain ⟨_, -, hok⟩ := w.take_spec (.appendBatch ms)
    exact (hok h).2
  refine ⟨hms, Target.hasRoom_of_write_ok ?_⟩
  rw [appendBatch, encodeAll_of_fits hms] at h
  dsimp only at h
  unfold write at h
  split at h
  · rename_i hw
    rw [hw]
  · cases h

/-! ## Batches and single appends -/

/-- Messages for all of which there is room, appended one by one. -/
theorem after_append_of_hasRoom {w : LogWriter} {ms : List Message} (hms : ∀ m ∈ ms, Frame.Fits m)
    (h : w.target.HasRoom (framed ms).length) :
    w.after (ms.map .append) = w.wrote ms ∧ w.acknowledged (ms.map .append) = ms := by
  induction ms generalizing w with
  | nil => exact ⟨w.wrote_nil.symm, rfl⟩
  | cons m ms ih =>
    have hfirst : w.append m = (w.wrote [m], .ok ()) := by
      refine append_of_hasRoom (hms m List.mem_cons_self) fun room hroom => ?_
      have := h room hroom
      rw [framed_cons, List.length_append] at this
      omega
    have hrest : (w.wrote [m]).target.HasRoom (framed ms).length := by
      intro room hroom
      obtain ⟨before, hbefore, rfl⟩ := Option.map_eq_some_iff.mp hroom
      have := h before hbefore
      rw [framed_cons, List.length_append] at this
      rw [framed_cons, framed_nil, List.append_nil]
      omega
    obtain ⟨hafter, hacks⟩ := ih (fun x hx => hms x (List.mem_cons_of_mem _ hx)) hrest
    simp only [List.map_cons, after, acknowledged, acknowledges, take, hfirst, hafter, hacks, wrote_wrote,
      WriterStep.messages, List.singleton_append, and_self]

/-- **A batch that succeeds leaves the target and the counters that single appends leave,** which all succeed, whatever
room the target has. -/
theorem after_append_of_appendBatch {w : LogWriter} {ms : List Message} (h : (w.appendBatch ms).2 = .ok ()) :
    (w.appendBatch ms).1 = w.after (ms.map .append) ∧ w.acknowledged (ms.map .append) = ms := by
  obtain ⟨hms, hroom⟩ := of_appendBatch_ok h
  obtain ⟨hafter, hacks⟩ := after_append_of_hasRoom hms hroom
  rw [appendBatch_of_hasRoom hms hroom, hafter]
  exact ⟨rfl, hacks⟩

/-! ## Calls on targets that never fail -/

theorem take_of_unbounded {w : LogWriter} {s : WriterStep} (h : w.target.room = none) (hs : s.IsCall)
    (hfit : ∀ m ∈ s.messages, Frame.Fits m) : w.take s = (w.wrote s.messages, .ok ()) := by
  cases s with
  | append m => exact append_of_hasRoom (hfit m List.mem_cons_self) (Target.hasRoom_of_unbounded h _)
  | appendBatch ms => exact appendBatch_of_hasRoom hfit (Target.hasRoom_of_unbounded h _)
  | flush =>
    have hflush : w.flush = .ok () := by simp [flush, Target.flush, h, Except.mapError]
    rw [take, hflush, WriterStep.messages, wrote_nil]
  | room n => exact hs.elim

/-- **A message that has no frame is refused with all that was to be written with it,** wherever it stands, and nothing
changes. -/
theorem take_of_not_fits {w : LogWriter} {s : WriterStep} {m : Message} (hm : m ∈ s.messages) (h : ¬Frame.Fits m) :
    ∃ x ∈ s.messages, ¬Frame.Fits x ∧ w.take s = (w, .error (.frame (.tooLarge (Wire.message x).length))) := by
  cases s with
  | append y =>
    obtain rfl : m = y := List.mem_singleton.mp hm
    exact ⟨m, hm, h, by rw [take, append, Frame.encode_of_not_fits h]⟩
  | appendBatch ms =>
    have hm : m ∈ ms := hm
    obtain ⟨x, hx, hn, he⟩ := encodeAll_of_not_fits hm h
    exact ⟨x, hx, hn, by rw [take, appendBatch, he]⟩
  | flush => cases hm
  | room n => cases hm

/-- All that a call can do. -/
theorem take_cases {w : LogWriter} {s : WriterStep} (h : w.target.room = none) (hs : s.IsCall) :
    ((∀ m ∈ s.messages, Frame.Fits m) ∧ w.take s = (w.wrote s.messages, .ok ())) ∨
      (¬(∀ m ∈ s.messages, Frame.Fits m) ∧ ∃ e, w.take s = (w, .error e)) := by
  by_cases hfit : ∀ m ∈ s.messages, Frame.Fits m
  · exact .inl ⟨hfit, take_of_unbounded h hs hfit⟩
  · obtain ⟨m, hm, hn⟩ : ∃ m ∈ s.messages, ¬Frame.Fits m := by simpa using hfit
    obtain ⟨x, -, -, htake⟩ := take_of_not_fits (w := w) hm hn
    exact .inr ⟨hfit, _, htake⟩

/-- A call acknowledges all its messages, or none. -/
theorem acknowledges_of_unbounded {w : LogWriter} {s : WriterStep} (h : w.target.room = none) (hs : s.IsCall) :
    w.acknowledges s = if ∀ m ∈ s.messages, Frame.Fits m then s.messages else [] := by
  rcases take_cases h hs with ⟨hfit, htake⟩ | ⟨hfit, e, htake⟩
  · rw [acknowledges, htake, if_pos hfit]
  · rw [acknowledges, htake, if_neg hfit]

/-- A call leaves the writer behind what it acknowledges, also if it is refused. -/
theorem take_eq_wrote {w : LogWriter} {s : WriterStep} (h : w.target.room = none) (hs : s.IsCall) :
    (w.take s).1 = w.wrote (w.acknowledges s) ∧ ∀ m ∈ w.acknowledges s, Frame.Fits m := by
  rw [acknowledges_of_unbounded h hs]
  rcases take_cases h hs with ⟨hfit, htake⟩ | ⟨hfit, e, htake⟩
  · rw [if_pos hfit, htake]
    exact ⟨rfl, hfit⟩
  · rw [if_neg hfit, htake]
    exact ⟨w.wrote_nil.symm, nofun⟩

theorem room_take_of_unbounded {w : LogWriter} {s : WriterStep} (h : w.target.room = none) (hs : s.IsCall) :
    (w.take s).1.target.room = none := by
  rw [(take_eq_wrote h hs).1, wrote, h, Option.map_none]

/-- **A history of calls leaves the writer behind what was acknowledged.** -/
theorem after_eq_wrote {w : LogWriter} {steps : List WriterStep} (h : w.target.room = none)
    (hcalls : ∀ s ∈ steps, s.IsCall) :
    w.after steps = w.wrote (w.acknowledged steps) ∧ ∀ m ∈ w.acknowledged steps, Frame.Fits m := by
  induction steps generalizing w with
  | nil => exact ⟨w.wrote_nil.symm, nofun⟩
  | cons s steps ih =>
    obtain ⟨htake, hfit⟩ := take_eq_wrote h (hcalls s List.mem_cons_self)
    obtain ⟨hafter, hfits⟩ :=
      ih (room_take_of_unbounded h (hcalls s List.mem_cons_self)) fun x hx => hcalls x (List.mem_cons_of_mem _ hx)
    refine ⟨?_, fun m hm => (List.mem_append.mp hm).elim (hfit m) (hfits m)⟩
    rw [after, acknowledged, hafter, ← wrote_wrote, ← htake]

theorem data_after_of_unbounded {w : LogWriter} {steps : List WriterStep} (h : w.target.room = none)
    (hcalls : ∀ s ∈ steps, s.IsCall) : (w.after steps).target.data = w.target.data ++ framed (w.acknowledged steps) := by
  rw [(after_eq_wrote h hcalls).1, data_wrote]

/-- What is acknowledged of a history: the messages of the calls all of whose messages fit. -/
theorem acknowledged_of_unbounded {w : LogWriter} {steps : List WriterStep} (h : w.target.room = none)
    (hcalls : ∀ s ∈ steps, s.IsCall) :
    w.acknowledged steps = steps.flatMap fun s => if ∀ m ∈ s.messages, Frame.Fits m then s.messages else [] := by
  induction steps generalizing w with
  | nil => rfl
  | cons s steps ih =>
    have hs := hcalls s List.mem_cons_self
    rw [acknowledged, acknowledges_of_unbounded h hs, List.flatMap_cons,
      ih (room_take_of_unbounded h hs) fun x hx => hcalls x (List.mem_cons_of_mem _ hx)]

/-- **The counters are exact.** A writer goes on with any number of records and octets, and its target never fails. After
any history of calls, the octets have grown by those that were put on the target and the records by the messages that are
read of them, as long as there are fewer than `UInt64.size` of either. From there, a batch that succeeds leaves the target
and the counters as single appends of its messages do. A call succeeds if all its messages fit a frame, and if one of them
does not, wherever it stands in a batch, then the call is refused for such a message and changes nothing. -/
theorem counted_after {target : Target} (hnever : target.NeverFails) (records bytes : UInt64)
    {steps : List WriterStep} (hcalls : ∀ s ∈ steps, s.IsCall) :
    let w := (resume target records bytes).after steps
    (∃ added, w.target.data = target.data ++ added ∧
      readAll added = ⟨(resume target records bytes).acknowledged steps, none⟩ ∧
      (bytes.toNat + added.length < UInt64.size → w.bytes.toNat = bytes.toNat + added.length) ∧
      (records.toNat + (readAll added).messages.length < UInt64.size →
        w.records.toNat = records.toNat + (readAll added).messages.length)) ∧
    (∀ ms, (w.appendBatch ms).2 = .ok () →
      (w.appendBatch ms).1 = w.after (ms.map .append) ∧ w.acknowledged (ms.map .append) = ms) ∧
    (∀ s : WriterStep, s.IsCall → (∀ m ∈ s.messages, (Wire.message m).length ≤ Frame.maxPayload) →
      (w.take s).2 = .ok ()) ∧
    ∀ s : WriterStep, (∃ m ∈ s.messages, Frame.maxPayload < (Wire.message m).length) →
      (w.take s).1 = w ∧ ∃ m ∈ s.messages, Frame.maxPayload < (Wire.message m).length ∧
        (w.take s).2 = .error (.frame (.tooLarge (Wire.message m).length)) := by
  intro w
  have hroom := Target.neverFails_iff.mp hnever
  obtain ⟨hafter, hfits⟩ := after_eq_wrote (w := resume target records bytes) hroom hcalls
  have hw : w = (resume target records bytes).wrote ((resume target records bytes).acknowledged steps) := hafter
  have hread := readAll_framed hfits
  refine ⟨⟨framed ((resume target records bytes).acknowledged steps), ?_, hread, fun hlt => ?_, fun hlt => ?_⟩,
    fun ms hms => after_append_of_appendBatch hms, fun s hs hfit => ?_, fun s ⟨m, hm, hlong⟩ => ?_⟩
  · exact data_after_of_unbounded (w := resume target records bytes) hroom hcalls
  · rw [hw]
    exact toNat_add_ofNat hlt
  · rw [hread] at hlt ⊢
    rw [hw]
    exact toNat_add_ofNat hlt
  · have hunbounded : w.target.room = none := by rw [hw, wrote, resume, hroom, Option.map_none]
    rw [take_of_unbounded hunbounded hs hfit]
  · obtain ⟨x, hx, hn, htake⟩ := take_of_not_fits (w := w) hm (Nat.not_le.mpr hlong)
    rw [htake]
    exact ⟨rfl, x, hx, Nat.not_le.mp hn, rfl⟩

/-- A message whose text is too long has no frame. -/
theorem length_message_replicate (id : MessageId) (t : Timestamp) (n : Nat) :
    n ≤ (Wire.message ⟨id, t, .coverage ⟨"lcov", String.ofList (List.replicate n 'x')⟩⟩).length := by
  have hone : 'x'.utf8Size = 1 := by decide
  have hpath : (Text.Utf8.encode (String.ofList (List.replicate n 'x'))).length = n := by
    simp [Text.Utf8.encode_eq, List.length_flatMap, hone]
  simp only [Wire.message, Wire.event, Wire.coverage, Wire.text, Wire.blob, List.length_append, hpath]
  omega

/-- A writer that goes on with five records, and a message of which there is no frame: alone, and between others. -/
theorem counted_after_refused :
    let beat (n : Nat) : Message := ⟨⟨.ofNat n⟩, ⟨0, 0⟩, .heartbeat⟩
    let long : Message := ⟨⟨.ofNat 0⟩, ⟨0, 0⟩, .coverage ⟨"lcov", String.ofList (List.replicate 16777217 'x')⟩⟩
    let target : Target := ⟨.ofList [1, 2, 3], none⟩
    let steps : List WriterStep :=
      [.append (beat 1), .appendBatch [beat 2, long, beat 3], .append long, .flush, .appendBatch [beat 2, beat 3]]
    let w := (resume target 5 100).after steps
    target.NeverFails ∧ (∀ s ∈ steps, s.IsCall) ∧
      (∃ added, w.target.data = [1, 2, 3] ++ added ∧ readAll added = ⟨[beat 1, beat 2, beat 3], none⟩ ∧
        w.bytes.toNat = 100 + added.length ∧ w.records.toNat = 5 + 3) ∧
      (w.appendBatch [beat 4, beat 5]).1 = w.after [.append (beat 4), .append (beat 5)] ∧
      (w.take (.appendBatch [beat 4, long])).1 = w := by
  intro beat long target steps w
  have hlong : ¬Frame.Fits long := Nat.not_le.mpr (length_message_replicate _ _ 16777217)
  -- what the long message says plays no part below
  clear_value long
  have hnever : target.NeverFails := Target.neverFails_iff.mpr rfl
  have hcalls : ∀ s ∈ steps, s.IsCall := by simp [steps, WriterStep.IsCall]
  have hroom : (resume target 5 100).target.room = none := rfl
  have hshort (n : Nat) : (Wire.message (beat n)).length ≤ 33 := by
    have hmessage := Wire.length_message_le_event (beat n)
    have hevent : (Wire.event (beat n).event).length ≤ 1 := Wire.length_varint_le (by decide)
    omega
  have hbeat (n : Nat) : Frame.Fits (beat n) := Nat.le_trans (hshort n) (by decide)
  obtain ⟨⟨added, hdata, hread, hbytes, hrecords⟩, hbatch, hok, hrefused⟩ := counted_after hnever 5 100 hcalls
  have hacks : (resume target 5 100).acknowledged steps = [beat 1, beat 2, beat 3] := by
    rw [acknowledged_of_unbounded hroom hcalls]
    simp [steps, WriterStep.messages, hbeat, hlong]
  rw [hacks] at hread
  have hadded : added = framed [beat 1, beat 2, beat 3] := by
    have hwritten := data_after_of_unbounded hroom hcalls
    rw [hacks] at hwritten
    exact List.append_cancel_left (hdata.symm.trans hwritten)
  have hlength : added.length ≤ 123 := by
    have := hshort 1
    have := hshort 2
    have := hshort 3
    simp only [hadded, framed_cons, framed_nil, List.length_append, Frame.length_of, Frame.overhead, List.length_nil]
    omega
  have hfit : ∀ m ∈ [beat 4, beat 5], Frame.Fits m := by simp [hbeat]
  refine ⟨hnever, hcalls, ⟨added, hdata, hread, hbytes ?_, ?_⟩, ?_, ?_⟩
  · exact Nat.lt_of_le_of_lt (Nat.add_le_add_left hlength 100) (by decide)
  · rw [hread] at hrecords
    exact hrecords (by decide)
  · exact (hbatch _ (hok (.appendBatch [beat 4, beat 5]) trivial hfit)).1
  · exact (hrefused _ ⟨long, List.mem_cons_of_mem _ List.mem_cons_self, Nat.not_le.mp hlong⟩).1

end LogWriter

end RunLedger
