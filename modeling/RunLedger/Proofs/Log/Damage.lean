import RunLedger.Proofs.Log.Reading

/-!
# Damaged logs

Damage never reaches backwards. `stops` lists where the frames of a log end. A log that agrees with the frames of
messages up to some octet gives every message whose frame ends there or before, and finds no fault before the end of the
last of these frames; a log that is cut at that octet gives exactly these messages, and says where the cut record starts
(`readAll_of_agrees`).

The proof splits the log behind the last complete frame: the frames in front of the split are whole, and what follows it
is read from there on (`readAll_append`). If the log is cut, what follows is empty or the front of one frame.
-/

namespace RunLedger

/-- Where frames end that follow one another from an offset on. -/
def stops (offset : Nat) : List Bytes → List Nat
  | [] => []
  | frame :: frames => (offset + frame.length) :: stops (offset + frame.length) frames

/-- How many of the frames end at or before an octet. -/
def complete (offset : Nat) (frames : List Bytes) (k : Nat) : Nat := (stops offset frames).countP (· ≤ k)

/-! ## Counting complete frames -/

theorem le_of_mem_stops {offset t : Nat} {frames : List Bytes} (h : t ∈ stops offset frames) : offset ≤ t := by
  induction frames generalizing offset with
  | nil => cases h
  | cons frame frames ih =>
    rcases List.mem_cons.mp h with rfl | h
    · omega
    · have := ih h
      omega

theorem complete_eq_zero {offset k : Nat} (frames : List Bytes) (h : k < offset) : complete offset frames k = 0 := by
  rw [complete, List.countP_eq_zero]
  intro t ht
  have := le_of_mem_stops ht
  simp only [decide_eq_true_eq]
  omega

theorem complete_cons {offset k : Nat} {frame : Bytes} (frames : List Bytes) (h : offset + frame.length ≤ k) :
    complete offset (frame :: frames) k = complete (offset + frame.length) frames k + 1 := by
  simp [complete, stops, h]

theorem complete_cons_eq_zero {offset k : Nat} {frame : Bytes} (frames : List Bytes) (h : k < offset + frame.length) :
    complete offset (frame :: frames) k = 0 := by
  have h' := complete_eq_zero frames h
  simp only [complete] at h'
  simp only [complete, stops, List.countP_cons, h', decide_eq_true_eq]
  rw [if_neg (by omega)]

/-- **An octet of a log lies behind the complete frames and inside the next one**, or at the end of the frames. -/
theorem complete_split {offset k : Nat} (ms : List Message) (h : offset ≤ k)
    (hk : k ≤ offset + (framed ms).length) :
    ∃ done todo, ms = done ++ todo ∧ done.length = complete offset (ms.map Frame.of) k ∧
      offset + (framed done).length ≤ k ∧
      (∀ m rest, todo = m :: rest → k < offset + (framed done).length + (Frame.of m).length) ∧
      ((k = offset ∨ k ∈ stops offset (ms.map Frame.of)) ↔ k = offset + (framed done).length) := by
  induction ms generalizing offset with
  | nil => exact ⟨[], [], by simp [complete, stops]; omega⟩
  | cons m ms ih =>
    by_cases hm : offset + (Frame.of m).length ≤ k
    · simp only [framed_cons, List.length_append] at hk
      obtain ⟨done, todo, rfl, hn, hd, ht, hb⟩ := ih hm (by omega)
      have hpos := List.length_pos_iff.mpr (Frame.of_ne_nil m)
      refine ⟨m :: done, todo, rfl, ?_, ?_, ?_, ?_⟩
      · rw [List.map_cons, complete_cons _ hm, List.length_cons, hn]
      · simp only [framed_cons, List.length_append]
        omega
      · intro x rest hx
        have := ht x rest hx
        simp only [framed_cons, List.length_append]
        omega
      · have hne : k ≠ offset := by omega
        simp only [List.map_cons, stops, List.mem_cons, framed_cons, List.length_append, ← Nat.add_assoc, ← hb, hne,
          false_or]
    · refine ⟨[], m :: ms, rfl, ?_, by simpa using h, ?_, ?_⟩
      · rw [List.map_cons, complete_cons_eq_zero _ (by omega)]
        rfl
      · intro x rest hx
        cases hx
        simp only [framed_nil, List.length_nil]
        omega
      · have hlate : k ∉ stops offset ((m :: ms).map Frame.of) := by
          intro hmem
          rcases List.mem_cons.mp hmem with rfl | hmem
          · omega
          · have := le_of_mem_stops hmem
            omega
        simp only [hlate, or_false, framed_nil, List.length_nil, Nat.add_zero]

/-! ## Reading behind complete frames -/

/-- Behind a whole front, a log is read on as if it started there. -/
theorem readAll_append {front rest : Bytes} {ms : List Message} (h : Whole front ms)
    (hsize : (front ++ rest).length < UInt64.size) :
    ∃ more, (readAll (front ++ rest)).messages = ms ++ more ∧
      ∀ t, (readAll (front ++ rest)).truncatedAt = some t → front.length ≤ t := by
  obtain ⟨front', rest', ms', rfl, hw, e, he⟩ := exists_whole rest
  have hread := readAll_eq (h.append hw) he
  rw [List.append_assoc] at hread
  refine ⟨ms', by rw [hread], fun t ht => ?_⟩
  rw [hread] at ht
  simp only [List.length_append] at ht hsize
  split at ht
  · cases ht
  · cases ht
    simp only [maxPosition]
    omega

/-- A log that ends inside a frame, behind other frames. -/
theorem readAll_of_cut {ms : List Message} {rest : Bytes} (hfit : ∀ m ∈ ms, Frame.Fits m)
    (hrest : ∃ e, Frame.decode rest = .error e) (hsize : (framed ms ++ rest).length < UInt64.size) :
    readAll (framed ms ++ rest) = ⟨ms, if rest = [] then none else some (framed ms).length⟩ := by
  obtain ⟨e, he⟩ := hrest
  rw [readAll_eq (whole_framed hfit) he, Nat.min_eq_left]
  simp only [List.length_append] at hsize
  simp only [maxPosition]
  omega

/-- Frames that were cut off before the end of the first of them hold no record. -/
theorem decode_take_framed {ms : List Message} (hfit : ∀ m ∈ ms, Frame.Fits m) {n : Nat}
    (hn : ∀ m rest, ms = m :: rest → n < (Frame.of m).length) :
    ∃ e, Frame.decode ((framed ms).take n) = .error e := by
  cases ms with
  | nil => exact ⟨_, by rw [framed_nil, List.take_nil]; rfl⟩
  | cons m ms =>
    have hlt := hn m ms rfl
    rw [framed_cons, List.take_append_of_le_length (by omega)]
    refine Frame.decode_of_cut (hfit m List.mem_cons_self) (List.take_prefix _ _) fun heq => ?_
    have := congrArg List.length heq
    rw [List.length_take_of_le (by omega)] at this
    omega

/-- Frames that messages have are those of messages that fit. -/
theorem eq_map_of_encode {ms : List Message} {frames : List Bytes} (h : ms.map Frame.encode = frames.map Except.ok) :
    (∀ m ∈ ms, Frame.Fits m) ∧ frames = ms.map Frame.of := by
  induction ms generalizing frames with
  | nil => simpa using h
  | cons m ms ih =>
    cases frames with
    | nil => cases h
    | cons frame frames =>
      simp only [List.map_cons, List.cons.injEq] at h
      obtain ⟨hm, rfl⟩ := Frame.encode_eq_ok_iff.mp h.1
      obtain ⟨hfit, rfl⟩ := ih h.2
      exact ⟨List.forall_mem_cons.mpr ⟨hm, hfit⟩, rfl⟩

/-- **Damage never reaches backwards.** A log that agrees with the frames of messages on its first `k` octets (a byte
string in memory has fewer than `UInt64.size` of them) gives the messages whose frames end there or before. -/
theorem readAll_of_agrees {ms : List Message} {frames : List Bytes} (hframes : ms.map Frame.encode = frames.map .ok)
    {log : Bytes} {k : Nat} (hk : k ≤ frames.flatten.length) (hlog : k ≤ log.length)
    (hagree : log.take k = frames.flatten.take k) (hsize : log.length < UInt64.size) :
    let j := complete 0 frames k
    let stop := (frames.take j).flatten.length
    ms.take j <+: (readAll log).messages ∧ (ms.take j).length = j ∧
      (∀ t, (readAll log).truncatedAt = some t → stop ≤ t) ∧
      (log = frames.flatten.take k →
        readAll log = ⟨ms.take j, if k = 0 ∨ k ∈ stops 0 frames then none else some stop⟩) := by
  obtain ⟨hfit, rfl⟩ := eq_map_of_encode hframes
  have hflat : ∀ xs : List Message, (xs.map Frame.of).flatten = framed xs := fun xs => List.flatMap_def.symm
  rw [hflat] at hk hagree
  obtain ⟨done, todo, rfl, hn, hd, ht, hb⟩ := complete_split ms (Nat.zero_le k) (by omega)
  simp only [Nat.zero_add] at hd ht hb
  -- the frames in front of the split are complete
  have hdone : ∀ m ∈ done, Frame.Fits m := fun m hm => hfit m (List.mem_append_left _ hm)
  have htodo : ∀ m ∈ todo, Frame.Fits m := fun m hm => hfit m (List.mem_append_right _ hm)
  have hstop : (((done ++ todo).map Frame.of).take done.length).flatten = framed done := by
    rw [← List.map_take, List.take_left, hflat]
  obtain ⟨rest, rfl⟩ : framed done <+: log := by
    refine List.IsPrefix.trans ?_ (List.take_prefix k log)
    rw [hagree, framed_append, List.take_append, List.take_of_length_le hd]
    exact List.prefix_append _ _
  simp only [← hn, hstop, hb, List.take_left, hflat]
  obtain ⟨more, hmore, htrunc⟩ := readAll_append (whole_framed hdone) hsize
  refine ⟨⟨more, hmore.symm⟩, trivial, htrunc, fun hcut => ?_⟩
  -- what follows the complete frames is a cut frame
  have hrest : rest = (framed todo).take (k - (framed done).length) := by
    rw [framed_append, List.take_append, List.take_of_length_le hd] at hcut
    exact List.append_cancel_left hcut
  have hlen : rest.length = k - (framed done).length := by
    have := congrArg List.length hcut
    simp only [framed_append, List.length_append, List.length_take] at this hk
    omega
  have hnone := decode_take_framed htodo (n := k - (framed done).length) fun m r hm => by
    have := ht m r hm
    omega
  rw [← hrest] at hnone
  have hempty : rest = [] ↔ k = (framed done).length := by
    rw [← List.length_eq_zero_iff, hlen]
    omega
  rw [readAll_of_cut hdone hnone hsize]
  simp only [hempty]

/-- Two records of which the second was overwritten behind its second octet. -/
theorem readAll_of_agrees_overwritten :
    let beat (n : Nat) : Message := ⟨⟨.ofNat n⟩, ⟨0, 0⟩, .heartbeat⟩
    let frames := [Frame.of (beat 1), Frame.of (beat 2)]
    let k := (Frame.of (beat 1)).length + 2
    let log := frames.flatten.take k ++ [255]
    [beat 1, beat 2].map Frame.encode = frames.map .ok ∧ log.take k = frames.flatten.take k ∧
      log.length < UInt64.size ∧ [beat 1] <+: (readAll log).messages := by
  intro beat frames k log
  have hframes : [beat 1, beat 2].map Frame.encode = frames.map .ok := by
    simp only [List.map_cons, List.map_nil, frames, Frame.encode_of_fits (m := beat 1) (by decide +kernel),
      Frame.encode_of_fits (m := beat 2) (by decide +kernel)]
  have hk : k ≤ frames.flatten.length := by
    simp only [k, frames, List.flatten_cons, List.flatten_nil, List.length_append, Frame.length_of, Frame.overhead]
    omega
  have htake : (frames.flatten.take k).length = k := List.length_take_of_le hk
  have hagree : log.take k = frames.flatten.take k := by
    rw [List.take_append_of_le_length (by omega), List.take_take, Nat.min_self]
  have hlog : log.length = k + 1 := by
    rw [List.length_append, htake, List.length_singleton]
  have hsize : log.length < UInt64.size := by
    rw [hlog]
    simp only [k, Frame.length_of]
    decide +kernel
  have h := readAll_of_agrees hframes hk (by omega) hagree hsize
  have hj : complete 0 frames k = 1 := by
    rw [complete_cons _ (by simp [k]), complete_cons_eq_zero]
    simp only [k, Frame.length_of, Frame.overhead]
    omega
  simp only [hj] at h
  exact ⟨hframes, hagree, hsize, h.1⟩

end RunLedger
