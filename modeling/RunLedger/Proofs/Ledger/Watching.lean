import RunLedger.Ledger.Watch
import RunLedger.Proofs.Ledger.RunLog

/-!
# What one watch knows of a log

`Watch.Tracks` is the invariant of a watch: what it handed out and what it read and did not hand out are the messages
in front of its cursor; what waits in its feed are records of the log; and as long as the feed is open and the watch
need not read the log, nothing is between the cursor and the records that wait. It holds of a new watch
(`tracks_new`), is kept when messages come behind the log and are published (`Tracks.publish`) and when the feed is
closed (`Tracks.close`), and `poll_spec` says what it means for the next answer of the watch.

Behind all this is the list of messages that the watch owes: those that were in the log when its feed was closed.
-/

namespace RunLedger.Ledger

/-- A record has its place among the records of a log. -/
theorem placed_eq_append_cons {record offset : Nat} {ms : List Message} {xs ys : List Persisted} {p : Persisted}
    (h : placed record offset ms = xs ++ p :: ys) : ∃ front m rest, ms = front ++ m :: rest ∧
      front.length = xs.length ∧ rest.length = ys.length ∧
      p = ⟨record + front.length, offset + (framed (front ++ [m])).length, m⟩ := by
  induction xs generalizing record offset ms with
  | nil =>
    cases ms with
    | nil => cases h
    | cons m ms =>
      obtain ⟨rfl, rfl⟩ := List.cons.inj h
      exact ⟨[], m, ms, rfl, rfl, by simp, by simp⟩
  | cons x xs ih =>
    cases ms with
    | nil => cases h
    | cons m ms =>
      obtain ⟨-, hrest⟩ := List.cons.inj h
      obtain ⟨front, m', rest, rfl, hf, hr, rfl⟩ := ih hrest
      refine ⟨m :: front, m', rest, rfl, by simp [hf], hr, ?_⟩
      simp only [List.length_cons, List.cons_append, framed_cons, List.length_append, Persisted.mk.injEq, and_true]
      omega

theorem mem_placed {ms : List Message} {p : Persisted} (h : p ∈ placed 0 0 ms) :
    ∃ front rest, ms = front ++ p.message :: rest ∧ p.record = front.length ∧
      p.stop = (framed (front ++ [p.message])).length := by
  obtain ⟨xs, ys, hs⟩ := List.append_of_mem h
  obtain ⟨front, m, rest, rfl, -, -, rfl⟩ := placed_eq_append_cons hs
  exact ⟨front, rest, rfl, Nat.zero_add _, Nat.zero_add _⟩

/-! ## Reading on from a cursor -/

/-- Behind a cursor are the messages that it has not passed, and the cursor comes to stand behind all of them. -/
theorem catchUp_spec {d : Disk} {path : String} {ms : List Message} {c : Cursor} (hd : d.Holds path ms)
    (ho : d.octets path = framed ms) (hf : ∀ m ∈ ms, Frame.Fits m) (hsize : (framed ms).length ≤ maxPosition)
    (hr : c.record ≤ ms.length) (hc : c.offset = (framed (ms.take c.record)).length) :
    catchUp d path c = .ok (ms.drop c.record, ⟨ms.length, (framed ms).length⟩) := by
  obtain ⟨record, offset⟩ := c
  simp only at hr hc
  rcases hd.read_eq with ⟨hread, -, rfl⟩ | hread
  · obtain rfl : record = 0 := Nat.le_zero.mp hr
    simp [catchUp, hread, hc]
  · have hsplit : framed ms = framed (ms.take record) ++ framed (ms.drop record) := by
      rw [← framed_append, List.take_append_drop]
    have hdrop : (framed ms).drop offset = framed (ms.drop record) := by rw [hsplit, hc, List.drop_left]
    have hlen := congrArg List.length hsplit
    rw [List.length_append] at hlen
    have hrecords := length_le_framed ms
    have hrest : ∀ m ∈ ms.drop record, Frame.Fits m := fun m hm => hf m (List.mem_of_mem_drop hm)
    have hvalid : (Cursor.mk record 0).Valid := ⟨by simp only; omega, Nat.zero_le _⟩
    have := Cursor.readOnto_eq (whole_framed hrest) Frame.decode_nil hvalid []
    rw [List.append_nil] at this
    simp only [catchUp, hread, ho, hdrop, Cursor.read, Nat.zero_le, if_true, List.drop_zero, this]
    simp only [Cursor.skip, List.reverse_nil, List.nil_append, List.length_drop, Except.ok.injEq, Prod.mk.injEq,
      Cursor.mk.injEq, true_and]
    omega

/-! ## Feeds -/

namespace Feed

variable {f f' : Feed} {p : Persisted}

theorem receive_missed (h : f.receive = (.missed, f')) : f' = { f with missed := false } := by
  unfold receive at h
  split at h
  · exact (Prod.mk.inj h).2.symm
  · split at h
    · cases h
    · split at h <;> cases h

theorem receive_message (h : f.receive = (.message p, f')) :
    f.missed = false ∧ f.waiting = p :: f'.waiting ∧ f'.isOpen = f.isOpen ∧ f'.missed = false := by
  unfold receive at h
  split at h
  · cases h
  · rename_i hm
    split at h
    · rename_i hw
      cases h
      exact ⟨by simpa using hm, hw, rfl, by simpa using hm⟩
    · split at h <;> cases h

theorem receive_empty (h : f.receive = (.empty, f')) : f.missed = false ∧ f.waiting = [] ∧ f.isOpen := by
  unfold receive at h
  split at h
  · cases h
  · rename_i hm
    split at h
    · cases h
    · rename_i hw
      split at h
      · rename_i ho
        exact ⟨by simpa using hm, hw, ho⟩
      · cases h

theorem receive_closed (h : f.receive = (.closed, f')) : f.isOpen = false := by
  unfold receive at h
  split at h
  · cases h
  · split at h
    · cases h
    · split at h
      · cases h
      · rename_i ho
        simpa using ho

@[simp] theorem isOpen_push (f : Feed) (p : Persisted) : (f.push p).isOpen = f.isOpen := by
  unfold push
  split
  · rfl
  · split <;> rfl

theorem isOpen_foldl_push (f : Feed) (ps : List Persisted) : (ps.foldl push f).isOpen = f.isOpen := by
  induction ps generalizing f with
  | nil => rfl
  | cons p ps ih => rw [List.foldl_cons, ih, isOpen_push]

/-- The record that was published waits last, and others may have been pushed out. -/
theorem waiting_push_suffix (ho : f.isOpen) (p : Persisted) : (f.push p).waiting <:+ f.waiting ++ [p] := by
  unfold push
  rw [if_neg (by simpa using ho)]
  split
  · exact List.suffix_rfl
  · exact List.suffix_append_self_iff.mpr (List.tail_suffix _)

theorem mem_of_mem_push {q : Persisted} (h : q ∈ (f.push p).waiting) : q ∈ f.waiting ++ [p] := by
  by_cases ho : f.isOpen
  · exact (waiting_push_suffix ho p).subset h
  · rw [push_of_closed p (by simpa using ho)] at h
    exact List.mem_append_left _ h

/-- If nothing was missed, nothing was pushed out. -/
theorem push_of_not_missed (ho : f.isOpen) (h : (f.push p).missed = false) :
    f.missed = false ∧ (f.push p).waiting = f.waiting ++ [p] := by
  unfold push at h ⊢
  rw [if_neg (by simpa using ho)] at h ⊢
  split at h
  · rename_i hw
    rw [if_pos hw]
    exact ⟨h, rfl⟩
  · cases h

end Feed

namespace Watch

/-- What a watch knows of a log that holds messages, of which it has handed out some; those that it owes it will hand
out before it ends. -/
structure Tracks (w : Watch) (ms handed owed : List Message) : Prop where
  record_le : w.cursor.record ≤ ms.length
  offset_eq : w.cursor.offset = (framed (ms.take w.cursor.record)).length
  handed_eq : handed ++ w.ready = ms.take w.cursor.record
  mem_placed : ∀ p ∈ w.feed.waiting, p ∈ placed 0 0 ms
  suffix_placed : w.feed.isOpen → w.feed.waiting <:+ placed 0 0 ms
  length_le : w.feed.isOpen → w.behind = false → w.feed.missed = false →
    ms.length ≤ w.cursor.record + w.feed.waiting.length
  not_open : w.closing → w.feed.isOpen = false
  owed_prefix : owed <+: ms
  owed_le : w.closing → w.behind = false → owed.length ≤ w.cursor.record

/-- A watch of the same run that is published to if the other is. -/
structure Resembles (v w : Watch) : Prop where
  run_eq : v.run = w.run
  path_eq : v.path = w.path
  isOpen_eq : v.feed.isOpen = w.feed.isOpen

/-- What a watch may answer, and what it is then: a message that comes next; nothing, if all was handed out; or the
end, if its feed is closed and nothing is owed any more. -/
def Answers (w : Watch) (ms handed owed : List Message) : Poll × Option Watch → Prop
  | (.message m, some v) => v.Tracks ms (handed ++ [m]) owed ∧ v.Resembles w
  | (.pending, some v) => v.Tracks ms handed owed ∧ v.Resembles w ∧ handed = ms
  | (.ended, none) => w.feed.isOpen = false ∧ owed <+: handed
  | _ => False

variable {w v : Watch} {d : Disk} {ms handed owed : List Message}

theorem Answers.of_resembles {r : Poll × Option Watch} (h : v.Answers ms handed owed r) (hv : v.Resembles w) :
    w.Answers ms handed owed r := by
  unfold Answers at *
  split at h
  · exact ⟨h.1, h.2.1.trans hv.1, h.2.2.trans hv.2, h.2.3.trans hv.3⟩
  · exact ⟨h.1, ⟨h.2.1.1.trans hv.1, h.2.1.2.trans hv.2, h.2.1.3.trans hv.3⟩, h.2.2⟩
  · exact ⟨hv.3 ▸ h.1, h.2⟩
  · exact h.elim

/-! ## Steps of a watch -/

/-- A watch that reads on has everything that is in the log. -/
theorem Tracks.readOn (h : w.Tracks ms handed owed) (hr : w.ready = []) : Tracks
    { w with cursor := ⟨ms.length, (framed ms).length⟩, behind := false, ready := ms.drop w.cursor.record }
    ms handed owed where
  record_le := Nat.le_refl _
  offset_eq := by simp
  handed_eq := by
    have := h.handed_eq
    rw [hr, List.append_nil] at this
    simp [this]
  mem_placed := h.mem_placed
  suffix_placed := h.suffix_placed
  length_le _ _ _ := Nat.le_add_right _ _
  not_open := h.not_open
  owed_prefix := h.owed_prefix
  owed_le _ _ := h.owed_prefix.length_le

/-- A message that was read is handed out. -/
theorem Tracks.hand {m : Message} {rest : List Message} (h : w.Tracks ms handed owed) (hr : w.ready = m :: rest) :
    Tracks { w with ready := rest } ms (handed ++ [m]) owed where
  record_le := h.record_le
  offset_eq := h.offset_eq
  handed_eq := by
    have := h.handed_eq
    rw [hr] at this
    simpa using this
  mem_placed := h.mem_placed
  suffix_placed := h.suffix_placed
  length_le := h.length_le
  not_open := h.not_open
  owed_prefix := h.owed_prefix
  owed_le := h.owed_le

/-- Records that are passed over in the feed do no harm, if the watch reads on or has them behind its cursor. -/
theorem Tracks.setFeed {feed : Feed} {behind : Bool} (h : w.Tracks ms handed owed) (hc : w.closing = false)
    (hw : feed.waiting <:+ w.feed.waiting) (ho : feed.isOpen = w.feed.isOpen)
    (hlen : feed.isOpen → behind = false → feed.missed = false →
      ms.length ≤ w.cursor.record + feed.waiting.length) :
    Tracks { w with feed := feed, behind := behind } ms handed owed where
  record_le := h.record_le
  offset_eq := h.offset_eq
  handed_eq := h.handed_eq
  mem_placed p hp := h.mem_placed p (hw.subset hp)
  suffix_placed hopen := hw.trans (h.suffix_placed (ho ▸ hopen))
  length_le := hlen
  not_open hclosing := by simp [hc] at hclosing
  owed_prefix := h.owed_prefix
  owed_le hclosing := by simp [hc] at hclosing

/-- The record that the cursor stands in front of is handed out. -/
theorem Tracks.takeNext {p : Persisted} {feed : Feed} (h : w.Tracks ms handed owed) (hr : w.ready = [])
    (hc : w.closing = false) (hw : w.feed.waiting = p :: feed.waiting) (ho : feed.isOpen = w.feed.isOpen)
    (hp : p.record = w.cursor.record)
    (hlen : feed.isOpen → w.behind = false → feed.missed = false →
      ms.length ≤ w.cursor.record + 1 + feed.waiting.length) :
    Tracks { w with feed := feed, cursor := ⟨p.record + 1, p.stop⟩ } ms (handed ++ [p.message]) owed := by
  have hsuffix : feed.waiting <:+ w.feed.waiting := hw ▸ List.suffix_cons _ _
  obtain ⟨front, rest, rfl, hrec, hstop⟩ := Ledger.mem_placed (h.mem_placed p (hw ▸ List.mem_cons_self))
  have hlast : front ++ p.message :: rest = front ++ [p.message] ++ rest := by simp
  have htake : (front ++ p.message :: rest).take (p.record + 1) = front ++ [p.message] := by
    rw [hlast, hrec, List.take_left' (by simp)]
  have hhanded := h.handed_eq
  rw [hr, List.append_nil, ← hp, hrec, List.take_left] at hhanded
  constructor
  case record_le => simp [hrec]
  case offset_eq => simp only [htake, hstop]
  case handed_eq => simp only [htake, hr, List.append_nil, hhanded]
  case mem_placed => exact fun q hq => h.mem_placed q (hsuffix.subset hq)
  case suffix_placed => exact fun hopen => hsuffix.trans (h.suffix_placed (ho ▸ hopen))
  case length_le => exact fun h₁ h₂ h₃ => hp ▸ hlen h₁ h₂ h₃
  case not_open => exact fun hclosing => by simp [hc] at hclosing
  case owed_prefix => exact h.owed_prefix
  case owed_le => exact fun hclosing => by simp [hc] at hclosing

/-- The first record that waits is no later than what the cursor and the records behind it leave open. -/
theorem Tracks.length_eq {p : Persisted} {rest : List Persisted} (h : w.Tracks ms handed owed) (hopen : w.feed.isOpen)
    (hw : w.feed.waiting = p :: rest) : ms.length = p.record + 1 + rest.length := by
  obtain ⟨xs, hxs⟩ := h.suffix_placed hopen
  rw [hw] at hxs
  obtain ⟨front, m, ys, rfl, -, hys, rfl⟩ := placed_eq_append_cons hxs.symm
  simp only [List.length_append, List.length_cons, hys]
  omega

theorem Tracks.handed_of_ready (h : w.Tracks ms handed owed) (hr : w.ready = []) : handed = ms.take w.cursor.record := by
  rw [← h.handed_eq, hr, List.append_nil]

/-- **The next answer of a watch.** The log can be read, so the watch does not fail. It hands out the message that
follows those that it handed out before; it has nothing to say only if it handed out the whole log; and it ends only
when its feed is closed and it handed out all that it owes. -/
theorem poll_spec (hd : d.Holds w.path ms) (ho : d.octets w.path = framed ms) (hf : ∀ m ∈ ms, Frame.Fits m)
    (hsize : (framed ms).length ≤ maxPosition) (h : w.Tracks ms handed owed) : w.Answers ms handed owed (w.poll d) := by
  fun_induction Watch.poll d w with
  | case1 w m rest hr => exact ⟨h.hand hr, rfl, rfl, rfl⟩
  | case2 w hr hb e he =>
    rw [catchUp_spec hd ho hf hsize h.record_le h.offset_eq] at he
    cases he
  | case3 w hr hb cursor he ih =>
    rw [catchUp_spec hd ho hf hsize h.record_le h.offset_eq] at he
    obtain ⟨hdrop, rfl⟩ := Prod.mk.inj (Except.ok.inj he)
    have hon := h.readOn hr
    rw [hdrop, ← hr] at hon
    exact (ih hd ho hon).of_resembles ⟨rfl, rfl, rfl⟩
  | case4 w hr hb m rest cursor he =>
    rw [catchUp_spec hd ho hf hsize h.record_le h.offset_eq] at he
    obtain ⟨hdrop, rfl⟩ := Prod.mk.inj (Except.ok.inj he)
    exact ⟨(h.readOn hr).hand hdrop, rfl, rfl, rfl⟩
  | case5 w hr hb hc =>
    refine ⟨h.not_open hc, ?_⟩
    rw [h.handed_of_ready hr]
    exact List.prefix_take_iff.mpr ⟨h.owed_prefix, h.owed_le hc (by simpa using hb)⟩
  | case6 w hr hb hc feed he ih =>
    obtain rfl := Feed.receive_missed he
    exact (ih hd ho (h.setFeed (by simpa using hc) List.suffix_rfl rfl (by simp))).of_resembles ⟨rfl, rfl, rfl⟩
  | case7 w hr hb hc p feed he hlt ih =>
    obtain ⟨hm, hw, hopen, -⟩ := Feed.receive_message he
    refine (ih hd ho (h.setFeed (by simpa using hc) (hw ▸ List.suffix_cons _ _) hopen ?_)).of_resembles
      ⟨rfl, rfl, hopen⟩
    -- the record that is passed over lies in front of the cursor
    intro ho' _ _
    have := h.length_eq (hopen ▸ ho') hw
    omega
  | case8 w hr hb hc p feed he hlt heq =>
    obtain ⟨hm, hw, hopen, -⟩ := Feed.receive_message he
    refine ⟨h.takeNext hr (by simpa using hc) hw hopen heq ?_, rfl, rfl, hopen⟩
    intro ho' _ _
    have := h.length_eq (hopen ▸ ho') hw
    omega
  | case9 w hr hb hc p feed he hlt hne ih =>
    obtain ⟨hm, hw, hopen, -⟩ := Feed.receive_message he
    exact (ih hd ho (h.setFeed (by simpa using hc) (hw ▸ List.suffix_cons _ _) hopen (by simp))).of_resembles
      ⟨rfl, rfl, hopen⟩
  | case10 w hr hb hc feed he ih =>
    have hclosed := Feed.receive_closed he
    refine (ih hd ho ?_).of_resembles ⟨rfl, rfl, rfl⟩
    exact { h with
      length_le := fun hopen => by simp [hclosed] at hopen
      not_open := fun _ => hclosed
      owed_le := fun _ hb' => by simp at hb' }
  | case11 w hr hb hc feed he =>
    obtain ⟨hm, hw, hopen⟩ := Feed.receive_empty he
    refine ⟨h, ⟨rfl, rfl, rfl⟩, ?_⟩
    have := h.length_le hopen (by simpa using hb) hm
    rw [hw, List.length_nil, Nat.add_zero] at this
    rw [h.handed_of_ready hr, List.take_of_length_le this]

/-! ## What happens to a watch from outside -/

/-- A new watch handed out nothing and owes the whole log. -/
theorem tracks_new (run : RunId) (path : String) (capacity : Nat) (live : Bool) (ms : List Message) :
    Tracks (new run path (.new capacity live)) ms [] ms where
  record_le := Nat.zero_le _
  offset_eq := rfl
  handed_eq := rfl
  mem_placed p hp := by cases hp
  suffix_placed _ := List.nil_suffix
  length_le _ hb := by cases hb
  not_open hc := by cases hc
  owed_prefix := List.prefix_rfl
  owed_le hc := by cases hc

/-- As long as it is published to, a watch may owe any messages in the log. -/
theorem Tracks.owe {owed' : List Message} (h : w.Tracks ms handed owed) (hopen : w.feed.isOpen) (ho : owed' <+: ms) :
    w.Tracks ms handed owed' :=
  { h with
    owed_prefix := ho
    owed_le := fun hc => by simp [h.not_open hc] at hopen }

/-- A feed that is closed stays as it was, and owes what it did. -/
theorem Tracks.close (h : w.Tracks ms handed owed) : Tracks { w with feed := w.feed.close } ms handed owed :=
  { h with
    suffix_placed := fun hopen => by cases hopen
    length_le := fun hopen => by cases hopen
    not_open := fun _ => rfl }

/-- A message comes behind the log and is published. -/
theorem Tracks.push (h : w.Tracks ms handed owed) (m : Message) :
    Tracks { w with feed := w.feed.push ⟨ms.length, (framed (ms ++ [m])).length, m⟩ } (ms ++ [m]) handed owed := by
  have htake : (ms ++ [m]).take w.cursor.record = ms.take w.cursor.record :=
    List.take_append_of_le_length h.record_le
  have hplaced : placed 0 0 (ms ++ [m]) = placed 0 0 ms ++ [⟨ms.length, (framed (ms ++ [m])).length, m⟩] := by
    simp [placed_append, placed]
  constructor
  case record_le =>
    have := h.record_le
    simp only [List.length_append]
    omega
  case offset_eq => rw [htake]; exact h.offset_eq
  case handed_eq => rw [htake]; exact h.handed_eq
  case mem_placed =>
    intro p hp
    rw [hplaced]
    rcases List.mem_append.mp (Feed.mem_of_mem_push hp) with hp | hp
    · exact List.mem_append_left _ (h.mem_placed p hp)
    · exact List.mem_append_right _ hp
  case suffix_placed =>
    intro hopen
    rw [Feed.isOpen_push] at hopen
    rw [hplaced]
    exact (Feed.waiting_push_suffix hopen _).trans (List.suffix_append_self_iff.mpr (h.suffix_placed hopen))
  case length_le =>
    intro hopen hb hm
    rw [Feed.isOpen_push] at hopen
    obtain ⟨hm', hw⟩ := Feed.push_of_not_missed hopen hm
    have := h.length_le hopen hb hm'
    simp only [hw, List.length_append, List.length_singleton]
    omega
  case not_open => exact fun hc => by rw [Feed.isOpen_push]; exact h.not_open hc
  case owed_prefix => exact h.owed_prefix.trans (List.prefix_append _ _)
  case owed_le => exact h.owed_le

/-- Messages come behind the log and are published. -/
theorem Tracks.publish (h : w.Tracks ms handed owed) (new : List Message) :
    Tracks { w with feed := (placed ms.length (framed ms).length new).foldl Feed.push w.feed } (ms ++ new) handed
      owed := by
  induction new generalizing w ms with
  | nil => simpa [placed] using h
  | cons m new ih => simpa [placed] using ih (h.push m)

end Watch

end RunLedger.Ledger
