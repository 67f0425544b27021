import RunLedger.Log.Sink
import RunLedger.Proofs.Log.Reading

/-!
# Writing to targets that fail

A target may take part of what is written to it and then fail, and later take octets again. A history of a writer is a
list of `WriterStep`s: appends, flushes, and changes of the target's room. Everything that a step leaves on the target
stands behind what was there (`take_spec`), so what was read of a log is read of it ever after (`readAll_prefix`).

* `found_of_acknowledged`: what is acknowledged while the log has no torn record at its end is found in it, in the order
  of the appends, whatever happens later.
* `acknowledged_lost`: what is acknowledged behind a torn record may not be found. A writer does not cut the part of a
  record that a failed write left behind, and a reader stops there (`Frame.decode_of_torn`).
-/

namespace RunLedger

/-! ## What can be read stays readable -/

/-- What was read of a log is read of every log that starts with it. -/
theorem readAll_prefix (log more : Bytes) : (readAll log).messages <+: (readAll (log ++ more)).messages := by
  obtain ⟨front, rest, ms, rfl, hw, e, he⟩ := exists_whole log
  obtain ⟨front', rest', ms', hs, hw', e', he'⟩ := exists_whole (rest ++ more)
  rw [readAll_eq hw he, List.append_assoc, hs, ← List.append_assoc, readAll_eq (hw.append hw') he']
  exact List.prefix_append ms ms'

/-- A log that is read to its end is whole. -/
theorem whole_of_not_truncated {log : Bytes} (h : (readAll log).isTruncated = false) :
    Whole log (readAll log).messages := by
  obtain ⟨front, rest, ms, rfl, hw, e, he⟩ := exists_whole log
  rw [readAll_eq hw he] at h ⊢
  by_cases hr : rest = []
  · simpa [hr] using hw
  · simp [ReadOutcome.isTruncated, hr] at h

/-- The octets of a torn record hide what is written behind them, until there are as many as the record would have. -/
theorem Frame.decode_of_torn {m : Message} (h : Frame.Fits m) {n : Nat} (hn : 4 ≤ n) {rest : Bytes}
    (hlen : n + rest.length < (Frame.of m).length) :
    ∃ e, Frame.decode ((Frame.of m).take n ++ rest) = .error e := by
  cases hd : Frame.decode ((Frame.of m).take n ++ rest) with
  | error e => exact ⟨e, rfl⟩
  | ok r =>
    obtain ⟨payload, rest', heq, hp, -, -⟩ := Frame.decode_eq_ok_iff.mp hd
    have hall : ((Frame.of m).take n ++ rest).length = payload.length + Frame.overhead + rest'.length := by
      rw [heq, List.length_append, Frame.length_wrap]
    -- both start with the four octets that say how long the payload is
    have hfront : Bytes.ofNatBE 4 (Wire.message m).length = Bytes.ofNatBE 4 payload.length := by
      have htake := congrArg (List.take 4) heq
      rw [List.take_append_of_le_length (by rw [List.length_take_of_le (by omega)]; exact hn), List.take_take,
        Nat.min_eq_left hn] at htake
      simpa [Frame.of, Frame.wrap] using htake
    have hsame : (Wire.message m).length = payload.length := by
      rw [← Frame.toNatBE_length h, hfront, Frame.toNatBE_length hp]
    rw [List.length_append, List.length_take_of_le (by omega)] at hall
    rw [Frame.length_of] at hlen
    omega

/-! ## Histories of writers -/

/-- What is done with a writer, or happens to its target. -/
inductive WriterStep where
  | append (m : Message)
  | appendBatch (ms : List Message)
  | flush
  /-- From now on the target takes so many more octets, or any number. -/
  | room (n : Option Nat)

/-- The messages that a step appends. -/
def WriterStep.messages : WriterStep → List Message
  | .append m => [m]
  | .appendBatch ms => ms
  | .flush => []
  | .room _ => []

namespace LogWriter

/-- Takes a step. -/
def take (w : LogWriter) : WriterStep → LogWriter × Except LogError Unit
  | .append m => w.append m
  | .appendBatch ms => w.appendBatch ms
  | .flush => (w, w.flush)
  | .room n => ({ w with target := { w.target with room := n } }, .ok ())

/-- The writer after some steps. -/
def after (w : LogWriter) : List WriterStep → LogWriter
  | [] => w
  | s :: steps => (w.take s).1.after steps

/-- Whether the octets on the target end in a record that cannot be read. -/
def isTorn (w : LogWriter) : Bool := (readAll w.target.data).isTruncated

/-- The messages that a step acknowledges: those that it appends, if it succeeds. -/
def acknowledges (w : LogWriter) (s : WriterStep) : List Message :=
  match (w.take s).2 with
  | .ok () => s.messages
  | .error _ => []

/-- The messages that are acknowledged, in order. -/
def acknowledged (w : LogWriter) : List WriterStep → List Message
  | [] => []
  | s :: steps => w.acknowledges s ++ (w.take s).1.acknowledged steps

/-- The messages that are acknowledged while the log is not torn, in order. -/
def acknowledgedUntorn (w : LogWriter) : List WriterStep → List Message
  | [] => []
  | s :: steps => (if w.isTorn then [] else w.acknowledges s) ++ (w.take s).1.acknowledgedUntorn steps

/-- Whether no step finds the log torn. -/
def NeverTorn (w : LogWriter) : List WriterStep → Prop
  | [] => True
  | s :: steps => w.isTorn = false ∧ (w.take s).1.NeverTorn steps

/-- Octets that are written come behind those on the target, all of them if the write succeeds. -/
theorem write_spec (w : LogWriter) (count : Nat) (bytes : Bytes) :
    ∃ octets, (w.write count bytes).1.target.data = w.target.data ++ octets ∧
      ((w.write count bytes).2 = .ok () → octets = bytes) := by
  have hdata := w.target.data_write bytes
  unfold write
  split
  · rename_i t ht
    rw [ht] at hdata
    refine ⟨_, hdata, fun _ => List.take_of_length_le ?_⟩
    unfold Target.write at ht
    split at ht
    · rename_i hroom
      simp [hroom]
    · rename_i n hroom
      split at ht
      · simpa [hroom] using ‹bytes.length ≤ n›
      · cases ht
  · rename_i t e ht
    rw [ht] at hdata
    exact ⟨_, hdata, fun h => by cases h⟩

/-- **What a step leaves on the target** stands behind what was there. If it succeeds it is the frames of what the step
appends. -/
theorem take_spec (w : LogWriter) (s : WriterStep) :
    ∃ octets, (w.take s).1.target.data = w.target.data ++ octets ∧
      ((w.take s).2 = .ok () → octets = framed s.messages ∧ ∀ m ∈ s.messages, Frame.Fits m) := by
  cases s with
  | append m =>
    by_cases hm : Frame.Fits m
    · obtain ⟨octets, hdata, hok⟩ := w.write_spec 1 (Frame.of m)
      simp only [take, append, Frame.encode_of_fits hm, WriterStep.messages]
      exact ⟨octets, hdata, fun h => ⟨by simpa using hok h, by simpa using hm⟩⟩
    · simp only [take, append, Frame.encode_of_not_fits hm]
      exact ⟨[], by simp, fun h => by cases h⟩
  | appendBatch ms =>
    by_cases hms : ∀ m ∈ ms, Frame.Fits m
    · obtain ⟨octets, hdata, hok⟩ := w.write_spec ms.length (framed ms)
      simp only [take, appendBatch, encodeAll_of_fits hms, WriterStep.messages]
      exact ⟨octets, hdata, fun h => ⟨hok h, hms⟩⟩
    · obtain ⟨m, hm, hn⟩ : ∃ m ∈ ms, ¬Frame.Fits m := by simpa using hms
      obtain ⟨x, -, -, hx⟩ := encodeAll_of_not_fits hm hn
      simp only [take, appendBatch, hx]
      exact ⟨[], by simp, fun h => by cases h⟩
  | flush => exact ⟨[], by simp [take], fun _ => by simp [WriterStep.messages]⟩
  | room n => exact ⟨[], by simp [take, Target.data], fun _ => by simp [WriterStep.messages]⟩

/-- What a step acknowledges while the log is not torn is read behind what was read before. -/
theorem readAll_take_of_not_torn {w : LogWriter} {s : WriterStep} (h : w.isTorn = false) :
    (readAll w.target.data).messages ++ w.acknowledges s <+: (readAll (w.take s).1.target.data).messages := by
  obtain ⟨octets, hdata, hok⟩ := w.take_spec s
  rw [hdata, acknowledges]
  split
  · rename_i hs
    obtain ⟨rfl, hfit⟩ := hok hs
    have hwhole := (whole_of_not_truncated h).append (whole_framed hfit)
    have hread := congrArg ReadOutcome.messages (readAll_whole hwhole)
    exact ⟨[], (List.append_nil _).trans hread.symm⟩
  · rw [List.append_nil]
    exact readAll_prefix _ _

theorem append_acknowledgedUntorn_sublist (w : LogWriter) (steps : List WriterStep) :
    ((readAll w.target.data).messages ++ w.acknowledgedUntorn steps).Sublist
      (readAll (w.after steps).target.data).messages := by
  induction steps generalizing w with
  | nil => simp [acknowledgedUntorn, after]
  | cons s steps ih =>
    refine List.Sublist.trans ?_ (ih (w.take s).1)
    rw [acknowledgedUntorn, ← List.append_assoc]
    refine List.Sublist.append_right (List.IsPrefix.sublist ?_) _
    split
    · obtain ⟨octets, hdata, -⟩ := w.take_spec s
      rw [List.append_nil, hdata]
      exact readAll_prefix _ _
    · rename_i h
      exact readAll_take_of_not_torn (by simpa using h)

theorem acknowledgedUntorn_eq {w : LogWriter} {steps : List WriterStep} (h : w.NeverTorn steps) :
    w.acknowledgedUntorn steps = w.acknowledged steps := by
  induction steps generalizing w with
  | nil => rfl
  | cons s steps ih => simp [acknowledgedUntorn, acknowledged, h.1, ih h.2]

/-! ## Appends to a target with and without room -/

theorem append_of_unbounded {w : LogWriter} {m : Message} (hm : Frame.Fits m) (h : w.target.room = none) :
    (w.append m).2 = .ok () ∧ (w.append m).1.target.data = w.target.data ++ Frame.of m := by
  simp [append, Frame.encode_of_fits hm, write, Target.write, h, Target.data]

/-- An append for which there is not enough room leaves the front of its frame behind. -/
theorem append_of_room {w : LogWriter} {m : Message} {n : Nat} (hm : Frame.Fits m) (h : w.target.room = some n)
    (hn : n < (Frame.of m).length) :
    (w.append m).2 = .error (.io .full) ∧ (w.append m).1.target.data = w.target.data ++ (Frame.of m).take n := by
  have hlong : ¬(Frame.of m).length ≤ n := Nat.not_le.mpr hn
  simp only [append, Frame.encode_of_fits hm, write, Target.write, h, if_neg hlong, Target.data, Buffer.toList_append,
    and_self]

theorem isTorn_of_framed {w : LogWriter} {ms : List Message} (h : w.target.data = framed ms)
    (hfit : ∀ m ∈ ms, Frame.Fits m) : w.isTorn = false := by
  rw [isTorn, h, readAll_framed hfit]
  rfl

/-- A writer that was created on an empty target without a bound. -/
theorem create_of_unbounded (stamp : Stamp) (p : Preamble) :
    (create ⟨{}, none⟩ stamp p).2 = .ok () ∧
      (create ⟨{}, none⟩ stamp p).1.target.data = framed [stamp.message (.preamble p)] := by
  have hfit : Frame.Fits (stamp.message (.preamble p)) := Frame.fits_of_preamble rfl
  obtain ⟨hok, hdata⟩ := append_of_unbounded (w := resume ⟨{}, none⟩ 0 0) hfit rfl
  exact ⟨hok, by simpa [create, resume, Target.data] using hdata⟩

/-- A message for which there is not enough room, and one behind it for which there is. -/
theorem acknowledged_of_refused {w : LogWriter} {m m' : Message} {n : Nat} (hm : Frame.Fits m) (hm' : Frame.Fits m')
    (hn : n < (Frame.of m).length) :
    let steps : List WriterStep := [.room (some n), .append m, .room none, .append m']
    w.acknowledged steps = [m'] ∧
      (w.after steps).target.data = w.target.data ++ ((Frame.of m).take n ++ Frame.of m') := by
  intro steps
  let short : LogWriter := { w with target := { w.target with room := some n } }
  obtain ⟨hrefused, hleft⟩ := append_of_room (w := short) hm rfl hn
  let roomy : LogWriter := { (short.append m).1 with target := { (short.append m).1.target with room := none } }
  obtain ⟨hok, hdata⟩ := append_of_unbounded (w := roomy) hm' rfl
  have hsame : roomy.target.data = (short.append m).1.target.data := rfl
  constructor
  · simp only [steps, acknowledged, acknowledges, take, WriterStep.messages]
    rw [hrefused, hok]
    rfl
  · simp only [steps, after, take]
    rw [hdata, hsame, hleft, List.append_assoc]
    rfl

/-- **A message that is acknowledged behind a torn record is lost,** as long as the octets that follow do not make up
for those that the record lacks. -/
theorem readAll_of_torn {w : LogWriter} {m m' : Message} {n : Nat} (hw : w.isTorn = false) (hm : Frame.Fits m)
    (hm' : Frame.Fits m') (hn : 4 ≤ n) (hlen : n + (Frame.of m').length < (Frame.of m).length) :
    let steps : List WriterStep := [.room (some n), .append m, .room none, .append m']
    w.acknowledged steps = [m'] ∧
      (readAll (w.after steps).target.data).messages = (readAll w.target.data).messages := by
  intro steps
  obtain ⟨hacks, hdata⟩ := acknowledged_of_refused (w := w) hm hm' (by omega : n < (Frame.of m).length)
  obtain ⟨e, he⟩ := Frame.decode_of_torn hm hn hlen
  refine ⟨hacks, ?_⟩
  rw [hdata, readAll_eq (whole_of_not_truncated hw) he]

/-! ## What is found of a history -/

/-- **What is acknowledged while the log is not torn is found in it,** in the order of the appends, whatever the target
refuses or tears later. On a target that never tears a record this is all that is acknowledged. A sink that writes a log
appends what it is given and drops the answer. -/
theorem found_of_acknowledged (w : LogWriter) (steps : List WriterStep) :
    (w.acknowledgedUntorn steps).Sublist (readAll (w.after steps).target.data).messages ∧
      (w.NeverTorn steps → w.acknowledgedUntorn steps = w.acknowledged steps) ∧
      ∀ m, (Sink.log w).emit m = .log (w.take (.append m)).1 :=
  ⟨(List.sublist_append_right _ _).trans (w.append_acknowledgedUntorn_sublist steps), acknowledgedUntorn_eq,
    fun _ => rfl⟩

/-- A target that refuses one message as a whole and takes the next one. -/
theorem found_of_acknowledged_refused :
    let stamp : Stamp := ⟨⟨.ofNat 0⟩, ⟨0, 0⟩⟩
    let beat (n : Nat) : Message := ⟨⟨.ofNat n⟩, ⟨0, 0⟩, .heartbeat⟩
    let w := (create ⟨{}, none⟩ stamp ⟨schemaVersion, ⟨1000, 0⟩, ⟨2000, 0⟩⟩).1
    let steps : List WriterStep := [.room (some 0), .append (beat 1), .room none, .append (beat 2)]
    w.NeverTorn steps ∧ w.acknowledged steps = [beat 2] ∧
      (w.acknowledged steps).Sublist (readAll (w.after steps).target.data).messages := by
  intro stamp beat w steps
  obtain ⟨-, hdata⟩ := create_of_unbounded stamp ⟨schemaVersion, ⟨1000, 0⟩, ⟨2000, 0⟩⟩
  have hfirst : Frame.Fits (beat 1) := by decide +kernel
  have hsecond : Frame.Fits (beat 2) := by decide +kernel
  have hpos : 0 < (Frame.of (beat 1)).length := List.length_pos_iff.mpr (Frame.of_ne_nil _)
  have huntorn {v : LogWriter} (hv : v.target.data = w.target.data) : v.isTorn = false :=
    isTorn_of_framed (hv.trans hdata) fun m hm => Frame.fits_of_preamble (by simp at hm; rw [hm]; rfl)
  obtain ⟨hacks, -⟩ := acknowledged_of_refused (w := w) hfirst hsecond hpos
  let short : LogWriter := { w with target := { w.target with room := some 0 } }
  have hleft : (short.append (beat 1)).1.target.data = w.target.data := by
    rw [(append_of_room (w := short) hfirst rfl hpos).2]
    simp [short, Target.data]
  have hnever : w.NeverTorn steps := ⟨huntorn rfl, huntorn rfl, huntorn hleft, huntorn hleft, trivial⟩
  obtain ⟨hfound, hall, -⟩ := found_of_acknowledged w steps
  exact ⟨hnever, hacks, hall hnever ▸ hfound⟩

/-- A record is torn behind its length, and the message that is acknowledged next is not found. -/
theorem acknowledged_lost :
    let stamp : Stamp := ⟨⟨.ofNat 0⟩, ⟨0, 0⟩⟩
    let long : Message := ⟨⟨.ofNat 1⟩, ⟨0, 0⟩, .coverage ⟨"lcov", String.ofList (List.replicate 100 'x')⟩⟩
    let beat : Message := ⟨⟨.ofNat 2⟩, ⟨0, 0⟩, .heartbeat⟩
    let made := create ⟨{}, none⟩ stamp ⟨schemaVersion, ⟨1000, 0⟩, ⟨2000, 0⟩⟩
    let steps : List WriterStep := [.room (some 4), .append long, .room none, .append beat]
    made.2 = .ok () ∧ made.1.acknowledged steps = [beat] ∧
      ¬(made.1.acknowledged steps).Sublist (readAll (made.1.after steps).target.data).messages := by
  intro stamp long beat made steps
  obtain ⟨hmade, hdata⟩ := create_of_unbounded stamp ⟨schemaVersion, ⟨1000, 0⟩, ⟨2000, 0⟩⟩
  have hp : ∀ m ∈ [stamp.message (.preamble ⟨schemaVersion, ⟨1000, 0⟩, ⟨2000, 0⟩⟩)], Frame.Fits m := by decide +kernel
  have hl : Frame.Fits long := by decide +kernel
  have hb : Frame.Fits beat := by decide +kernel
  have hlen : 4 + (Frame.of beat).length < (Frame.of long).length := by
    rw [Frame.length_of, Frame.length_of]
    decide +kernel
  obtain ⟨hacks, hread⟩ := readAll_of_torn (isTorn_of_framed hdata hp) hl hb (Nat.le_refl 4) hlen
  rw [hdata, readAll_framed hp] at hread
  refine ⟨hmade, hacks, fun h => ?_⟩
  rw [hacks, hread, List.singleton_sublist] at h
  have hother : beat ∉ [stamp.message (.preamble ⟨schemaVersion, ⟨1000, 0⟩, ⟨2000, 0⟩⟩)] := by decide +kernel
  exact hother h

end LogWriter

end RunLedger
