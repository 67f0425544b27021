import RunLedger.Proofs.Guest.Unpacking

/-!
# Call frames

What is placed for a call lies in a frame, and is gone when the frame is dropped. Frames can be opened in one another;
the innermost is dropped first. A memory knows no frames: a frame is the mark where the memory ended when it was opened,
and to drop it cuts the memory back to that mark (`FramedMemory`).

What a call can do is said once (`FramedMemory.Effect`). Whether a frame has been dropped is a matter of the calls alone,
which open and close like brackets (`FrameCall.levelAfter`). While a frame is open, the memory does not fall below where
that frame begins, and what is in front of it changes only where something is written (`FramedMemory.Above`).

* `FramedMemory.effect_call`: what each call does, and when it is refused.
* `FramedMemory.frames_keep`: what holds of a memory after any calls.
-/

namespace RunLedger

namespace Slice

/-- An offset is one of a slice. -/
def Covers (s : Slice) (i : Nat) : Prop := s.start.toNat ≤ i ∧ i < s.stop

instance (s : Slice) (i : Nat) : Decidable (s.Covers i) := inferInstanceAs (Decidable (_ ∧ _))

/-- Two slices have an octet in common. -/
def Overlaps (s t : Slice) : Prop := ∃ i, s.Covers i ∧ t.Covers i

end Slice

/-! ## What writing and placing do -/

namespace GuestMemory

/-- What a write to a slice comes to: the octets that were written, zeros in the rest of the slice, and nothing else. -/
structure Written (m : GuestMemory) (s : Slice) (data : Bytes) (n : GuestMemory) : Prop where
  limit : n.limit = m.limit
  used : n.used = m.used
  octet : ∀ i, n.bytes[i]? = if s.Covers i then some (data[i - s.start.toNat]?.getD 0) else m.bytes[i]?

/-- What is in the middle of three byte strings. -/
theorem getElem?_middle (front middle back : Bytes) (i : Nat) :
    (front ++ (middle ++ back))[i]? =
      if i < front.length then front[i]?
      else if i < front.length + middle.length then middle[i - front.length]?
      else back[i - (front.length + middle.length)]? := by
  split
  · rename_i h
    rw [List.getElem?_append_left h]
  · rename_i h
    rw [List.getElem?_append_right (Nat.le_of_not_lt h)]
    split
    · rw [List.getElem?_append_left (by omega)]
    · rw [List.getElem?_append_right (by omega), Nat.sub_sub]

/-- Octets with zeros behind them. -/
theorem getElem?_padded {data : Bytes} {i n : Nat} (hi : i < n) (hn : data.length ≤ n) :
    (data ++ List.replicate (n - data.length) 0)[i]? = some (data[i]?.getD 0) := by
  by_cases h : i < data.length
  · rw [List.getElem?_append_left h, List.getElem?_eq_getElem h, Option.getD_some]
  · have hlt : i - data.length < n - data.length := by omega
    rw [List.getElem?_append_right (Nat.le_of_not_lt h), List.getElem?_replicate, if_pos hlt,
      List.getElem?_eq_none (Nat.le_of_not_lt h), Option.getD_none]

theorem written_of_write {m n : GuestMemory} {s : Slice} {data : Bytes} (hinside : m.Inside s)
    (hfits : data.length ≤ s.length.toNat) (h : m.write s data = .ok n) : m.Written s data n := by
  have hbytes := bytes_write h
  have hstop : s.stop = s.start.toNat + s.length.toNat := rfl
  have hused : s.stop ≤ m.used := hinside.2
  have hfront : (m.bytes.take s.start.toNat).length = s.start.toNat := by
    rw [List.length_take, length_bytes]
    omega
  have hmiddle : (data ++ List.replicate (s.length.toNat - data.length) 0).length = s.length.toNat := by
    rw [List.length_append, List.length_replicate]
    omega
  refine ⟨?_, ?_, fun i => ?_⟩
  · rw [← Except.ok.inj (((if_pos hinside).trans (if_pos hfits)).symm.trans h)]
  · rw [← length_bytes, hbytes, List.length_append, List.length_append, hfront, hmiddle, List.length_drop, length_bytes]
    omega
  · rw [hbytes, getElem?_middle, hfront, hmiddle, ← hstop]
    by_cases hlow : i < s.start.toNat
    · have hout : ¬s.Covers i := fun hin => Nat.not_le_of_lt hlow hin.1
      rw [if_pos hlow, if_neg hout, List.getElem?_take_of_lt hlow]
    · have hlow' : s.start.toNat ≤ i := Nat.le_of_not_lt hlow
      rw [if_neg hlow]
      by_cases hin : i < s.stop
      · have hcovers : s.Covers i := ⟨hlow', hin⟩
        rw [if_pos hin, if_pos hcovers, getElem?_padded (by omega) hfits]
      · have hout : ¬s.Covers i := fun h => hin h.2
        have hback : s.stop + (i - s.stop) = i := by omega
        rw [if_neg hin, if_neg hout, List.getElem?_drop, hback]

/-- What a slice holds is a matter of its own octets. -/
theorem octets_congr {m n : GuestMemory} {s : Slice} (h : ∀ i, s.Covers i → m.bytes[i]? = n.bytes[i]?) :
    m.octets s = n.octets s := by
  refine List.ext_getElem? fun k => ?_
  simp only [octets, List.getElem?_take, List.getElem?_drop]
  by_cases hk : k < s.length.toNat
  · have hcovers : s.Covers (s.start.toNat + k) := ⟨Nat.le_add_right _ _, Nat.add_lt_add_left hk _⟩
    rw [if_pos hk, if_pos hk, h _ hcovers]
  · rw [if_neg hk, if_neg hk]

/-- A write is done if the slice is in use and long enough, and else refused. -/
theorem write_cases (m : GuestMemory) (s : Slice) (data : Bytes) :
    (m.Inside s ∧ data.length ≤ s.length.toNat ∧ ∃ n, m.write s data = .ok n ∧ m.Written s data n) ∨
      (¬(m.Inside s ∧ data.length ≤ s.length.toNat) ∧ ∃ e, m.write s data = .error e) := by
  by_cases hinside : m.Inside s
  · by_cases hfits : data.length ≤ s.length.toNat
    · obtain ⟨n, hn⟩ : ∃ n, m.write s data = .ok n := ⟨_, (if_pos hinside).trans (if_pos hfits)⟩
      exact .inl ⟨hinside, hfits, n, hn, written_of_write hinside hfits hn⟩
    · exact .inr ⟨fun h => hfits h.2, _, (if_pos hinside).trans (if_neg hfits)⟩
  · exact .inr ⟨fun h => hinside h.1, _, if_neg hinside⟩

/-- Octets are placed at the end if there is room for them, and else refused. -/
theorem place_cases (m : GuestMemory) (data : Bytes) :
    (m.used + data.length ≤ m.limit.maxBytes.toNat ∧ ∃ s : Slice, m.place data = .ok (s, m.extend data) ∧
      s.start.toNat = m.used ∧ s.length.toNat = data.length) ∨
    (m.limit.maxBytes.toNat < m.used + data.length ∧ ∃ e, m.place data = .error e) := by
  have hplaces := Marshalling.stores_place data
  by_cases hroom : m.used + data.length ≤ m.limit.maxBytes.toNat
  · obtain ⟨s, hs, -⟩ := hplaces.ok m trivial hroom
    have hplace := Marshalling.step_ok_iff.mp hs
    obtain ⟨-, hstart, hlength, -⟩ := place_ok_iff.mp hplace
    exact .inl ⟨hroom, s, hplace, hstart, hlength⟩
  · refine .inr ⟨Nat.lt_of_not_le hroom, ?_⟩
    cases hplace : m.place data with
    | error e => exact ⟨e, rfl⟩
    | ok r => exact absurd (place_ok_iff.mp hplace).1 hroom

/-- Zeros are placed as other octets are. A buffer that cannot be made would not find room either. -/
theorem placeBuffer?_cases (m : GuestMemory) (count : Nat) :
    m.placeBuffer? count = some (m.place (List.replicate count 0)) ∨
      (m.limit.maxBytes.toNat < m.used + count ∧ m.placeBuffer? count = none) := by
  by_cases hcount : count ≤ longestBuffer
  · exact .inl (by rw [placeBuffer?, if_pos hcount, placeZeros_eq])
  · refine .inr ⟨?_, if_neg hcount⟩
    have hlt := m.limit.maxBytes.toNat_lt
    have hlong : longestBuffer = 9223372036854775807 := rfl
    omega

/-- What was in use is not changed by what is placed behind it. -/
theorem getElem?_extend {m : GuestMemory} {i : Nat} (hi : i < m.used) (data : Bytes) :
    (m.extend data).bytes[i]? = m.bytes[i]? := by
  rw [bytes_extend, List.getElem?_append_left]
  rwa [length_bytes]

/-- Nor by cutting the memory back to somewhere behind it. -/
theorem getElem?_release {i mark : Nat} (hi : i < mark) (m : GuestMemory) :
    (m.release mark).bytes[i]? = m.bytes[i]? := by
  rw [bytes_release, List.getElem?_take_of_lt hi]

@[simp] theorem limit_release (m : GuestMemory) (mark : Nat) : (m.release mark).limit = m.limit := by
  simp only [release]

@[simp] theorem used_release (m : GuestMemory) (mark : Nat) : (m.release mark).used = min mark m.used := by
  rw [← length_bytes, bytes_release, List.length_take, length_bytes]

end GuestMemory

/-! ## Frames -/

/-- What is done with a memory and its frames. -/
inductive FrameCall where
  /-- Opens a frame. -/
  | enter
  /-- Places octets. -/
  | place (data : Bytes)
  /-- Places so many zeros. -/
  | zeros (count : Nat)
  | write (s : Slice) (data : Bytes)
  | read (s : Slice)
  /-- Drops the innermost frame. -/
  | leave
  deriving DecidableEq

/-- What a call is answered with. -/
inductive FrameReply where
  | done
  | placed (s : Slice)
  | found (data : Bytes)
  | refused (fault : MarshalError)
  /-- There is no buffer of such a length. -/
  | unmade
  deriving DecidableEq

namespace FrameReply

/-- A call that came to nothing. -/
inductive Failed : FrameReply → Prop
  | refused (fault : MarshalError) : Failed (.refused fault)
  | unmade : Failed .unmade

end FrameReply

namespace FrameCall

/-- The octets that a call places. -/
def data? : FrameCall → Option Bytes
  | .place data => some data
  | .zeros count => some (List.replicate count 0)
  | _ => none

/-- How many frames are open inside of one after a call, if it was `level` many before. None if the call drops that frame
itself. -/
def levelFrom (level : Nat) : FrameCall → Option Nat
  | .enter => some (level + 1)
  | .leave => if level = 0 then none else some (level - 1)
  | _ => some level

/-- How many frames are open inside of one after some calls, if it was `level` many before. None if one of the calls
drops that frame itself. -/
def levelAfter (level : Nat) (calls : List FrameCall) : Option Nat := calls.foldlM levelFrom level

/-- What places octets opens and drops no frame. -/
theorem levelFrom_of_data {a : FrameCall} {data : Bytes} (h : a.data? = some data) (level : Nat) :
    a.levelFrom level = some level := by
  cases a with
  | place data => rfl
  | zeros count => rfl
  | enter => cases h
  | write s data => cases h
  | read s => cases h
  | leave => cases h

theorem levelFrom_leave {level level' : Nat} (h : levelFrom level .leave = some level') :
    level ≠ 0 ∧ level' = level - 1 := by
  rw [levelFrom] at h
  split at h
  · cases h
  · rename_i hlevel
    exact ⟨hlevel, (Option.some.inj h).symm⟩

end FrameCall

/-- A memory and its frames. -/
structure FramedMemory where
  memory : GuestMemory
  /-- Where the memory ended when each frame was opened, the innermost first. -/
  marks : List Nat
  deriving DecidableEq

namespace FramedMemory

/-- A memory in which nothing is in use. -/
def start (limit : MemoryLimit) : FramedMemory := ⟨.empty limit, []⟩

/-- The answer to a placement, and the memory after it. -/
def placing (F : FramedMemory) : Option (Except MarshalError (Slice × GuestMemory)) → FrameReply × FramedMemory
  | some (.ok (s, m)) => (.placed s, { F with memory := m })
  | some (.error e) => (.refused e, F)
  | none => (.unmade, F)

/-- The answer to a call, and the memory after it. -/
def call (F : FramedMemory) : FrameCall → FrameReply × FramedMemory
  | .enter => (.done, { F with marks := F.memory.used :: F.marks })
  | .place data => F.placing (some (F.memory.place data))
  | .zeros count => F.placing (F.memory.placeBuffer? count)
  | .write s data =>
    match F.memory.write s data with
    | .ok m => (.done, { F with memory := m })
    | .error e => (.refused e, F)
  | .read s =>
    match F.memory.read s with
    | .ok data => (.found data, F)
    | .error e => (.refused e, F)
  | .leave =>
    match F.marks with
    | mark :: marks => (.done, ⟨F.memory.release mark, marks⟩)
    | [] => (.done, F)

/-- The memory after some calls. -/
def after (F : FramedMemory) (calls : List FrameCall) : FramedMemory := calls.foldl (fun F a => (F.call a).2) F

/-- Some calls and the answers to them. -/
def log (F : FramedMemory) : List FrameCall → List (FrameCall × FrameReply)
  | [] => []
  | a :: calls => (a, (F.call a).1) :: (F.call a).2.log calls

/-- What a call can do. -/
inductive Effect (F : FramedMemory) : FrameCall → FrameReply → FramedMemory → Prop
  | enter : Effect F .enter .done ⟨F.memory, F.memory.used :: F.marks⟩
  /-- Octets for which there is room are placed at the end of what is in use. -/
  | placed {a : FrameCall} {data : Bytes} {s : Slice} (ha : a.data? = some data)
      (hroom : F.memory.used + data.length ≤ F.memory.limit.maxBytes.toNat) (hstart : s.start.toNat = F.memory.used)
      (hlength : s.length.toNat = data.length) : Effect F a (.placed s) ⟨F.memory.extend data, F.marks⟩
  | full {a : FrameCall} {data : Bytes} {r : FrameReply} (ha : a.data? = some data)
      (hroom : F.memory.limit.maxBytes.toNat < F.memory.used + data.length) (hr : r.Failed) : Effect F a r F
  /-- A slice of the octets in use is written, if it is long enough. -/
  | written {s : Slice} {data : Bytes} {m : GuestMemory} (hinside : F.memory.Inside s)
      (hfits : data.length ≤ s.length.toNat) (hm : F.memory.Written s data m) :
      Effect F (.write s data) .done ⟨m, F.marks⟩
  | unwritten {s : Slice} {data : Bytes} {e : MarshalError}
      (h : ¬(F.memory.Inside s ∧ data.length ≤ s.length.toNat)) : Effect F (.write s data) (.refused e) F
  /-- A slice of the octets in use is read. -/
  | found {s : Slice} (hinside : F.memory.Inside s) : Effect F (.read s) (.found (F.memory.octets s)) F
  | unfound {s : Slice} {e : MarshalError} (h : ¬F.memory.Inside s) : Effect F (.read s) (.refused e) F
  /-- What is in use behind the mark of the innermost frame is gone with it. -/
  | leave {mark : Nat} {marks : List Nat} (h : F.marks = mark :: marks) :
      Effect F .leave .done ⟨F.memory.release mark, marks⟩
  | outermost (h : F.marks = []) : Effect F .leave .done F

variable {F : FramedMemory}

theorem effect_placing (F : FramedMemory) {a : FrameCall} {data : Bytes} (ha : a.data? = some data) :
    F.Effect a (F.placing (some (F.memory.place data))).1 (F.placing (some (F.memory.place data))).2 := by
  obtain ⟨hroom, s, hplace, hstart, hlength⟩ | ⟨hroom, e, hplace⟩ := F.memory.place_cases data
  · rw [hplace]
    exact .placed ha hroom hstart hlength
  · rw [hplace]
    exact .full ha hroom (.refused e)

/-- **What each call does.** -/
theorem effect_call (F : FramedMemory) (a : FrameCall) : F.Effect a (F.call a).1 (F.call a).2 := by
  cases a with
  | enter => exact .enter
  | place data => exact F.effect_placing rfl
  | zeros count =>
    obtain ⟨hplace⟩ | ⟨hroom, hnone⟩ := F.memory.placeBuffer?_cases count
    · rw [call, hplace]
      exact F.effect_placing rfl
    · rw [call, hnone]
      exact .full rfl (by rwa [List.length_replicate]) .unmade
  | write s data =>
    obtain ⟨hinside, hfits, m, hwrite, hm⟩ | ⟨hunfit, e, hwrite⟩ := F.memory.write_cases s data
    · simp only [call, hwrite]
      exact .written hinside hfits hm
    · simp only [call, hwrite]
      exact .unwritten hunfit
  | read s =>
    obtain ⟨hread, hrefused⟩ := F.memory.gives_read s
    by_cases hinside : F.memory.Inside s
    · simp only [call, hread hinside]
      exact .found hinside
    · obtain ⟨e, he⟩ := hrefused hinside
      simp only [call, he]
      exact .unfound hinside
  | leave =>
    rw [call]
    split
    · rename_i mark marks h
      exact .leave h
    · rename_i h
      exact .outermost h

/-! ## What is in use -/

/-- No more is in use than the limit allows. -/
structure Bounded (limit : MemoryLimit) (F : FramedMemory) : Prop where
  limit_eq : F.memory.limit = limit
  used_le : F.memory.used ≤ limit.maxBytes.toNat

theorem Bounded.call {limit : MemoryLimit} (h : F.Bounded limit) (a : FrameCall) : (F.call a).2.Bounded limit := by
  obtain ⟨hlimit, hused⟩ := h
  have heffect := F.effect_call a
  generalize (F.call a).1 = r, (F.call a).2 = F' at heffect ⊢
  cases heffect with
  | enter => exact ⟨hlimit, hused⟩
  | placed ha hroom =>
    refine ⟨hlimit, ?_⟩
    rw [← hlimit, GuestMemory.used_extend]
    exact hroom
  | full => exact ⟨hlimit, hused⟩
  | written hinside hfits hm => exact ⟨hm.limit.trans hlimit, Nat.le_trans (Nat.le_of_eq hm.used) hused⟩
  | unwritten => exact ⟨hlimit, hused⟩
  | found => exact ⟨hlimit, hused⟩
  | unfound => exact ⟨hlimit, hused⟩
  | leave hmarks =>
    refine ⟨(GuestMemory.limit_release _ _).trans hlimit, ?_⟩
    rw [GuestMemory.used_release]
    exact Nat.le_trans (Nat.min_le_right _ _) hused
  | outermost => exact ⟨hlimit, hused⟩

theorem Bounded.after {limit : MemoryLimit} (h : F.Bounded limit) (calls : List FrameCall) :
    (F.after calls).Bounded limit := by
  induction calls generalizing F with
  | nil => exact h
  | cons a calls ih => exact ih (h.call a)

/-! ## While a frame is open -/

/-- A memory whose frames above the `outer` ones, `level` many, begin behind the first `n` octets, which are in use. -/
structure Above (outer : List Nat) (n level : Nat) (F : FramedMemory) : Prop where
  used : n ≤ F.memory.used
  marks : ∃ inner, F.marks = inner ++ outer ∧ inner.length = level ∧ ∀ mark ∈ inner, n ≤ mark

variable {outer : List Nat} {n level level' : Nat}

theorem above_self (h : n ≤ F.memory.used) : F.Above F.marks n 0 := ⟨h, [], rfl, rfl, nofun⟩

/-- A call that opens and drops no frame. -/
theorem Above.of_same {F' : FramedMemory} (h : F.Above outer n level) (hused : n ≤ F'.memory.used)
    (hmarks : F'.marks = F.marks) : F'.Above outer n level := ⟨hused, by rw [hmarks]; exact h.marks⟩

/-- One more frame begins behind the octets in front, since these are in use. -/
theorem Above.enter (h : F.Above outer n level) :
    (FramedMemory.mk F.memory (F.memory.used :: F.marks)).Above outer n (level + 1) := by
  obtain ⟨inner, hinner, hlevel, hbehind⟩ := h.marks
  refine ⟨h.used, F.memory.used :: inner, ?_, ?_, ?_⟩
  · rw [hinner]
    rfl
  · rw [List.length_cons, hlevel]
  · intro mark hmark
    obtain rfl | hmark := List.mem_cons.mp hmark
    · exact h.used
    · exact hbehind mark hmark

/-- The frame that is dropped begins behind the octets in front. -/
theorem Above.leave (h : F.Above outer n level) (hlevel : level ≠ 0) {mark : Nat} {marks : List Nat}
    (hmarks : F.marks = mark :: marks) :
    n ≤ mark ∧ (FramedMemory.mk (F.memory.release mark) marks).Above outer n (level - 1) := by
  obtain ⟨inner, hinner, hlength, hbehind⟩ := h.marks
  cases inner with
  | nil => exact absurd hlength.symm hlevel
  | cons mark' inner =>
    rw [hinner, List.cons_append, List.cons.injEq] at hmarks
    obtain ⟨rfl, rfl⟩ := hmarks
    have hmark : n ≤ mark' := hbehind mark' List.mem_cons_self
    refine ⟨hmark, ?_, inner, rfl, ?_, fun m hm => hbehind m (List.mem_cons_of_mem _ hm)⟩
    · rw [GuestMemory.used_release]
      exact Nat.le_min.mpr ⟨hmark, h.used⟩
    · rw [← hlength, List.length_cons, Nat.add_sub_cancel]

/-- Without any frames none is open inside of another. -/
theorem Above.level_eq_zero (h : F.Above outer n level) (hmarks : F.marks = []) : level = 0 := by
  obtain ⟨inner, hinner, hlength, -⟩ := h.marks
  have hnil : inner = [] := (List.append_eq_nil_iff.mp (hinner.symm.trans hmarks)).1
  rw [← hlength, hnil, List.length_nil]

/-- **While a frame is open, a call leaves alone what is in front of it,** but for what it writes there. -/
theorem Above.call (h : F.Above outer n level) {a : FrameCall} (ha : a.levelFrom level = some level') :
    (F.call a).2.Above outer n level' ∧ ∀ i < n,
      (∀ s data, a = .write s data → (F.call a).1 = .done → ¬s.Covers i) →
        (F.call a).2.memory.bytes[i]? = F.memory.bytes[i]? := by
  -- all calls but the opening and the dropping of a frame leave the frames alone
  have hsame {F' : FramedMemory} (hused : n ≤ F'.memory.used) (hmarks : F'.marks = F.marks)
      (ha : some level = some level') : F'.Above outer n level' := by
    rw [← Option.some.inj ha]
    exact h.of_same hused hmarks
  have heffect := F.effect_call a
  generalize (F.call a).1 = r, (F.call a).2 = F' at heffect ⊢
  cases heffect with
  | enter =>
    rw [← Option.some.inj ha]
    exact ⟨h.enter, fun _ _ _ => rfl⟩
  | @placed _ data s hdata hroom =>
    have hused : n ≤ (F.memory.extend data).used := by
      rw [GuestMemory.used_extend]
      exact Nat.le_trans h.used (Nat.le_add_right _ _)
    refine ⟨hsame hused rfl ((FrameCall.levelFrom_of_data hdata level).symm.trans ha), fun i hi _ => ?_⟩
    exact GuestMemory.getElem?_extend (Nat.lt_of_lt_of_le hi h.used) data
  | full hdata =>
    exact ⟨hsame h.used rfl ((FrameCall.levelFrom_of_data hdata level).symm.trans ha), fun _ _ _ => rfl⟩
  | written hinside hfits hm =>
    refine ⟨hsame (hm.used.symm ▸ h.used) rfl ha, fun i _ hwrites => ?_⟩
    rw [hm.octet, if_neg (hwrites _ _ rfl rfl)]
  | unwritten => exact ⟨hsame h.used rfl ha, fun _ _ _ => rfl⟩
  | found => exact ⟨hsame h.used rfl ha, fun _ _ _ => rfl⟩
  | unfound => exact ⟨hsame h.used rfl ha, fun _ _ _ => rfl⟩
  | leave hmarks =>
    obtain ⟨hlevel, rfl⟩ := FrameCall.levelFrom_leave ha
    obtain ⟨hmark, habove⟩ := h.leave hlevel hmarks
    exact ⟨habove, fun i hi _ => GuestMemory.getElem?_release (Nat.lt_of_lt_of_le hi hmark) F.memory⟩
  | outermost hmarks => exact absurd (h.level_eq_zero hmarks) (FrameCall.levelFrom_leave ha).1

/-- Some calls leave alone what is in front of a frame that stays open, but for what they write there. -/
theorem Above.after (h : F.Above outer n level) {calls : List FrameCall}
    (hcalls : FrameCall.levelAfter level calls = some level') :
    (F.after calls).Above outer n level' ∧ ∀ i < n,
      (∀ s data, (.write s data, .done) ∈ F.log calls → ¬s.Covers i) →
        (F.after calls).memory.bytes[i]? = F.memory.bytes[i]? := by
  induction calls generalizing F level with
  | nil =>
    rw [← Option.some.inj hcalls]
    exact ⟨h, fun _ _ _ => rfl⟩
  | cons a calls ih =>
    rw [FrameCall.levelAfter, List.foldlM_cons] at hcalls
    obtain ⟨between, hbetween, hcalls⟩ := Option.bind_eq_some_iff.mp hcalls
    obtain ⟨habove, hcall⟩ := h.call hbetween
    obtain ⟨hafter, hrest⟩ := ih habove hcalls
    refine ⟨hafter, fun i hi hwrites => ?_⟩
    have hlater := hrest i hi fun s data hmem => hwrites s data (List.mem_cons_of_mem _ hmem)
    refine hlater.trans (hcall i hi fun s data hs hdone => hwrites s data ?_)
    rw [log, hs, ← hs, hdone]
    exact hs ▸ List.mem_cons_self

/-! ## Allocations -/

/-- A slice that a call placed holds the octets of that call, at the end of what was in use. -/
theorem placed_of_call {a : FrameCall} {s : Slice} (h : (F.call a).1 = .placed s) :
    ∃ data, a.data? = some data ∧ F.memory.place data = .ok (s, F.memory.extend data) ∧
      (F.call a).2 = ⟨F.memory.extend data, F.marks⟩ := by
  have heffect := F.effect_call a
  rw [h] at heffect
  generalize (F.call a).2 = F' at heffect ⊢
  cases heffect with
  | @placed _ data _ hdata hroom hstart hlength =>
    exact ⟨data, hdata, GuestMemory.place_ok_iff.mpr ⟨hroom, hstart, hlength, rfl⟩, rfl⟩
  | full _ _ hfailed => cases hfailed

/-- What was placed and not written to is read back as long as its frame is open, and nothing is placed over it. -/
theorem read_of_placed {a : FrameCall} {data : Bytes} {s : Slice} (ha : a.data? = some data)
    (hs : (F.call a).1 = .placed s) {rest : List FrameCall} (hrest : (FrameCall.levelAfter 0 rest).isSome) :
    let G := (F.call a).2.after rest
    G.memory.Inside s ∧
      ((∀ t d, (.write t d, .done) ∈ (F.call a).2.log rest → ¬t.Overlaps s) → G.memory.read s = .ok data) ∧
      ∀ b s', (G.call b).1 = .placed s' → ¬s.Overlaps s' := by
  intro G
  obtain ⟨data', hdata, hplace, hcall⟩ := placed_of_call hs
  obtain rfl : data' = data := Option.some.inj (hdata.symm.trans ha)
  obtain ⟨hroom, hstart, hlength, -⟩ := GuestMemory.place_ok_iff.mp hplace
  have hstop : s.stop = F.memory.used + data'.length := by rw [Slice.stop, hstart, hlength]
  have hused : (F.call a).2.memory.used = s.stop := by rw [hcall, GuestMemory.used_extend, hstop]
  obtain ⟨level, hlevel⟩ := Option.isSome_iff_exists.mp hrest
  obtain ⟨habove, hsame⟩ := (above_self (Nat.le_of_eq hused.symm)).after hlevel
  have hinside : G.memory.Inside s := by
    have hlt := F.memory.limit.maxBytes.toNat_lt
    refine ⟨?_, habove.used⟩
    rw [hstop, UInt32.size]
    omega
  refine ⟨hinside, fun hwrites => ?_, fun b s' hb => ?_⟩
  · have hread : (F.call a).2.memory.octets s = data' := by
      rw [hcall]
      exact GuestMemory.octets_of_read (GuestMemory.read_place hplace)
    rw [(G.memory.gives_read s).1 hinside, ← hread]
    refine congrArg Except.ok (GuestMemory.octets_congr fun i hi => ?_)
    exact hsame i hi.2 fun t d hmem ht => hwrites t d hmem ⟨i, ht, hi⟩
  · obtain ⟨data'', -, hplace', -⟩ := placed_of_call hb
    obtain ⟨-, hstart', -, -⟩ := GuestMemory.place_ok_iff.mp hplace'
    rintro ⟨i, hi, hi'⟩
    have hfront : s.stop ≤ s'.start.toNat := by rw [hstart']; exact habove.used
    exact absurd hi.2 (Nat.not_lt_of_le (Nat.le_trans hfront hi'.1))

theorem call_leave {mark : Nat} {marks : List Nat} (h : F.marks = mark :: marks) :
    (F.call .leave).2 = ⟨F.memory.release mark, marks⟩ := by
  rw [call, h]

/-- **When a frame is dropped, the memory is as long as when the frame was opened,** and the same but for what was written
to it in the meantime. -/
theorem leave_enter (F : FramedMemory) {body : List FrameCall} (hbody : FrameCall.levelAfter 0 body = some 0) :
    let G := F.after (.enter :: (body ++ [.leave]))
    G.marks = F.marks ∧ G.memory.used = F.memory.used ∧ ∀ i < F.memory.used,
      (∀ t d, (.write t d, .done) ∈ (F.call .enter).2.log body → ¬t.Covers i) →
        G.memory.bytes[i]? = F.memory.bytes[i]? := by
  intro G
  obtain ⟨habove, hsame⟩ := (above_self (F := (F.call .enter).2) (Nat.le_refl F.memory.used)).after hbody
  obtain ⟨inner, hinner, hlevel, -⟩ := habove.marks
  have hmarks : ((F.call .enter).2.after body).marks = F.memory.used :: F.marks := by
    rw [hinner, List.eq_nil_of_length_eq_zero hlevel]
    rfl
  have hG : G = ⟨((F.call .enter).2.after body).memory.release F.memory.used, F.marks⟩ := by
    rw [← call_leave hmarks]
    simp only [G, after, List.foldl_cons, List.foldl_append, List.foldl_nil]
  rw [hG]
  refine ⟨rfl, ?_, fun i hi hwrites => ?_⟩
  · rw [GuestMemory.used_release]
    exact Nat.min_eq_left habove.used
  · rw [GuestMemory.getElem?_release hi]
    exact hsame i hi hwrites

/-- A call that came to nothing left everything as it was. -/
theorem eq_of_failed {a : FrameCall} (h : (F.call a).1.Failed) : (F.call a).2 = F := by
  have heffect := F.effect_call a
  generalize (F.call a).1 = r, (F.call a).2 = F' at heffect h ⊢
  cases heffect with
  | full => rfl
  | unwritten => rfl
  | unfound => rfl
  | _ => cases h

/-- **Guest memory and its frames,** after any calls. No more is in use than the limit allows. A call does what is said of
it, and nothing if it fails. What was placed lies in memory, apart from all else that is placed while its frame is open,
and is read back unless something is written over it. When a frame is dropped, the memory ends where it ended when the
frame was opened, and in front of that mark only what was written to is another. -/
theorem frames_keep (limit : MemoryLimit) (calls : List FrameCall) :
    let F := (start limit).after calls
    F.memory.used ≤ limit.maxBytes.toNat ∧
      (∀ a, F.Effect a (F.call a).1 (F.call a).2 ∧ ((F.call a).1.Failed → (F.call a).2 = F)) ∧
      (∀ a data s, a.data? = some data → (F.call a).1 = .placed s →
        ∀ rest, (FrameCall.levelAfter 0 rest).isSome →
          let G := (F.call a).2.after rest
          G.memory.Inside s ∧
            ((∀ t d, (.write t d, .done) ∈ (F.call a).2.log rest → ¬t.Overlaps s) → G.memory.read s = .ok data) ∧
            ∀ b s', (G.call b).1 = .placed s' → ¬s.Overlaps s') ∧
      ∀ body, FrameCall.levelAfter 0 body = some 0 →
        let G := F.after (.enter :: (body ++ [.leave]))
        G.marks = F.marks ∧ G.memory.used = F.memory.used ∧ ∀ i < F.memory.used,
          (∀ t d, (.write t d, .done) ∈ (F.call .enter).2.log body → ¬t.Covers i) →
            G.memory.bytes[i]? = F.memory.bytes[i]? := by
  intro F
  have hstart : (start limit).Bounded limit := ⟨rfl, Nat.zero_le _⟩
  refine ⟨(hstart.after calls).used_le, fun a => ⟨F.effect_call a, eq_of_failed⟩, ?_, ?_⟩
  · intro a data s ha hs rest hrest
    exact read_of_placed ha hs hrest
  · intro body hbody
    exact F.leave_enter hbody

-- a write reaches from the outer frame into the inner one, which is then dropped
example : ((start ⟨16⟩).after [.enter, .place [1, 2, 3], .enter, .zeros 4, .write ⟨1, 4⟩ [9], .leave]).memory.bytes =
    [1, 9, 0] := by decide

end FramedMemory

end RunLedger
