import RunLedger.Proofs.Task.Snapshots
import RunLedger.Proofs.Trace.Passes

/-!
# The task board of a dual run

The tasks that the two passes of a dual run report fold into a board, whatever the pipeline, if the execution pass opens
every path at most once and closes what it opens.

What the deeds of a pass can be is said by the paths that are open (`Deed.Fits`): nothing is closed that is not open.
That is so of every run (`Tracing.Nested.fits`). A board that awaits such deeds (`TaskBoard.Awaits`) takes their tasks
one after the other (`TaskBoard.Awaits.fold`); what the discovery pass found is on the board before
(`TaskBoard.fold_new`).

* `DualPass.board_of_report`: the board, its order and the states on it.
-/

namespace RunLedger

namespace Deed

/-- The path that is opened. -/
def opening? : Deed → Option String
  | opened around id => some (OperationId.joinPath (around ++ [id]))
  | closed .. => none

/-- The path that is closed, and how that ended. -/
def closing? : Deed → Option (String × Outcome)
  | opened .. => none
  | closed around id outcome => some (OperationId.joinPath (around ++ [id]), outcome)

/-- The paths that are opened, in order. -/
def openings (deeds : List Deed) : List String := deeds.filterMap opening?

/-- The paths that are closed, in order, and how each ended. -/
def closings (deeds : List Deed) : List (String × Outcome) := deeds.filterMap closing?

theorem openings_opened (around : List OperationId) (id : OperationId) (deeds : List Deed) :
    openings (opened around id :: deeds) = OperationId.joinPath (around ++ [id]) :: openings deeds := rfl

theorem openings_closed (around : List OperationId) (id : OperationId) (outcome : Outcome) (deeds : List Deed) :
    openings (closed around id outcome :: deeds) = openings deeds := rfl

theorem closings_closed (around : List OperationId) (id : OperationId) (outcome : Outcome) (deeds : List Deed) :
    closings (closed around id outcome :: deeds) =
      (OperationId.joinPath (around ++ [id]), outcome) :: closings deeds := rfl

/-- The task that the execution pass reports. -/
def task : Deed → Task
  | opened around id => ⟨OperationId.joinPath (around ++ [id]), id.name, .initiated⟩
  | closed around id outcome => ⟨OperationId.joinPath (around ++ [id]), id.name, Tracer.finalState outcome⟩

/-- Only open paths are closed, where some paths are open at first. -/
def Fits : List String → List Deed → Prop
  | _, [] => True
  | paths, opened around id :: deeds => Fits (OperationId.joinPath (around ++ [id]) :: paths) deeds
  | paths, closed around id _ :: deeds =>
    OperationId.joinPath (around ++ [id]) ∈ paths ∧ Fits (paths.erase (OperationId.joinPath (around ++ [id]))) deeds

theorem Fits.perm {paths paths' : List String} {deeds : List Deed} (h : Fits paths deeds) (hp : paths.Perm paths') :
    Fits paths' deeds := by
  induction deeds generalizing paths paths' with
  | nil => trivial
  | cons d deeds ih =>
    cases d with
    | opened around id => exact ih h (hp.cons _)
    | closed around id outcome => exact ⟨hp.mem_iff.mp h.1, ih h.2 (hp.erase _)⟩

/-- A path that occurs was open, or is opened. -/
theorem Fits.mem {paths : List String} {deeds : List Deed} (h : Fits paths deeds) {path : String}
    (hp : path ∈ deeds.map Deed.path) : path ∈ paths ∨ path ∈ openings deeds := by
  induction deeds generalizing paths with
  | nil => cases hp
  | cons d deeds ih =>
    cases d with
    | opened around id =>
      simp only [List.map_cons, List.mem_cons, Deed.path, openings_opened] at hp ⊢
      obtain rfl | hp := hp
      · exact .inr (.inl rfl)
      · obtain hp | hp := ih h hp
        · obtain rfl | hp := List.mem_cons.mp hp
          · exact .inr (.inl rfl)
          · exact .inl hp
        · exact .inr (.inr hp)
    | closed around id outcome =>
      simp only [List.map_cons, List.mem_cons, Deed.path, openings_closed] at hp ⊢
      obtain rfl | hp := hp
      · exact .inl h.1
      · exact (ih h.2 hp).imp_left List.mem_of_mem_erase

theorem tasks_events (deeds : List Deed) : (deeds.flatMap events).filterMap Event.task? = deeds.map task := by
  induction deeds with
  | nil => rfl
  | cons d deeds ih =>
    rw [List.flatMap_cons, List.filterMap_append, ih]
    cases d <;> rfl

/-- Paths that are opened once each, and are new, come to the graph in order. -/
theorem paths_record {g : OpGraph} {deeds : List Deed} (hnodup : (openings deeds).Nodup)
    (hnew : ∀ path ∈ openings deeds, path ∉ g.paths) : (deeds.foldl record g).paths = g.paths ++ openings deeds := by
  induction deeds generalizing g with
  | nil => exact (List.append_nil _).symm
  | cons d deeds ih =>
    cases d with
    | opened around id =>
      rw [openings_opened] at hnodup hnew ⊢
      obtain ⟨hnotMem, hnodup⟩ := List.nodup_cons.mp hnodup
      have hpaths : (record g (opened around id)).paths = g.paths ++ [OperationId.joinPath (around ++ [id])] := by
        rw [record, OpGraph.paths_insert, if_neg (hnew _ List.mem_cons_self)]
      rw [List.foldl_cons, ih hnodup, hpaths, List.append_assoc, List.singleton_append]
      intro other hother
      rw [hpaths, List.mem_append, List.mem_singleton, not_or]
      exact ⟨hnew other (List.mem_cons_of_mem _ hother), fun he => hnotMem (he ▸ hother)⟩
    | closed around id outcome =>
      rw [openings_closed] at hnodup hnew ⊢
      exact ih hnodup hnew

end Deed

/-! ## Open paths -/

namespace Place

/-- The paths of operations that were opened below others, innermost first. -/
def pathsFrom (base : List OperationId) : List OperationId → List String
  | [] => []
  | id :: below => OperationId.joinPath (base ++ below.reverse ++ [id]) :: pathsFrom base below

/-- The paths that are open at a place. -/
def openPaths (p : Place) : List String := pathsFrom p.base p.own

/-- What is opened at a place is open there, and only that can be closed. -/
theorem openPaths_of_answer {p q : Place} {a : SpanCall} {d : Deed} (h : p.answer a = .ok (d, q)) :
    (∃ around id, d = .opened around id ∧
      q.openPaths = OperationId.joinPath (around ++ [id]) :: p.openPaths) ∨
    ∃ around id outcome, d = .closed around id outcome ∧
      p.openPaths = OperationId.joinPath (around ++ [id]) :: q.openPaths := by
  cases a with
  | push parent id =>
    rw [answer] at h
    split at h
    · cases h
    · split at h
      · cases h
      · cases h
        exact .inl ⟨_, _, rfl, rfl⟩
  | pop parent id outcome =>
    rw [answer] at h
    split at h
    · cases h
    · rename_i top below hown
      dsimp only at h
      split at h
      · cases h
        refine .inr ⟨_, _, _, rfl, ?_⟩
        rw [openPaths, hown]
        rfl
      · cases h

/-- The open paths of some places, one of which is changed, up to order. -/
theorem perm_openPaths_set {places : List Place} {k : Nat} {p : Place} (h : places[k]? = some p) (q : Place) :
    ((places.set k q).flatMap openPaths ++ p.openPaths).Perm (places.flatMap openPaths ++ q.openPaths) := by
  obtain ⟨hlt, rfl⟩ := List.getElem?_eq_some_iff.mp h
  have hsplit : places.flatMap openPaths = (places.take k).flatMap openPaths ++
      (places[k].openPaths ++ (places.drop (k + 1)).flatMap openPaths) := by
    rw [← List.flatMap_cons, ← List.drop_eq_getElem_cons hlt, ← List.flatMap_append, List.take_append_drop]
  rw [hsplit, List.set_eq_take_append_cons_drop, if_pos hlt, List.flatMap_append, List.flatMap_cons]
  simp only [List.append_assoc]
  refine List.Perm.append_left _ (List.perm_append_comm.trans ?_)
  rw [List.append_assoc]
  exact List.perm_append_comm_assoc _ _ _

end Place

namespace Tracing

variable {ν α : Type} {s : Tracing ν}

/-- The paths that are open in all contexts. -/
def openPaths (s : Tracing ν) : List String := s.places.flatMap Place.openPaths

/-- A call closes only what is open, and so does what follows if it fits what is open then. -/
theorem Nested.fits_make (h : s.Nested) (n : Nat) (a : SpanCall) {deeds : List Deed}
    (hrest : Deed.Fits (s.make n a).2.openPaths deeds) : Deed.Fits s.openPaths (s.deedsOf (a.step n) ++ deeds) := by
  obtain ⟨d, p, ha, -, hplaces, hd, -⟩ | ⟨e, -, hm, hd⟩ := h.make_spec n a
  · have hperm := Place.perm_openPaths_set (s.place_eq n) p
    rw [← hplaces] at hperm
    rw [hd]
    obtain ⟨around, id, rfl, hopen⟩ | ⟨around, id, outcome, rfl, hopen⟩ := Place.openPaths_of_answer ha
    · rw [hopen] at hperm
      exact hrest.perm ((List.perm_append_right_iff _).mp (hperm.trans List.perm_middle))
    · rw [hopen] at hperm
      have hwas : (OperationId.joinPath (around ++ [id]) :: (s.make n a).2.openPaths).Perm s.openPaths :=
        (List.perm_append_right_iff _).mp (List.perm_middle.symm.trans hperm)
      refine ⟨hwas.mem_iff.mp List.mem_cons_self, hrest.perm ?_⟩
      have herased := hwas.erase (OperationId.joinPath (around ++ [id]))
      rwa [List.erase_cons_head] at herased
  · rw [hd]
    rwa [hm] at hrest

/-- A pass closes only what is open. -/
theorem Nested.fits (h : s.Nested) (p : Pipeline ν α) : Deed.Fits s.openPaths (s.deeds p) := by
  induction p generalizing s with
  | done a => trivial
  | note n label next ih => exact ih (s := s.noted n label) h
  | step op next ih =>
    have hrest := ih (s.perform op).1 (h.perform op)
    cases op with
    | push n parent id => exact h.fits_make n (.push parent id) hrest
    | pop n parent id outcome => exact h.fits_make n (.pop parent id outcome) hrest
    | fork n =>
      have hopen : (s.perform (.fork n)).2.openPaths = s.openPaths := by
        rw [openPaths, places_fork, List.flatMap_append]
        exact List.append_nil _
      rwa [hopen] at hrest
    | current n => exact hrest
    | analysing => exact hrest

end Tracing

/-! ## Boards -/

/-- A key that comes first comes in front of the new ones behind it. -/
theorem OrderedMap.keys_set_append {κ α : Type} [DecidableEq κ] (m : OrderedMap κ α) {k : κ} {later : List κ}
    (h : k ∉ later) (v : α) :
    (m.set k v).keys ++ later.filter (· ∉ (m.set k v).keys) = m.keys ++ (k :: later).filter (· ∉ m.keys) := by
  rw [keys_set]
  by_cases hk : k ∈ m.keys
  · rw [if_pos hk, List.filter_cons_of_neg (by simpa using hk)]
  · have hlater : later.filter (· ∉ m.keys ++ [k]) = later.filter (· ∉ m.keys) := by
      refine List.filter_congr fun other hother => ?_
      have hne : other ≠ k := by
        rintro rfl
        exact h hother
      simp [hne]
    rw [if_neg hk, hlater, List.filter_cons_of_pos (by simpa using hk), List.append_assoc, List.singleton_append]

namespace TaskBoard

variable {b : TaskBoard}

/-- Snapshots of new tasks come to the board in order. -/
theorem fold_new {tasks : List Task} (hnodup : (tasks.map Task.id).Nodup)
    (hnew : ∀ id ∈ tasks.map Task.id, b.state? id = none) :
    ∃ b', tasks.foldlM apply b = .ok b' ∧ b'.tasks.keys = b.tasks.keys ++ tasks.map Task.id ∧
      (∀ id, id ∉ tasks.map Task.id → b'.state? id = b.state? id) ∧ ∀ t ∈ tasks, b'.state? t.id = some t.state := by
  induction tasks generalizing b with
  | nil => exact ⟨b, rfl, (List.append_nil _).symm, fun _ _ => rfl, nofun⟩
  | cons t tasks ih =>
    rw [List.map_cons] at hnodup hnew
    obtain ⟨hnotMem, hnodup⟩ := List.nodup_cons.mp hnodup
    have hnone := hnew _ List.mem_cons_self
    have hother : ∀ id ∈ tasks.map Task.id, (TaskBoard.mk (b.tasks.set t.id t.state)).state? id = none := by
      intro id hid
      have hne : t.id ≠ id := fun he => hnotMem (he ▸ hid)
      rw [state?_set, if_neg hne]
      exact hnew id (List.mem_cons_of_mem _ hid)
    obtain ⟨b', hfold, hkeys, hsame, hstates⟩ := ih hnodup hother
    refine ⟨b', ?_, ?_, fun id hid => ?_, ?_⟩
    · rw [List.foldlM_cons, apply_of_step (by rw [hnone]; nofun)]
      exact hfold
    · rw [hkeys, OrderedMap.keys_set, if_neg (state?_eq_none_iff.mp hnone), List.append_assoc]
      rfl
    · obtain ⟨hne, hid⟩ := not_or.mp (mt List.mem_cons.mpr hid)
      rw [hsame id hid, state?_set, if_neg (Ne.symm hne)]
    · intro u hu
      obtain rfl | hu := List.mem_cons.mp hu
      · rw [hsame _ hnotMem, state?_set, if_pos rfl]
      · exact hstates u hu

/-- What a board has to be like for deeds to be reported to it: what is open has begun, and what will be opened is new
or has not begun. -/
structure Awaits (b : TaskBoard) (paths : List String) (deeds : List Deed) : Prop where
  fits : Deed.Fits paths deeds
  nodup : paths.Nodup
  begun : ∀ path ∈ paths, b.state? path = some .initiated
  once : (Deed.openings deeds).Nodup
  pending : ∀ path ∈ Deed.openings deeds, ∀ state, b.state? path = some state → state = .pending

variable {paths : List String} {deeds : List Deed} {around : List OperationId} {id : OperationId} {outcome : Outcome}

/-- A path that is opened is not open. -/
theorem Awaits.notMem (h : b.Awaits paths deeds) {path : String} (hp : path ∈ Deed.openings deeds) : path ∉ paths :=
  fun hopen => nomatch h.pending path hp _ (h.begun path hopen)

theorem Awaits.opened (h : b.Awaits paths (.opened around id :: deeds)) :
    (TaskBoard.mk (b.tasks.set (OperationId.joinPath (around ++ [id])) .initiated)).Awaits
      (OperationId.joinPath (around ++ [id]) :: paths) deeds where
  fits := h.fits
  nodup := List.nodup_cons.mpr ⟨h.notMem List.mem_cons_self, h.nodup⟩
  begun other hother := by
    rw [state?_set]
    split
    · rfl
    · rename_i hne
      exact h.begun other (List.mem_of_ne_of_mem (Ne.symm hne) hother)
  once := (List.nodup_cons.mp h.once).2
  pending other hother := by
    have hne : OperationId.joinPath (around ++ [id]) ≠ other := by
      rintro rfl
      exact (List.nodup_cons.mp h.once).1 hother
    rw [state?_set, if_neg hne]
    exact h.pending other (List.mem_cons_of_mem _ hother)

theorem Awaits.closed (h : b.Awaits paths (.closed around id outcome :: deeds)) (state : TaskState) :
    (TaskBoard.mk (b.tasks.set (OperationId.joinPath (around ++ [id])) state)).Awaits
      (paths.erase (OperationId.joinPath (around ++ [id]))) deeds where
  fits := h.fits.2
  nodup := h.nodup.erase _
  begun other hother := by
    obtain ⟨hne, hother⟩ := h.nodup.mem_erase_iff.mp hother
    rw [state?_set, if_neg (Ne.symm hne)]
    exact h.begun other hother
  once := h.once
  pending other hother := by
    have hne : OperationId.joinPath (around ++ [id]) ≠ other := by
      rintro rfl
      exact h.notMem hother h.fits.1
    rw [state?_set, if_neg hne]
    exact h.pending other hother

/-- What is closed does not occur any more. -/
theorem Awaits.gone (h : b.Awaits paths (.closed around id outcome :: deeds)) :
    OperationId.joinPath (around ++ [id]) ∉ deeds.map Deed.path := by
  intro hp
  obtain hp | hp := h.fits.2.mem hp
  · exact (h.nodup.mem_erase_iff.mp hp).1 rfl
  · exact h.notMem hp h.fits.1

/-- Deeds that the board awaits are taken: the new paths come to it in order, and what is closed ends as it was
closed. -/
theorem Awaits.fold (h : b.Awaits paths deeds) :
    ∃ b', (deeds.map Deed.task).foldlM apply b = .ok b' ∧
      b'.tasks.keys = b.tasks.keys ++ (Deed.openings deeds).filter (· ∉ b.tasks.keys) ∧
      (∀ path, path ∉ deeds.map Deed.path → b'.state? path = b.state? path) ∧
      ∀ path outcome, (path, outcome) ∈ Deed.closings deeds →
        b'.state? path = some (Tracer.finalState outcome) := by
  induction deeds generalizing b paths with
  | nil => exact ⟨b, rfl, (List.append_nil _).symm, fun _ _ => rfl, nofun⟩
  | cons d deeds ih =>
    -- a path that is not the first one is not changed by the first deed
    have hframe {b' : TaskBoard} {state : TaskState} (hsame : ∀ path, path ∉ deeds.map Deed.path →
        b'.state? path = (TaskBoard.mk (b.tasks.set d.path state)).state? path) (path : String)
        (hpath : path ∉ (d :: deeds).map Deed.path) : b'.state? path = b.state? path := by
      obtain ⟨hne, hpath⟩ := not_or.mp (mt List.mem_cons.mpr hpath)
      rw [hsame path hpath, state?_set, if_neg (Ne.symm hne)]
    cases d with
    | opened around id =>
      let path := OperationId.joinPath (around ++ [id])
      obtain ⟨b', hfold, hkeys, hsame, hends⟩ := ih h.opened
      refine ⟨b', ?_, ?_, hframe hsame, hends⟩
      · have hstep (state : TaskState) (hs : b.state? path = some state) : state.canBecome .initiated := by
          rw [h.pending path List.mem_cons_self state hs]
          rfl
        rw [List.map_cons, List.foldlM_cons, Deed.task, apply_of_step hstep]
        exact hfold
      · rw [hkeys, Deed.openings_opened]
        exact b.tasks.keys_set_append (List.nodup_cons.mp h.once).1 .initiated
    | closed around id outcome =>
      let path := OperationId.joinPath (around ++ [id])
      have hbegun : b.state? path = some .initiated := h.begun path h.fits.1
      obtain ⟨b', hfold, hkeys, hsame, hends⟩ := ih (h.closed (Tracer.finalState outcome))
      refine ⟨b', ?_, ?_, hframe hsame, fun other outcome' hother => ?_⟩
      · have hstep (state : TaskState) (hs : b.state? path = some state) :
            state.canBecome (Tracer.finalState outcome) := by
          rw [hbegun] at hs
          cases hs
          cases outcome <;> rfl
        rw [List.map_cons, List.foldlM_cons, Deed.task, apply_of_step hstep]
        exact hfold
      · rw [hkeys, OrderedMap.keys_set, if_pos (mem_keys_of_state? hbegun), Deed.openings_closed]
      · rw [Deed.closings_closed, List.mem_cons] at hother
        obtain he | hother := hother
        · cases he
          rw [hsame _ h.gone, state?_set, if_pos rfl]
        · exact hends other outcome' hother

/-- The board of what was discovered and of deeds that begin with nothing open. -/
theorem fold_discovered (g : OpGraph) (hfits : Deed.Fits [] deeds) (honce : (Deed.openings deeds).Nodup) :
    ∃ b', (g.tasks ++ deeds.map Deed.task).foldlM apply empty = .ok b' ∧
      b'.tasks.keys = g.paths ++ (Deed.openings deeds).filter (· ∉ g.paths) ∧
      (∀ path ∈ g.paths, path ∉ Deed.openings deeds → b'.state? path = some .pending) ∧
      ∀ path outcome, (path, outcome) ∈ Deed.closings deeds → b'.state? path = some (Tracer.finalState outcome) := by
  have hids : g.tasks.map Task.id = g.paths := by
    rw [OpGraph.tasks, List.map_map]
    rfl
  have hnodup : (g.tasks.map Task.id).Nodup := by
    rw [hids]
    exact g.nodes.nodup_keys
  obtain ⟨b, hb, hkeys, -, hstates⟩ := fold_new (b := empty) hnodup fun _ _ => rfl
  replace hkeys : b.tasks.keys = g.paths := by
    rw [hkeys, hids]
    rfl
  have hpending : ∀ path ∈ g.paths, b.state? path = some .pending := by
    intro path hpath
    rw [← hids] at hpath
    obtain ⟨t, ht, rfl⟩ := List.mem_map.mp hpath
    obtain ⟨e, -, rfl⟩ := List.mem_map.mp ht
    exact hstates _ ht
  have hawaits : b.Awaits [] deeds := {
    fits := hfits
    nodup := List.nodup_nil
    begun := fun path hpath => absurd hpath List.not_mem_nil
    once := honce
    pending := by
      intro path _ state hs
      have hpath := mem_keys_of_state? hs
      rw [hkeys] at hpath
      rw [hpending path hpath] at hs
      exact (Option.some.inj hs).symm }
  obtain ⟨b', hb', hkeys', hsame, hends⟩ := hawaits.fold
  refine ⟨b', ?_, by rw [hkeys', hkeys], fun path hpath hopened => ?_, hends⟩
  · rw [List.foldlM_append, hb]
    exact hb'
  · have hnone : path ∉ deeds.map Deed.path := fun hmem => hopened ((hfits.mem hmem).resolve_left List.not_mem_nil)
    rw [hsame path hnone]
    exact hpending path hpath

/-- A board on which a task has not begun is not settled. -/
theorem not_isSettled_of_pending {path : String} (h : b.state? path = some .pending) : ¬b.isSettled := fun hsettled =>
  nomatch isSettled_iff.mp hsettled path _ h

/-- A board on which every task has ended is settled. -/
theorem isSettled_of_ends
    (h : ∀ path ∈ b.tasks.keys, ∃ outcome, b.state? path = some (Tracer.finalState outcome)) : b.isSettled := by
  rw [isSettled_iff]
  intro path state hstate
  obtain ⟨outcome, ho⟩ := h path (mem_keys_of_state? hstate)
  rw [Option.some.inj (hstate.symm.trans ho)]
  cases outcome <;> rfl

end TaskBoard

/-! ## Dual runs -/

theorem StructureDiff.paths_lacking (g other : OpGraph) :
    (lacking g other).map Prod.fst = g.paths.filter (· ∉ other.paths) := by
  have hcontains (path : String) : decide (path ∉ other.paths) = !other.contains path := by
    simp [← OpGraph.contains_iff]
  simp only [hcontains, lacking]
  rw [OpGraph.paths, OrderedMap.keys, List.filter_map]
  rfl

namespace DualPass

variable {ν ε α : Type} {emitted : List Message} {clock : Clock} {p : Pipeline ν (Exit ε α)}

/-- If there is a report, then the discovery pass returned. -/
theorem returned_of_report {report : PassReport α} (h : (run emitted clock p).result = .returned report) :
    ∃ a d, (Tracing.start (.start .discovery emitted clock)).run p = (.returned a, d) := by
  rcases hd : (Tracing.start (.start .discovery emitted clock)).run p with ⟨exit, d⟩
  cases exit with
  | returned a => exact ⟨a, d, rfl⟩
  | failed e =>
    rw [run, hd] at h
    cases h
  | panicked =>
    rw [run, hd] at h
    cases h

/-- What both passes report are the tasks of the operations that were discovered, and then those of the deeds of the
execution pass. -/
theorem tasks_messages {a : α} {d : Tracing ν}
    (hd : (Tracing.start (.start .discovery [] clock)).run p = (.returned a, d)) :
    (run [] clock p).messages.filterMap (fun m => m.event.task?) =
      d.tracer.graph.tasks ++ ((second d).deeds p).map Deed.task := by
  obtain ⟨-, hexecution, -⟩ := run_of_returned hd
  have hd₀ : (Tracing.start (.start .discovery [] clock) : Tracing ν).Nested := Tracing.nested_start _
  have hx₀ : (second d).Nested := Tracing.nested_start _
  obtain ⟨ms, tasks, hms, hevents, htasks⟩ := (hd₀.run p).2.discovered rfl
  obtain ⟨ms', hms', hevents'⟩ := (hx₀.run p).2.executed rfl
  rw [hd] at hms htasks
  have hdiscovered : ms.filterMap (fun m => m.event.task?) = d.tracer.graph.tasks := by
    have hfilter := congrArg (List.filterMap Event.task?) hevents
    rw [List.filterMap_map, List.filterMap_map] at hfilter
    rw [htasks]
    exact hfilter.trans List.filterMap_some
  have hexecuted : ms'.filterMap (fun m => m.event.task?) = ((second d).deeds p).map Deed.task := by
    have huntimed (e : Event) : e.untimed.task? = e.task? := by cases e <;> rfl
    rw [← Deed.tasks_events, ← hevents', List.filterMap_map]
    simp only [Function.comp_def, huntimed]
  have hmessages : (run [] clock p).messages = ms ++ ms' := by
    rw [DualRun.messages, DualRun.last, hexecution, Option.getD_some, hms', ← List.nil_append ms]
    exact congrArg (· ++ ms') hms
  rw [hmessages, List.filterMap_append, hdiscovered, hexecuted]

/-- **The board agrees with the report of a dual run.** Let both passes return, whatever the pipeline does with its
contexts and however it depends on the pass, and let the execution pass open no path twice and close every path that it
opens. Then all tasks that were reported fold into a board, with the discovered paths in their order and then the
unexpected ones in theirs. What was executed has ended as it was closed, what is missing has not begun, and so the board
is settled exactly if nothing is missing. -/
theorem board_of_report {report : PassReport α} (hr : (run [] clock p).result = .returned report)
    (honce : (Deed.openings ((second (run [] clock p).discovery).deeds p)).Nodup)
    (hclosed : ∀ path ∈ Deed.openings ((second (run [] clock p).discovery).deeds p),
      ∃ outcome, (path, outcome) ∈ Deed.closings ((second (run [] clock p).discovery).deeds p)) :
    let r := run [] clock p
    let deeds := (second r.discovery).deeds p
    ∃ board, (r.messages.filterMap fun m => m.event.task?).foldlM TaskBoard.apply .empty = .ok board ∧
      report.executed.paths = Deed.openings deeds ∧
      board.tasks.keys = report.discovered.paths ++ report.diff.unexpected ∧
      report.diff.unexpected = report.executed.paths.filter (· ∉ report.discovered.paths) ∧
      (∀ path ∈ report.executed.paths, ∃ outcome, (path, outcome) ∈ Deed.closings deeds) ∧
      (∀ path outcome, (path, outcome) ∈ Deed.closings deeds →
        board.state? path = some (Tracer.finalState outcome)) ∧
      (∀ path ∈ report.diff.missing, board.state? path = some .pending) ∧
      (board.isSettled ↔ report.diff.missing = []) := by
  intro r deeds
  obtain ⟨a, d, hd⟩ := returned_of_report hr
  obtain ⟨hdiscovery, -, hreport⟩ := run_of_returned hd
  obtain ⟨hdiscovered, hexecuted, hdiff⟩ := hreport report hr
  have hx₀ : (second d).Nested := Tracing.nested_start _
  have hdeeds : deeds = (second d).deeds p := congrArg (fun d => (second d).deeds p) hdiscovery
  have hfits : Deed.Fits [] deeds := by
    rw [hdeeds]
    exact hx₀.fits p
  have hpaths : report.executed.paths = Deed.openings deeds := by
    rw [hexecuted, (hx₀.run p).2.graph, ← hdeeds]
    exact Deed.paths_record honce nofun
  have hunexpected : report.diff.unexpected = report.executed.paths.filter (· ∉ report.discovered.paths) := by
    rw [hdiff, hdiscovered, hexecuted]
    exact StructureDiff.paths_lacking _ _
  have hmissing (path : String) :
      path ∈ report.diff.missing ↔ path ∈ report.discovered.paths ∧ path ∉ report.executed.paths := by
    rw [hdiff, hdiscovered, hexecuted]
    exact StructureDiff.mem_missing_iff
  obtain ⟨board, hfold, hkeys, hpending, hends⟩ := TaskBoard.fold_discovered report.discovered hfits honce
  rw [← hpaths, ← hunexpected] at hkeys
  rw [← hpaths] at hclosed
  have hstays : ∀ path ∈ report.diff.missing, board.state? path = some .pending := by
    intro path hpath
    obtain ⟨hfound, hpath⟩ := (hmissing path).mp hpath
    exact hpending path hfound (hpaths ▸ hpath)
  have hboard : (r.messages.filterMap fun m => m.event.task?).foldlM TaskBoard.apply .empty = .ok board := by
    rw [tasks_messages hd, ← hdeeds, ← hdiscovered]
    exact hfold
  refine ⟨board, hboard, hpaths, hkeys, hunexpected, hclosed, hends, hstays, ?_⟩
  constructor
  · intro hsettled
    refine List.eq_nil_iff_forall_not_mem.mpr fun path hpath => ?_
    exact TaskBoard.not_isSettled_of_pending (hstays path hpath) hsettled
  · intro hnone
    refine TaskBoard.isSettled_of_ends fun path hpath => ?_
    have hexecuted : path ∈ report.executed.paths := by
      rw [hkeys, hunexpected, List.mem_append, List.mem_filter] at hpath
      obtain hfound | ⟨hpath, -⟩ := hpath
      · refine Decidable.byContradiction fun hpath => ?_
        have hmem := (hmissing path).mpr ⟨hfound, hpath⟩
        rw [hnone] at hmem
        cases hmem
      · exact hpath
    obtain ⟨outcome, ho⟩ := hclosed path hexecuted
    exact ⟨outcome, hends path outcome ho⟩

/-- A pipeline whose discovery finds `"ci"` and `"lint"`. Its execution does `"ci"` and in it, on a fork that goes on
after the end of `"ci"`, a `"test"` that fails. -/
def departing : Pipeline Unit (Exit Unit Unit) :=
  .step (.push 0 "" "ci") fun _ => .step .analysing fun (dry : Bool) =>
    if dry then
      .step (.pop 0 "" "ci" .success) fun _ => .step (.push 0 "" "lint") fun _ => .done (.returned ())
    else
      .step (.fork 0) fun (n : Nat) => .step (.push n "ci" "test") fun _ => .step (.pop 0 "" "ci" .success) fun _ =>
        .step (.pop n "ci" "test" .error) fun _ => .done (.returned ())

theorem board_of_report_departing :
    let r := run [] default departing
    let deeds := (second r.discovery).deeds departing
    ∃ report, r.result = .returned report ∧ (Deed.openings deeds).Nodup ∧
      (∀ path ∈ Deed.openings deeds, ∃ outcome, (path, outcome) ∈ Deed.closings deeds) ∧
      ∃ board, (r.messages.filterMap fun m => m.event.task?).foldlM TaskBoard.apply .empty = .ok board ∧
        board.tasks.keys = ["ci", "lint", "ci/test"] ∧ board.state? "ci/test" = some .error ∧
        board.state? "lint" = some .pending ∧ board.isSettled = false := by
  intro r deeds
  have hopenings : Deed.openings deeds = ["ci", "ci/test"] := by decide
  have hclosings : Deed.closings deeds = [("ci", .success), ("ci/test", .error)] := by decide
  have honce : (Deed.openings deeds).Nodup := by
    rw [hopenings]
    decide
  have hclosed : ∀ path ∈ Deed.openings deeds, ∃ outcome, (path, outcome) ∈ Deed.closings deeds := by
    rw [hopenings, hclosings]
    simp
  have hr : r.result = .returned _ := rfl
  obtain ⟨board, hfold, -, hkeys, -, -, hends, hstays, hsettled⟩ := board_of_report hr honce hclosed
  have hfailed : board.state? "ci/test" = some .error := hends "ci/test" .error (by rw [hclosings]; decide)
  refine ⟨_, hr, honce, hclosed, board, hfold, hkeys.trans (by decide), hfailed, hstays "lint" (by decide), ?_⟩
  exact Bool.eq_false_iff.mpr (mt hsettled.mp (by decide))

end DualPass

end RunLedger
