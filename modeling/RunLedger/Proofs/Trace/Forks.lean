import RunLedger.Proofs.Trace.Graph
import RunLedger.Proofs.Trace.Lines

/-!
# Forks are independent

Contexts that were forked off one another share the tracer, and take turns in any order (`Team`). What a context does
comes to the same in every order: that is a matter of its place, and its place one of what it did before and of where it
was forked (`Team.Sound`, `Stands.unique`). The graph and the messages are made by the deeds of all contexts, and these
are the same but for their order (`perm_of_own`).

* `Team.independent`: answers, contexts, graph and events do not depend on the order of turns.
-/

namespace RunLedger

/-! ## Contexts that take turns -/

/-- What a call on a context came to, and what was emitted for it. -/
structure Reply (ι : Type) where
  who : ι
  answer : Except TraceError Unit
  messages : List Message

/-- A pass whose contexts have names. -/
structure Team (ν ι : Type) where
  tracing : Tracing ν
  /-- The names of the contexts, in the order of their numbers. -/
  names : List ι
  /-- The calls, in order. -/
  log : List (Reply ι)

namespace Team

variable {ν ι : Type} [DecidableEq ι]

/-- A pass at its start, with one context. -/
def start (t : Tracer) (origin : ι) : Team ν ι := ⟨.start t, [origin], []⟩

/-- The number of a context. -/
def number (T : Team ν ι) (i : ι) : Nat := T.names.idxOf i

/-- The pass after a turn. -/
def take (T : Team ν ι) : Turn ι → Team ν ι
  | .wait time => { T with tracing := T.tracing.call (.wait time) }
  | .act who (.call a) =>
    let (answer, tracing) := T.tracing.make (T.number who) a
    ⟨tracing, T.names, T.log ++ [⟨who, answer, tracing.tracer.emitted.drop T.tracing.tracer.emitted.length⟩]⟩
  | .act who (.fork child) => ⟨(T.tracing.perform (.fork (T.number who))).2, T.names ++ [child], T.log⟩

/-- The pass after some turns. -/
def after (T : Team ν ι) (turns : List (Turn ι)) : Team ν ι := turns.foldl take T

/-- The context of a name. -/
def context? (T : Team ν ι) (i : ι) : Option Context :=
  if i ∈ T.names then some (T.tracing.context (T.number i)) else none

/-- The calls on a context, in order. -/
def ownLog (T : Team ν ι) (i : ι) : List (Reply ι) := T.log.filter (·.who = i)

/-- The answers to the calls on a context, in order. -/
def answers (T : Team ν ι) (i : ι) : List (Except TraceError Unit) := (T.ownLog i).map Reply.answer

/-- What was emitted for the calls on a context, in order. -/
def messages (T : Team ν ι) (i : ι) : List Message := (T.ownLog i).flatMap Reply.messages

/-- What was emitted, in order. -/
def emitted (T : Team ν ι) : List Message := T.tracing.tracer.emitted

end Team

/-! ## What the tracer knows -/

/-- The operations around what is done at a place were found. -/
def Place.Found (p : Place) (g : OpGraph) : Prop :=
  ∀ around, around <+: p.path → ∀ path, pathOf around = some path → g.contains path

theorem Place.Found.record {p : Place} {g : OpGraph} (h : p.Found g) (d : Deed) : p.Found (d.record g) :=
  fun around hp path hpath => Tracer.contains_foldl_record (h around hp path hpath) [d]

/-- What is done at a place whose operations were found makes a graph that holds it. -/
theorem Place.Found.answer {p q : Place} {g : OpGraph} {a : SpanCall} {d : Deed} {deeds : List Deed} (h : p.Found g)
    (hmade : g.MadeBy deeds) (ha : p.answer a = .ok (d, q)) :
    q.Found (d.record g) ∧ (d.record g).MadeBy (deeds ++ [d]) := by
  cases a with
  | push parent id =>
    rw [Place.answer] at ha
    split at ha
    · cases ha
    · split at ha
      · cases ha
      · rename_i op _
        cases ha
        refine ⟨fun around haround path hpath => ?_, hmade.record (h _ (List.prefix_refl _)) op⟩
        have hq : Place.path { p with own := op :: p.own } = p.path ++ [op] := by simp [Place.path]
        rw [hq, List.prefix_concat_iff] at haround
        obtain rfl | haround := haround
        · rw [pathOf_append, Option.some.injEq] at hpath
          subst hpath
          exact OpGraph.contains_insert _ _ _ _
        · exact h.record _ around haround path hpath
  | pop parent id outcome =>
    rw [Place.answer] at ha
    split at ha
    · cases ha
    · rename_i top below hown
      dsimp only at ha
      split at ha
      · cases ha
        refine ⟨fun around haround => h around (haround.trans ?_), hmade.closed _ _ _⟩
        rw [Place.path, Place.path, hown, List.reverse_cons, ← List.append_assoc]
        exact List.prefix_append _ _
      · cases ha

/-- What was emitted since, and what it reports in the execution pass. -/
theorem Tracer.Saw.fresh {t t' : Tracer} {deeds : List Deed} (h : t.Saw deeds t') :
    t'.emitted = t.emitted ++ t'.emitted.drop t.emitted.length ∧ (t.pass = .execution →
      (t'.emitted.drop t.emitted.length).map (fun m => m.event.untimed) = deeds.flatMap Deed.events) := by
  have hfresh (ms : List Message) (he : t'.emitted = t.emitted ++ ms) : t'.emitted.drop t.emitted.length = ms := by
    rw [he, List.drop_left]
  cases hpass : t.pass with
  | execution =>
    obtain ⟨ms, he, hms⟩ := h.executed hpass
    rw [hfresh ms he]
    exact ⟨he, fun _ => hms⟩
  | discovery =>
    obtain ⟨ms, tasks, he, -⟩ := h.discovered hpass
    rw [hfresh ms he]
    exact ⟨he, nofun⟩

namespace Tracing

variable {ν : Type} {s : Tracing ν}

/-- A pass that has seen some deeds since a tracer was new: its graph holds them, and where its contexts are was
found. -/
structure Traced (t : Tracer) (deeds : List Deed) (s : Tracing ν) : Prop where
  nested : s.Nested
  saw : t.Saw deeds s.tracer
  made : s.tracer.graph.MadeBy deeds
  found : ∀ p ∈ s.places, p.Found s.tracer.graph

theorem traced_start (pass : Pass) (emitted : List Message) (clock : Clock) :
    (Tracing.start (.start pass emitted clock) : Tracing ν).Traced (.start pass emitted clock) [] where
  nested := nested_start _
  saw := .refl _
  made := OpGraph.madeBy_empty
  found p hp := by
    rw [List.mem_singleton.mp hp]
    intro around haround path hpath
    rw [List.prefix_nil.mp haround] at hpath
    cases hpath

variable {t : Tracer} {deeds : List Deed}

theorem Traced.make (h : s.Traced t deeds) (n : Nat) (a : SpanCall) :
    (s.make n a).2.Traced t (deeds ++ s.deedsOf (a.step n)) := by
  have hgraph : (s.make n a).2.tracer.graph.MadeBy (deeds ++ s.deedsOf (a.step n)) ∧
      ∀ p ∈ (s.make n a).2.places, p.Found (s.make n a).2.tracer.graph := by
    obtain ⟨d, q, ha, -, hplaces, hd, hsaw⟩ | ⟨e, -, hm, hd⟩ := h.nested.make_spec n a
    · have hplace : (s.context n).place ∈ s.places := List.mem_of_getElem? (s.place_eq n)
      obtain ⟨hq, hmade⟩ := (h.found _ hplace).answer h.made ha
      rw [hsaw.graph, hd, hplaces]
      refine ⟨hmade, fun p hp => ?_⟩
      obtain hp | rfl := List.mem_or_eq_of_mem_set hp
      · exact (h.found p hp).record d
      · exact hq
    · rw [hm, hd, List.append_nil]
      exact ⟨h.made, h.found⟩
  exact ⟨h.nested.make n a, h.saw.trans (h.nested.make_saw n a), hgraph.1, hgraph.2⟩

theorem Traced.fork (h : s.Traced t deeds) (n : Nat) : (s.perform (.fork n)).2.Traced t deeds where
  nested := h.nested.perform (.fork n)
  saw := h.saw
  made := h.made
  found p hp := by
    rw [places_fork] at hp
    obtain hp | hp := List.mem_append.mp hp
    · exact h.found p hp
    · have hplace := h.found _ (List.mem_of_getElem? (s.place_eq n))
      rw [List.mem_singleton.mp hp]
      intro around haround
      exact hplace around (by simpa [Place.path] using haround)

theorem Traced.wait (h : s.Traced t deeds) (time : Timestamp) : (s.call (.wait time)).Traced t deeds where
  nested := h.nested.call (.wait time)
  saw := ⟨h.saw.pass, h.saw.graph, h.saw.executed, h.saw.discovered⟩
  made := h.made
  found := h.found

/-- What a call comes to is what its line of work comes to by it. -/
theorem Nested.line_take {ι : Type} (h : s.Nested) (n : Nat) (a : SpanCall) (answers : List (Except TraceError Unit))
    (deeds : List Deed) :
    ∃ p, (s.make n a).2.places = s.places.set (s.slot n) p ∧
      (Line.mk (s.context n).place answers deeds).take (Act.call a : Act ι) =
        ⟨p, answers ++ [(s.make n a).1], deeds ++ s.deedsOf (a.step n)⟩ := by
  obtain ⟨d, p, ha, hok, hplaces, hd, -⟩ | ⟨e, ha, hm, hd⟩ := h.make_spec n a
  · refine ⟨p, hplaces, ?_⟩
    simp only [Line.take, ha, hok, hd]
  · obtain ⟨hlt, hplace⟩ := List.getElem?_eq_some_iff.mp (s.place_eq n)
    refine ⟨(s.context n).place, ?_, ?_⟩
    · rw [hm, ← hplace, List.set_getElem_self]
    · simp only [Line.take, ha, hm, hd, List.append_nil]

end Tracing

/-! ## What a team keeps -/

/-- What one context did, of what all did. -/
def ownDeeds {ι : Type} [DecidableEq ι] (done : List (ι × Deed)) (i : ι) : List Deed :=
  (done.filter (·.1 = i)).map Prod.snd

theorem ownDeeds_append {ι : Type} [DecidableEq ι] (done : List (ι × Deed)) (who : ι) (deeds : List Deed) (i : ι) :
    ownDeeds (done ++ deeds.map (who, ·)) i = if who = i then ownDeeds done i ++ deeds else ownDeeds done i := by
  rw [ownDeeds, List.filter_append, List.filter_map, List.map_append, List.map_map]
  split <;> simp [Function.comp_def, ownDeeds, *]

namespace Team

variable {ν ι : Type} [DecidableEq ι] {t : Tracer} {origin : ι} {acts past : ι → List (Act ι)}
  {done : List (ι × Deed)} {T : Team ν ι}

/-- What holds of a pass whose contexts have done some of their acts: what became of each is what becomes of its line of
work. -/
structure Sound (t : Tracer) (origin : ι) (acts past : ι → List (Act ι)) (done : List (ι × Deed)) (T : Team ν ι) :
    Prop where
  traced : T.tracing.Traced t (done.map Prod.snd)
  length : T.names.length = T.tracing.places.length
  nodup : T.names.Nodup
  stands : ∀ i ∈ T.names, ∃ p, T.tracing.places[T.number i]? = some p ∧
    Stands origin acts i (past i).length ⟨p, T.answers i, ownDeeds done i⟩
  /-- Nothing is known of a context before it is forked. -/
  silent : ∀ i, i ∉ T.names → past i = [] ∧ T.ownLog i = [] ∧ ownDeeds done i = []
  logged : T.emitted = t.emitted ++ T.log.flatMap Reply.messages
  reported : t.pass = .execution →
    ∀ i, (T.messages i).map (fun m => m.event.untimed) = (ownDeeds done i).flatMap Deed.events

theorem sound_start (pass : Pass) (emitted : List Message) (clock : Clock) (origin : ι) (acts : ι → List (Act ι)) :
    (start (.start pass emitted clock) origin : Team ν ι).Sound (.start pass emitted clock) origin acts
      (fun _ => []) [] where
  traced := Tracing.traced_start pass emitted clock
  length := rfl
  nodup := List.nodup_cons.mpr ⟨nofun, List.nodup_nil⟩
  stands i hi := by
    rw [List.mem_singleton.mp hi]
    refine ⟨⟨[], []⟩, ?_, .begin⟩
    simp [number, start, Tracing.places, Tracing.start, Context.root, Context.place]
  silent _ _ := ⟨rfl, rfl, rfl⟩
  logged := (List.append_nil _).symm
  reported _ _ := rfl

theorem Sound.wait (h : T.Sound t origin acts past done) (time : Timestamp) :
    (T.take (.wait time)).Sound t origin acts past done :=
  { h with traced := h.traced.wait time }

/-- The number of a name is one of a context. -/
theorem Sound.slot_number (h : T.Sound t origin acts past done) {i : ι} (hi : i ∈ T.names) :
    T.tracing.slot (T.number i) = T.number i := by
  have hlt : T.number i < T.names.length := List.idxOf_lt_length_iff.mpr hi
  rw [h.length, Tracing.places, List.length_map] at hlt
  exact if_pos (Nat.le_of_lt_succ hlt)

theorem number_inj {i j : ι} (hi : i ∈ T.names) (hj : j ∈ T.names) (h : T.number i = T.number j) : i = j := by
  have hlt : T.names.idxOf i < T.names.length := List.idxOf_lt_length_iff.mpr hi
  have hlt' : T.names.idxOf j < T.names.length := List.idxOf_lt_length_iff.mpr hj
  rw [← List.getElem_idxOf hlt, ← List.getElem_idxOf hlt']
  exact getElem_congr_idx h

/-- The context of a name is where its line of work stands. -/
theorem Sound.place (h : T.Sound t origin acts past done) {i : ι} (hi : i ∈ T.names) :
    Stands origin acts i (past i).length
      ⟨(T.tracing.context (T.number i)).place, T.answers i, ownDeeds done i⟩ := by
  obtain ⟨p, hp, hstands⟩ := h.stands i hi
  have hplace := T.tracing.place_eq (T.number i)
  rw [h.slot_number hi, hp] at hplace
  rwa [← Option.some.inj hplace]

theorem ownLog_call (T : Team ν ι) (who : ι) (a : SpanCall) (i : ι) :
    let r := T.tracing.make (T.number who) a
    (T.take (.act who (.call a))).ownLog i =
      if who = i then T.ownLog i ++ [⟨who, r.1, r.2.tracer.emitted.drop T.tracing.tracer.emitted.length⟩]
      else T.ownLog i := by
  intro r
  rw [ownLog, take, List.filter_append, List.filter_cons, List.filter_nil]
  by_cases hi : who = i <;> simp [ownLog, hi, r]

/-- After a call its own line of work has come to what it comes to by it, and the others to what they had. -/
theorem Sound.stands_call (h : T.Sound t origin acts past done) {who : ι} (hwho : who ∈ T.names) {a : SpanCall}
    (ha : (acts who)[(past who).length]? = some (.call a)) {i : ι} (hi : i ∈ T.names) :
    let r := T.tracing.make (T.number who) a
    ∃ p, r.2.places[T.number i]? = some p ∧
      Stands origin acts i (if who = i then past i ++ [.call a] else past i).length
        ⟨p, if who = i then T.answers i ++ [r.1] else T.answers i,
          ownDeeds (done ++ (T.tracing.deedsOf (a.step (T.number who))).map (who, ·)) i⟩ := by
  intro r
  obtain ⟨q, hplaces, htake⟩ := h.traced.nested.line_take (ι := ι) (T.number who) a (T.answers who) (ownDeeds done who)
  rw [h.slot_number hwho] at hplaces
  by_cases hwhose : who = i
  · subst hwhose
    have hlt : T.number who < T.tracing.places.length := by
      rw [← h.length]
      exact List.idxOf_lt_length_iff.mpr hwho
    have hstands := (h.place hwho).take ha
    rw [htake] at hstands
    rw [if_pos rfl, if_pos rfl, ownDeeds_append, if_pos rfl, List.length_append]
    exact ⟨q, by rw [hplaces, List.getElem?_set_self hlt], hstands⟩
  · obtain ⟨p, hp, hstands⟩ := h.stands i hi
    have hne : T.number who ≠ T.number i := fun he => hwhose (number_inj hwho hi he)
    rw [if_neg hwhose, if_neg hwhose, ownDeeds_append, if_neg hwhose]
    exact ⟨p, by rw [hplaces, List.getElem?_set_ne hne, hp], hstands⟩

theorem Sound.call (h : T.Sound t origin acts past done) {who : ι} (hwho : who ∈ T.names) {a : SpanCall}
    (ha : (acts who)[(past who).length]? = some (.call a)) :
    (T.take (.act who (.call a))).Sound t origin acts (fun i => if who = i then past i ++ [.call a] else past i)
      (done ++ (T.tracing.deedsOf (a.step (T.number who))).map (who, ·)) where
  traced := by
    rw [List.map_append, List.map_map]
    simp only [Function.comp_def, List.map_id']
    exact h.traced.make (T.number who) a
  length := by
    obtain ⟨q, hplaces, -⟩ := h.traced.nested.line_take (ι := ι) (T.number who) a [] []
    exact h.length.trans (by rw [take, hplaces, List.length_set])
  nodup := h.nodup
  stands i hi := by
    have hanswers : (T.take (.act who (.call a))).answers i =
        if who = i then T.answers i ++ [(T.tracing.make (T.number who) a).1] else T.answers i := by
      rw [answers, ownLog_call]
      split <;> simp [answers]
    rw [hanswers]
    exact h.stands_call hwho ha hi
  silent i hi := by
    have hwhose : who ≠ i := fun he => hi (he ▸ hwho)
    rw [ownLog_call, ownDeeds_append, if_neg hwhose, if_neg hwhose, if_neg hwhose]
    exact h.silent i hi
  logged := by
    have hfresh := (h.traced.nested.make_saw (T.number who) a).fresh.1
    change (T.tracing.make (T.number who) a).2.tracer.emitted = _
    rw [hfresh, take, List.flatMap_append, ← List.append_assoc, ← h.logged]
    simp [emitted]
  reported hpass i := by
    have hfresh := (h.traced.nested.make_saw (T.number who) a).fresh.2 (h.traced.saw.pass.trans hpass)
    rw [messages, ownLog_call, ownDeeds_append]
    split
    · rw [List.flatMap_append, List.map_append, List.flatMap_append, ← hfresh]
      exact congr (congrArg _ (h.reported hpass i)) (by simp)
    · exact h.reported hpass i

/-- After a fork there is one more line of work, which begins where the other one is. -/
theorem Sound.stands_fork (h : T.Sound t origin acts past done) {who child : ι} (hwho : who ∈ T.names)
    (hchild : child ∉ T.names) (ha : (acts who)[(past who).length]? = some (.fork child)) {i : ι}
    (hi : i ∈ T.names ++ [child]) :
    ∃ p, (T.tracing.perform (.fork (T.number who))).2.places[(T.names ++ [child]).idxOf i]? = some p ∧
      Stands origin acts i (if who = i then past i ++ [.fork child] else past i).length
        ⟨p, T.answers i, ownDeeds done i⟩ := by
  rw [T.tracing.places_fork (T.number who), List.idxOf_append]
  obtain hi | hi := List.mem_append.mp hi
  · obtain ⟨p, hp, hstands⟩ := h.stands i hi
    rw [if_pos hi]
    refine ⟨p, (List.getElem?_append_left (List.getElem?_eq_some_iff.mp hp).1).trans hp, ?_⟩
    split
    · rename_i hwhose
      subst hwhose
      rw [List.length_append]
      exact hstands.take ha
    · exact hstands
  · obtain rfl : i = child := List.mem_singleton.mp hi
    have hwhose : who ≠ i := fun he => hchild (he ▸ hwho)
    obtain ⟨hpast, hlog, hdeeds⟩ := h.silent i hchild
    have hanswers : T.answers i = [] := congrArg (List.map Reply.answer) hlog
    rw [if_neg hchild, if_neg hwhose, List.idxOf_cons_self, Nat.zero_add, h.length, hpast, hanswers, hdeeds]
    exact ⟨_, List.getElem?_concat_length, .fork (h.place hwho) ha⟩

theorem Sound.fork (h : T.Sound t origin acts past done) {who child : ι} (hwho : who ∈ T.names)
    (hchild : child ∉ T.names) (ha : (acts who)[(past who).length]? = some (.fork child)) :
    (T.take (.act who (.fork child))).Sound t origin acts
      (fun i => if who = i then past i ++ [.fork child] else past i) done where
  traced := h.traced.fork (T.number who)
  length := by
    rw [take, T.tracing.places_fork (T.number who), List.length_append, List.length_append, h.length]
    rfl
  nodup := by
    refine List.nodup_append.mpr ⟨h.nodup, List.nodup_cons.mpr ⟨nofun, List.nodup_nil⟩, fun i hi j hj he => ?_⟩
    rw [List.mem_singleton.mp hj] at he
    exact hchild (he ▸ hi)
  stands i hi := h.stands_fork hwho hchild ha hi
  silent i hi := by
    obtain ⟨hi, -⟩ := not_or.mp (mt List.mem_append.mpr hi)
    have hwhose : who ≠ i := fun he => hi (he ▸ hwho)
    rw [if_neg hwhose]
    exact h.silent i hi
  logged := h.logged
  reported := h.reported

/-- Orderly turns keep all that. -/
theorem Sound.after (h : T.Sound t origin acts past done) {turns : List (Turn ι)} (hturns : Turn.Orderly T.names turns)
    (hacts : ∀ i, acts i = past i ++ Turn.acts i turns) :
    ∃ done, (T.after turns).Sound t origin acts acts done := by
  induction turns generalizing T past done with
  | nil =>
    have hpast : past = acts := funext fun i => by rw [hacts, Turn.acts, List.append_nil]
    subst hpast
    exact ⟨done, h⟩
  | cons z turns ih =>
    obtain ⟨hfits, hturns⟩ := hturns
    cases z with
    | wait time => exact ih (h.wait time) hturns hacts
    | act who a =>
      have hown : (acts who)[(past who).length]? = some a := by
        rw [hacts who, Turn.acts, if_pos rfl, List.getElem?_append_right (Nat.le_refl _), Nat.sub_self]
        rfl
      have hrest (i : ι) : acts i = (if who = i then past i ++ [a] else past i) ++ Turn.acts i turns := by
        rw [hacts i, Turn.acts]
        split
        · rw [List.append_assoc, List.singleton_append]
        · rfl
      cases a with
      | call a => exact ih (h.call hfits hown) hturns hrest
      | fork child => exact ih (h.fork hfits.1 hfits.2 hown) hturns hrest

/-- The names after some turns are the ones before and those that were forked off. -/
theorem mem_names_after {i : ι} {turns : List (Turn ι)} :
    i ∈ (T.after turns).names ↔ i ∈ T.names ∨ ∃ j, .fork i ∈ Turn.acts j turns := by
  induction turns generalizing T with
  | nil => exact ⟨.inl, fun h => h.elim (fun hi => hi) nofun⟩
  | cons z turns ih =>
    refine (ih (T := T.take z)).trans ?_
    cases z with
    | wait time => rfl
    | act who a =>
      have hacts : (∃ j, .fork i ∈ Turn.acts j (.act who a :: turns)) ↔
          .fork i = a ∨ ∃ j, .fork i ∈ Turn.acts j turns := by
        simp only [Turn.mem_acts_cons, exists_or, exists_and_right, exists_eq', true_and]
      rw [hacts]
      cases a with
      | call a => simp [take]
      | fork child => simp [take, or_assoc]

end Team

/-! ## Orders of turns -/

/-- What is the same for each of its owners is the same but for its order. -/
theorem perm_of_own {ι : Type} [DecidableEq ι] {done done' : List (ι × Deed)}
    (h : ∀ i, ownDeeds done i = ownDeeds done' i) : done.Perm done' := by
  refine List.perm_iff_count.mpr fun ⟨i, d⟩ => ?_
  have hcount (done : List (ι × Deed)) : done.count (i, d) = (ownDeeds done i).count d := by
    induction done with
    | nil => rfl
    | cons e done ih =>
      obtain ⟨j, d'⟩ := e
      by_cases hj : j = i <;> simp [ownDeeds, hj, List.count_cons, ih]
  rw [hcount, hcount, h]

/-- A span without the time at which it was opened. -/
def Span.untimed (x : Span) : Span := { x with startedAt := default }

/-- A context without the times at which its spans were opened. -/
def Context.untimed (c : Context) : Context := { c with spans := c.spans.map Span.untimed }

/-- A span in its place is known, but for its time. -/
theorem Span.Placed.untimed_eq {x : Span} {around : List OperationId} {t : Tracer} (h : x.Placed around t) :
    x.untimed = ⟨around.getLast?, x.id, OperationId.joinPath (around ++ [x.id]), around, default,
      ⟨OperationId.joinPath (around ++ [x.id]), x.id.name, t.pass.openState⟩⟩ := by
  rw [untimed, h.task, h.parent, h.ancestors, h.path]

theorem Context.Nested.untimed_spans {base : List OperationId} {spans spans' : List Span} {t t' : Tracer}
    (h : (Context.mk base spans).Nested t) (h' : (Context.mk base spans').Nested t') (hpass : t.pass = t'.pass)
    (hids : spans.map Span.id = spans'.map Span.id) : spans.map Span.untimed = spans'.map Span.untimed := by
  induction spans generalizing spans' with
  | nil =>
    rw [List.map_eq_nil_iff.mp hids.symm]
  | cons x spans ih =>
    cases spans' with
    | nil => cases hids
    | cons y spans' =>
      obtain ⟨hid, hids⟩ := List.cons.inj hids
      have hx := h [] x spans rfl
      have hy := h' [] y spans' rfl
      have hpath : (Context.mk base spans).path = (Context.mk base spans').path := by
        rw [Context.path, Context.path, hids]
      rw [List.map_cons, List.map_cons, hx.untimed_eq, hy.untimed_eq, hpath, hid, hpass,
        ih (h.tail rfl) (h'.tail rfl) hids]

/-- In its place a context is the same, whatever the tracer, if that is in the same pass. -/
theorem Context.Nested.untimed_eq {c c' : Context} {t t' : Tracer} (h : c.Nested t) (h' : c'.Nested t')
    (hpass : t.pass = t'.pass) (hplace : c.place = c'.place) : c.untimed = c'.untimed := by
  obtain ⟨base, spans⟩ := c
  obtain ⟨base', spans'⟩ := c'
  obtain ⟨rfl, hids⟩ := Place.mk.inj hplace
  exact congrArg (Context.mk base) (h.untimed_spans h' hpass hids)

/-- Deeds in another order make the same messages but for their order, and for times. -/
theorem Tracing.Traced.perm_events {ν : Type} {s s' : Tracing ν} {t t' : Tracer} {deeds deeds' : List Deed}
    (h : s.Traced t deeds) (h' : s'.Traced t' deeds') (hnew : t.graph.tasks = []) (hnew' : t'.graph.tasks = [])
    (hpass : t.pass = t'.pass) (hemitted : t.emitted = t'.emitted) (hdeeds : deeds.Perm deeds') :
    (s.tracer.emitted.map fun m => m.event.untimed).Perm (s'.tracer.emitted.map fun m => m.event.untimed) := by
  cases hp : t.pass with
  | execution =>
    obtain ⟨ms, he, hms⟩ := h.saw.executed hp
    obtain ⟨ms', he', hms'⟩ := h'.saw.executed (hpass ▸ hp)
    rw [he, he', List.map_append, List.map_append, hms, hms', hemitted]
    exact (hdeeds.flatMap_right _).append_left _
  | discovery =>
    have hevents {ms : List Message} {tasks : List Task} (hms : ms.map Message.event = tasks.map .task) :
        ms.map (fun m => m.event.untimed) = tasks.map .task := by
      have huntimed := congrArg (List.map Event.untimed) hms
      rwa [List.map_map, List.map_map] at huntimed
    obtain ⟨ms, tasks, he, hms, htasks⟩ := h.saw.discovered hp
    obtain ⟨ms', tasks', he', hms', htasks'⟩ := h'.saw.discovered (hpass ▸ hp)
    rw [hnew, List.nil_append] at htasks
    rw [hnew', List.nil_append] at htasks'
    rw [he, he', List.map_append, List.map_append, hevents hms, hevents hms', ← htasks, ← htasks', hemitted]
    exact ((h.made.matches h'.made hdeeds).tasks.map _).append_left _

namespace Team

variable {ν ι : Type} [DecidableEq ι] {t t' : Tracer} {origin : ι} {acts : ι → List (Act ι)}
  {done done' : List (ι × Deed)} {T T' : Team ν ι}

/-- Passes in which all acts are done agree on every context that there is. -/
theorem Sound.same_line (h : T.Sound t origin acts acts done) (h' : T'.Sound t' origin acts acts done')
    (hforks : ForksOnce origin acts) {i : ι} (hi : i ∈ T.names) (hi' : i ∈ T'.names) :
    (T.tracing.context (T.number i)).place = (T'.tracing.context (T'.number i)).place ∧
      T.answers i = T'.answers i ∧ ownDeeds done i = ownDeeds done' i :=
  Line.mk.inj ((h.place hi).unique hforks (h'.place hi'))

/-- They agree on what is said and done by it, whether there is one of the name or not. -/
theorem Sound.same_own (h : T.Sound t origin acts acts done) (h' : T'.Sound t' origin acts acts done')
    (hforks : ForksOnce origin acts) (hnames : ∀ i, i ∈ T.names ↔ i ∈ T'.names) (i : ι) :
    T.answers i = T'.answers i ∧ ownDeeds done i = ownDeeds done' i := by
  by_cases hi : i ∈ T.names
  · exact (h.same_line h' hforks hi ((hnames i).mp hi)).2
  · obtain ⟨-, hlog, hdeeds⟩ := h.silent i hi
    obtain ⟨-, hlog', hdeeds'⟩ := h'.silent i (mt (hnames i).mpr hi)
    exact ⟨by rw [answers, answers, hlog, hlog'], hdeeds.trans hdeeds'.symm⟩

/-- They agree on the contexts, but for times. -/
theorem Sound.same_context (h : T.Sound t origin acts acts done) (h' : T'.Sound t' origin acts acts done')
    (hforks : ForksOnce origin acts) (hnames : ∀ i, i ∈ T.names ↔ i ∈ T'.names) (hpass : t.pass = t'.pass) (i : ι) :
    (T.context? i).map Context.untimed = (T'.context? i).map Context.untimed ∧
      (T.context? i).map Context.path = (T'.context? i).map Context.path := by
  by_cases hi : i ∈ T.names
  · have hi' := (hnames i).mp hi
    have hplace := (h.same_line h' hforks hi hi').1
    have hpass : T.tracing.tracer.pass = T'.tracing.tracer.pass := by
      rw [h.traced.saw.pass, h'.traced.saw.pass, hpass]
    have hnested := h.traced.nested _ (T.tracing.context_mem (T.number i))
    have hnested' := h'.traced.nested _ (T'.tracing.context_mem (T'.number i))
    rw [context?, context?, if_pos hi, if_pos hi']
    exact ⟨congrArg some (hnested.untimed_eq hnested' hpass hplace), congrArg (some ∘ Place.path) hplace⟩
  · rw [context?, context?, if_neg hi, if_neg (mt (hnames i).mpr hi)]
    exact ⟨rfl, rfl⟩

/-- **Forks are independent.** Let contexts that were forked off one another take turns in two orders, in either pass
and at whatever times, so that each does the same by itself, its forks included. Then each has the same answers in both
orders, and ends in the same context; the graphs match; the same events are emitted but for their order and for times;
and in the execution pass the events of each context are the same, in the same order. -/
theorem independent (pass : Pass) (emitted : List Message) (clock clock' : Clock) {origin : ι}
    {turns turns' : List (Turn ι)} (h : Turn.Orderly [origin] turns) (h' : Turn.Orderly [origin] turns')
    (hacts : ∀ i, Turn.acts i turns = Turn.acts i turns') :
    let T : Team ν ι := (start (.start pass emitted clock) origin).after turns
    let T' : Team ν ι := (start (.start pass emitted clock') origin).after turns'
    (∀ i, T.answers i = T'.answers i) ∧
      (∀ i, (T.context? i).map Context.untimed = (T'.context? i).map Context.untimed) ∧
      (∀ i, (T.context? i).map Context.path = (T'.context? i).map Context.path) ∧
      T.tracing.tracer.graph.Matches T'.tracing.tracer.graph ∧
      (T.emitted.map fun m => m.event.untimed).Perm (T'.emitted.map fun m => m.event.untimed) ∧
      T.emitted = emitted ++ T.log.flatMap Reply.messages ∧
      (pass = .execution → ∀ i,
        (T.messages i).map (fun m => m.event.untimed) = (T'.messages i).map fun m => m.event.untimed) := by
  intro T T'
  let acts (i : ι) : List (Act ι) := Turn.acts i turns
  have hforks : ForksOnce origin acts := h.forksOnce
  obtain ⟨done, hs⟩ := (sound_start (ν := ν) pass emitted clock origin acts).after h fun _ => rfl
  obtain ⟨done', hs'⟩ := (sound_start (ν := ν) pass emitted clock' origin acts).after h' hacts
  have hnames (i : ι) : i ∈ T.names ↔ i ∈ T'.names := by
    rw [mem_names_after, mem_names_after]
    simp only [hacts]
    rfl
  have hown := hs.same_own hs' hforks hnames
  have hdeeds : (done.map Prod.snd).Perm (done'.map Prod.snd) := (perm_of_own fun i => (hown i).2).map _
  have hcontext := hs.same_context hs' hforks hnames rfl
  refine ⟨fun i => (hown i).1, fun i => (hcontext i).1, fun i => (hcontext i).2,
    hs.traced.made.matches hs'.traced.made hdeeds, hs.traced.perm_events hs'.traced rfl rfl rfl rfl hdeeds, hs.logged,
    fun hpass i => ?_⟩
  rw [hs.reported hpass, hs'.reported hpass, (hown i).2]

/-- Two contexts take turns: the second is forked off in `"ci"` and goes on after the end of that. -/
def takingTurns : List (Turn Bool) :=
  [.act false (.call (.push "" "ci")), .act false (.fork true), .act true (.call (.push "ci" "test")),
    .wait (.ofMillis 5), .act false (.call (.push "ci" "lint")), .act true (.call (.pop "" "ci" .success)),
    .act false (.call (.pop "ci" "lint" .error)), .act true (.call (.pop "ci" "test" .success)),
    .act false (.call (.pop "" "ci" .success))]

/-- The same, but the first context comes to its end before the second does anything. -/
def oneAfterTheOther : List (Turn Bool) :=
  [.act false (.call (.push "" "ci")), .act false (.fork true), .act false (.call (.push "ci" "lint")),
    .act false (.call (.pop "ci" "lint" .error)), .act false (.call (.pop "" "ci" .success)),
    .act true (.call (.push "ci" "test")), .act true (.call (.pop "" "ci" .success)),
    .act true (.call (.pop "ci" "test" .success))]

theorem independent_taking_turns :
    Turn.Orderly [false] takingTurns ∧ Turn.Orderly [false] oneAfterTheOther ∧
      (∀ i, Turn.acts i takingTurns = Turn.acts i oneAfterTheOther) ∧
      let T : Team Unit Bool := (start (.start .execution [] default) false).after takingTurns
      let T' : Team Unit Bool := (start (.start .execution [] default) false).after oneAfterTheOther
      T'.answers true = [.ok (), .error (.stackDiscipline "test" "ci"), .ok ()] ∧
        T.tracing.tracer.graph.children "ci" = ["ci/test", "ci/lint"] ∧
        (∀ child, child ∈ T'.tracing.tracer.graph.children "ci" ↔ child ∈ ["ci/test", "ci/lint"]) ∧
        T'.tracing.tracer.graph.children "ci" ≠ ["ci/test", "ci/lint"] := by
  have h : Turn.Orderly [false] takingTurns := by decide
  have h' : Turn.Orderly [false] oneAfterTheOther := by decide
  have hacts : ∀ i, Turn.acts i takingTurns = Turn.acts i oneAfterTheOther := by decide
  obtain ⟨hanswers, -, -, hgraph, -⟩ := independent (ν := Unit) .execution [] default default h h' hacts
  refine ⟨h, h', hacts, ?_, by decide, fun child => ?_, by decide⟩
  · exact (hanswers true).symm.trans rfl
  · exact (hgraph.children "ci" child).symm

end Team

end RunLedger
