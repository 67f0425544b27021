import RunLedger.Proofs.Ledger.Consistency

/-!
# Acknowledged batches are the records of a log

The batches that a history got acknowledged for a run (`acks`) are numbered one after the other (`Numbered`), behind the
preamble that the ledger put in front of the first one, if that had none (`Supplied`). What is numbered so covers a log
without gaps and overlaps (`covers_of_numbered`).

* `accounts_after`: at every moment of a history the log of a run is the preamble, if one was supplied, and behind it
  the acknowledged batches.
* `log_of_acknowledged`: what that means for the file, the shape of the log, and the records that acknowledgements name.
-/

namespace RunLedger.Ledger

/-- Acknowledgements of batches for a run, with the batches, without those of empty batches. -/
def acks (run : RunId) (events : List (Request × Answer)) : List (Ack × List Message) :=
  events.filterMap fun
    | (.dispatch run' batch, .dispatched (.ok ack)) => if run' = run ∧ batch ≠ [] then some (ack, batch) else none
    | _ => none

/-- The batches are numbered one after the other from a record on. -/
def Numbered (first : Nat) : List (Ack × List Message) → Prop
  | [] => True
  | (ack, batch) :: rest => ack = ⟨batch.length, first⟩ ∧ Numbered (first + batch.length) rest

/-- The first batch does not open with a preamble of its own. -/
def Supplied (acked : List (Ack × List Message)) : Prop :=
  ∃ x, acked.head? = some x ∧ ∀ m, x.2.head? = some m → m.preamble? = none

/-- Acknowledged batches are the messages at the records that were acknowledged, do not overlap, and make up a log,
together with its first record if that was supplied. -/
structure Covers (acked : List (Ack × List Message)) (ms : List Message) : Prop where
  batch_eq : ∀ x ∈ acked, x.1.accepted = x.2.length ∧ (ms.drop x.1.first).take x.1.accepted = x.2
  apart : acked.Pairwise fun x y => x.1.first + x.1.accepted ≤ y.1.first
  supplied_apart : Supplied acked → ∀ x ∈ acked, 0 < x.1.first
  lt_length_iff : ∀ i, i < ms.length ↔
    Supplied acked ∧ i = 0 ∨ ∃ x ∈ acked, x.1.first ≤ i ∧ i < x.1.first + x.1.accepted

/-! ## Batches that are numbered one after the other -/

section Numbered

variable {first : Nat} {acked : List (Ack × List Message)}

theorem le_of_numbered (h : Numbered first acked) {x : Ack × List Message} (hx : x ∈ acked) : first ≤ x.1.first := by
  induction acked generalizing first with
  | nil => cases hx
  | cons y rest ih =>
    obtain ⟨ack, batch⟩ := y
    obtain ⟨rfl, hrest⟩ := h
    rcases List.mem_cons.mp hx with rfl | hx
    · exact Nat.le_refl _
    · have := ih hrest hx
      omega

theorem numbered_append {xs ys : List (Ack × List Message)} : Numbered first (xs ++ ys) ↔
    Numbered first xs ∧ Numbered (first + (xs.map Prod.snd).flatten.length) ys := by
  induction xs generalizing first with
  | nil => simp [Numbered]
  | cons x xs ih =>
    obtain ⟨ack, batch⟩ := x
    simp [Numbered, ih, Nat.add_assoc, and_assoc]

theorem pairwise_of_numbered (h : Numbered first acked) :
    acked.Pairwise fun x y => x.1.first + x.1.accepted ≤ y.1.first := by
  induction acked generalizing first with
  | nil => exact .nil
  | cons x rest ih =>
    obtain ⟨ack, batch⟩ := x
    obtain ⟨rfl, hrest⟩ := h
    exact .cons (fun y hy => le_of_numbered hrest hy) (ih hrest)

/-- A numbered batch is found at its records, behind whatever precedes the first one. -/
theorem take_drop_of_numbered (front : List Message) (h : Numbered front.length acked) {x : Ack × List Message}
    (hx : x ∈ acked) : x.1.accepted = x.2.length ∧
      ((front ++ (acked.map Prod.snd).flatten).drop x.1.first).take x.1.accepted = x.2 := by
  induction acked generalizing front with
  | nil => cases hx
  | cons y rest ih =>
    obtain ⟨ack, batch⟩ := y
    obtain ⟨rfl, hrest⟩ := h
    rcases List.mem_cons.mp hx with rfl | hx
    · simp
    · have := ih (front ++ batch) (by rwa [List.length_append]) hx
      simpa using this

/-- The records of numbered batches are all records from the first one on. -/
theorem lt_of_numbered_iff (h : Numbered first acked) (i : Nat) : i < first + (acked.map Prod.snd).flatten.length ↔
    i < first ∨ ∃ x ∈ acked, x.1.first ≤ i ∧ i < x.1.first + x.1.accepted := by
  induction acked generalizing first with
  | nil => simp
  | cons x rest ih =>
    obtain ⟨ack, batch⟩ := x
    obtain ⟨rfl, hrest⟩ := h
    simp only [List.map_cons, List.flatten_cons, List.length_append, List.mem_cons, or_and_right, exists_or,
      exists_eq_left]
    rw [← Nat.add_assoc, ih hrest, ← or_assoc]
    refine or_congr_left ?_
    omega

end Numbered

/-- Numbered batches cover a log if nothing precedes them but one message that was supplied. -/
theorem covers_of_numbered {acked : List (Ack × List Message)} {front : List Message}
    (h : Numbered front.length acked) (hf : front.length = 1 ∧ Supplied acked ∨ front.length = 0 ∧ ¬Supplied acked) :
    Covers acked (front ++ (acked.map Prod.snd).flatten) where
  batch_eq x hx := take_drop_of_numbered front h hx
  apart := pairwise_of_numbered h
  supplied_apart hs x hx := by
    have := le_of_numbered h hx
    rcases hf with ⟨hl, -⟩ | ⟨-, hn⟩
    · omega
    · exact absurd hs hn
  lt_length_iff i := by
    rw [List.length_append, lt_of_numbered_iff h]
    refine or_congr_left ?_
    rcases hf with ⟨hl, hs⟩ | ⟨hl, hn⟩
    · rw [hl, Nat.lt_one_iff, and_iff_right hs]
    · simp [hl, hn]

/-! ## The acknowledgements of a history -/

theorem acks_append (run : RunId) (es es' : List (Request × Answer)) :
    acks run (es ++ es') = acks run es ++ acks run es' := List.filterMap_append

theorem ne_nil_of_mem_acks {run : RunId} {es : List (Request × Answer)} {x : Ack × List Message}
    (h : x ∈ acks run es) : x.2 ≠ [] := by
  obtain ⟨e, -, he⟩ := List.mem_filterMap.mp h
  split at he
  · split at he
    · rename_i hb
      cases he
      exact hb.2
    · cases he
  · cases he

/-- **A request gets a batch acknowledged and adds it to the log, or does neither.** -/
theorem acks_serve {l : Ledger} (h : l.Consistent) (r : Request) (run : RunId) :
    acks run [(r, (l.serve r).1)] = [] ∧ l.added r run = [] ∨
    ∃ batch, let front := opening (l.messages run).length l.suppliedPreamble batch
      batch ≠ [] ∧ l.added r run = front ++ batch ∧
        acks run [(r, (l.serve r).1)] = [(⟨batch.length, (l.messages run).length + front.length⟩, batch)] := by
  cases r with
  | dispatch run' batch =>
    rcases dispatch_spec h run' batch with ⟨e, he, -⟩ | ⟨hok, -⟩
    · left
      simp [acks, added, serve, he]
    · by_cases hr : run' = run
      · subst hr
        by_cases hb : batch = []
        · left
          subst hb
          simp [acks, added, serve, hok, opening]
        · right
          refine ⟨batch, hb, ?_, ?_⟩ <;> simp [acks, added, serve, hok, hb]
      · left
        simp [acks, added, serve, hok, hr]
  | _ => exact Or.inl ⟨by simp [acks], rfl⟩

/-! ## What a log is made of -/

/-- A log is made of the acknowledged batches, and what is in front of them: nothing, or the preamble that the ledger
supplied when the first batch came. -/
structure Accounts (supplies : Message → Prop) (front : List Message) (acked : List (Ack × List Message))
    (ms : List Message) : Prop where
  messages_eq : ms = front ++ (acked.map Prod.snd).flatten
  numbered : Numbered front.length acked
  front_of_nil : acked = [] → front = []
  front_of_head : ∀ x, acked.head? = some x → ∃ p, supplies p ∧ front = opening 0 p x.2

namespace Accounts

variable {supplies supplies' : Message → Prop} {front ms batch : List Message} {acked : List (Ack × List Message)}

theorem nil : Accounts supplies [] [] [] := ⟨rfl, trivial, fun _ => rfl, fun _ h => by cases h⟩

theorem mono (h : Accounts supplies front acked ms) (hs : ∀ p, supplies p → supplies' p) :
    Accounts supplies' front acked ms where
  messages_eq := h.messages_eq
  numbered := h.numbered
  front_of_nil := h.front_of_nil
  front_of_head x hx := by
    obtain ⟨p, hp, hf⟩ := h.front_of_head x hx
    exact ⟨p, hs p hp, hf⟩

/-- The first batch comes into an empty log, behind a preamble if it needs one. -/
theorem first {p : Message} (hp : supplies p) (batch : List Message) :
    Accounts supplies (opening 0 p batch) [(⟨batch.length, (opening 0 p batch).length⟩, batch)]
      (opening 0 p batch ++ batch) where
  messages_eq := by simp
  numbered := ⟨rfl, trivial⟩
  front_of_nil h := by cases h
  front_of_head x hx := by
    cases hx
    exact ⟨p, hp, rfl⟩

/-- Later batches come behind what is there. -/
theorem later (h : Accounts supplies front acked ms) (hne : acked ≠ []) (batch : List Message) :
    Accounts supplies front (acked ++ [(⟨batch.length, ms.length⟩, batch)]) (ms ++ batch) where
  messages_eq := by simp [h.messages_eq]
  numbered := numbered_append.mpr ⟨h.numbered, by simp [h.messages_eq], trivial⟩
  front_of_nil hn := by simp at hn
  front_of_head x hx := by
    rw [List.head?_append, Option.or_of_isSome (by simpa using hne)] at hx
    exact h.front_of_head x hx

/-- A log with an acknowledged batch is not empty. -/
theorem ne_nil (h : Accounts supplies front acked ms) (hb : ∀ x ∈ acked, x.2 ≠ []) (hne : acked ≠ []) : ms ≠ [] := by
  obtain ⟨x, rest, rfl⟩ := List.exists_cons_of_ne_nil hne
  rw [h.messages_eq]
  simp [hb x List.mem_cons_self]

/-- What is in front is one message, if the first batch has no preamble at its head, and nothing otherwise. -/
theorem front_eq (h : Accounts supplies front acked ms) (hb : ∀ x ∈ acked, x.2 ≠ []) :
    (∃ p, supplies p ∧ front = [p]) ∧ Supplied acked ∨ front = [] ∧ ¬Supplied acked := by
  cases acked with
  | nil => exact Or.inr ⟨h.front_of_nil rfl, fun ⟨x, hx, _⟩ => by cases hx⟩
  | cons x rest =>
    obtain ⟨p, hp, rfl⟩ := h.front_of_head x rfl
    obtain ⟨m, ms', hx⟩ := List.exists_cons_of_ne_nil (hb x List.mem_cons_self)
    by_cases hm : m.preamble? = none
    · left
      refine ⟨⟨p, hp, by simp [opening, hx, hm]⟩, x, rfl, fun m' hm' => ?_⟩
      rw [hx] at hm'
      cases hm'
      exact hm
    · right
      refine ⟨by simp [opening, hx, hm], ?_⟩
      rintro ⟨y, hy, hnone⟩
      cases hy
      exact hm (hnone m (by rw [hx]; rfl))

end Accounts

/-- The preamble that the ledger would have supplied at some moment of a history. -/
def Supplies (l : Ledger) (rs : List Request) (p : Message) : Prop :=
  ∃ before, before <+: rs ∧ p = (l.after before).suppliedPreamble

theorem Supplies.concat {l : Ledger} {rs : List Request} {p : Message} (h : l.Supplies rs p) (r : Request) :
    l.Supplies (rs ++ [r]) p := by
  obtain ⟨before, hb, hp⟩ := h
  exact ⟨before, hb.trans (List.prefix_append _ _), hp⟩

/-- **At every moment of a history a log is made of the acknowledged batches**, and what is in front of them. -/
theorem accounts_after {l : Ledger} {rs : List Request} (hc : l.Consistent) (hr : ∀ r ∈ rs, r.Keeps l.config)
    (run : RunId) (hempty : l.messages run = []) :
    ∃ front, Accounts (l.Supplies rs) front (acks run (l.events rs)) ((l.after rs).messages run) := by
  induction rs using List.reverseRecOn with
  | nil => exact ⟨[], by rw [after_nil, hempty]; exact .nil⟩
  | append_singleton rs r ih =>
    have hr' : ∀ r ∈ rs, r.Keeps l.config := fun x hx => hr x (List.mem_append_left _ hx)
    obtain ⟨hc', ha'⟩ := consistent_after hc hr'
    obtain ⟨front, h⟩ := ih hr'
    have h := h.mono fun p hp => hp.concat r
    rw [after_concat, events_concat, acks_append, messages_serve hc' ((hr r (by simp)).of_agrees ha') run]
    rcases acks_serve hc' r run with ⟨hack, hadd⟩ | ⟨batch, hb, hadd, hack⟩
    · rw [hack, hadd, List.append_nil, List.append_nil]
      exact ⟨front, h⟩
    · rw [hack, hadd]
      by_cases hnone : acks run (l.events rs) = []
      · -- the first batch finds an empty log
        have hms : (l.after rs).messages run = [] := by rw [h.messages_eq, h.front_of_nil hnone, hnone]; rfl
        have hp : l.Supplies (rs ++ [r]) (l.after rs).suppliedPreamble := ⟨rs, List.prefix_append _ _, rfl⟩
        refine ⟨opening 0 (l.after rs).suppliedPreamble batch, ?_⟩
        simpa [hms, hnone] using Accounts.first hp batch
      · have hms := h.ne_nil (fun x hx => ne_nil_of_mem_acks hx) hnone
        refine ⟨front, ?_⟩
        simpa [opening, hms] using h.later hnone batch

/-- **Acknowledged batches are the records of a log.** Whatever a ledger is asked that was opened on an empty disk, and
at every moment: the log of a run decodes to its end; its first message, if any, is a preamble that the ledger can
read, and no other is a preamble; the acknowledged batches are the messages at the records that were acknowledged, and
make up the log, together with a preamble of the ledger in front of them if the first one has none. -/
theorem log_of_acknowledged (config : Config) (clock : Clock) {rs : List Request} (hr : ∀ r ∈ rs, r.Keeps config)
    (run : RunId) :
    let start := start config .empty clock
    let acked := acks run (start.events rs)
    let ms := (start.after rs).messages run
    ((start.after rs).disk.read (config.logPath run) = .error .notFound ∧ ms = [] ∨
      ∃ log, (start.after rs).disk.read (config.logPath run) = .ok log ∧ readAll log = ⟨ms, none⟩) ∧
    Headed config.schemaVersion ms ∧ Covers acked ms ∧
    (Supplied acked → ∃ before, before <+: rs ∧ ms.head? = some (start.after before).suppliedPreamble) := by
  intro l acked ms
  have hstart : l.Consistent := consistent_start config clock
  obtain ⟨hc, ha⟩ := consistent_after hstart hr
  have hempty : l.messages run = [] := by
    rw [messages, octets, Disk.octets_of_absent rfl, readAll_whole .nil]
  obtain ⟨front, hacc⟩ := accounts_after hstart hr run hempty
  have hfront := hacc.front_eq fun x hx => ne_nil_of_mem_acks hx
  have hholds := hc.holds run
  rw [ha.logPath_eq] at hholds
  refine ⟨?_, ?_, ?_, ?_⟩
  · rcases hholds.read_eq with ⟨hread, -, hnil⟩ | hread
    · exact Or.inl ⟨hread, hnil⟩
    · exact Or.inr ⟨_, hread, hholds.readAll_eq⟩
  · have := hc.headed run
    rwa [ha.2] at this
  · show Covers acked ((l.after rs).messages run)
    rw [hacc.messages_eq]
    refine covers_of_numbered hacc.numbered ?_
    rcases hfront with ⟨⟨p, -, hp⟩, hs⟩ | ⟨hnil, hs⟩
    · exact Or.inl ⟨by rw [hp]; rfl, hs⟩
    · exact Or.inr ⟨by rw [hnil]; rfl, hs⟩
  · intro hs
    rcases hfront with ⟨⟨p, ⟨before, hb, hp⟩, hf⟩, -⟩ | ⟨-, hn⟩
    · refine ⟨before, hb, ?_⟩
      show ((l.after rs).messages run).head? = _
      rw [hacc.messages_eq, hf, hp]
      rfl
    · exact absurd hs hn

/-- Three batches, the first of which lacks a preamble, around a batch that is refused, a restart and an end of
publishing. -/
theorem log_of_acknowledged_restarted :
    let config := Config.rootedAt "d"
    let clock : Clock := ⟨⟨0, 0⟩, 0⟩
    let run : RunId := ⟨.ofNat 1⟩
    let m (n : Nat) : Message := ⟨⟨.ofNat n⟩, ⟨5, 6⟩, .heartbeat⟩
    let p : Message := ⟨⟨.ofNat 9⟩, ⟨5, 6⟩, .preamble ⟨config.schemaVersion, ⟨5, 6⟩, ⟨7, 0⟩⟩⟩
    let rs : List Request := [.dispatch run [m 1], .dispatch run [m 2, p], .watch run, .poll 0, .restart config,
      .dispatch run [m 2, m 3], .close run, .release, .dispatch run [m 4]]
    let start := start config .empty clock
    (∀ r ∈ rs, r.Keeps config) ∧
      acks run (start.events rs) = [(⟨1, 1⟩, [m 1]), (⟨2, 2⟩, [m 2, m 3]), (⟨1, 4⟩, [m 4])] ∧
      Headed config.schemaVersion ((start.after rs).messages run) ∧
      Covers (acks run (start.events rs)) ((start.after rs).messages run) := by
  intro config clock run m p rs start
  have hr : ∀ r ∈ rs, r.Keeps config := by simp [rs, Request.Keeps, Config.Agrees]
  have h := log_of_acknowledged config clock hr run
  exact ⟨hr, by decide +kernel, h.2.1, h.2.2.1⟩

end RunLedger.Ledger
