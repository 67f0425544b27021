import Mathlib.Data.List.Nodup
import RunLedger.Message.Json
import RunLedger.Proofs.Double.Text
import RunLedger.Proofs.Identifier.Text
import RunLedger.Proofs.Json.Reading

/-!
# Messages are read back from JSON

A record is read by its keys, and its fields are found again if no key repeats (`fields?_record`); from there on each
type is read back because its fields are. Only numbers can be lost: a metric that is not finite is written as null, which
is no number, and whether a finite one comes back is a question of how decimals are rounded (`Double.ReadsBack`).

* `ofLine?_line`: a message is read back from its line, unless it is a metric that is not finite.
* `ofLine?_line_of_not_finite`: the line of such a metric holds a null, and nothing is read from it.
-/

namespace RunLedger

/-! ## Fields of records -/

namespace Json

/-- The one member with a key, if no key repeats. -/
theorem member?_record {members : List (Option String × Json)} (hn : (members.map Prod.fst).Nodup) {k : String}
    {v : Json} (h : (some k, v) ∈ members) : member? members k = some v := by
  have hfilter : members.filter (fun m => m.1 = some k) = [(some k, v)] := by
    induction members with
    | nil => cases h
    | cons member members ih =>
      obtain ⟨hfirst, hrest⟩ := List.nodup_cons.mp hn
      rcases List.mem_cons.mp h with rfl | h
      · have hnone : members.filter (fun m => m.1 = some k) = [] := by
          rw [List.filter_eq_nil_iff]
          intro m hm hk
          exact hfirst (List.mem_map.mpr ⟨m, hm, of_decide_eq_true hk⟩)
        rw [List.filter_cons_of_pos (by simp), hnone]
      · have hne : member.1 ≠ some k := by
          rintro hk
          exact hfirst (hk ▸ List.mem_map.mpr ⟨_, h, rfl⟩)
        rw [List.filter_cons_of_neg (by simp [hne]), ih hrest h]
  rw [member?, hfilter]

theorem mapM_map_eq_some {α β γ : Type} {f : β → Option γ} {g : α → β} {g' : α → γ} {as : List α}
    (h : ∀ a ∈ as, f (g a) = some (g' a)) : (as.map g).mapM f = some (as.map g') := by
  induction as with
  | nil => rfl
  | cons a as ih =>
    rw [List.map_cons, List.mapM_cons, h a List.mem_cons_self, ih fun a ha => h a (List.mem_cons_of_mem _ ha)]
    rfl

/-- **The fields of a record are found by their keys,** if no key repeats. -/
theorem fields?_record (keys : List String) (values : List Json) (hn : keys.Nodup)
    (hl : keys.length = values.length) : fields? keys (record (keys.zip values)) = some values := by
  have hkeys : (keys.zip values).map Prod.fst = keys := List.map_fst_zip (Nat.le_of_eq hl)
  have hvalues : (keys.zip values).map Prod.snd = values := List.map_snd_zip (Nat.le_of_eq hl.symm)
  generalize keys.zip values = pairs at hkeys hvalues ⊢
  subst hkeys hvalues
  have hnodup : ((pairs.map fun p => (some p.1, p.2)).map Prod.fst).Nodup := by
    have hsome : (pairs.map fun p => (some p.1, p.2)).map Prod.fst = (pairs.map Prod.fst).map some := by simp
    rw [hsome]
    exact hn.map fun a b he => Option.some.inj he
  have hall : (pairs.map fun p => (some p.1, p.2)).all (fun m => m.1.isSome) = true := by simp
  have hread : (pairs.map Prod.fst).mapM (member? (pairs.map fun p => (some p.1, p.2))) = some (pairs.map Prod.snd) :=
    mapM_map_eq_some fun p hp => member?_record hnodup (List.mem_map.mpr ⟨p, hp, rfl⟩)
  show (if (pairs.map fun p => (some p.1, p.2)).all (fun m => m.1.isSome) = true then _ else none) = _
  rw [if_pos hall]
  exact hread

/-! ## Numbers and texts -/

theorem natBelow?_nat {n bound : Nat} (h : n < bound) :
    Number.natBelow? ⟨false, Text.Decimal.digits n, [], none⟩ bound = some n := by
  show Text.Decimal.valueBelow? bound (Text.Decimal.digits n) = some n
  rw [Text.Decimal.valueBelow?_eq, Text.Decimal.value_digits, if_pos h]

theorem toU64?_nat (n : UInt64) : (nat n.toNat).toU64? = some n := by
  show (Number.natBelow? _ UInt64.size).map UInt64.ofNat = _
  rw [natBelow?_nat n.toNat_lt, Option.map_some, UInt64.ofNat_toNat]

theorem toU32?_nat (n : UInt32) : (nat n.toNat).toU32? = some n := by
  show (Number.natBelow? _ UInt32.size).map UInt32.ofNat = _
  rw [natBelow?_nat n.toNat_lt, Option.map_some, UInt32.ofNat_toNat]

theorem toText?_text (s : String) : (text s).toText? = some s := rfl

theorem wellFormed_nat (n : Nat) : (nat n).WellFormed := by
  refine .number (Number.wellFormed_of_none (Text.Decimal.allDigits_digits n) ?_ fun c hc => absurd hc List.not_mem_nil)
  intro hzero
  by_cases hn : n = 0
  · rw [hn]
    exact Text.Decimal.digits_zero
  · exact absurd hzero (Text.Decimal.head?_digits_ne_zero hn)

theorem wellFormed_text (s : String) : (text s).WellFormed := .string _

theorem wellFormed_double (d : Double) : (double d).WellFormed := by
  rw [double]
  split
  · exact .number (Number.ofDouble_spec d).1
  · exact .null

theorem wellFormed_array {α : Type} {f : α → Json} (h : ∀ a, (f a).WellFormed) (as : List α) :
    (Json.array (as.map f)).WellFormed := by
  refine .array fun j hj => ?_
  obtain ⟨a, -, rfl⟩ := List.mem_map.mp hj
  exact h a

theorem wellFormed_record {members : List (String × Json)} (h : ∀ m ∈ members, m.2.WellFormed) :
    (record members).WellFormed := by
  refine .object fun m hm => ?_
  obtain ⟨member, hmember, rfl⟩ := List.mem_map.mp hm
  exact h member hmember

end Json

/-! ## The parts of messages -/

theorem Version.ofJson?_toJson (v : Version) : ofJson? v.toJson = some v := by
  have hfields : v.toJson.fields? _ = some _ := Json.fields?_record ["major", "minor", "patch"]
    [.nat v.major.toNat, .nat v.minor.toNat, .nat v.patch.toNat] (by decide) rfl
  simp only [ofJson?, hfields, Json.toU64?_nat, Option.bind_eq_bind, Option.bind_some, Option.pure_def]

theorem Timestamp.ofJson?_toJson (t : Timestamp) : ofJson? t.toJson = some t := by
  have hfields : t.toJson.fields? _ = some _ :=
    Json.fields?_record ["seconds", "nanos"] [.nat t.seconds.toNat, .nat t.nanos.toNat] (by decide) rfl
  simp only [ofJson?, hfields, Json.toU64?_nat, Json.toU32?_nat, Option.bind_eq_bind, Option.bind_some, Option.pure_def]

theorem OperationId.ofJson?_toJson (id : OperationId) : ofJson? id.toJson = some id := by
  show (OperationId.ofText id.name).toOption = some id
  rw [OperationId.ofText_name]
  rfl

theorem TaskState.ofJson?_toJson (s : TaskState) : ofJson? s.toJson = some s := by
  cases s <;> rfl

theorem Outcome.ofJson?_toJson (o : Outcome) : ofJson? o.toJson = some o := by
  cases o <;> rfl

theorem Preamble.ofJson?_toJson (p : Preamble) : ofJson? p.toJson = some p := by
  have hfields : p.toJson.fields? _ = some _ := Json.fields?_record ["version", "not_before", "not_after"]
    [p.version.toJson, p.notBefore.toJson, p.notAfter.toJson] (by decide) rfl
  simp only [ofJson?, hfields, Version.ofJson?_toJson, Timestamp.ofJson?_toJson, Option.bind_eq_bind, Option.bind_some,
    Option.pure_def]

theorem Task.ofJson?_toJson (t : Task) : ofJson? t.toJson = some t := by
  have hfields : t.toJson.fields? _ = some _ := Json.fields?_record ["id", "description", "state"]
    [.text t.id, .text t.description, t.state.toJson] (by decide) rfl
  simp only [ofJson?, hfields, Json.toText?_text, TaskState.ofJson?_toJson, Option.bind_eq_bind, Option.bind_some,
    Option.pure_def]

theorem Coverage.ofJson?_toJson (c : Coverage) : ofJson? c.toJson = some c := by
  have hfields : c.toJson.fields? _ = some _ :=
    Json.fields?_record ["format", "path"] [.text c.format, .text c.path] (by decide) rfl
  simp only [ofJson?, hfields, Json.toText?_text, Option.bind_eq_bind, Option.bind_some, Option.pure_def]

theorem Op.ofJson?_toJson (o : Op) : ofJson? o.toJson = some o := by
  have hfields : o.toJson.fields? _ = some _ := Json.fields?_record ["name", "ancestors", "outcome", "elapsed_ms"]
    [o.name.toJson, .array (o.ancestors.map OperationId.toJson), o.outcome.toJson, .nat o.elapsedMs.toNat]
    (by decide) rfl
  have hancestors : (o.ancestors.map OperationId.toJson).mapM OperationId.ofJson? = some o.ancestors := by
    rw [Json.mapM_map_eq_some fun id _ => OperationId.ofJson?_toJson id, List.map_id']
  simp only [ofJson?, hfields, OperationId.ofJson?_toJson, Json.toList?, hancestors, Outcome.ofJson?_toJson,
    Json.toU64?_nat, Option.bind_eq_bind, Option.bind_some, Option.pure_def]

/-- What is read of a metric depends on its value alone. -/
theorem Metric.ofJson?_toJson (m : Metric) :
    ofJson? m.toJson = (Json.double m.value).toDouble?.map fun value => { m with value } := by
  have hfields : m.toJson.fields? _ = some _ := Json.fields?_record ["name", "value", "tags"]
    [.text m.name, .double m.value, .array (m.tags.map .text)] (by decide) rfl
  have htags : (m.tags.map Json.text).mapM Json.toText? = some m.tags := by
    rw [Json.mapM_map_eq_some fun s _ => Json.toText?_text s, List.map_id']
  simp only [ofJson?, hfields, Json.toText?_text, Json.toList?, htags, Option.bind_eq_bind, Option.bind_some,
    Option.pure_def]
  cases (Json.double m.value).toDouble? <;> rfl

/-- What is read of an event is the event, unless it is a metric of which the value is lost. -/
theorem Event.ofJson?_toJson {e : Event} (h : ∀ m, e = .metric m → (Json.double m.value).toDouble? = some m.value) :
    ofJson? e.toJson = some e := by
  cases e with
  | preamble p =>
    show (Preamble.ofJson? p.toJson).map Event.preamble = _
    rw [Preamble.ofJson?_toJson, Option.map_some]
  | heartbeat => rfl
  | task t =>
    show (Task.ofJson? t.toJson).map Event.task = _
    rw [Task.ofJson?_toJson, Option.map_some]
  | metric m =>
    show (Metric.ofJson? m.toJson).map Event.metric = _
    rw [Metric.ofJson?_toJson, h m rfl]
    rfl
  | coverage c =>
    show (Coverage.ofJson? c.toJson).map Event.coverage = _
    rw [Coverage.ofJson?_toJson, Option.map_some]
  | op o =>
    show (Op.ofJson? o.toJson).map Event.op = _
    rw [Op.ofJson?_toJson, Option.map_some]

/-- No event is read of a metric that holds a null. -/
theorem Event.ofJson?_of_not_finite {m : Metric} (h : m.value.isFinite = false) :
    ofJson? (Event.metric m).toJson = none := by
  show (Metric.ofJson? m.toJson).map Event.metric = _
  rw [Metric.ofJson?_toJson, Json.double, h]
  rfl

/-! ## Messages -/

namespace Message

/-- What is read of a message depends on what is read of its event alone. -/
theorem ofJson?_toJson (m : Message) :
    ofJson? m.toJson = (Event.ofJson? m.event.toJson).map fun event => { m with event } := by
  have hfields : m.toJson.fields? _ = some _ := Json.fields?_record ["id", "ts", "event"]
    [.text m.id.uuid.text, m.time.toJson, m.event.toJson] (by decide) rfl
  have hid : (Uuid.ofText m.id.uuid.text).toOption = some m.id.uuid := by
    rw [Uuid.ofText_text]
    rfl
  simp only [ofJson?, hfields, Json.toText?_text, hid, Timestamp.ofJson?_toJson, Option.bind_eq_bind, Option.bind_some,
    Option.pure_def]
  cases Event.ofJson? m.event.toJson <;> rfl

/-- The value that a message reports of a metric, if it is about one. -/
def value? (m : Message) : Option Double :=
  match m.event with
  | .metric sample => some sample.value
  | _ => none

end Message

/-! ## Texts of messages -/

theorem Version.wellFormed_toJson (v : Version) : v.toJson.WellFormed :=
  Json.wellFormed_record (by simp [Json.wellFormed_nat])

theorem Timestamp.wellFormed_toJson (t : Timestamp) : t.toJson.WellFormed :=
  Json.wellFormed_record (by simp [Json.wellFormed_nat])

theorem OperationId.wellFormed_toJson (id : OperationId) : id.toJson.WellFormed := Json.wellFormed_text id.name

theorem TaskState.wellFormed_toJson (s : TaskState) : s.toJson.WellFormed := by
  cases s <;> exact Json.wellFormed_text _

theorem Outcome.wellFormed_toJson (o : Outcome) : o.toJson.WellFormed := by
  cases o <;> exact Json.wellFormed_text _

theorem Preamble.wellFormed_toJson (p : Preamble) : p.toJson.WellFormed :=
  Json.wellFormed_record (by simp [Version.wellFormed_toJson, Timestamp.wellFormed_toJson])

theorem Task.wellFormed_toJson (t : Task) : t.toJson.WellFormed :=
  Json.wellFormed_record (by simp [Json.wellFormed_text, TaskState.wellFormed_toJson])

theorem Metric.wellFormed_toJson (m : Metric) : m.toJson.WellFormed :=
  Json.wellFormed_record (by
    simp [Json.wellFormed_text, Json.wellFormed_double, Json.wellFormed_array Json.wellFormed_text])

theorem Coverage.wellFormed_toJson (c : Coverage) : c.toJson.WellFormed :=
  Json.wellFormed_record (by simp [Json.wellFormed_text])

theorem Op.wellFormed_toJson (o : Op) : o.toJson.WellFormed :=
  Json.wellFormed_record (by
    simp [OperationId.wellFormed_toJson, Json.wellFormed_array OperationId.wellFormed_toJson,
      Outcome.wellFormed_toJson, Json.wellFormed_nat])

theorem Event.wellFormed_toJson (e : Event) : e.toJson.WellFormed := by
  cases e with
  | preamble p => exact Json.wellFormed_record (by simp [p.wellFormed_toJson])
  | heartbeat => exact Json.wellFormed_text _
  | task t => exact Json.wellFormed_record (by simp [t.wellFormed_toJson])
  | metric m => exact Json.wellFormed_record (by simp [m.wellFormed_toJson])
  | coverage c => exact Json.wellFormed_record (by simp [c.wellFormed_toJson])
  | op o => exact Json.wellFormed_record (by simp [o.wellFormed_toJson])

/-! ## Messages as lines -/

/-- A double that comes back with the same bits when it is written as JSON and read again. Not every finite one does:
decimals with many digits are read with a rounding of the digits first. -/
def Double.ReadsBack (d : Double) : Prop := (Json.parse? (Json.double d).print).bind Json.toDouble? = some d

theorem Double.readsBack_iff {d : Double} : d.ReadsBack ↔ (Json.double d).toDouble? = some d := by
  rw [ReadsBack, Json.parse?_print (Json.wellFormed_double d)]
  rfl

namespace Message

theorem wellFormed_toJson (m : Message) : m.toJson.WellFormed :=
  Json.wellFormed_record (by
    simp [Json.wellFormed_text, Timestamp.wellFormed_toJson, Event.wellFormed_toJson])

/-- **A message takes one line.** -/
theorem newline_notMem_line (m : Message) : '\n' ∉ m.line.toList := Json.newline_notMem_print m.wellFormed_toJson

/-- What is read of a line is what is read of the record that was written. -/
theorem ofLine?_line_eq (m : Message) :
    ofLine? m.line = (Event.ofJson? m.event.toJson).map fun event => { m with event } := by
  refine Eq.trans ?_ (ofJson?_toJson m)
  simp only [ofLine?, line, Json.parse?_print m.wellFormed_toJson, Option.bind_eq_bind, Option.bind_some]

/-- **A message is read back from its line,** if the value of a metric is. -/
theorem ofLine?_line {m : Message} (h : ∀ v, m.value? = some v → v.ReadsBack) : ofLine? m.line = some m := by
  have hevent : Event.ofJson? m.event.toJson = some m.event := by
    refine Event.ofJson?_toJson fun sample he => Double.readsBack_iff.mp (h sample.value ?_)
    rw [value?, he]
  rw [ofLine?_line_eq, hevent]
  rfl

/-- **Nothing is read from the line of a metric that is not finite.** -/
theorem ofLine?_line_of_not_finite {m : Message} {sample : Metric} (hm : m.event = .metric sample)
    (hv : sample.value.isFinite = false) : ofLine? m.line = none := by
  rw [ofLine?_line_eq, hm, Event.ofJson?_of_not_finite hv]
  rfl

/-- Such a line holds a null in the place of the value. -/
theorem line_of_not_finite {m : Message} {sample : Metric} (hm : m.event = .metric sample)
    (hv : sample.value.isFinite = false) :
    m.line = (Json.record [("id", .text m.id.uuid.text), ("ts", m.time.toJson), ("event", .record [("Metric",
      .record [("name", .text sample.name), ("value", .null), ("tags", .array (sample.tags.map .text))])])]).print := by
  rw [line, toJson, hm, Event.toJson, Metric.toJson, Json.double, hv]
  rfl

end Message

end RunLedger
