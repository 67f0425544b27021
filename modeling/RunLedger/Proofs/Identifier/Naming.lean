import RunLedger.Message.Json
import RunLedger.Proofs.Identifier.Path
import RunLedger.Proofs.Identifier.Text
import RunLedger.Proofs.Log.Frame

/-!
# Names that come from outside

A text can name an operation if it is not empty and holds no separator (`OperationId.CanName`). However an operation is
read, its name passes that test: from octets it is read as a text (`Wire.readOperationId_eq_ok_iff`), from JSON as a
string (`OperationId.ofJson?_eq_some_iff`), and a text that fails the test is refused in both, wherever it stands
(`Wire.readOp_refused`, `Op.ofJson?_refused`). So a path falls into the names that it was joined of, at its separators
(`OperationId.splitOn_joinPath`).

* `path_tells_operations`: paths are as good as the operations that they lead through.
-/

namespace RunLedger

namespace OperationId

/-- The text can name an operation. -/
def CanName (s : String) : Prop := s ≠ "" ∧ separator ∉ s.toList

instance : DecidablePred CanName := fun s => inferInstanceAs (Decidable (s ≠ "" ∧ separator ∉ s.toList))

theorem canName_name (id : OperationId) : CanName id.name := ⟨id.ne_empty, id.separator_notMem⟩

/-- A text is taken for a name exactly if it can be one. -/
theorem exists_ofText_iff {s : String} : (∃ id, ofText s = .ok id) ↔ CanName s := by
  constructor
  · rintro ⟨id, h⟩
    exact name_of_ofText h ▸ id.canName_name
  · exact fun h => ⟨⟨s, h.1, h.2⟩, ofText_name ⟨s, h.1, h.2⟩⟩

theorem toOption_ofText (s : String) : (ofText s).toOption = if h : CanName s then some ⟨s, h.1, h.2⟩ else none := by
  split
  · rename_i h
    rw [ofText_name ⟨s, h.1, h.2⟩]
    rfl
  · rename_i h
    cases hs : ofText s with
    | error e => rfl
    | ok id => exact absurd (exists_ofText_iff.mp ⟨id, hs⟩) h

theorem exists_map_name {names : List String} (h : ∀ s ∈ names, CanName s) :
    ∃ ids : List OperationId, ids.map name = names :=
  ⟨names.pmap (fun s hs => ⟨s, hs.1, hs.2⟩) h, by rw [List.map_pmap, List.pmap_eq_map, List.map_id']⟩

/-- Texts that are all taken for names are the names of the operations. -/
theorem mapM_ofText_eq_ok {names : List String} {ids : List OperationId} (h : names.mapM ofText = .ok ids) :
    names = ids.map name := by
  induction names generalizing ids with
  | nil =>
    cases h
    rfl
  | cons s names ih =>
    rw [List.mapM_cons] at h
    cases hs : ofText s with
    | error e =>
      rw [hs] at h
      cases h
    | ok id =>
      cases hrest : names.mapM ofText with
      | error e =>
        rw [hs, hrest] at h
        cases h
      | ok rest =>
        rw [hs, hrest] at h
        cases h
        rw [List.map_cons, name_of_ofText hs, ih hrest]

/-! ## Paths -/

theorem joinNames_eq_intercalate (names : List (List Char)) : joinNames names = [separator].intercalate names := by
  fun_induction joinNames names with
  | case1 => rfl
  | case2 name => simp
  | case3 name names hne ih =>
    obtain ⟨other, names, rfl⟩ := List.exists_cons_of_ne_nil hne
    rw [ih, List.intercalate_cons_cons, List.append_assoc, List.singleton_append]

/-- **A path falls into its names at the separators.** -/
theorem splitOn_joinPath {ids : List OperationId} (h : ids ≠ []) :
    (joinPath ids).toList.splitOn separator = ids.map fun id => id.name.toList := by
  rw [joinPath, String.toList_ofList, joinNames_eq_intercalate]
  refine List.splitOn_intercalate separator ?_ (by simpa using h)
  intro name hname
  obtain ⟨id, -, rfl⟩ := List.mem_map.mp hname
  exact id.separator_notMem

/-- Only the empty list has the empty path. -/
theorem joinPath_eq_empty_iff {ids : List OperationId} : joinPath ids = "" ↔ ids = [] :=
  ⟨fun h => joinPath_inj (h.trans (by rfl : "" = joinPath [])), fun h => by rw [h]; rfl⟩

end OperationId

/-! ## Names in octets -/

namespace Wire

open OperationId (CanName)

variable {bytes rest behind : Bytes}

theorem bind_of_ok {α β : Type} {r : Reader α} (f : α → Reader β) {a : α} (h : r bytes = .ok (a, behind)) :
    (r >>= f) bytes = f a behind := by
  rw [bind_apply, h]

theorem bind_of_error {α β : Type} {r : Reader α} (f : α → Reader β) {e : Error} (h : r bytes = .error e) :
    (r >>= f) bytes = .error e := by
  rw [bind_apply, h]

theorem exists_of_bind {α β : Type} {r : Reader α} {f : α → Reader β} {b : β} (h : (r >>= f) bytes = .ok (b, rest)) :
    ∃ a behind, r bytes = .ok (a, behind) ∧ f a behind = .ok (b, rest) := by
  rw [bind_apply] at h
  split at h
  · exact ⟨_, _, by assumption, h⟩
  · cases h

/-- **An operation is read where its name is,** and nowhere else. -/
theorem readOperationId_eq_ok_iff {id : OperationId} :
    readOperationId bytes = .ok (id, rest) ↔ readText bytes = .ok (id.name, rest) := by
  constructor
  · intro h
    obtain ⟨s, behind, hs, h⟩ := exists_of_bind h
    rw [OperationId.toOption_ofText] at h
    split at h
    · cases h
      exact hs
    · cases h
  · intro h
    rw [readOperationId, bind_of_ok _ h, OperationId.ofText_name]
    rfl

theorem readOperationId_refused {s : String} (h : readText bytes = .ok (s, rest)) (hs : ¬CanName s) :
    readOperationId bytes = .error .badValue := by
  rw [readOperationId, bind_of_ok _ h, OperationId.toOption_ofText, dif_neg hs]
  rfl

theorem readMany_name {ids seen : List OperationId} {n : Nat}
    (h : readMany readOperationId seen n bytes = .ok (ids, rest)) :
    readMany readText (seen.map OperationId.name) n bytes = .ok (ids.map OperationId.name, rest) := by
  induction n generalizing bytes seen with
  | zero =>
    cases h
    rw [readMany, List.map_reverse]
  | succ n ih =>
    rw [readMany] at h ⊢
    split at h
    · rename_i id rest' hid
      rw [readOperationId_eq_ok_iff.mp hid]
      exact ih h
    · cases h

/-- The first text that cannot be a name ends the reading. -/
theorem readMany_refused {names : List String} {seen : List OperationId} {n : Nat}
    (h : readMany readText (seen.map OperationId.name) n bytes = .ok (names, rest)) {s : String} (hm : s ∈ names)
    (hs : ¬CanName s) : readMany readOperationId seen n bytes = .error .badValue := by
  induction n generalizing bytes seen with
  | zero =>
    cases h
    obtain ⟨id, -, rfl⟩ := List.mem_map.mp (List.mem_reverse.mp hm)
    exact absurd id.canName_name hs
  | succ n ih =>
    rw [readMany] at h ⊢
    split at h
    · rename_i x rest' hx
      by_cases hname : CanName x
      · rw [readOperationId_eq_ok_iff.mpr (show readText bytes = .ok ((⟨x, hname.1, hname.2⟩ : OperationId).name, rest')
          from hx)]
        exact ih h
      · rw [readOperationId_refused hx hname]
    · cases h

/-- **The names of a span that is read are the texts in its place.** -/
theorem names_of_readOp {o : Op} (h : readOp bytes = .ok (o, rest)) :
    ∃ behind behind', readText bytes = .ok (o.name.name, behind) ∧
      readList readText behind = .ok (o.ancestors.map OperationId.name, behind') := by
  obtain ⟨name, behind, hname, h⟩ := exists_of_bind h
  obtain ⟨ancestors, behind', hancestors, h⟩ := exists_of_bind h
  obtain ⟨tag, _, -, h⟩ := exists_of_bind h
  obtain ⟨outcome, _, -, h⟩ := exists_of_bind h
  obtain ⟨elapsed, _, -, h⟩ := exists_of_bind h
  cases h
  obtain ⟨count, _, hcount, hmany⟩ := exists_of_bind hancestors
  refine ⟨behind, behind', readOperationId_eq_ok_iff.mp hname, ?_⟩
  rw [readList, bind_of_ok _ hcount]
  exact readMany_name hmany

/-- **A span is refused if one of the texts in place of its names cannot be one.** -/
theorem readOp_refused {name : String} {names : List String} (h : readText bytes = .ok (name, behind))
    (h' : readList readText behind = .ok (names, rest)) (hs : ∃ s ∈ name :: names, ¬CanName s) :
    readOp bytes = .error .badValue := by
  obtain ⟨s, hmem, hs⟩ := hs
  by_cases hname : CanName name
  · obtain ⟨count, _, hcount, hmany⟩ := exists_of_bind h'
    have hnames : s ∈ names := (List.mem_cons.mp hmem).resolve_left fun he => hs (he ▸ hname)
    have hid : readOperationId bytes = .ok ((⟨name, hname.1, hname.2⟩ : OperationId), behind) :=
      readOperationId_eq_ok_iff.mpr h
    have hlist : readList readOperationId behind = .error .badValue := by
      rw [readList, bind_of_ok _ hcount]
      exact readMany_refused (List.map_nil ▸ hmany) hnames hs
    rw [readOp, bind_of_ok _ hid, bind_of_error _ hlist]
  · rw [readOp, bind_of_error _ (readOperationId_refused h hname)]

/-- The payload of the record of a span, with any texts in the places of its names. -/
def spelled (id : MessageId) (time : Timestamp) (name : String) (ancestors : List String) (outcome : Outcome)
    (elapsed : UInt64) : Bytes :=
  uuid id.uuid ++ timestamp time ++
    (varint 5 ++ (text name ++ list text ancestors ++ varint (outcomeTag outcome) ++ u64 elapsed))

theorem spelled_names (id : MessageId) (time : Timestamp) (o : Op) :
    spelled id time o.name.name (o.ancestors.map OperationId.name) o.outcome o.elapsedMs =
      message ⟨id, time, .op o⟩ := by
  have hlist : list text (o.ancestors.map OperationId.name) = list operationId o.ancestors := by
    rw [list, list, List.length_map, List.flatMap_map]
    rfl
  rw [spelled, hlist]
  rfl

theorem readMessage_spelled_refused {id : MessageId} {time : Timestamp} {name : String} {ancestors : List String}
    {outcome : Outcome} {elapsed : UInt64}
    (hl : (spelled id time name ancestors outcome elapsed).length < UInt64.size)
    (hs : ∃ s ∈ name :: ancestors, ¬CanName s) :
    readMessage (spelled id time name ancestors outcome elapsed) = .error .badValue := by
  simp only [spelled, List.length_append] at hl
  have hname : Reads readText (text name) name := reads_text (by omega)
  have hnames : Reads (readList readText) (list text ancestors) ancestors :=
    reads_list (by omega) length_text_pos fun _ => reads_text
  have hkind : Reads readU32 (varint 5) 5 := readU32_varint (by decide)
  have hop : readEvent (varint 5 ++ (text name ++ list text ancestors ++ varint (outcomeTag outcome) ++ u64 elapsed)) =
      .error .badValue := by
    rw [readEvent, bind_of_ok _ (hkind _), List.append_assoc, List.append_assoc]
    exact bind_of_error _ (readOp_refused (hname _) (hnames _) hs)
  rw [spelled, readMessage, List.append_assoc, bind_of_ok _ (reads_uuid _ _), bind_of_ok _ (reads_timestamp _ _),
    bind_of_error _ hop]

end Wire

/-- **A record is read exactly if the texts in the places of names can be names,** and they become the names. -/
theorem Frame.decode_spelled {id : MessageId} {time : Timestamp} {name : String} {ancestors : List String}
    {outcome : Outcome} {elapsed : UInt64}
    (hl : (Wire.spelled id time name ancestors outcome elapsed).length ≤ maxPayload) (rest : Bytes) :
    let frame := wrap (Wire.spelled id time name ancestors outcome elapsed)
    ((∀ s ∈ name :: ancestors, OperationId.CanName s) → ∃ o : Op, o.name.name = name ∧
      o.ancestors.map OperationId.name = ancestors ∧
      decode (frame ++ rest) = .ok (⟨id, time, .op o⟩, frame.length)) ∧
    ((∃ s ∈ name :: ancestors, ¬OperationId.CanName s) → decode (frame ++ rest) = .error (.decode .badValue)) := by
  intro frame
  constructor
  · intro h
    obtain ⟨first, hfirst⟩ := OperationId.exists_ofText_iff.mpr (h name List.mem_cons_self)
    obtain rfl := OperationId.name_of_ofText hfirst
    obtain ⟨ids, rfl⟩ := OperationId.exists_map_name fun s hs => h s (List.mem_cons_of_mem _ hs)
    let o : Op := ⟨first, ids, outcome, elapsed⟩
    have hframe : frame = of ⟨id, time, .op o⟩ := congrArg wrap (Wire.spelled_names id time o)
    have hfits : Fits ⟨id, time, .op o⟩ := by
      rw [Fits, ← Wire.spelled_names]
      exact hl
    exact ⟨o, rfl, rfl, by rw [hframe]; exact decode_of_append hfits rest⟩
  · intro h
    have hread := Wire.readMessage_spelled_refused (Nat.lt_of_le_of_lt hl (by decide)) h
    rw [decode_wrap hl, payloadMessage, hread]
    rfl

/-! ## Names in JSON -/

theorem Json.toText?_eq_some_iff {j : Json} {s : String} : j.toText? = some s ↔ j = .text s := by
  cases j <;> simp [toText?, text]

theorem Json.toList?_eq_some_iff {j : Json} {items : List Json} : j.toList? = some items ↔ j = .array items := by
  cases j <;> simp [toList?]

theorem Json.text_inj {s s' : String} (h : text s = text s') : s = s' := by
  cases h
  rfl

namespace OperationId

theorem ofJson?_text (s : String) : ofJson? (.text s) = (ofText s).toOption := rfl

/-- **An operation is read of its name,** and of nothing else. -/
theorem ofJson?_eq_some_iff {j : Json} {id : OperationId} : ofJson? j = some id ↔ j = .text id.name := by
  constructor
  · intro h
    obtain ⟨s, hs, h⟩ := Option.bind_eq_some_iff.mp h
    rw [toOption_ofText] at h
    split at h
    · cases h
      exact Json.toText?_eq_some_iff.mp hs
    · cases h
  · rintro rfl
    rw [ofJson?_text, ofText_name]
    rfl

theorem mapM_ofJson?_eq_some {items : List Json} {ids : List OperationId} (h : items.mapM ofJson? = some ids) :
    items = ids.map fun id => .text id.name := by
  induction items generalizing ids with
  | nil =>
    cases h
    rfl
  | cons j items ih =>
    rw [List.mapM_cons] at h
    obtain ⟨id, hid, h⟩ := Option.bind_eq_some_iff.mp h
    obtain ⟨rest, hrest, h⟩ := Option.bind_eq_some_iff.mp h
    cases h
    rw [List.map_cons, ← ofJson?_eq_some_iff.mp hid, ← ih hrest]

end OperationId

namespace Op

/-- The fields that a span is read of. -/
def keys : List String := ["name", "ancestors", "outcome", "elapsed_ms"]

/-- **The names of a span that is read are the texts in its fields.** -/
theorem fields?_of_ofJson? {j : Json} {o : Op} (h : ofJson? j = some o) : ∃ outcome elapsed, j.fields? keys =
    some [.text o.name.name, .array (o.ancestors.map fun id => .text id.name), outcome, elapsed] := by
  obtain ⟨fields, hfields, h⟩ := Option.bind_eq_some_iff.mp h
  split at h
  · rename_i name ancestors outcome elapsed
    obtain ⟨first, hfirst, h⟩ := Option.bind_eq_some_iff.mp h
    obtain ⟨items, hitems, h⟩ := Option.bind_eq_some_iff.mp h
    obtain ⟨ids, hids, h⟩ := Option.bind_eq_some_iff.mp h
    obtain ⟨result, -, h⟩ := Option.bind_eq_some_iff.mp h
    obtain ⟨ms, -, h⟩ := Option.bind_eq_some_iff.mp h
    cases h
    refine ⟨outcome, elapsed, hfields.trans ?_⟩
    rw [OperationId.ofJson?_eq_some_iff.mp hfirst, Json.toList?_eq_some_iff.mp hitems,
      OperationId.mapM_ofJson?_eq_some hids]
  · cases h

/-- **A span is refused if one of the texts in the fields of its names cannot be one.** -/
theorem ofJson?_refused {j : Json} {name : String} {ancestors : List String} {outcome elapsed : Json}
    (h : j.fields? keys = some [.text name, .array (ancestors.map .text), outcome, elapsed])
    (hs : ∃ s ∈ name :: ancestors, ¬OperationId.CanName s) : ofJson? j = none := by
  rw [Option.eq_none_iff_forall_ne_some]
  intro o ho
  obtain ⟨outcome', elapsed', hfields⟩ := fields?_of_ofJson? ho
  rw [h, Option.some.injEq, List.cons.injEq, List.cons.injEq] at hfields
  obtain ⟨hname, hancestors, -⟩ := hfields
  obtain ⟨s, hmem, hs⟩ := hs
  rcases List.mem_cons.mp hmem with rfl | hmem
  · exact hs (Json.text_inj hname ▸ o.name.canName_name)
  · -- the text is an item of the array, so it is the name of one of the operations around
    have hitem : Json.text s ∈ o.ancestors.map fun id => Json.text id.name := by
      rw [← Json.array.inj hancestors]
      exact List.mem_map_of_mem hmem
    obtain ⟨id, -, hid⟩ := List.mem_map.mp hitem
    exact hs (Json.text_inj hid ▸ id.canName_name)

end Op

namespace OperationId

/-- **A path tells the operations that it leads through.** Names that are accepted are those that are not empty and
hold no separator; different lists of them have different paths, and only the empty list has the empty path. Octets and
JSON give no other operations: an operation is read where its name stands as a text, and a record with a text that
cannot be a name is refused. So a path falls into the names of the operations at its separators, and the path of a span
tells the operations around it and its own. -/
theorem path_tells_operations :
    (∀ s, ((∃ id, ofText s = .ok id) ↔ s ≠ "" ∧ separator ∉ s.toList) ∧ ∀ id, ofText s = .ok id → id.name = s) ∧
    (∀ (names names' : List String) ids ids', names.mapM ofText = .ok ids → names'.mapM ofText = .ok ids' →
      joinPath ids = joinPath ids' → names = names') ∧
    (∀ ids, joinPath ids = "" ↔ ids = []) ∧
    (∀ bytes id rest, Wire.readOperationId bytes = .ok (id, rest) ↔ Wire.readText bytes = .ok (id.name, rest)) ∧
    (∀ id time name ancestors outcome elapsed rest, let payload := Wire.spelled id time name ancestors outcome elapsed
      payload.length ≤ Frame.maxPayload →
      ((∀ s ∈ name :: ancestors, CanName s) → ∃ o : Op, o.name.name = name ∧
        o.ancestors.map OperationId.name = ancestors ∧
        Frame.decode (Frame.wrap payload ++ rest) = .ok (⟨id, time, .op o⟩, (Frame.wrap payload).length)) ∧
      ((∃ s ∈ name :: ancestors, ¬CanName s) →
        Frame.decode (Frame.wrap payload ++ rest) = .error (.decode .badValue))) ∧
    (∀ bytes o rest, Wire.readOp bytes = .ok (o, rest) → ∃ behind behind',
      Wire.readText bytes = .ok (o.name.name, behind) ∧
        Wire.readList Wire.readText behind = .ok (o.ancestors.map OperationId.name, behind')) ∧
    (∀ j id, ofJson? j = some id ↔ j = .text id.name) ∧
    (∀ j o, Op.ofJson? j = some o → ∃ outcome elapsed, j.fields? Op.keys =
      some [.text o.name.name, .array (o.ancestors.map fun id => .text id.name), outcome, elapsed]) ∧
    (∀ j name ancestors outcome elapsed,
      j.fields? Op.keys = some [.text name, .array (ancestors.map .text), outcome, elapsed] →
      (∃ s ∈ name :: ancestors, ¬CanName s) → Op.ofJson? j = none) ∧
    (∀ o : Op, o.path.toList.splitOn separator = (o.ancestors ++ [o.name]).map fun id => id.name.toList) ∧
    ∀ o o' : Op, o.path = o'.path → o.ancestors = o'.ancestors ∧ o.name = o'.name := by
  refine ⟨fun s => ⟨exists_ofText_iff, fun id => name_of_ofText⟩, ?_, fun ids => joinPath_eq_empty_iff,
    fun bytes id rest => Wire.readOperationId_eq_ok_iff,
    fun id time name ancestors outcome elapsed rest hl => Frame.decode_spelled hl rest,
    fun bytes o rest => Wire.names_of_readOp, fun j id => ofJson?_eq_some_iff, fun j o => Op.fields?_of_ofJson?,
    fun j name ancestors outcome elapsed => Op.ofJson?_refused, fun o => splitOn_joinPath (by simp),
    fun o o' => joinPath_concat_inj⟩
  intro names names' ids ids' hids hids' hpath
  rw [mapM_ofText_eq_ok hids, mapM_ofText_eq_ok hids', joinPath_inj hpath]

/-- Two lists of names with the same letters, and a path in the place of a name in a record and in JSON. -/
theorem path_tells_operations_refused :
    let a : OperationId := ⟨"a", by decide, by decide⟩
    let ab : OperationId := ⟨"ab", by decide, by decide⟩
    let c : OperationId := ⟨"c", by decide, by decide⟩
    let bc : OperationId := ⟨"bc", by decide, by decide⟩
    let payload (around : String) := Wire.spelled ⟨.ofNat 7⟩ ⟨5, 6⟩ "c" [around] .success 12
    let j : Json := .record [("name", .text "c"), ("ancestors", .array [.text "a/b"]), ("outcome", .text "Success"),
      ("elapsed_ms", .nat 12)]
    ["a", "bc"].mapM ofText = .ok [a, bc] ∧ ["ab", "c"].mapM ofText = .ok [ab, c] ∧
      joinPath [a, bc] ≠ joinPath [ab, c] ∧
      (payload "ab").length ≤ Frame.maxPayload ∧
      (∃ o : Op, o.name.name = "c" ∧ o.ancestors.map OperationId.name = ["ab"] ∧
        Frame.decode (Frame.wrap (payload "ab") ++ []) =
          .ok (⟨⟨.ofNat 7⟩, ⟨5, 6⟩, .op o⟩, (Frame.wrap (payload "ab")).length) ∧
        o.path.toList.splitOn separator = [['a', 'b'], ['c']]) ∧
      (payload "a/b").length ≤ Frame.maxPayload ∧ ¬CanName "a/b" ∧
      Frame.decode (Frame.wrap (payload "a/b") ++ []) = .error (.decode .badValue) ∧ Op.ofJson? j = none := by
  intro a ab c bc payload j
  obtain ⟨-, hpaths, -, -, hrecord, -, -, -, hjson, hsplit, -⟩ := path_tells_operations
  have hapart : ["a", "bc"].mapM ofText = .ok [a, bc] := by decide
  have htogether : ["ab", "c"].mapM ofText = .ok [ab, c] := by decide
  have hlength : (payload "ab").length ≤ Frame.maxPayload := by decide +kernel
  have hlength' : (payload "a/b").length ≤ Frame.maxPayload := by decide +kernel
  have hname : ¬CanName "a/b" := by decide
  have hrefused : ∃ s ∈ ["c", "a/b"], ¬CanName s := ⟨"a/b", by decide, hname⟩
  obtain ⟨o, honame, hoaround, hdecode⟩ :=
    (hrecord ⟨.ofNat 7⟩ ⟨5, 6⟩ "c" ["ab"] .success 12 [] hlength).1 (by decide)
  refine ⟨hapart, htogether, fun h => ?_, hlength, ⟨o, honame, hoaround, hdecode, ?_⟩, hlength', hname,
    (hrecord _ _ _ _ _ _ _ hlength').2 hrefused, hjson j "c" ["a/b"] _ _ rfl hrefused⟩
  · exact absurd (hpaths _ _ _ _ hapart htogether h) (by decide)
  · have haround : (o.ancestors.map fun id => id.name.toList) =
        (o.ancestors.map OperationId.name).map String.toList := by
      rw [List.map_map]
      rfl
    rw [hsplit, List.map_append, haround, hoaround, List.map_cons, List.map_nil, List.map_cons, List.map_nil,
      honame]
    decide

end OperationId

end RunLedger
