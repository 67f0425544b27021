/-!
# Ordered maps

A finite map that lists its entries in the order in which their keys first came. A key occurs once; writing to a key
that is present keeps its place, erasing a key keeps the order of the others.

* `get?_set`, `get?_erase`, `get?_filter`: what is found after a write, after an erasure and after a selection.
* `keys_set`: a write adds its key at the end, if it is new.
* `eraseDups_of_foldl`: so the keys are the different ones that were written, in the order in which each first came.
-/

namespace RunLedger

/-! ## The order in which elements first come -/

/-- One more element is one more distinct element, if it is new. -/
theorem eraseDups_concat {α : Type} [DecidableEq α] (past : List α) (a : α) :
    (past ++ [a]).eraseDups = if a ∈ past.eraseDups then past.eraseDups else past.eraseDups ++ [a] := by
  rw [List.eraseDups_append]
  by_cases h : a ∈ past
  · have hnone : [a].removeAll past = [] := by simp [List.removeAll, h]
    rw [hnone, if_pos (List.mem_eraseDups.mpr h)]
    exact List.append_nil _
  · have hall : [a].removeAll past = [a] := by simp [List.removeAll, h]
    rw [hall, if_neg (fun hmem => h (List.mem_eraseDups.mp hmem))]
    rfl

/-- If every step adds a key at the end, unless it is there, then the keys are the different ones of all steps. -/
theorem eraseDups_of_foldl {σ β κ : Type} [DecidableEq κ] {step : σ → β → σ} {keys : σ → List κ} {key : β → κ}
    (hstep : ∀ s b, keys (step s b) = if key b ∈ keys s then keys s else keys s ++ [key b]) {s : σ} {past : List κ}
    (hs : keys s = past.eraseDups) (bs : List β) : keys (bs.foldl step s) = (past ++ bs.map key).eraseDups := by
  induction bs generalizing s past with
  | nil => simpa using hs
  | cons b bs ih =>
    have hnext : keys (step s b) = (past ++ [key b]).eraseDups := by rw [hstep, eraseDups_concat, hs]
    rw [List.foldl_cons, ih hnext, List.map_cons, List.append_assoc, List.singleton_append]

/-! ## Maps -/

/-- Entries in order, no key twice. -/
structure OrderedMap (κ α : Type) [DecidableEq κ] where
  entries : List (κ × α)
  nodup_keys : (entries.map Prod.fst).Nodup

namespace OrderedMap

variable {κ α : Type} [DecidableEq κ]

/-- No entries. -/
def empty : OrderedMap κ α := ⟨[], List.nodup_nil⟩

instance : Inhabited (OrderedMap κ α) := ⟨empty⟩

/-- The keys in order. -/
def keys (m : OrderedMap κ α) : List κ := m.entries.map Prod.fst

/-- The values in the order of their keys. -/
def values (m : OrderedMap κ α) : List α := m.entries.map Prod.snd

/-- The number of entries. -/
def size (m : OrderedMap κ α) : Nat := m.entries.length

/-- The value of a key in a list of entries. -/
def find? (k : κ) : List (κ × α) → Option α
  | [] => none
  | (k', v) :: rest => if k' = k then some v else find? k rest

/-- The value of a key. -/
def get? (m : OrderedMap κ α) (k : κ) : Option α := find? k m.entries

/-- Whether a key is present. -/
def contains (m : OrderedMap κ α) (k : κ) : Bool := (m.get? k).isSome

/-- A list of entries with one key written: in place, or at the end. -/
def put (k : κ) (v : α) : List (κ × α) → List (κ × α)
  | [] => [(k, v)]
  | (k', v') :: rest => if k' = k then (k', v) :: rest else (k', v') :: put k v rest

theorem map_fst_put (k : κ) (v : α) (es : List (κ × α)) :
    (put k v es).map Prod.fst = if k ∈ es.map Prod.fst then es.map Prod.fst else es.map Prod.fst ++ [k] := by
  induction es with
  | nil => rfl
  | cons e es ih =>
    obtain ⟨k', v'⟩ := e
    by_cases h : k' = k
    · simp [put, h]
    · simp only [put, h, if_false, List.map_cons, ih, List.mem_cons, Ne.symm h, false_or]
      split <;> simp

/-- A new key is written at the end. -/
theorem put_of_notMem {k : κ} {es : List (κ × α)} (h : k ∉ es.map Prod.fst) (v : α) : put k v es = es ++ [(k, v)] := by
  induction es with
  | nil => rfl
  | cons e es ih =>
    obtain ⟨k', v'⟩ := e
    simp only [List.map_cons, List.mem_cons, not_or] at h
    rw [put, if_neg (Ne.symm h.1), ih h.2]
    rfl

/-- A write to a key that is present is not seen in anything that it does not change. -/
theorem map_put_of_find {β : Type} (f : κ × α → β) {k : κ} {v : α} {es : List (κ × α)} (h : find? k es = some v)
    (v' : α) (hf : f (k, v') = f (k, v)) : (put k v' es).map f = es.map f := by
  induction es with
  | nil => cases h
  | cons e es ih =>
    obtain ⟨k', w⟩ := e
    by_cases hk : k' = k
    · subst hk
      rw [find?, if_pos rfl, Option.some.injEq] at h
      rw [put, if_pos rfl, List.map_cons, List.map_cons, hf, h]
    · rw [find?, if_neg hk] at h
      rw [put, if_neg hk, List.map_cons, List.map_cons, ih h]

/-- The map with a key written. -/
def set (m : OrderedMap κ α) (k : κ) (v : α) : OrderedMap κ α where
  entries := put k v m.entries
  nodup_keys := by
    rw [map_fst_put]
    split
    · exact m.nodup_keys
    · rename_i h
      exact List.nodup_append.mpr ⟨m.nodup_keys, by simp, fun a ha b hb => by
        rintro rfl; simp only [List.mem_singleton] at hb; exact h (hb ▸ ha)⟩

/-- The map with only the entries that pass a test. -/
def filter (m : OrderedMap κ α) (p : κ → α → Bool) : OrderedMap κ α where
  entries := m.entries.filter fun e => p e.1 e.2
  nodup_keys := m.nodup_keys.sublist (List.filter_sublist.map _)

/-- The map without a key. -/
def erase (m : OrderedMap κ α) (k : κ) : OrderedMap κ α := m.filter fun k' _ => k' ≠ k

/-- The map with every value changed. -/
def mapValues {β : Type} (m : OrderedMap κ α) (f : κ → α → β) : OrderedMap κ β where
  entries := m.entries.map fun e => (e.1, f e.1 e.2)
  nodup_keys := by simpa [List.map_map, Function.comp_def] using m.nodup_keys

/-- Whether two maps hold the same entries, in whatever order. -/
def sameEntries [DecidableEq α] (a b : OrderedMap κ α) : Bool :=
  a.size = b.size && a.entries.all fun e => b.get? e.1 = some e.2

@[simp] theorem get?_empty (k : κ) : (empty : OrderedMap κ α).get? k = none := rfl

theorem find?_put (k k' : κ) (v : α) (es : List (κ × α)) :
    find? k' (put k v es) = if k = k' then some v else find? k' es := by
  induction es with
  | nil => simp [put, find?]
  | cons e es ih =>
    obtain ⟨k₀, v₀⟩ := e
    by_cases h : k₀ = k
    · subst h; by_cases h' : k₀ = k' <;> simp [put, find?, h']
    · by_cases h' : k₀ = k'
      · subst h'; simp [put, find?, h, Ne.symm h]
      · simp [put, find?, h, h', ih]

/-- A write is found under its key and disturbs no other. -/
@[simp] theorem get?_set (m : OrderedMap κ α) (k k' : κ) (v : α) :
    (m.set k v).get? k' = if k = k' then some v else m.get? k' := find?_put k k' v m.entries

theorem keys_set (m : OrderedMap κ α) (k : κ) (v : α) :
    (m.set k v).keys = if k ∈ m.keys then m.keys else m.keys ++ [k] := map_fst_put k v m.entries

theorem find?_eq_none_iff {k : κ} {es : List (κ × α)} : find? k es = none ↔ k ∉ es.map Prod.fst := by
  induction es with
  | nil => simp [find?]
  | cons e es ih =>
    obtain ⟨k', v⟩ := e
    by_cases h : k' = k
    · simp [find?, h]
    · simp [find?, h, ih, Ne.symm h]

/-- A key is absent exactly when nothing is found under it. -/
theorem get?_eq_none_iff {m : OrderedMap κ α} {k : κ} : m.get? k = none ↔ k ∉ m.keys := find?_eq_none_iff

theorem find?_eq_some_iff {k : κ} {v : α} {es : List (κ × α)} (h : (es.map Prod.fst).Nodup) :
    find? k es = some v ↔ (k, v) ∈ es := by
  induction es with
  | nil => simp [find?]
  | cons e es ih =>
    obtain ⟨k', v'⟩ := e
    obtain ⟨hk, hes⟩ := List.nodup_cons.mp h
    by_cases hkk : k' = k
    · subst hkk
      have hnew : (k', v) ∉ es := fun he => hk (List.mem_map.mpr ⟨_, he, rfl⟩)
      simp [find?, hnew, eq_comm]
    · simp [find?, hkk, Ne.symm hkk, ih hes]

/-- What is found under a key are the entries. -/
theorem get?_eq_some_iff {m : OrderedMap κ α} {k : κ} {v : α} : m.get? k = some v ↔ (k, v) ∈ m.entries :=
  find?_eq_some_iff m.nodup_keys

theorem find?_filter_ne (k k' : κ) (es : List (κ × α)) :
    find? k' (es.filter fun e => e.1 ≠ k) = if k = k' then none else find? k' es := by
  induction es with
  | nil => simp [find?]
  | cons e es ih =>
    obtain ⟨k₀, v⟩ := e
    by_cases h : k₀ = k
    · subst h
      rw [List.filter_cons_of_neg (by simp), ih]
      by_cases h' : k₀ = k' <;> simp [find?, h']
    · rw [List.filter_cons_of_pos (by simp [h])]
      by_cases h' : k₀ = k'
      · subst h'; simp [find?, Ne.symm h]
      · simp only [find?, h', if_false, ih]

theorem find?_filter (p : κ → α → Bool) (k : κ) {es : List (κ × α)} (h : (es.map Prod.fst).Nodup) :
    find? k (es.filter fun e => p e.1 e.2) = (find? k es).filter (p k) := by
  induction es with
  | nil => rfl
  | cons e es ih =>
    obtain ⟨k', v⟩ := e
    obtain ⟨hk, hes⟩ := List.nodup_cons.mp h
    by_cases hkk : k' = k
    · subst hkk
      by_cases hp : p k' v
      · simp [find?, hp, Option.filter]
      · simp [hp, ih hes, find?, find?_eq_none_iff.mpr hk, Option.filter]
    · by_cases hp : p k' v <;> simp [find?, hp, hkk, ih hes]

/-- What passes the test is found, and nothing else. -/
@[simp] theorem get?_filter (m : OrderedMap κ α) (p : κ → α → Bool) (k : κ) :
    (m.filter p).get? k = (m.get? k).filter (p k) := find?_filter p k m.nodup_keys

/-- An erased key is gone and the others stay. -/
@[simp] theorem get?_erase (m : OrderedMap κ α) (k k' : κ) :
    (m.erase k).get? k' = if k = k' then none else m.get? k' := find?_filter_ne k k' m.entries

end OrderedMap

end RunLedger
