import RunLedger.Identifier.Basic

/-!
# Operations are told apart by their paths

A name is not empty and holds no separator, so that a path can be read in one way only: the first name ends where the
first separator is (`OperationId.append_inj_of_separated`), and so on.

* `OperationId.joinPath_inj`: different lists of operations have different paths.
-/

namespace RunLedger

namespace OperationId

/-- Names behind another one. -/
def furtherNames (names : List (List Char)) : List Char := names.flatMap (separator :: ·)

theorem joinNames_cons (name : List Char) (names : List (List Char)) :
    joinNames (name :: names) = name ++ furtherNames names := by
  induction names generalizing name with
  | nil => exact (List.append_nil name).symm
  | cons other names ih =>
    rw [joinNames, ih, furtherNames, furtherNames, List.flatMap_cons, List.cons_append]
    exact List.cons_ne_nil other names

theorem head?_furtherNames (names : List (List Char)) : ∀ c ∈ (furtherNames names).head?, c = separator := by
  cases names with
  | nil => nofun
  | cons name names => exact fun c hc => (Option.some.inj hc).symm

/-- A name ends where the first separator is. -/
theorem append_inj_of_separated {a b rest rest' : List Char} (ha : separator ∉ a) (hb : separator ∉ b)
    (hrest : ∀ c ∈ rest.head?, c = separator) (hrest' : ∀ c ∈ rest'.head?, c = separator)
    (h : a ++ rest = b ++ rest') : a = b ∧ rest = rest' := by
  obtain ⟨more, rfl, rfl⟩ | ⟨more, rfl, rfl⟩ := List.append_eq_append_iff.mp h
  · cases more with
    | nil => exact ⟨(List.append_nil a).symm, rfl⟩
    | cons c more =>
      cases hrest c rfl
      exact absurd (List.mem_append_right a List.mem_cons_self) hb
  · cases more with
    | nil => exact ⟨List.append_nil b, rfl⟩
    | cons c more =>
      cases hrest' c rfl
      exact absurd (List.mem_append_right b List.mem_cons_self) ha

theorem furtherNames_inj {as bs : List (List Char)} (ha : ∀ a ∈ as, separator ∉ a) (hb : ∀ b ∈ bs, separator ∉ b)
    (h : furtherNames as = furtherNames bs) : as = bs := by
  induction as generalizing bs with
  | nil =>
    cases bs with
    | nil => rfl
    | cons b bs => cases h
  | cons a as ih =>
    cases bs with
    | nil => cases h
    | cons b bs =>
      obtain ⟨rfl, hrest⟩ := append_inj_of_separated (ha a List.mem_cons_self) (hb b List.mem_cons_self)
        (head?_furtherNames as) (head?_furtherNames bs) (List.cons.inj h).2
      rw [ih (fun c hc => ha c (List.mem_cons_of_mem _ hc)) (fun c hc => hb c (List.mem_cons_of_mem _ hc)) hrest]

theorem joinNames_inj {as bs : List (List Char)} (ha : ∀ a ∈ as, a ≠ [] ∧ separator ∉ a)
    (hb : ∀ b ∈ bs, b ≠ [] ∧ separator ∉ b) (h : joinNames as = joinNames bs) : as = bs := by
  cases as with
  | nil =>
    cases bs with
    | nil => rfl
    | cons b bs =>
      rw [joinNames_cons] at h
      exact absurd (List.append_eq_nil_iff.mp h.symm).1 (hb b List.mem_cons_self).1
  | cons a as =>
    cases bs with
    | nil =>
      rw [joinNames_cons] at h
      exact absurd (List.append_eq_nil_iff.mp h).1 (ha a List.mem_cons_self).1
    | cons b bs =>
      rw [joinNames_cons, joinNames_cons] at h
      obtain ⟨rfl, hrest⟩ := append_inj_of_separated (ha a List.mem_cons_self).2 (hb b List.mem_cons_self).2
        (head?_furtherNames as) (head?_furtherNames bs) h
      rw [furtherNames_inj (fun c hc => (ha c (List.mem_cons_of_mem _ hc)).2)
        (fun c hc => (hb c (List.mem_cons_of_mem _ hc)).2) hrest]

/-- **Different lists of operations have different paths.** -/
theorem joinPath_inj {ids ids' : List OperationId} (h : joinPath ids = joinPath ids') : ids = ids' := by
  have hnames (ids : List OperationId) :
      ∀ name ∈ ids.map fun id => id.name.toList, name ≠ [] ∧ separator ∉ name := by
    intro name hname
    obtain ⟨id, -, rfl⟩ := List.mem_map.mp hname
    exact ⟨fun hnil => id.ne_empty (String.toList_eq_nil_iff.mp hnil), id.separator_notMem⟩
  have hinj (id id' : OperationId) (he : id.name.toList = id'.name.toList) : id = id' := by
    cases id
    cases id'
    cases String.toList_injective he
    rfl
  exact (List.map_inj_right hinj).mp (joinNames_inj (hnames ids) (hnames ids') (String.ofList_injective h))

/-- The path of an operation tells what is around it. -/
theorem joinPath_concat_inj {around around' : List OperationId} {id id' : OperationId}
    (h : joinPath (around ++ [id]) = joinPath (around' ++ [id'])) : around = around' ∧ id = id' := by
  obtain ⟨haround, hid⟩ := List.append_inj' (joinPath_inj h) rfl
  exact ⟨haround, List.singleton_inj.mp hid⟩

end OperationId

end RunLedger
