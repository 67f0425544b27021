import RunLedger.Digest
import RunLedger.Proofs.Text.Hex

/-!
# Digests of what comes in pieces

A hasher that reads an input in pieces comes to stand where it stands after the whole input (`Hasher.update_append`), so
the digest of what was sent does not depend on how it was cut (`Digest.ofHasher_foldl_update`). The text of a digest is 64 digits, none of them a
separator of paths, and tells the digest (`Digest.length_text`, `Digest.separator_notMem_text`, `Digest.text_inj`). The
texts that are read as digests are those of 64 digits (`Digest.exists_ofText_iff`), whose case makes no difference
(`Digest.ofText_eq_ok_iff`).
-/

namespace RunLedger

/-! ## Pieces -/

namespace Blake3

/-- As long as something follows a chunk its leaf is complete. -/
theorem absorb_eq (leaves : List Node) (count : Nat) (bytes : Bytes) : absorb leaves count bytes =
    if bytes.length ≤ chunkLength then (leaves, count, bytes)
    else absorb (leaf count (bytes.take chunkLength) :: leaves) (count + 1) (bytes.drop chunkLength) := by
  rw [absorb, readLeaf_eq]
  by_cases h : bytes.length ≤ chunkLength
  · rw [if_pos h, List.drop_eq_nil_of_le h]
  · obtain ⟨b, rest, hd⟩ := List.exists_cons_of_ne_nil fun he => h (List.drop_eq_nil_iff.mp he)
    rw [if_neg h, hd]

/-- What was absorbed is absorbed, whatever comes behind it. -/
theorem absorb_append (leaves : List Node) (count : Nat) (a b : Bytes) :
    let done := absorb leaves count a
    absorb done.1 done.2.1 (done.2.2 ++ b) = absorb leaves count (a ++ b) := by
  -- induction on the complete chunks of the first piece
  induction hn : a.length using Nat.strongRecOn generalizing leaves count a with
  | ind n ih =>
    intro done
    by_cases h : a.length ≤ chunkLength
    · have hdone : done = (leaves, count, a) := by rw [show done = absorb leaves count a from rfl, absorb_eq, if_pos h]
      rw [hdone]
    · have hshort : (a.drop chunkLength).length < n := by
        rw [List.length_drop, ← hn]
        simp only [chunkLength] at h ⊢
        omega
      have hdone : done = absorb (leaf count (a.take chunkLength) :: leaves) (count + 1) (a.drop chunkLength) := by
        rw [show done = absorb leaves count a from rfl, absorb_eq, if_neg h]
      have hlong : ¬(a ++ b).length ≤ chunkLength := by
        rw [List.length_append]
        omega
      have hle : chunkLength ≤ a.length := Nat.le_of_not_le h
      rw [hdone, absorb_eq leaves count (a ++ b), if_neg hlong, List.take_append_of_le_length hle,
        List.drop_append_of_le_length hle]
      exact ih _ hshort _ _ _ rfl

/-- **Two pieces are read as one.** -/
theorem Hasher.update_append (h : Hasher) (a b : Bytes) : (h.update a).update b = h.update (a ++ b) := by
  have := absorb_append h.leaves h.count (h.pending ++ a) b
  simp only [List.append_assoc] at this
  simp only [update, this]

/-- No octets are read at once. -/
theorem Hasher.empty_update_nil : Hasher.empty.update [] = .empty := by
  simp [update, empty, absorb_eq]

theorem Hasher.foldl_update (h : Hasher) (a : Bytes) (pieces : List Bytes) :
    pieces.foldl Hasher.update (h.update a) = h.update (a ++ pieces.flatten) := by
  induction pieces generalizing a with
  | nil => simp
  | cons piece pieces ih => rw [List.foldl_cons, update_append, ih, List.flatten_cons, List.append_assoc]

end Blake3

/-- **What is read in pieces has the digest of the whole,** however it is cut. -/
theorem Digest.ofHasher_foldl_update (pieces : List Bytes) :
    ofHasher (pieces.foldl Blake3.Hasher.update .empty) = of pieces.flatten := by
  have h := Blake3.Hasher.foldl_update .empty [] pieces
  rw [Blake3.Hasher.empty_update_nil] at h
  rw [h, of, List.nil_append]

/-! ## Texts -/

namespace Digest

theorem text_inj {a b : Digest} (h : a.text = b.text) : a = b := by
  have ha := ofText_text a
  rw [h, ofText_text b] at ha
  exact (Except.ok.inj ha).symm

@[simp] theorem length_text (key : Digest) : key.text.toList.length = 64 := by
  simp [text, Text.Hex.encode, Text.Hex.length_encodeList]

/-- The text of a digest is one part of a path. -/
theorem separator_notMem_text (key : Digest) : '/' ∉ key.text.toList := by
  have digit_ne : ∀ n : Fin 16, Text.Hex.digit n ≠ '/' := by decide
  intro hmem
  rw [text, Text.Hex.encode, String.toList_ofList, Text.Hex.encodeList, List.mem_flatMap] at hmem
  obtain ⟨b, -, hb⟩ := hmem
  have hlt := b.toNat_lt
  simp only [Text.Hex.pair, List.mem_cons, List.not_mem_nil, or_false] at hb
  rcases hb with hb | hb
  · exact digit_ne ⟨b.toNat / 16, by omega⟩ hb.symm
  · exact digit_ne ⟨b.toNat % 16, by omega⟩ hb.symm

/-- Texts of 64 digits, of either case. -/
def Written (s : String) : Prop := s.toList.length = 64 ∧ ∀ c ∈ s.toList, Text.Hex.IsDigit c

instance : DecidablePred Written := fun s =>
  inferInstanceAs (Decidable (s.toList.length = 64 ∧ ∀ c ∈ s.toList, Text.Hex.IsDigit c))

theorem ofText_eq_ok_iff_decode {s : String} {key : Digest} :
    ofText s = .ok key ↔ Text.Hex.decode s = .ok key.bytes := by
  unfold ofText
  cases hd : Text.Hex.decode s with
  | error fault => simp
  | ok bytes =>
    simp only [Except.ok.injEq]
    constructor
    · intro h
      split at h
      · rename_i block hblock
        cases h
        exact (Block.ofBytes?_eq_some_iff.mp hblock).symm
      · cases h
    · rintro rfl
      rw [bytes, Block.ofBytes?_bytes]

theorem toList_text (key : Digest) : key.text.toList = Text.Hex.encodeList key.bytes := by
  rw [text, Text.Hex.encode, String.toList_ofList]

theorem length_of_toLower {s : String} {key : Digest} (h : s.toLower = key.text) : s.toList.length = 64 := by
  have hlength := congrArg (fun s : String => s.toList.length) h
  simp only [Text.Hex.toList_toLower, List.length_map, length_text] at hlength
  exact hlength

/-- **A digest is read of a text if that is its own one in lower case.** -/
theorem ofText_eq_ok_iff {s : String} {key : Digest} : ofText s = .ok key ↔ Written s ∧ s.toLower = key.text := by
  rw [ofText_eq_ok_iff_decode, Text.Hex.decode_eq_ok_iff, ← toList_text, String.toList_inj]
  constructor
  · rintro ⟨hdigits, hlower⟩
    exact ⟨⟨length_of_toLower hlower, hdigits⟩, hlower⟩
  · rintro ⟨⟨-, hdigits⟩, hlower⟩
    exact ⟨hdigits, hlower⟩

/-- **The texts that write a digest are those of 64 digits.** -/
theorem exists_ofText_iff {s : String} : (∃ key, ofText s = .ok key) ↔ Written s := by
  constructor
  · rintro ⟨key, h⟩
    exact (ofText_eq_ok_iff.mp h).1
  · rintro ⟨hlength, hdigits⟩
    obtain ⟨bytes, hread, hbytes⟩ := Text.Hex.decode_of_digits hdigits (by rw [hlength])
    have hbytes : bytes.length = 32 := by
      have hdouble := congrArg List.length hbytes
      rw [Text.Hex.length_encodeList, Text.Hex.toList_toLower, List.length_map, hlength] at hdouble
      omega
    exact ⟨⟨bytes, hbytes⟩, ofText_eq_ok_iff_decode.mpr hread⟩

theorem written_text (key : Digest) : Written key.text ∧ key.text.toLower = key.text :=
  ofText_eq_ok_iff.mp (ofText_text key)

end Digest

end RunLedger
