import RunLedger.Identifier.Basic

/-!
# Identifiers are told apart by their texts

The hexadecimal digits of octets determine the octets (`encodeList_inj`), and the hyphens of an identifier stand at
fixed places, so two identifiers, or two runs, with the same text are the same (`Uuid.text_inj`, `RunId.text_inj`), and
the text of an identifier is read back (`Uuid.ofText_text`). An operation is its name (`OperationId.name_of_ofText`,
`OperationId.ofText_name`).
-/

namespace RunLedger

theorem Text.Hex.length_encodeList (bytes : Bytes) : (encodeList bytes).length = 2 * bytes.length := by
  induction bytes with
  | nil => rfl
  | cons b bytes ih =>
    have h : encodeList (b :: bytes) = pair b ++ encodeList bytes := rfl
    simp only [h, List.length_append, ih, pair, List.length_cons, List.length_nil]
    omega

theorem Text.Hex.encodeList_inj {a b : Bytes} (h : encodeList a = encodeList b) : a = b := by
  have hd := decode_encode a
  rw [encode, h] at hd
  exact Except.ok.inj (hd.symm.trans (decode_encode b))

theorem Text.Hex.encodeList_append (a b : Bytes) : encodeList (a ++ b) = encodeList a ++ encodeList b :=
  List.flatMap_append

theorem Text.Hex.decodeBytes_flatMap (bytes : Bytes) :
    decodeBytes ((encodeList bytes).flatMap String.utf8EncodeChar) = .ok bytes := by
  have h := decode_encode bytes
  rw [decode, encode, Utf8.encode_eq, String.toList_ofList] at h
  exact h

namespace Uuid

/-- The octets of the five groups make up all octets. -/
theorem groups_append (b : Bytes) :
    b.take 4 ++ ((b.drop 4).take 2 ++ ((b.drop 6).take 2 ++ ((b.drop 8).take 2 ++ b.drop 10))) = b := by
  have h (n k : Nat) : (b.drop n).take k ++ b.drop (n + k) = b.drop n := by
    rw [← List.drop_drop, List.take_append_drop]
  rw [h 8 2, h 6 2, h 4 2, List.take_append_drop]

/-- Sixteen octets are determined by their hyphenated form. -/
theorem hyphenate_inj {a b : Bytes} (ha : a.length = 16) (hb : b.length = 16) (h : hyphenate a = hyphenate b) :
    a = b := by
  simp only [hyphenate, List.append_assoc, List.cons_append] at h
  have digits {xs ys : Bytes} {rest rest' : List Char} (hl : xs.length = ys.length)
      (he : Text.Hex.encodeList xs ++ rest = Text.Hex.encodeList ys ++ rest') : xs = ys ∧ rest = rest' := by
    have := List.append_inj he (by simp [Text.Hex.length_encodeList, hl])
    exact ⟨Text.Hex.encodeList_inj this.1, this.2⟩
  obtain ⟨h₁, h⟩ := digits (by simp [ha, hb]) h
  obtain ⟨h₂, h⟩ := digits (by simp [ha, hb]) (List.cons.inj h).2
  obtain ⟨h₃, h⟩ := digits (by simp [ha, hb]) (List.cons.inj h).2
  obtain ⟨h₄, h⟩ := digits (by simp [ha, hb]) (List.cons.inj h).2
  have h₅ := Text.Hex.encodeList_inj (List.cons.inj h).2
  rw [← groups_append a, ← groups_append b, h₁, h₂, h₃, h₄, h₅]

theorem text_inj {a b : Uuid} (h : a.text = b.text) : a = b := by
  have hb : a.bytes = b.bytes := hyphenate_inj a.block.length_bytes b.block.length_bytes (String.ofList_injective h)
  obtain ⟨a⟩ := a
  obtain ⟨b⟩ := b
  exact congrArg Uuid.mk (Block.ext hb)

/-- Groups of digits with hyphens between them are put together. -/
theorem hyphenated?_groups {a b c d e : Bytes} (ha : a.length = 8) (hb : b.length = 4) (hc : c.length = 4)
    (hd : d.length = 4) (he : e.length = 12) :
    hyphenated? (a ++ 45 :: (b ++ 45 :: (c ++ 45 :: (d ++ 45 :: e)))) = bare? (a ++ b ++ c ++ d ++ e) := by
  rw [hyphenated?]
  simp [List.drop_append, List.drop_eq_nil_of_le, ha, hb, hc, hd, he]

/-- **A written identifier is read back.** -/
theorem ofText_text (u : Uuid) : ofText u.text = .ok u := by
  have hlength : u.bytes.length = 16 := u.block.length_bytes
  have hgroup (b : Bytes) : ((Text.Hex.encodeList b).flatMap String.utf8EncodeChar).length = 2 * b.length :=
    Text.Hex.length_flatMap_encodeList b
  have hoctets : Text.Utf8.encode u.text = (Text.Hex.encodeList (u.bytes.take 4)).flatMap String.utf8EncodeChar ++
      45 :: ((Text.Hex.encodeList ((u.bytes.drop 4).take 2)).flatMap String.utf8EncodeChar ++
      45 :: ((Text.Hex.encodeList ((u.bytes.drop 6).take 2)).flatMap String.utf8EncodeChar ++
      45 :: ((Text.Hex.encodeList ((u.bytes.drop 8).take 2)).flatMap String.utf8EncodeChar ++
      45 :: (Text.Hex.encodeList (u.bytes.drop 10)).flatMap String.utf8EncodeChar))) := by
    have hhyphen : String.utf8EncodeChar '-' = [45] := by decide
    simp only [Text.Utf8.encode_eq, text, hyphenate, String.toList_ofList, List.flatMap_append, List.flatMap_cons,
      List.append_assoc, hhyphen, List.cons_append, List.nil_append]
  have hcount : (Text.Utf8.encode u.text).length = 36 := by
    rw [hoctets]
    simp [hgroup, hlength]
  have hread : hyphenated? (Text.Utf8.encode u.text) = some u := by
    rw [hoctets, hyphenated?_groups (by simp [hgroup, hlength]) (by simp [hgroup, hlength]) (by simp [hgroup, hlength])
      (by simp [hgroup, hlength]) (by simp [hgroup, hlength])]
    simp only [← List.flatMap_append, ← Text.Hex.encodeList_append, List.append_assoc, groups_append]
    rw [bare?, Text.Hex.decodeBytes_flatMap]
    exact congrArg (Option.map Uuid.mk) (Block.ofBytes?_bytes u.block)
  simp only [ofText, hcount, hread]

end Uuid

theorem RunId.text_inj {a b : RunId} (h : a.text = b.text) : a = b := by
  have hc := List.append_cancel_left (String.ofList_injective h)
  obtain ⟨a⟩ := a
  obtain ⟨b⟩ := b
  exact congrArg RunId.mk (Uuid.text_inj (String.toList_injective hc))

/-- What an operation is called is the text that it was read from. -/
theorem OperationId.name_of_ofText {text : String} {id : OperationId} (h : ofText text = .ok id) : id.name = text := by
  unfold ofText at h
  split at h
  · cases h
  · split at h
    · cases h
    · cases h
      rfl

/-- The name of an operation names it. -/
theorem OperationId.ofText_name (id : OperationId) : ofText id.name = .ok id := by
  rw [ofText, dif_neg id.ne_empty, dif_neg id.separator_notMem]

end RunLedger
