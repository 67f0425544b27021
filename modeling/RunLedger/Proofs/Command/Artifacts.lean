import RunLedger.Command
import RunLedger.Proofs.Ledger.Chunks
import RunLedger.Proofs.Ledger.Storing

/-!
# Digests that commands print

A file is stored in slices, under the digest of the whole, and the digest of a file is computed from slices, too. The
slices make up the file (`slices_spec`), and the digest does not depend on them, so an upload always delivers what it
announces (`upload_sent`).

* `upload_agrees_with_checksum`: a file is stored under the digest that is printed for it, and found again.
-/

namespace RunLedger

open Ledger (Config Accepted parts)

/-- **An upload of octets under their own digest is accepted,** if no directory is in the way. -/
theorem Ledger.upload_sent {l : Ledger} (hs : l.disk.Sound) (hc : l.config.Clear l.disk) (bytes : Bytes) :
    ∃ id, (l.upload (Command.sent bytes)).1 = .ok id ∧
      Accepted l (l.upload (Command.sent bytes)).2 id (Digest.of bytes) bytes := by
  have hdelivers : Upload.Delivers (Command.sent bytes) (Digest.of bytes) bytes :=
    ⟨_, _, rfl, Digest.ofText_text _, flatten_parts _ _, rfl⟩
  obtain ⟨id, key, bytes', h, hok, haccepted⟩ | ⟨-, hn, -⟩ := upload_cases hs hc (Command.sent bytes)
  · obtain ⟨-, hbytes, hdigest⟩ := Upload.delivers_iff.mp h
    rw [flatten_parts] at hbytes
    subst hbytes
    subst hdigest
    exact ⟨id, hok, haccepted⟩
  · exact absurd hdelivers (hn _ _)

/-- An accepted upload is found by whoever opens a ledger on the same root. -/
theorem Ledger.Accepted.artifact_of_root {l l' : Ledger} {id : RunId} {key : Digest} {bytes : Bytes}
    (h : Accepted l l' id key bytes) {c : Config} (hroot : c.root = l.config.root) (clock : Clock) :
    (Ledger.start c l'.disk clock).artifact id = .ok (l.config.artifactPath key) := by
  have hroot' : c.root = l'.config.root := by
    rw [h.config_eq]
    exact hroot
  have hfiled : (Ledger.start c l'.disk clock).Filed id key := h.filed.of_same hroot' (.refl _ _) (.refl _ _)
  have hpath : c.artifactPath key = l.config.artifactPath key := by
    rw [Config.artifactPath, Config.artifactPath, Config.uploadsDirectory_eq_of_root hroot]
  rw [hfiled.artifact_eq]
  exact congrArg Except.ok hpath

namespace Command

theorem file_of_read {d : Disk} {path : String} {bytes : Bytes} (hread : d.read path = .ok bytes) :
    file d path = .ok bytes := by
  rw [file, hread]
  rfl

theorem pieceLength_pos : 0 < pieceLength := by decide

/-- **The slices of a file make it up.** All but the last have the same length, and none is empty or longer. -/
theorem slices_spec (bytes : Bytes) :
    (parts pieceLength bytes).flatten = bytes ∧
      (∀ slice ∈ parts pieceLength bytes, slice ≠ [] ∧ slice.length ≤ pieceLength) ∧
      (∀ slice ∈ (parts pieceLength bytes).dropLast, slice.length = pieceLength) ∧
      (parts pieceLength bytes).length = (bytes.length + pieceLength - 1) / pieceLength := by
  by_cases hne : bytes = []
  · have hnone : parts pieceLength bytes = [] := by rw [hne, parts]
    refine ⟨Ledger.flatten_parts _ _, ?_, ?_, Ledger.length_parts pieceLength_pos bytes⟩
    · rw [hnone]
      exact fun slice hslice => absurd hslice List.not_mem_nil
    · rw [hnone]
      exact fun slice hslice => absurd hslice List.not_mem_nil
  · obtain ⟨front, last, hparts, hfront, hlast, hle⟩ := Ledger.parts_concat pieceLength_pos hne
    refine ⟨Ledger.flatten_parts _ _, ?_, ?_, Ledger.length_parts pieceLength_pos bytes⟩
    · rw [hparts]
      intro slice hslice
      rcases List.mem_append.mp hslice with hslice | hslice
      · refine ⟨?_, Nat.le_of_eq (hfront slice hslice)⟩
        rintro rfl
        exact absurd (hfront [] hslice) (by decide)
      · rw [List.mem_singleton.mp hslice]
        exact ⟨hlast, hle⟩
    · rw [hparts, List.dropLast_concat]
      exact hfront

/-- The digest that is computed piece by piece is that of the whole. -/
theorem digest_eq (bytes : Bytes) : digest bytes = Digest.of bytes := by
  rw [digest, Digest.ofHasher_foldl_update, Ledger.flatten_parts]

/-- What the upload of a file that can be read comes to. -/
theorem run_upload {d : Disk} {path : String} {bytes : Bytes} (hread : d.read path = .ok bytes) (clock : Clock)
    (root : String) {id : RunId}
    (hok : ((Ledger.start (.rootedAt root) d clock).upload (sent bytes)).1 = .ok id) :
    run d clock (.upload root path) = (.ok [(Digest.of bytes).text ++ " " ++ id.text],
      ((Ledger.start (.rootedAt root) d clock).upload (sent bytes)).2.disk) := by
  simp only [run, file_of_read hread, hok]
  rfl

theorem run_checksum {d : Disk} {path : String} {bytes : Bytes} (hread : d.read path = .ok bytes) (clock : Clock) :
    run d clock (.checksum path) = (.ok [(Digest.of bytes).text], d) := by
  rw [← digest_eq]
  simp only [run, file_of_read hread]
  rfl

/-- **A file is stored under the digest that is printed for it.** Whatever the file holds, as long as no directory is in
the way:

* The upload succeeds and prints a digest and an identifier, and for the same file the digest alone is printed, which
  comes to the same from whatever pieces the file is read in.
* The artifact under this digest is the file, octet by octet, and whoever opens a ledger on the same root finds it under
  the identifier.
* The slices that were sent, as many as it takes, make up the file. -/
theorem upload_agrees_with_checksum {d : Disk} (hs : d.Sound) {root : String} (hc : (Config.rootedAt root).Clear d)
    {path : String} {bytes : Bytes} (hread : d.read path = .ok bytes) (clock clock' : Clock) :
    (∃ (key : Digest) (id : RunId) (after : Disk),
      run d clock (.upload root path) = (.ok [key.text ++ " " ++ id.text], after) ∧
      run d clock' (.checksum path) = (.ok [key.text], d) ∧
      (∀ pieces : List Bytes, pieces.flatten = bytes → .ofHasher (pieces.foldl Blake3.Hasher.update .empty) = key) ∧
      after.read ((Config.rootedAt root).artifactPath key) = .ok bytes ∧
      ∀ c : Config, c.root = root → ∀ clock'',
        (Ledger.start c after clock'').artifact id = .ok ((Config.rootedAt root).artifactPath key)) ∧
    ∃ slices : List Bytes, sent bytes = .metadata (Digest.of bytes).text :: slices.map .data ∧
      slices.flatten = bytes ∧ (∀ slice ∈ slices, slice ≠ [] ∧ slice.length ≤ pieceLength) ∧
      (∀ slice ∈ slices.dropLast, slice.length = pieceLength) ∧
      slices.length = (bytes.length + pieceLength - 1) / pieceLength := by
  obtain ⟨id, hok, haccepted⟩ := Ledger.upload_sent (l := Ledger.start (.rootedAt root) d clock) hs hc bytes
  refine ⟨⟨Digest.of bytes, id, _, run_upload hread clock root hok, run_checksum hread clock', ?_, haccepted.read_eq,
    ?_⟩, _, rfl, slices_spec bytes⟩
  · rintro pieces rfl
    exact Digest.ofHasher_foldl_update pieces
  · rintro c hroot clock''
    exact haccepted.artifact_of_root hroot clock''

/-- A disk can hold any file where no directory is. -/
theorem exists_holding (path : String) (bytes : Bytes) :
    ∃ d : Disk, d.Sound ∧ (∀ c : Config, c.Clear d) ∧ d.read path = .ok bytes := by
  have hempty : Disk.empty.names.get? path ≠ some .directory := by
    intro he
    cases he
  obtain ⟨d, -, hs, hread, hsame⟩ := Disk.replace_spec Disk.sound_empty hempty bytes
  have hfree (p : String) : d.names.get? p ≠ some .directory := by
    by_cases hp : p = path
    · rw [hp]
      exact Disk.ne_directory_of_read hread
    · rw [(hsame p hp).entry]
      intro he
      cases he
  exact ⟨d, hs, fun c => ⟨fun _ p _ => hfree p, fun id => hfree _⟩, hread⟩

/-- A file of one whole slice and an octet more. -/
theorem upload_agrees_with_checksum_two_slices :
    ∃ d : Disk, d.Sound ∧ (Config.rootedAt "root").Clear d ∧ d.read "file" = .ok (List.replicate 65537 7) ∧
      (∃ (key : Digest) (id : RunId) (after : Disk),
        run d ⟨default, 0⟩ (.upload "root" "file") = (.ok [key.text ++ " " ++ id.text], after) ∧
        run d ⟨default, 1⟩ (.checksum "file") = (.ok [key.text], d) ∧
        after.read ((Config.rootedAt "root").artifactPath key) = .ok (List.replicate 65537 7)) ∧
      ∃ slices : List Bytes, slices.flatten = List.replicate 65537 7 ∧ slices.length = 2 ∧
        ∀ slice ∈ slices.dropLast, slice.length = 65536 := by
  obtain ⟨d, hs, hc, hread⟩ := exists_holding "file" (List.replicate 65537 7)
  obtain ⟨⟨key, id, after, hupload, hchecksum, -, hstored, -⟩, slices, -, hflatten, -, hfront, hlength⟩ :=
    upload_agrees_with_checksum hs (hc (.rootedAt "root")) hread ⟨default, 0⟩ ⟨default, 1⟩
  rw [List.length_replicate] at hlength
  exact ⟨d, hs, hc _, hread, ⟨key, id, after, hupload, hchecksum, hstored⟩, slices, hflatten, hlength, hfront⟩

end Command

end RunLedger
