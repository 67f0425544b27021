import Mathlib.Data.List.Infix
import RunLedger.Proofs.Ledger.Path
import RunLedger.Proofs.Storage.Disk

/-!
# Uploads whose steps interleave

Several uploads may be under way in one directory, and their steps come in any order (`Uploads.step`, `Uploads.run`;
`step_cases` says all that a step can do). A step of an upload changes nothing but the two places of its artifact
(`Upload.Confined`), so uploads of different artifacts never meet, and all other files stay as they were (`sound_run`).
Two uploads of the same artifact do meet: they are collected in one file. As long as there is only one (`Alone`), its file
holds what was received (`Upload.Collected`).

* `stored_of_apart`: an artifact whose uploads do not overlap is stored as its digest says, at every moment and whatever
  happens to other artifacts.
* `stored_overlapping`: if they overlap, octets with another digest are stored.
* `receiveUpload_eq_run`: an upload that is received as a whole is the run of its steps.
-/

namespace RunLedger.Ledger

/-- What can happen to the uploads in a directory. -/
inductive UploadStep where
  /-- Announces an artifact and opens a file for it. -/
  | start (key : Digest)
  /-- Sends a piece of the upload with a number. -/
  | send (number : Nat) (bytes : Bytes)
  /-- Ends an upload: it is stored if it has its digest. -/
  | finish (number : Nat)
  /-- Gives an upload up. -/
  | abort (number : Nat)
  deriving DecidableEq

/-- The uploads that were started, without those that are over, and the disk. -/
structure Uploads where
  disk : Disk
  started : List (Option Upload)

namespace Uploads

/-- One step of one upload. Nothing more happens to an upload that is over. -/
def step (directory : String) (s : Uploads) : UploadStep → Uploads
  | .start key =>
    match Upload.start s.disk directory key with
    | .ok (u, d) => ⟨d, s.started ++ [some u]⟩
    | .error _ => ⟨s.disk, s.started ++ [none]⟩
  | .send number bytes =>
    match s.started[number]?.join with
    | some u => ⟨(u.write s.disk bytes).2, s.started.set number (some (u.write s.disk bytes).1)⟩
    | none => s
  | .finish number =>
    match s.started[number]?.join with
    | some u => ⟨(u.finish s.disk directory).2, s.started.set number none⟩
    | none => s
  | .abort number =>
    match s.started[number]?.join with
    | some u => ⟨u.discard s.disk directory, s.started.set number none⟩
    | none => s

/-- Steps in the order in which they happen. -/
def run (directory : String) (s : Uploads) (steps : List UploadStep) : Uploads := steps.foldl (step directory) s

/-- Whether an upload of an artifact is under way. -/
def Busy (s : Uploads) (key : Digest) : Prop := ∃ o ∈ s.started, ∃ u ∈ o, u.key = key

instance (s : Uploads) (key : Digest) : Decidable (s.Busy key) :=
  inferInstanceAs (Decidable (∃ o ∈ s.started, ∃ u ∈ o, u.key = key))

end Uploads

/-! ## What one upload can change -/

namespace Upload

/-- The two places of an artifact: where it is collected and where it is kept. -/
def Site (directory : String) (key : Digest) (path : String) : Prop :=
  path = part directory key ∨ path = target directory key

theorem Site.key_eq {directory path : String} {key key' : Digest} (h : Site directory key path)
    (h' : Site directory key' path) : key = key' := by
  rcases h with rfl | rfl <;> rcases h' with h' | h'
  · exact part_inj h'
  · exact absurd h' (part_ne_target directory key key')
  · exact absurd h'.symm (part_ne_target directory key' key)
  · exact target_inj h'

/-- Nothing changed but at the places of one artifact, and what is there now is new or was there before. -/
structure Confined (directory : String) (key : Digest) (d d' : Disk) : Prop where
  sound : d'.Sound
  length_le : d.inodes.length ≤ d'.inodes.length
  same : ∀ path, ¬Site directory key path → d.Same d' path
  moved : ∀ {path inode}, Site directory key path → d'.names.get? path = some (.file inode) →
    inode < d.inodes.length → ∃ path', Site directory key path' ∧ d.names.get? path' = some (.file inode)

/-- What is kept for a digest, if anything, has this digest. -/
def Genuine (directory : String) (key : Digest) (d : Disk) : Prop :=
  ∀ bytes, d.read (target directory key) = .ok bytes → Digest.of bytes = key

/-- The file of an upload lies where its artifact is collected, and holds what was received. -/
structure Collected (directory : String) (u : Upload) (d : Disk) : Prop where
  entry : d.names.get? (part directory u.key) = some (.file u.inode)
  received_eq : u.received = (d.octets (part directory u.key)).length
  hasher_eq : u.hasher = Blake3.Hasher.empty.update (d.octets (part directory u.key))

/-- What can become of an upload that is under way, and of the disk. -/
inductive Acts (directory : String) (u : Upload) (d : Disk) : Option Upload → Disk → Prop where
  | write (bytes : Bytes) : Acts directory u d (some (u.write d bytes).1) (u.write d bytes).2
  | finish : Acts directory u d none (u.finish d directory).2
  | discard : Acts directory u d none (u.discard d directory)

variable {directory path : String} {key : Digest} {d d' : Disk} {u : Upload} {o : Option Upload}

theorem Confined.refl (hs : d.Sound) : Confined directory key d d where
  sound := hs
  length_le := Nat.le_refl _
  same path _ := .refl d path
  moved {path _} hp he _ := ⟨path, hp, he⟩

/-- Where another artifact lies, all is as it was. -/
theorem Confined.same_of_ne {key' : Digest} (h : Confined directory key d d') (hne : key ≠ key')
    (hp : Site directory key' path) : d.Same d' path := h.same path fun hp' => hne (hp'.key_eq hp)

theorem Genuine.of_same (h : Genuine directory key d) (hs : d.Same d' (target directory key)) :
    Genuine directory key d' := fun bytes hb => h bytes (hs.read_eq ▸ hb)

theorem Collected.of_same (h : u.Collected directory d) (hs : d.Same d' (part directory u.key)) :
    u.Collected directory d' where
  entry := hs.entry.trans h.entry
  received_eq := by rw [hs.octets_eq]; exact h.received_eq
  hasher_eq := by rw [hs.octets_eq]; exact h.hasher_eq

/-- A new upload has a file of its own where its artifact is collected, and nothing was received. -/
theorem start_spec (hs : d.Sound) (h : start d directory key = .ok (u, d')) :
    Confined directory key d d' ∧ u.key = key ∧ u.Collected directory d' ∧ d.Same d' (target directory key) := by
  have he : d.names.get? (part directory key) ≠ some .directory := by
    intro he
    simp [start, Disk.openEmpty, Disk.openFile, he, Except.map] at h
  obtain ⟨inode, d₁, ho, hs', he', hoct, hsame, hinode, hlen⟩ := Disk.openEmpty_spec hs he
  simp only [start, ho, Except.map] at h
  cases h
  refine ⟨⟨hs', hlen, fun path hp => hsame path fun hpath => hp (Or.inl hpath), ?_⟩, rfl, ⟨he', ?_, ?_⟩,
    hsame _ fun ht => part_ne_target directory key key ht.symm⟩
  · intro path i hp hi hlt
    by_cases hpath : path = part directory key
    · subst hpath
      rw [he'] at hi
      cases hi
      rcases hinode with hbefore | hnew
      · exact ⟨_, hp, hbefore⟩
      · omega
    · exact ⟨path, hp, (hsame path hpath).entry ▸ hi⟩
  · rw [hoct]
    rfl
  · rw [hoct, Blake3.Hasher.empty_update_nil]

/-- A piece goes to the file of the upload, whatever its name is by now. -/
theorem write_confined (hs : d.Sound)
    (hu : ∀ path, d.names.get? path = some (.file u.inode) → Site directory u.key path) (bytes : Bytes) :
    Confined directory u.key d (u.write d bytes).2 where
  sound := hs.modify _ _
  length_le := by simp [write, Disk.writeAt, Disk.modify]
  same path hp := Disk.same_modify_of_ne (fun he => hp (hu path he)) _
  moved {path _} hp he _ := ⟨path, hp, he⟩

/-- A piece comes behind what was received, and the artifact stays as it is. -/
theorem Collected.write (h : u.Collected directory d) (hs : d.Sound) (bytes : Bytes) :
    (u.write d bytes).1.Collected directory (u.write d bytes).2 ∧
      d.Same (u.write d bytes).2 (target directory u.key) := by
  obtain ⟨-, he, hoct, hsame⟩ := Disk.writeAt_spec hs h.entry h.received_eq bytes
  refine ⟨⟨he, ?_, ?_⟩, hsame _ fun ht => part_ne_target directory u.key u.key ht.symm⟩
  · show u.received + bytes.length = ((d.writeAt u.inode u.received bytes).octets (part directory u.key)).length
    rw [hoct, List.length_append, h.received_eq]
  · show u.hasher.update bytes =
      Blake3.Hasher.empty.update ((d.writeAt u.inode u.received bytes).octets (part directory u.key))
    rw [hoct, h.hasher_eq, Blake3.Hasher.update_append]

/-- Giving up takes the file away from where it is collected, and leaves the artifact. -/
theorem discard_spec (hs : d.Sound) (u : Upload) (directory : String) :
    Confined directory u.key d (u.discard d directory) ∧ d.Same (u.discard d directory) (target directory u.key) := by
  unfold discard
  cases hr : d.remove (part directory u.key) with
  | error e => exact ⟨.refl hs, .refl d _⟩
  | ok d' =>
    obtain ⟨hs', hnone, hi, hsame⟩ := Disk.remove_spec hs hr
    simp only [Except.toOption, Option.getD_some]
    refine ⟨⟨hs', Nat.le_of_eq (congrArg _ hi.symm), fun path hp => hsame path fun h => hp (Or.inl h), ?_⟩,
      hsame _ fun h => part_ne_target directory u.key u.key h.symm⟩
    intro path i hp he _
    have hne : path ≠ part directory u.key := by
      rintro rfl
      rw [hnone] at he
      cases he
    exact ⟨path, hp, (hsame path hne).entry ▸ he⟩

/-- What is kept after an upload ended is what was kept before, or what was collected, if that has the digest. -/
theorem finish_spec (hs : d.Sound) (u : Upload) (directory : String) :
    Confined directory u.key d (u.finish d directory).2 ∧
      (d.Same (u.finish d directory).2 (target directory u.key) ∨
        Digest.ofHasher u.hasher = u.key ∧
          (u.finish d directory).2.read (target directory u.key) = d.read (part directory u.key)) := by
  unfold finish
  by_cases hkey : Digest.ofHasher u.hasher = u.key
  · simp only [if_pos hkey]
    cases hr : d.rename (part directory u.key) (target directory u.key) with
    | error e => exact ⟨.refl hs, Or.inl (.refl d _)⟩
    | ok d' =>
      obtain ⟨hs', hnone, hnew, hi, hsame⟩ := Disk.rename_spec hs (part_ne_target directory u.key u.key) hr
      refine ⟨⟨hs', Nat.le_of_eq (congrArg _ hi.symm), fun path hp => hsame path (fun h => hp (Or.inl h))
        (fun h => hp (Or.inr h)), ?_⟩, Or.inr ⟨hkey, ?_⟩⟩
      · intro path i hp he _
        rcases hp with rfl | rfl
        · rw [hnone] at he
          cases he
        · exact ⟨_, Or.inl rfl, hnew ▸ he⟩
      · simp only [Disk.read, hnew, Disk.contents, Disk.content, hi]
  · simp only [if_neg hkey]
    obtain ⟨hconfined, hsame⟩ := discard_spec hs u directory
    exact ⟨hconfined, Or.inl hsame⟩

/-- **An upload whose file holds what was received is stored as its digest says, or not at all.** -/
theorem Collected.genuine_finish (h : u.Collected directory d) (hs : d.Sound) (hg : Genuine directory u.key d) :
    Genuine directory u.key (u.finish d directory).2 := by
  rcases (finish_spec hs u directory).2 with hsame | ⟨hkey, hread⟩
  · exact hg.of_same hsame
  · intro bytes hb
    rw [hread] at hb
    rw [← hkey, h.hasher_eq, Disk.octets_of_read hb, Digest.of]

namespace Acts

/-- An upload keeps its artifact and its file. -/
theorem kept (h : Acts directory u d o d') {v : Upload} (ho : o = some v) : v.inode = u.inode ∧ v.key = u.key := by
  cases h with
  | write bytes =>
    cases ho
    exact ⟨rfl, rfl⟩
  | finish => cases ho
  | discard => cases ho

theorem confined (h : Acts directory u d o d') (hs : d.Sound)
    (hu : ∀ path, d.names.get? path = some (.file u.inode) → Site directory u.key path) :
    Confined directory u.key d d' := by
  cases h with
  | write bytes => exact write_confined hs hu bytes
  | finish => exact (finish_spec hs u directory).1
  | discard => exact (discard_spec hs u directory).1

/-- As long as the file holds what was received, it goes on to do so, and the artifact stays in order. -/
theorem collected (h : Acts directory u d o d') (hs : d.Sound) (hc : u.Collected directory d)
    (hg : Genuine directory u.key d) : (∀ v, o = some v → v.Collected directory d') ∧ Genuine directory u.key d' := by
  cases h with
  | write bytes =>
    obtain ⟨hc', hsame⟩ := hc.write hs bytes
    refine ⟨?_, hg.of_same hsame⟩
    rintro v ⟨⟩
    exact hc'
  | finish => exact ⟨fun v ho => (by cases ho), hc.genuine_finish hs hg⟩
  | discard => exact ⟨fun v ho => (by cases ho), hg.of_same (discard_spec hs u directory).2⟩

end Acts

end Upload

namespace Uploads

open Upload

/-! ## What one step does -/

section Step

variable {directory : String} {s : Uploads}

/-- **All that a step can do:** an upload starts, or cannot start, or one that is under way acts, or nothing happens. -/
theorem step_cases (directory : String) (s : Uploads) (step : UploadStep) :
    (∃ key, step = .start key ∧ ∃ u d, Upload.start s.disk directory key = .ok (u, d) ∧
      s.step directory step = ⟨d, s.started ++ [some u]⟩) ∨
    s.step directory step = ⟨s.disk, s.started ++ [none]⟩ ∨
    (∃ number u o d, s.started[number]? = some (some u) ∧ Acts directory u s.disk o d ∧
      s.step directory step = ⟨d, s.started.set number o⟩) ∨
    s.step directory step = s := by
  -- the upload with a number, if it is under way
  have hunder {number : Nat} {u : Upload} (h : s.started[number]?.join = some u) :
      s.started[number]? = some (some u) := Option.join_eq_some_iff.mp h
  cases step with
  | start key =>
    simp only [Uploads.step]
    split
    · rename_i u d hstart
      exact Or.inl ⟨key, rfl, u, d, hstart, rfl⟩
    · exact Or.inr (Or.inl rfl)
  | send number bytes =>
    simp only [Uploads.step]
    split
    · rename_i u hu
      exact Or.inr (Or.inr (Or.inl ⟨number, u, _, _, hunder hu, .write bytes, rfl⟩))
    · exact Or.inr (Or.inr (Or.inr rfl))
  | finish number =>
    simp only [Uploads.step]
    split
    · rename_i u hu
      exact Or.inr (Or.inr (Or.inl ⟨number, u, _, _, hunder hu, .finish, rfl⟩))
    · exact Or.inr (Or.inr (Or.inr rfl))
  | abort number =>
    simp only [Uploads.step]
    split
    · rename_i u hu
      exact Or.inr (Or.inr (Or.inl ⟨number, u, _, _, hunder hu, .discard, rfl⟩))
    · exact Or.inr (Or.inr (Or.inr rfl))

theorem run_concat (directory : String) (s : Uploads) (steps : List UploadStep) (last : UploadStep) :
    s.run directory (steps ++ [last]) = (s.run directory steps).step directory last := by
  simp [run]

end Step

/-! ## Files that are not uploads -/

/-- The file of an upload that is under way has no name but a place of its artifact. -/
structure Sound (directory : String) (s : Uploads) : Prop where
  disk : s.disk.Sound
  inode_lt : ∀ {u}, some u ∈ s.started → u.inode < s.disk.inodes.length
  site : ∀ {u path}, some u ∈ s.started → s.disk.names.get? path = some (.file u.inode) → Site directory u.key path

section Sound

variable {directory : String} {s : Uploads}

/-- Uploads that were under way keep their files to the places of their artifacts. -/
theorem Sound.of_confined {key : Digest} {d : Disk} {us : List (Option Upload)} (h : Sound directory s)
    (hd : Confined directory key s.disk d)
    (hus : ∀ u, some u ∈ us → (∃ v, some v ∈ s.started ∧ u.inode = v.inode ∧ u.key = v.key) ∨
      d.names.get? (part directory u.key) = some (.file u.inode)) : Sound directory ⟨d, us⟩ where
  disk := hd.sound
  inode_lt {u} hu := by
    rcases hus u hu with ⟨v, hv, hi, -⟩ | he
    · rw [hi]
      exact Nat.lt_of_lt_of_le (h.inode_lt hv) hd.length_le
    · exact hd.sound.inode_lt he
  site {u path} hu hpath := by
    rcases hus u hu with ⟨v, hv, hi, hk⟩ | he
    · rw [hi] at hpath
      rw [hk]
      by_cases hp : Site directory key path
      · -- the file was at a place of that artifact before, so it is the same artifact
        obtain ⟨path', hp', he'⟩ := hd.moved hp hpath (h.inode_lt hv)
        rwa [(h.site hv he').key_eq hp']
      · exact h.site hv ((hd.same path hp).entry ▸ hpath)
    · exact Or.inl (hd.sound.inode_inj hpath he)

/-- **Every step keeps the files of uploads apart from all others,** however the steps interleave. -/
theorem sound_step (h : Sound directory s) (step : UploadStep) :
    Sound directory (s.step directory step) ∧
      ∀ path, (∀ key, ¬Site directory key path) → s.disk.Same (s.step directory step).disk path := by
  rcases step_cases directory s step with
    ⟨key, -, u, d, hstart, hs'⟩ | hs' | ⟨number, u, o, d, hu, hacts, hs'⟩ | hs' <;> rw [hs']
  · obtain ⟨hd, -, hc, -⟩ := start_spec h.disk hstart
    refine ⟨h.of_confined hd fun v hv => ?_, fun path hp => hd.same path (hp key)⟩
    rcases List.mem_append.mp hv with hv | hv
    · exact Or.inl ⟨v, hv, rfl, rfl⟩
    · cases List.mem_singleton.mp hv
      exact Or.inr hc.entry
  · refine ⟨⟨h.disk, fun hu => h.inode_lt (by simpa using hu), fun hu => h.site (by simpa using hu)⟩, ?_⟩
    exact fun path _ => .refl _ path
  · have hmem := List.mem_of_getElem? hu
    have hd := hacts.confined h.disk fun path => h.site hmem
    refine ⟨h.of_confined hd fun v hv => Or.inl ?_, fun path hp => hd.same path (hp u.key)⟩
    rcases List.mem_or_eq_of_mem_set hv with hv | hv
    · exact ⟨v, hv, rfl, rfl⟩
    · exact ⟨u, hmem, hacts.kept hv.symm⟩
  · exact ⟨h, fun path _ => .refl _ path⟩

/-- **Uploads change nothing but the places of artifacts,** however they interleave. -/
theorem sound_run (h : Sound directory s) (steps : List UploadStep) :
    Sound directory (s.run directory steps) ∧
      ∀ path, (∀ key, ¬Site directory key path) → s.disk.Same (s.run directory steps).disk path := by
  induction steps using List.reverseRecOn with
  | nil => exact ⟨h, fun path _ => .refl _ path⟩
  | append_singleton steps last ih =>
    rw [run_concat]
    obtain ⟨hs, hsame⟩ := sound_step ih.1 last
    exact ⟨hs, fun path hp => (ih.2 path hp).trans (hsame path hp)⟩

theorem sound_of_idle {d : Disk} (h : d.Sound) (directory : String) : Sound directory ⟨d, []⟩ where
  disk := h
  inode_lt hu := by cases hu
  site hu := by cases hu

end Sound

/-! ## One artifact -/

/-- The uploads of an artifact in one list stand in another list under the same numbers. -/
def Among (key : Digest) (us us' : List (Option Upload)) : Prop :=
  ∀ {i : Nat} {u : Upload}, us[i]? = some (some u) → u.key = key → us'[i]? = some (some u)

/-- At most one upload of an artifact is under way, its file holds what was received, and what is kept has the digest. -/
structure Alone (directory : String) (key : Digest) (s : Uploads) : Prop where
  unique : ∀ {i j : Nat} {u v : Upload}, s.started[i]? = some (some u) → s.started[j]? = some (some v) →
    u.key = key → v.key = key → i = j
  collected : ∀ {i : Nat} {u : Upload}, s.started[i]? = some (some u) → u.key = key → u.Collected directory s.disk
  genuine : Genuine directory key s.disk

section Alone

variable {directory : String} {key : Digest} {s : Uploads} {d : Disk} {us : List (Option Upload)}

theorem among_set {number : Nat} {o : Option Upload} (ho : ∀ u, o = some u → u.key ≠ key) :
    Among key (s.started.set number o) s.started := by
  intro i u hu hk
  rw [List.getElem?_set] at hu
  split at hu
  · split at hu
    · exact absurd hk (ho u (Option.some.inj hu))
    · cases hu
  · exact hu

theorem among_append {o : Option Upload} (ho : ∀ u, o = some u → u.key ≠ key) :
    Among key (s.started ++ [o]) s.started := by
  intro i u hu hk
  rw [List.getElem?_append] at hu
  split at hu
  · exact hu
  · exact absurd hk (ho u (List.mem_singleton.mp (List.mem_of_getElem? hu)).symm)

/-- What happens elsewhere, or to uploads of other artifacts, makes no difference. -/
theorem Alone.of_same (h : Alone directory key s) (hsame : ∀ path, Site directory key path → s.disk.Same d path)
    (hus : Among key us s.started) : Alone directory key ⟨d, us⟩ where
  unique hi hj hu hv := h.unique (hus hi hu) (hus hj hv) hu hv
  collected hi hu := (h.collected (hus hi hu) hu).of_same (hsame _ (Or.inl (hu ▸ rfl)))
  genuine := h.genuine.of_same (hsame _ (Or.inr rfl))

/-- The first upload of an artifact is its only one. -/
theorem Alone.of_start {u : Upload} (hfree : ¬s.Busy key) (hc : u.Collected directory d)
    (hg : Genuine directory key d) : Alone directory key ⟨d, s.started ++ [some u]⟩ := by
  have honly {i : Nat} {v : Upload} (hv : (s.started ++ [some u])[i]? = some (some v)) (hk : v.key = key) :
      i = s.started.length ∧ v = u := by
    rw [List.getElem?_append] at hv
    split at hv
    · exact absurd ⟨_, List.mem_of_getElem? hv, v, rfl, hk⟩ hfree
    · have hi := (List.getElem?_eq_some_iff.mp hv).1
      simp only [List.length_singleton] at hi
      cases List.mem_singleton.mp (List.mem_of_getElem? hv)
      exact ⟨by omega, rfl⟩
  refine ⟨fun hi hj hu hv => (honly hi hu).1.trans (honly hj hv).1.symm, fun hi hu => ?_, hg⟩
  rwa [(honly hi hu).2]

/-- The only upload of an artifact stays its only one, or is over. -/
theorem Alone.of_act {number : Nat} {u : Upload} {o : Option Upload} (h : Alone directory key s)
    (hu : s.started[number]? = some (some u)) (hk : u.key = key) (hc : ∀ v, o = some v → v.Collected directory d)
    (hg : Genuine directory key d) : Alone directory key ⟨d, s.started.set number o⟩ := by
  have honly {i : Nat} {v : Upload} (hv : (s.started.set number o)[i]? = some (some v)) (hkey : v.key = key) :
      i = number ∧ o = some v := by
    rw [List.getElem?_set] at hv
    split at hv
    · rename_i hi
      split at hv
      · exact ⟨hi.symm, Option.some.inj hv⟩
      · cases hv
    · rename_i hne
      exact absurd (h.unique hu hv hk hkey) hne
  exact ⟨fun hi hj hui huj => (honly hi hui).1.trans (honly hj huj).1.symm, fun hi hui => hc _ (honly hi hui).2, hg⟩

/-- **Every step keeps an artifact in order,** unless its upload starts while another one of it is under way. -/
theorem Alone.step (h : Alone directory key s) (hs : Sound directory s) {step : UploadStep}
    (hfree : step = .start key → ¬s.Busy key) : Alone directory key (s.step directory step) := by
  rcases step_cases directory s step with
    ⟨key', rfl, u, d, hstart, hs'⟩ | hs' | ⟨number, u, o, d, hu, hacts, hs'⟩ | hs' <;> rw [hs']
  · obtain ⟨hd, hk, hc, htarget⟩ := start_spec hs.disk hstart
    by_cases hkey : key' = key
    · subst hkey
      exact .of_start (hfree rfl) hc (h.genuine.of_same htarget)
    · refine h.of_same (fun path => hd.same_of_ne hkey) (among_append ?_)
      rintro v ⟨⟩
      exact hk ▸ hkey
  · exact h.of_same (fun path _ => .refl _ path) (among_append fun v ho => by cases ho)
  · by_cases hkey : u.key = key
    · subst hkey
      obtain ⟨hc, hg⟩ := hacts.collected hs.disk (h.collected hu rfl) h.genuine
      exact h.of_act hu rfl hc hg
    · have hd := hacts.confined hs.disk fun path => hs.site (List.mem_of_getElem? hu)
      refine h.of_same (fun path => hd.same_of_ne hkey) (among_set fun v ho => ?_)
      rw [(hacts.kept ho).2]
      exact hkey
  · exact h

/-- **Every run keeps an artifact in order** whose uploads do not overlap. -/
theorem Alone.run (h : Alone directory key s) (hs : Sound directory s) {steps : List UploadStep}
    (hapart : ∀ before, before ++ [.start key] <+: steps → ¬(s.run directory before).Busy key) :
    Alone directory key (s.run directory steps) := by
  induction steps using List.reverseRecOn with
  | nil => exact h
  | append_singleton steps last ih =>
    rw [run_concat]
    refine (ih fun before hb => hapart before (hb.trans (List.prefix_append _ _))).step (sound_run hs steps).1 ?_
    rintro rfl
    exact hapart steps List.prefix_rfl

end Alone

theorem alone_of_idle {disk : Disk} {directory : String} {key : Digest} (h : Genuine directory key disk) :
    Alone directory key ⟨disk, []⟩ where
  unique hi := by cases hi
  collected hi := by cases hi
  genuine := h

/-- **Artifacts match their names as long as the uploads of one artifact do not overlap.** Whatever was stored before,
and however the steps of any number of uploads interleave: if no upload of an artifact starts while another one of it is
under way, then what is stored under its digest has this digest, at every moment. Uploads of other artifacts may overlap,
break off, or send octets that they did not announce. -/
theorem stored_of_apart {disk : Disk} (hs : disk.Sound) {directory : String} {key : Digest}
    (hstored : ∀ bytes, disk.read (target directory key) = .ok bytes → Digest.of bytes = key) {steps : List UploadStep}
    (hapart : ∀ before, before ++ [.start key] <+: steps → ¬((Uploads.mk disk []).run directory before).Busy key) :
    let now := (Uploads.mk disk []).run directory steps
    ∀ bytes, now.disk.read (target directory key) = .ok bytes → Digest.of bytes = key := by
  intro now
  exact ((alone_of_idle hstored).run (sound_of_idle hs directory) hapart).genuine

/-- An artifact in two pieces, among uploads of another one that overlap and send something else. -/
theorem stored_of_apart_interleaved :
    let key := Digest.of [1, 2]
    let other := Digest.of [3]
    let steps : List UploadStep := [.start other, .start key, .send 1 [1], .send 0 [4], .start other, .send 1 [2],
      .finish 0, .send 2 [5], .finish 1, .abort 2]
    let now := (Uploads.mk .empty []).run "d" steps
    Disk.empty.Sound ∧ (∀ bytes, Disk.empty.read (target "d" key) = .ok bytes → Digest.of bytes = key) ∧
      (∀ before, before ++ [.start key] <+: steps → ¬((Uploads.mk .empty []).run "d" before).Busy key) ∧
      now.disk.read (target "d" key) = .ok [1, 2] ∧
      ∀ bytes, now.disk.read (target "d" key) = .ok bytes → Digest.of bytes = key := by
  intro key other steps now
  have hstored (bytes : Bytes) (h : Disk.empty.read (target "d" key) = .ok bytes) : Digest.of bytes = key := by cases h
  have hinits : ∀ before ∈ steps.inits, before ++ [.start key] <+: steps →
      ¬((Uploads.mk .empty []).run "d" before).Busy key := by decide +kernel
  have hapart (before : List UploadStep) (hb : before ++ [.start key] <+: steps) :
      ¬((Uploads.mk .empty []).run "d" before).Busy key :=
    hinits before ((List.mem_inits _ _).mpr ((List.prefix_append _ _).trans hb)) hb
  exact ⟨Disk.sound_empty, hstored, hapart, by decide +kernel, stored_of_apart Disk.sound_empty hstored hapart⟩

/-- The second of two uploads of an artifact empties the file that the first one wrote, and the first one stores it. -/
theorem stored_overlapping :
    let key := Digest.of [1]
    let now := (Uploads.mk .empty []).run "d" [.start key, .send 0 [1], .start key, .finish 0]
    now.disk.read (target "d" key) = .ok [] ∧ Digest.of [] ≠ key := by
  decide +kernel

end Uploads

/-! ## Uploads that are received as a whole -/

/-- What is sent to an upload, and how it ends. -/
def sends (number : Nat) : List UploadChunk → List UploadStep
  | [] => [.finish number]
  | .data bytes :: chunks => .send number bytes :: sends number chunks
  | .metadata _ :: _ => [.abort number]

/-- The steps of an upload that gets a number. -/
def stepsOf (number : Nat) : List UploadChunk → List UploadStep
  | .metadata checksum :: chunks =>
    match Digest.ofText checksum with
    | .ok key => .start key :: sends number chunks
    | .error _ => []
  | _ => []

section Whole

variable {directory : String} {s : Uploads} {number : Nat}

theorem receive_eq_run {u : Upload} (h : s.started[number]? = some (some u)) (chunks : List UploadChunk) :
    (u.receive s.disk directory chunks).2 = (s.run directory (sends number chunks)).disk := by
  induction chunks generalizing s u with
  | nil => simp [Upload.receive, sends, Uploads.run, Uploads.step, h]
  | cons chunk chunks ih =>
    cases chunk with
    | metadata checksum => simp [Upload.receive, sends, Uploads.run, Uploads.step, h]
    | data bytes =>
      have hlt := (List.getElem?_eq_some_iff.mp h).1
      have hstep : s.step directory (.send number bytes) =
          ⟨(u.write s.disk bytes).2, s.started.set number (some (u.write s.disk bytes).1)⟩ := by
        simp [Uploads.step, h]
      have hnext : (s.step directory (.send number bytes)).started[number]? = some (some (u.write s.disk bytes).1) := by
        rw [hstep]
        exact List.getElem?_set_self hlt
      have hrest := ih hnext
      rw [hstep] at hrest
      simp only [sends, Uploads.run, List.foldl_cons, hstep] at hrest ⊢
      exact hrest

/-- Nothing is sent to an upload that could not start. -/
theorem run_sends_of_over (h : s.started[number]?.join = none) (chunks : List UploadChunk) :
    s.run directory (sends number chunks) = s := by
  induction chunks with
  | nil => simp [sends, Uploads.run, Uploads.step, h]
  | cons chunk chunks ih =>
    cases chunk with
    | metadata checksum => simp [sends, Uploads.run, Uploads.step, h]
    | data bytes =>
      have hstep : s.step directory (.send number bytes) = s := by simp [Uploads.step, h]
      simpa only [sends, Uploads.run, List.foldl_cons, hstep] using ih

/-- **An upload that is received as a whole is the run of its steps.** -/
theorem receiveUpload_eq_run (directory : String) (s : Uploads) (chunks : List UploadChunk) :
    (receiveUpload s.disk directory chunks).2 = (s.run directory (stepsOf s.started.length chunks)).disk := by
  cases chunks with
  | nil => rfl
  | cons chunk chunks =>
    cases chunk with
    | data bytes => rfl
    | metadata checksum =>
      simp only [receiveUpload, stepsOf]
      cases hkey : Digest.ofText checksum with
      | error fault => rfl
      | ok key =>
        simp only
        cases hstart : Upload.start s.disk directory key with
        | error e =>
          have hstep : s.step directory (.start key) = ⟨s.disk, s.started ++ [none]⟩ := by simp [Uploads.step, hstart]
          have hover : Uploads.run directory ⟨s.disk, s.started ++ [none]⟩ (sends s.started.length chunks) =
              ⟨s.disk, s.started ++ [none]⟩ := run_sends_of_over (by simp) chunks
          rw [Uploads.run, List.foldl_cons, hstep]
          exact (congrArg Uploads.disk hover).symm
        | ok started =>
          obtain ⟨u, d⟩ := started
          have hstep : s.step directory (.start key) = ⟨d, s.started ++ [some u]⟩ := by simp [Uploads.step, hstart]
          rw [Uploads.run, List.foldl_cons, hstep]
          exact receive_eq_run (s := ⟨d, s.started ++ [some u]⟩) (by simp) chunks

/-- An upload changes nothing but the places of artifacts. -/
theorem receiveUpload_same {d : Disk} (hs : d.Sound) (directory : String) (chunks : List UploadChunk) :
    (receiveUpload d directory chunks).2.Sound ∧
      ∀ path, (∀ key, ¬Upload.Site directory key path) → d.Same (receiveUpload d directory chunks).2 path := by
  rw [receiveUpload_eq_run directory ⟨d, []⟩]
  obtain ⟨hsound, hsame⟩ := Uploads.sound_run (Uploads.sound_of_idle hs directory) (stepsOf 0 chunks)
  exact ⟨hsound.disk, hsame⟩

end Whole

end RunLedger.Ledger
