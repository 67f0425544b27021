import RunLedger.Storage.Disk

/-!
# Files and their octets

On a sound disk every file has an inode of its own (`Sound`), so that a change to one file leaves the others as they
were (`Same`). Each operation is described by what it does to the octets at its path, and by `Same` at all other paths:
`openFile_spec`, `openEmpty_spec`, `append_spec`, `writeAt_spec`, `setLength_spec`, `replace_spec`, `remove_spec`,
`rename_spec`. A change to an inode that a path does not name leaves the path as it was, whoever makes it
(`same_modify_of_ne`).
-/

namespace RunLedger.Disk

/-- Every path to a file names an inode that exists, and no two paths name the same one. -/
structure Sound (d : Disk) : Prop where
  inode_lt : ∀ {path : String} {inode : Nat}, d.names.get? path = some (.file inode) → inode < d.inodes.length
  inode_inj : ∀ {path path' : String} {inode : Nat}, d.names.get? path = some (.file inode) →
    d.names.get? path' = some (.file inode) → path = path'

/-- The path names what it named before, and if that is a file, its octets are those of before. -/
structure Same (d d' : Disk) (path : String) : Prop where
  entry : d'.names.get? path = d.names.get? path
  contents : ∀ {inode : Nat}, d.names.get? path = some (.file inode) → d'.contents inode = d.contents inode

/-- The octets of the file at a path; none if there is no file. -/
def octets (d : Disk) (path : String) : Bytes :=
  match d.names.get? path with
  | some (.file inode) => d.contents inode
  | _ => []

/-- No file has more octets than a 64-bit number counts. -/
def Bounded (d : Disk) : Prop := ∀ b ∈ d.inodes, b.size < UInt64.size

instance : DecidablePred Bounded := fun d => inferInstanceAs (Decidable (∀ b ∈ d.inodes, b.size < UInt64.size))

theorem sound_empty : empty.Sound where
  inode_lt h := by cases h
  inode_inj h := by cases h

/-! ## Octets -/

section Octets

variable {d d' d'' : Disk} {path path' : String} {inode : Nat}

theorem Same.refl (d : Disk) (path : String) : d.Same d path := ⟨rfl, fun _ => rfl⟩

theorem Same.trans (h : d.Same d' path) (h' : d'.Same d'' path) : d.Same d'' path where
  entry := h'.entry.trans h.entry
  contents he := (h'.contents (h.entry.trans he)).trans (h.contents he)

theorem octets_of_file (h : d.names.get? path = some (.file inode)) : d.octets path = d.contents inode := by
  simp [octets, h]

theorem octets_of_absent (h : d.names.get? path = none) : d.octets path = [] := by simp [octets, h]

theorem Same.octets_eq (h : d.Same d' path) : d'.octets path = d.octets path := by
  unfold octets
  rw [h.entry]
  split
  · rename_i he
    exact h.contents he
  · rfl

/-- Reading finds the octets, unless there is a directory or nothing. -/
theorem read_eq (d : Disk) (path : String) : d.read path =
    match d.names.get? path with
    | some (.file _) => .ok (d.octets path)
    | some .directory => .error .isDirectory
    | none => .error .notFound := by
  unfold read octets
  split <;> simp_all

theorem read_of_file (h : d.names.get? path = some (.file inode)) : d.read path = .ok (d.octets path) := by
  rw [read_eq, h]

/-- What is read is what is there. -/
theorem octets_of_read {bytes : Bytes} (h : d.read path = .ok bytes) : d.octets path = bytes := by
  rw [read_eq] at h
  split at h <;> cases h
  rfl

theorem Bounded.length_octets_lt (h : d.Bounded) (path : String) : (d.octets path).length < UInt64.size := by
  unfold octets
  split
  · rename_i inode _
    rw [contents, content, Buffer.length_toList]
    cases hb : d.inodes[inode]? with
    | none => exact (by decide : (0 : Nat) < UInt64.size)
    | some b => exact h b (List.mem_of_getElem? hb)
  · exact (by decide : (0 : Nat) < UInt64.size)

theorem octets_eq_getD (d : Disk) (path : String) : d.octets path = (d.read path).toOption.getD [] := by
  rw [read_eq]
  cases he : d.names.get? path with
  | none => simp [octets_of_absent he, Except.toOption]
  | some entry =>
    cases entry with
    | file inode => rfl
    | directory => simp [octets, he, Except.toOption]

theorem read_of_ne_nil (h : d.octets path ≠ []) : d.read path = .ok (d.octets path) := by
  rw [octets_eq_getD] at h ⊢
  cases hr : d.read path with
  | ok bytes => rfl
  | error e => simp [hr, Except.toOption] at h

theorem Same.read_eq (h : d.Same d' path) : d'.read path = d.read path := by
  rw [Disk.read_eq, Disk.read_eq, h.entry, h.octets_eq]

end Octets

/-! ## Changes to one inode -/

section Modify

variable {d d' : Disk} {path path' : String} {inode : Nat}

theorem Sound.modify (h : d.Sound) (inode : Nat) (f : Buffer → Buffer) : (d.modify inode f).Sound where
  inode_lt he := by simpa [Disk.modify] using h.inode_lt he
  inode_inj he he' := h.inode_inj he he'

theorem contents_modify_ne (d : Disk) {i : Nat} (f : Buffer → Buffer) (h : inode ≠ i) :
    (d.modify inode f).contents i = d.contents i := by
  rw [contents, content_modify, if_neg fun hi => h hi.1]
  rfl

/-- A change to an inode leaves a path as it was that names something else. -/
theorem same_modify_of_ne (hne : d.names.get? path ≠ some (.file inode)) (f : Buffer → Buffer) :
    d.Same (d.modify inode f) path where
  entry := rfl
  contents he := contents_modify_ne d f fun hi => hne (hi ▸ he)

/-- A change to the inode of one path leaves all other paths as they were. -/
theorem Sound.same_modify (h : d.Sound) (he : d.names.get? path = some (.file inode)) (f : Buffer → Buffer)
    (hne : path' ≠ path) : d.Same (d.modify inode f) path' :=
  same_modify_of_ne (fun he' => hne (h.inode_inj he' he)) f

/-- Octets that are appended come behind those that are there. -/
theorem append_spec (h : d.Sound) (he : d.names.get? path = some (.file inode)) (bytes : Bytes) :
    (d.append inode bytes).Sound ∧ (d.append inode bytes).names.get? path = some (.file inode) ∧
      (d.append inode bytes).octets path = d.octets path ++ bytes ∧
      ∀ p, p ≠ path → d.Same (d.append inode bytes) p := by
  have he' : (d.append inode bytes).names.get? path = some (.file inode) := he
  refine ⟨h.modify _ _, he', ?_, fun p hp => h.same_modify he _ hp⟩
  rw [octets_of_file he', octets_of_file he, contents_append, if_pos ⟨rfl, h.inode_lt he⟩]

/-- Octets that are written from the end of a file on come behind those that are there. -/
theorem writeAt_spec (h : d.Sound) (he : d.names.get? path = some (.file inode)) {offset : Nat}
    (ho : offset = (d.octets path).length) (bytes : Bytes) :
    (d.writeAt inode offset bytes).Sound ∧ (d.writeAt inode offset bytes).names.get? path = some (.file inode) ∧
      (d.writeAt inode offset bytes).octets path = d.octets path ++ bytes ∧
      ∀ p, p ≠ path → d.Same (d.writeAt inode offset bytes) p := by
  have he' : (d.writeAt inode offset bytes).names.get? path = some (.file inode) := he
  refine ⟨h.modify _ _, he', ?_, fun p hp => h.same_modify he _ hp⟩
  rw [octets_of_file he] at ho
  rw [octets_of_file he', octets_of_file he, contents_writeAt, if_pos ⟨rfl, h.inode_lt he⟩, ho]
  simp

/-- A file that is cut keeps the octets in front of the cut. -/
theorem setLength_spec (h : d.Sound) (he : d.names.get? path = some (.file inode)) {length : Nat}
    (hl : length ≤ (d.octets path).length) :
    (d.setLength inode length).Sound ∧ (d.setLength inode length).names.get? path = some (.file inode) ∧
      (d.setLength inode length).octets path = (d.octets path).take length ∧
      ∀ p, p ≠ path → d.Same (d.setLength inode length) p := by
  have he' : (d.setLength inode length).names.get? path = some (.file inode) := he
  refine ⟨h.modify _ _, he', ?_, fun p hp => h.same_modify he _ hp⟩
  rw [octets_of_file he] at hl
  rw [octets_of_file he', octets_of_file he, contents_setLength, if_pos ⟨rfl, h.inode_lt he⟩,
    Nat.sub_eq_zero_of_le hl, List.replicate_zero, List.append_nil]

end Modify

/-! ## Changes to names -/

section Names

variable {d d' : Disk} {path path' : String} {inode : Nat}

/-- A file that is opened has the octets that it had; a new one has none. -/
theorem openFile_spec (h : d.Sound) (hd : d.names.get? path ≠ some .directory) :
    ∃ inode d', d.openFile path = .ok (inode, d') ∧ d'.Sound ∧ d'.names.get? path = some (.file inode) ∧
      d'.octets path = d.octets path ∧ ∀ p, p ≠ path → d.Same d' p := by
  cases he : d.names.get? path with
  | some entry =>
    cases entry with
    | file inode => exact ⟨inode, d, by simp [openFile, he], h, he, rfl, fun p _ => Same.refl d p⟩
    | directory => exact absurd he hd
  | none =>
    -- the inode behind all others is new
    let d' : Disk := ⟨d.names.set path (.file d.inodes.length), d.inodes ++ [({} : Buffer)]⟩
    have hget (p : String) : d'.names.get? p = if path = p then some (.file d.inodes.length) else d.names.get? p :=
      OrderedMap.get?_set _ _ _ _
    have hcontents {i : Nat} (hi : i < d.inodes.length) : d'.contents i = d.contents i := by
      simp [contents, content, d', List.getElem?_append_left hi]
    refine ⟨d.inodes.length, d', by simp [openFile, he, d'], ⟨?_, ?_⟩, by simp [hget], ?_, fun p hp => ⟨?_, ?_⟩⟩
    · intro p i hp
      rw [hget] at hp
      simp only [d', List.length_append, List.length_singleton]
      split at hp
      · cases hp
        omega
      · have := h.inode_lt hp
        omega
    · intro p q i hp hq
      rw [hget] at hp hq
      split at hp <;> split at hq
      · rename_i h₁ h₂
        exact h₁.symm.trans h₂
      · cases hp
        exact absurd (h.inode_lt hq) (Nat.lt_irrefl _)
      · cases hq
        exact absurd (h.inode_lt hp) (Nat.lt_irrefl _)
      · exact h.inode_inj hp hq
    · rw [octets_of_file (show d'.names.get? path = some (.file d.inodes.length) by simp [hget]), octets_of_absent he]
      simp [contents, content, d']
    · rw [hget, if_neg (Ne.symm hp)]
    · intro i hi
      exact hcontents (h.inode_lt hi)

/-- A file that is opened anew is empty. Its inode is the one that the path named before, or one that no path named. -/
theorem openEmpty_spec (h : d.Sound) (hd : d.names.get? path ≠ some .directory) :
    ∃ inode d', d.openEmpty path = .ok (inode, d') ∧ d'.Sound ∧ d'.names.get? path = some (.file inode) ∧
      d'.octets path = [] ∧ (∀ p, p ≠ path → d.Same d' p) ∧
      (d.names.get? path = some (.file inode) ∨ inode = d.inodes.length) ∧ d.inodes.length ≤ d'.inodes.length := by
  obtain ⟨inode, d₁, ho, hs₁, he₁, -, hsame₁⟩ := openFile_spec h hd
  obtain ⟨hs₂, he₂, hoct₂, hsame₂⟩ := setLength_spec hs₁ he₁ (Nat.zero_le _)
  refine ⟨inode, d₁.setLength inode 0, by simp only [openEmpty, ho, Except.map], hs₂, he₂, hoct₂,
    fun p hp => (hsame₁ p hp).trans (hsame₂ p hp), ?_⟩
  unfold openFile at ho
  split at ho
  · rename_i he
    cases ho
    exact ⟨Or.inl he, by simp [setLength, Disk.modify]⟩
  · cases ho
  · cases ho
    exact ⟨Or.inr rfl, by simp [setLength, Disk.modify]⟩

/-- A file that is replaced has the new octets and no others. -/
theorem replace_spec (h : d.Sound) (hd : d.names.get? path ≠ some .directory) (bytes : Bytes) :
    ∃ d', d.replace path bytes = .ok d' ∧ d'.Sound ∧ d'.read path = .ok bytes ∧ ∀ p, p ≠ path → d.Same d' p := by
  obtain ⟨inode, d₁, ho, hs₁, he₁, hoct₁, hsame₁, -⟩ := openEmpty_spec h hd
  obtain ⟨hs₂, he₂, hoct₂, hsame₂⟩ := append_spec hs₁ he₁ bytes
  refine ⟨_, by simp only [replace, ho, Except.map], hs₂, ?_, fun p hp => (hsame₁ p hp).trans (hsame₂ p hp)⟩
  rw [read_of_file he₂, hoct₂, hoct₁, List.nil_append]

/-- A name that is taken off a file names nothing. -/
theorem remove_spec (h : d.Sound) (hr : d.remove path = .ok d') :
    d'.Sound ∧ d'.names.get? path = none ∧ d'.inodes = d.inodes ∧ ∀ p, p ≠ path → d.Same d' p := by
  unfold remove at hr
  split at hr
  · cases hr
    have hget (p : String) {entry : Entry} (hp : (d.names.erase path).get? p = some entry) :
        d.names.get? p = some entry := by
      rw [OrderedMap.get?_erase] at hp
      split at hp
      · cases hp
      · exact hp
    refine ⟨⟨fun hp => h.inode_lt (hget _ hp), fun hp hq => h.inode_inj (hget _ hp) (hget _ hq)⟩, by simp, rfl,
      fun p hp => ⟨?_, fun _ => rfl⟩⟩
    rw [OrderedMap.get?_erase, if_neg (Ne.symm hp)]
  · cases hr
  · cases hr

/-- What is renamed is found under the other name, in place of what was there. -/
theorem rename_spec (h : d.Sound) (hne : path ≠ path') (hr : d.rename path path' = .ok d') :
    d'.Sound ∧ d'.names.get? path = none ∧ d'.names.get? path' = d.names.get? path ∧ d'.inodes = d.inodes ∧
      ∀ p, p ≠ path → p ≠ path' → d.Same d' p := by
  unfold rename at hr
  split at hr
  · cases hr
  · cases hr
  · rename_i entry hentry _
    cases hr
    have hget (p : String) : ((d.names.erase path).set path' entry).get? p =
        if path' = p then some entry else if path = p then none else d.names.get? p := by
      rw [OrderedMap.get?_set, OrderedMap.get?_erase]
    refine ⟨⟨fun {p i} hp => ?_, fun {p q i} hp hq => ?_⟩, ?_, ?_, rfl, fun p hp hp' => ⟨?_, fun _ => rfl⟩⟩
    · rw [hget] at hp
      split at hp
      · cases hp
        exact h.inode_lt hentry
      · split at hp
        · cases hp
        · exact h.inode_lt hp
    · -- whoever names the inode is the new name, or named it before
      have hback {p : String} (hp : ((d.names.erase path).set path' entry).get? p = some (.file i)) :
          path' = p ∧ d.names.get? path = some (.file i) ∨ path ≠ p ∧ d.names.get? p = some (.file i) := by
        rw [hget] at hp
        split at hp
        · rename_i he
          cases hp
          exact Or.inl ⟨he, hentry⟩
        · split at hp
          · cases hp
          · rename_i hn
            exact Or.inr ⟨hn, hp⟩
      rcases hback hp with ⟨rfl, hpath⟩ | ⟨hnp, hpath⟩ <;> rcases hback hq with ⟨rfl, hpath'⟩ | ⟨hnq, hpath'⟩
      · rfl
      · exact absurd (h.inode_inj hpath hpath') hnq
      · exact absurd (h.inode_inj hpath' hpath) hnp
      · exact h.inode_inj hpath hpath'
    · rw [hget, if_neg (Ne.symm hne), if_pos rfl]
    · rw [hget, if_pos rfl, hentry]
    · rw [hget, if_neg (Ne.symm hp'), if_neg (Ne.symm hp)]

end Names

end RunLedger.Disk
