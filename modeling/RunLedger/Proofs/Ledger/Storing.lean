import RunLedger.Proofs.Ledger.Demands

/-!
# What an upload stores

An upload that nothing else meets either stores what was sent, or leaves all artifacts and records as they were; in both
cases nothing is left where its artifact was collected (`Upload.Stored`, `Upload.Dropped`). Which of the two it is depends
on what is sent alone: a digest first, in digits of either case, and then octets that have this digest, however they are
cut (`receiveUpload_spec`). A directory that is in the way is what can go wrong otherwise; no demand makes one
(`clear_meet`).

* `upload_stores`: when an upload is accepted, what is then stored and found again, whatever else is demanded, what a
  refused one leaves, and which files can be touched.
-/

namespace RunLedger

/-- Where something is read there is no directory. -/
theorem Disk.ne_directory_of_read {d : Disk} {path : String} {bytes : Bytes} (h : d.read path = .ok bytes) :
    d.names.get? path ≠ some .directory := by
  intro he
  rw [read_eq, he] at h
  cases h

theorem Disk.contains_of_absent {d : Disk} {path : String} (h : d.names.get? path = none) : d.contains path = false := by
  rw [contains, OrderedMap.contains, h]
  rfl

namespace Ledger

/-! ## Where artifacts are received -/

namespace Upload

/-- What every upload leaves that came to its end. -/
structure Ended (directory : String) (key : Digest) (d d' : Disk) : Prop where
  sound : d'.Sound
  part_eq : d'.names.get? (part directory key) = none
  same : ∀ path, ¬Site directory key path → d.Same d' path

/-- What an upload leaves that was stored. -/
structure Stored (directory : String) (key : Digest) (bytes : Bytes) (d d' : Disk) : Prop
    extends Ended directory key d d' where
  digest_eq : Digest.of bytes = key
  read_eq : d'.read (target directory key) = .ok bytes

/-- What an upload leaves that was not stored. -/
structure Dropped (directory : String) (key : Digest) (d d' : Disk) : Prop extends Ended directory key d d' where
  kept : d.Same d' (target directory key)

variable {directory : String} {key : Digest} {bytes : Bytes} {d d' d'' : Disk} {u : Upload}

/-- What happened before at the places of the artifact makes no difference, if the artifact is as it was. -/
theorem Ended.of_same (h : Ended directory key d d') (hs : ∀ path, ¬Site directory key path → d''.Same d path) :
    Ended directory key d'' d' where
  sound := h.sound
  part_eq := h.part_eq
  same path hp := (hs path hp).trans (h.same path hp)

theorem Collected.digest_eq (h : u.Collected directory d) :
    Digest.ofHasher u.hasher = Digest.of (d.octets (part directory u.key)) := by
  rw [h.hasher_eq, Digest.of]

/-- An upload that is given up is dropped. -/
theorem Collected.dropped_discard (h : u.Collected directory d) (hs : d.Sound) :
    Dropped directory u.key d (u.discard d directory) := by
  obtain ⟨hconfined, hkept⟩ := discard_spec hs u directory
  refine ⟨⟨hconfined.sound, ?_, hconfined.same⟩, hkept⟩
  have hr : d.remove (part directory u.key) = .ok { d with names := d.names.erase (part directory u.key) } := by
    rw [Disk.remove, h.entry]
  rw [discard, hr]
  simp [Except.toOption]

/-- **An upload that ends is stored if it has its digest,** and is dropped if not. -/
theorem Collected.finish_cases (h : u.Collected directory d) (hs : d.Sound)
    (ht : d.names.get? (target directory u.key) ≠ some .directory) :
    let bytes := d.octets (part directory u.key)
    ((u.finish d directory).1 = .ok u.key ∧ Stored directory u.key bytes d (u.finish d directory).2) ∨
      (∃ e, (u.finish d directory).1 = .error e) ∧ Digest.of bytes ≠ u.key ∧
        Dropped directory u.key d (u.finish d directory).2 := by
  intro bytes
  have hdigest := h.digest_eq
  obtain ⟨hconfined, -⟩ := finish_spec hs u directory
  by_cases hkey : Digest.ofHasher u.hasher = u.key
  · left
    have hr : ∃ d', d.rename (part directory u.key) (target directory u.key) = .ok d' := by
      rw [Disk.rename, h.entry]
      split
      · rename_i hnone
        cases hnone
      · rename_i hdirectory
        exact absurd hdirectory ht
      · exact ⟨_, rfl⟩
    obtain ⟨d', hr⟩ := hr
    obtain ⟨hs', hnone, hnew, hi, hsame⟩ := Disk.rename_spec hs (part_ne_target directory u.key u.key) hr
    have hfinish : u.finish d directory = (.ok u.key, d') := by simp only [finish, if_pos hkey, hr]
    rw [hfinish]
    refine ⟨rfl, ⟨hs', hnone, fun path hp => hsame path (fun he => hp (Or.inl he)) fun he => hp (Or.inr he)⟩, ?_, ?_⟩
    · rw [← hdigest, hkey]
    · have hread : d'.read (target directory u.key) = d.read (part directory u.key) := by
        simp only [Disk.read, hnew, Disk.contents, Disk.content, hi]
      rw [hread, Disk.read_of_file h.entry]
  · right
    have hfinish : u.finish d directory =
        (.error (.checksumMismatch u.key (Digest.ofHasher u.hasher)), u.discard d directory) := by
      simp only [finish, if_neg hkey]
    rw [hfinish]
    exact ⟨⟨_, rfl⟩, fun he => hkey (hdigest.trans he), h.dropped_discard hs⟩

/-- **What is sent behind an announcement is stored if it is octets that have the digest, together with those that were
received,** and is dropped if not. -/
theorem Collected.receive_cases (h : u.Collected directory d) (hs : d.Sound)
    (ht : d.names.get? (target directory u.key) ≠ some .directory) (chunks : List UploadChunk) :
    let received := d.octets (part directory u.key)
    (∃ sent : List Bytes, chunks = sent.map .data ∧ (u.receive d directory chunks).1 = .ok u.key ∧
        Stored directory u.key (received ++ sent.flatten) d (u.receive d directory chunks).2) ∨
      (∃ e, (u.receive d directory chunks).1 = .error e) ∧
        (∀ sent : List Bytes, chunks = sent.map .data → Digest.of (received ++ sent.flatten) ≠ u.key) ∧
        Dropped directory u.key d (u.receive d directory chunks).2 := by
  intro received
  induction chunks generalizing u d with
  | nil =>
    obtain ⟨hok, hstored⟩ | ⟨herror, hne, hdropped⟩ := h.finish_cases hs ht
    · rw [← List.append_nil (d.octets (part directory u.key))] at hstored
      exact Or.inl ⟨[], rfl, hok, hstored⟩
    · refine Or.inr ⟨herror, fun sent hsent => ?_, hdropped⟩
      obtain rfl := List.map_eq_nil_iff.mp hsent.symm
      rw [List.flatten_nil, List.append_nil]
      exact hne
  | cons chunk chunks ih =>
    cases chunk with
    | metadata checksum =>
      refine Or.inr ⟨⟨_, rfl⟩, fun sent hsent => ?_, h.dropped_discard hs⟩
      cases sent <;> cases hsent
    | data bytes =>
      -- the piece comes behind what was received, and the rest goes on from there
      obtain ⟨hs', -, hoctets, hsame⟩ := Disk.writeAt_spec hs h.entry h.received_eq bytes
      obtain ⟨h', hkept⟩ := h.write hs bytes
      have hreceived : (u.write d bytes).2.octets (part directory u.key) = received ++ bytes := hoctets
      have hother (path : String) (hp : ¬Site directory u.key path) : d.Same (u.write d bytes).2 path :=
        hsame path fun he => hp (Or.inl he)
      have ht' : (u.write d bytes).2.names.get? (target directory u.key) ≠ some .directory := by
        rw [hkept.entry]
        exact ht
      obtain ⟨sent, hsent, hok, hstored⟩ | ⟨herror, hne, hdropped⟩ := ih h' hs' ht'
      · refine Or.inl ⟨bytes :: sent, by rw [hsent]; rfl, hok, ?_⟩
        rw [List.flatten_cons, ← List.append_assoc, ← hreceived]
        exact ⟨hstored.toEnded.of_same hother, hstored.digest_eq, hstored.read_eq⟩
      · refine Or.inr ⟨herror, fun sent hsent => ?_, hdropped.toEnded.of_same hother, hkept.trans hdropped.kept⟩
        cases sent with
        | nil => cases hsent
        | cons first sent =>
          cases hsent
          rw [List.flatten_cons, ← List.append_assoc, ← hreceived]
          exact hne sent rfl

/-- What has to be sent so that octets are stored under a digest: a text of the digest, and then the octets in pieces. -/
def Delivers (chunks : List UploadChunk) (key : Digest) (bytes : Bytes) : Prop :=
  ∃ (checksum : String) (sent : List Bytes), chunks = .metadata checksum :: sent.map .data ∧
    Digest.ofText checksum = .ok key ∧ sent.flatten = bytes ∧ Digest.of bytes = key

/-- Whether a digest is announced, whatever is sent then. -/
def Announces (chunks : List UploadChunk) (key : Digest) : Prop :=
  ∃ checksum rest, chunks = .metadata checksum :: rest ∧ Digest.ofText checksum = .ok key

theorem Delivers.announces {chunks : List UploadChunk} (h : Delivers chunks key bytes) : Announces chunks key := by
  obtain ⟨checksum, sent, hchunks, hkey, -⟩ := h
  exact ⟨checksum, _, hchunks, hkey⟩

theorem Announces.key_eq {chunks : List UploadChunk} {key' : Digest} (h : Announces chunks key)
    (h' : Announces chunks key') : key = key' := by
  obtain ⟨checksum, rest, rfl, hkey⟩ := h
  obtain ⟨checksum', rest', hchunks, hkey'⟩ := h'
  cases hchunks
  rw [hkey] at hkey'
  exact Except.ok.inj hkey'

/-- If no digest is announced, nothing happens. -/
theorem receiveUpload_of_not_announced {chunks : List UploadChunk} (h : ∀ key, ¬Announces chunks key) (d : Disk)
    (directory : String) : ∃ e, receiveUpload d directory chunks = (.error e, d) := by
  cases chunks with
  | nil => exact ⟨_, rfl⟩
  | cons chunk chunks =>
    cases chunk with
    | data bytes => exact ⟨_, rfl⟩
    | metadata checksum =>
      cases hkey : Digest.ofText checksum with
      | error fault => exact ⟨.invalidChecksum fault, by simp only [receiveUpload, hkey]⟩
      | ok key => exact absurd ⟨checksum, chunks, rfl, hkey⟩ (h key)

theorem delivers_iff {checksum : String} {sent : List Bytes} :
    Delivers (.metadata checksum :: sent.map .data) key bytes ↔
      Digest.ofText checksum = .ok key ∧ sent.flatten = bytes ∧ Digest.of bytes = key := by
  constructor
  · rintro ⟨checksum', sent', hchunks, h⟩
    have hpieces : sent.map UploadChunk.data = sent'.map .data := (List.cons.inj hchunks).2
    rw [List.map_inj_right fun _ _ he => UploadChunk.data.inj he] at hpieces
    cases (List.cons.inj hchunks).1
    rw [hpieces]
    exact h
  · intro h
    exact ⟨checksum, sent, rfl, h⟩

/-- **What is sent is stored if it is a digest and octets that have it.** If not, nothing changes but that what was left
where the announced artifact is collected is gone. -/
theorem receiveUpload_cases (hs : d.Sound)
    (hclear : ∀ key path, Site directory key path → d.names.get? path ≠ some .directory) (chunks : List UploadChunk) :
    (∃ key bytes, Delivers chunks key bytes ∧ (receiveUpload d directory chunks).1 = .ok key ∧
        Stored directory key bytes d (receiveUpload d directory chunks).2) ∨
      (∃ e, (receiveUpload d directory chunks).1 = .error e) ∧ (∀ key bytes, ¬Delivers chunks key bytes) ∧
        ((∀ key, ¬Announces chunks key) ∧ (receiveUpload d directory chunks).2 = d ∨
          ∃ key, Announces chunks key ∧ Dropped directory key d (receiveUpload d directory chunks).2) := by
  by_cases hannounced : ∃ key, Announces chunks key
  · obtain ⟨key, hannounces⟩ := hannounced
    obtain ⟨checksum, rest, rfl, hkey⟩ := id hannounces
    -- an empty file is opened for the artifact, and the rest of the chunks goes there
    obtain ⟨inode, d₁, hopen, -⟩ := Disk.openEmpty_spec hs (hclear key _ (Or.inl rfl))
    have hstart : start d directory key = .ok (⟨key, inode, 0, .empty⟩, d₁) := by
      rw [start, hopen]
      rfl
    obtain ⟨hconfined, -, hcollected, hkept⟩ := start_spec hs hstart
    have hempty : d₁.octets (part directory key) = [] := List.length_eq_zero_iff.mp hcollected.received_eq.symm
    have htarget : d₁.names.get? (target directory key) ≠ some .directory := by
      rw [hkept.entry]
      exact hclear key _ (Or.inr rfl)
    have hreceive : receiveUpload d directory (.metadata checksum :: rest) =
        Upload.receive ⟨key, inode, 0, .empty⟩ d₁ directory rest := by
      simp only [receiveUpload, hkey, hstart]
    rw [hreceive]
    obtain ⟨sent, rfl, hok, hstored⟩ | ⟨herror, hne, hdropped⟩ :=
      hcollected.receive_cases hconfined.sound htarget rest
    · rw [hempty, List.nil_append] at hstored
      exact Or.inl ⟨key, sent.flatten, ⟨checksum, sent, rfl, hkey, rfl, hstored.digest_eq⟩, hok,
        hstored.toEnded.of_same hconfined.same, hstored.digest_eq, hstored.read_eq⟩
    · refine Or.inr ⟨herror, ?_, Or.inr ⟨key, hannounces, hdropped.toEnded.of_same hconfined.same,
        hkept.trans hdropped.kept⟩⟩
      rintro key' bytes hdelivers
      obtain rfl := hdelivers.announces.key_eq hannounces
      obtain ⟨checksum', sent, hchunks, -, rfl, hdigest⟩ := hdelivers
      cases hchunks
      refine hne sent rfl ?_
      rw [hempty, List.nil_append]
      exact hdigest
  · have hn : ∀ key, ¬Announces chunks key := fun key h => hannounced ⟨key, h⟩
    obtain ⟨e, he⟩ := receiveUpload_of_not_announced hn d directory
    rw [he]
    exact Or.inr ⟨⟨e, rfl⟩, fun key bytes h => hn key h.announces, Or.inl ⟨hn, rfl⟩⟩

end Upload

/-! ## Where a ledger keeps artifacts and their records -/

/-- The files that uploads need are files, if anything. -/
structure Config.Clear (c : Config) (d : Disk) : Prop where
  site : ∀ key path, Upload.Site c.uploadsDirectory key path → d.names.get? path ≠ some .directory
  record : ∀ run, d.names.get? (c.recordPath run) ≠ some .directory

theorem Config.uploadsDirectory_eq_of_root {c c' : Config} (h : c.root = c'.root) :
    c.uploadsDirectory = c'.uploadsDirectory := by
  simp only [uploadsDirectory, h]

theorem Config.recordPath_eq_of_root {c c' : Config} (h : c.root = c'.root) (run : RunId) :
    c.recordPath run = c'.recordPath run := by
  simp only [recordPath, runsDirectory, h]

theorem Config.Clear.of_root {c c' : Config} {d : Disk} (h : c.Clear d) (hroot : c'.root = c.root) : c'.Clear d where
  site key path hp := by
    rw [Config.uploadsDirectory_eq_of_root hroot] at hp
    exact h.site key path hp
  record run := by
    rw [Config.recordPath_eq_of_root hroot]
    exact h.record run

/-- No record of an upload lies at a place of an artifact. -/
theorem Config.not_site_recordPath (c : Config) (key : Digest) (run : RunId) :
    ¬Upload.Site c.uploadsDirectory key (c.recordPath run) := by
  intro h
  rcases h with h | h
  · exact c.part_ne_recordPath key run h.symm
  · exact c.target_ne_recordPath key run h.symm

open Upload (Site Delivers Announces part target)

/-- What an upload leaves that is accepted under an identifier. -/
structure Accepted (l l' : Ledger) (run : RunId) (key : Digest) (bytes : Bytes) : Prop where
  sound : l'.disk.Sound
  config_eq : l'.config = l.config
  digest_eq : Digest.of bytes = key
  part_eq : l'.disk.names.get? (part l.config.uploadsDirectory key) = none
  read_eq : l'.disk.read (target l.config.uploadsDirectory key) = .ok bytes
  record_eq : l'.disk.read (l.config.recordPath run) = .ok (Text.Utf8.encode key.text)
  same : ∀ path, ¬Site l.config.uploadsDirectory key path → path ≠ l.config.recordPath run → l.disk.Same l'.disk path

/-- What an upload leaves that is refused. -/
structure Refused (l l' : Ledger) (chunks : List UploadChunk) : Prop where
  sound : l'.disk.Sound
  config_eq : l'.config = l.config
  part_eq : ∀ key, Announces chunks key → l'.disk.names.get? (part l.config.uploadsDirectory key) = none
  same : ∀ path, (∀ key, Announces chunks key → path ≠ part l.config.uploadsDirectory key) →
    l.disk.Same l'.disk path

section

variable {l l' : Ledger} {run run' : RunId} {key key' : Digest} {bytes : Bytes} {chunks : List UploadChunk}

/-- **An upload is accepted exactly if a digest and octets that have it are sent.** -/
theorem upload_cases (hs : l.disk.Sound) (hc : l.config.Clear l.disk) (chunks : List UploadChunk) :
    (∃ run key bytes, Delivers chunks key bytes ∧ (l.upload chunks).1 = .ok run ∧
        Accepted l (l.upload chunks).2 run key bytes) ∨
      (∃ e, (l.upload chunks).1 = .error e) ∧ (∀ key bytes, ¬Delivers chunks key bytes) ∧
        Refused l (l.upload chunks).2 chunks := by
  have hcases := Upload.receiveUpload_cases hs hc.site chunks
  cases hreceived : receiveUpload l.disk l.config.uploadsDirectory chunks with
  | mk result d =>
    rw [hreceived] at hcases
    obtain ⟨key, bytes, hdelivers, hok, hstored⟩ | ⟨⟨e, he⟩, hn, hleft⟩ := hcases
    · left
      have hsame := hstored.same (l.config.recordPath ⟨l.clock.stamp.id.uuid⟩) (l.config.not_site_recordPath key _)
      have hfree : d.names.get? (l.config.recordPath ⟨l.clock.stamp.id.uuid⟩) ≠ some .directory := by
        rw [hsame.entry]
        exact hc.record _
      obtain ⟨d', hreplace, hs', hrecord, hother⟩ :=
        Disk.replace_spec hstored.sound hfree (Text.Utf8.encode key.text)
      have hsite (path : String) (hp : Site l.config.uploadsDirectory key path) : d.Same d' path :=
        hother path fun he => l.config.not_site_recordPath key _ (he ▸ hp)
      cases hok
      have hupload : l.upload chunks =
          (.ok ⟨l.clock.stamp.id.uuid⟩, { l with disk := d', clock := l.clock.next }) := by
        simp only [upload, hreceived, hreplace]
      rw [hupload]
      refine ⟨_, key, bytes, hdelivers, rfl, hs', rfl, hstored.digest_eq, ?_, ?_, hrecord, ?_⟩
      · exact (hsite _ (Or.inl rfl)).entry.trans hstored.part_eq
      · exact (hsite _ (Or.inr rfl)).read_eq.trans hstored.read_eq
      · exact fun path hp hp' => (hstored.same path hp).trans (hother path hp')
    · right
      cases he
      have hupload : l.upload chunks = (.error e, { l with disk := d }) := by simp only [upload, hreceived]
      rw [hupload]
      refine ⟨⟨e, rfl⟩, hn, ?_⟩
      obtain ⟨hsilent, rfl⟩ | ⟨key, hannounces, hdropped⟩ := hleft
      · exact ⟨hs, rfl, fun key h => absurd h (hsilent key), fun path _ => .refl _ path⟩
      · refine ⟨hdropped.sound, rfl, fun key' h => ?_, fun path hp => ?_⟩
        · obtain rfl := h.key_eq hannounces
          exact hdropped.part_eq
        · by_cases htarget : path = target l.config.uploadsDirectory key
          · rw [htarget]
            exact hdropped.kept
          · refine hdropped.same path fun hsite => ?_
            exact hsite.elim (hp key hannounces) htarget

/-! ## Whatever else is demanded -/

/-- A request touches nothing but logs. -/
theorem same_serve (h : l.Informed) {r : Request} (hr : ∀ c, r ≠ .restart c) {path : String}
    (hp : ∀ run, path ≠ l.config.logPath run) : l.disk.Same (l.serve r).2.disk path := by
  by_cases hd : ∃ run batch, r = .dispatch run batch
  · obtain ⟨run, batch, rfl⟩ := hd
    have hlog : (l.hold run).1.Right l.disk (l.config.logPath run) := by
      have hright := ((kept_hold l run).informed h).right (l.hold_self run).1
      rwa [disk_hold, config_hold] at hright
    obtain ⟨-, happended⟩ := RunLog.append_appendTo l.suppliedPreamble batch h.sound (h.recoverable run) hlog
    show l.disk.Same (l.dispatch run batch).2.disk path
    rw [(l.dispatch_fields run batch).2.2.1]
    exact happended.same path (hp run)
  · have hkept := kept_serve (r.keeps_of_not_restart hr l.config) fun run batch he => hd ⟨run, batch, he⟩
    rw [hkept.disk_eq]
    exact .refl _ path

/-- **No demand but an upload touches artifacts and their records.** -/
theorem same_meet_request (h : l.Informed) (r : Request) {path : String} (hp : ∀ run, path ≠ l.config.logPath run) :
    l.disk.Same (l.meet (.request r)).disk path := by
  by_cases hr : ∃ c, r = .restart c
  · obtain ⟨c, rfl⟩ := hr
    exact .refl _ path
  · exact same_serve h (fun c hc => hr ⟨c, hc⟩) hp

theorem Accepted.clear (h : Accepted l l' run key bytes) (hc : l.config.Clear l.disk) : l.config.Clear l'.disk where
  site key' path hp := by
    by_cases hsite : Site l.config.uploadsDirectory key path
    · rcases hsite with rfl | rfl
      · rw [h.part_eq]
        exact nofun
      · exact Disk.ne_directory_of_read h.read_eq
    · have hrecord : path ≠ l.config.recordPath run := fun he => l.config.not_site_recordPath key' run (he ▸ hp)
      rw [(h.same path hsite hrecord).entry]
      exact hc.site key' path hp
  record run' := by
    by_cases hr : run' = run
    · rw [hr]
      exact Disk.ne_directory_of_read h.record_eq
    · rw [(h.same _ (l.config.not_site_recordPath key run') fun he => hr (Config.recordPath_inj he)).entry]
      exact hc.record run'

theorem Refused.clear (h : Refused l l' chunks) (hc : l.config.Clear l.disk) : l.config.Clear l'.disk where
  site key path hp := by
    by_cases hpart : ∃ key', Announces chunks key' ∧ path = part l.config.uploadsDirectory key'
    · obtain ⟨key', hannounces, rfl⟩ := hpart
      rw [h.part_eq key' hannounces]
      exact nofun
    · rw [(h.same path fun key' ha he => hpart ⟨key', ha, he⟩).entry]
      exact hc.site key path hp
  record run := by
    rw [(h.same _ fun key _ he => l.config.part_ne_recordPath key run he.symm).entry]
    exact hc.record run

/-- No demand puts a directory in the way of an upload. -/
theorem clear_meet (h : l.Informed) {d : Demand} (hd : d.Rooted l.config.root) (hc : l.config.Clear l.disk) :
    (l.meet d).config.Clear (l.meet d).disk := by
  refine Config.Clear.of_root ?_ (informed_meet h hd).2
  cases d with
  | request r =>
    constructor
    · intro key path hp
      rw [(same_meet_request h r fun run he => l.config.not_site_logPath key run (he ▸ hp)).entry]
      exact hc.site key path hp
    · intro run
      rw [(same_meet_request h r fun run' => l.config.recordPath_ne_logPath run run').entry]
      exact hc.record run
  | upload chunks =>
    obtain ⟨run, key, bytes, -, -, haccepted⟩ | ⟨-, -, hrefused⟩ := upload_cases h.sound hc chunks
    · exact haccepted.clear hc
    · exact hrefused.clear hc

/-- No upload among demands is answered with an identifier. -/
def Withholds (l : Ledger) (run : RunId) (demands : List Demand) : Prop :=
  ∀ before chunks, before ++ [.upload chunks] <+: demands → ((l.meeting before).upload chunks).1 ≠ .ok run

/-- An identifier under which an artifact is found that has the digest that was recorded. -/
structure Filed (l : Ledger) (run : RunId) (key : Digest) : Prop where
  record : l.disk.read (l.config.recordPath run) = .ok (Text.Utf8.encode key.text)
  stored : ∃ bytes, l.disk.read (target l.config.uploadsDirectory key) = .ok bytes ∧ Digest.of bytes = key

/-- What is recorded is read back, so the artifact is found. -/
theorem Filed.artifact_eq (h : l.Filed run key) : l.artifact run = .ok (l.config.artifactPath key) := by
  rw [artifact, h.record]
  simp only [Text.Utf8.decode_encode, Text.Hex.trim_of_digits key.written_text.1.2, Digest.ofText_text]

theorem Filed.of_same (h : l.Filed run key) (hroot : l'.config.root = l.config.root)
    (hrecord : l.disk.Same l'.disk (l.config.recordPath run))
    (hstored : l.disk.Same l'.disk (target l.config.uploadsDirectory key)) : l'.Filed run key where
  record := by
    rw [Config.recordPath_eq_of_root hroot, hrecord.read_eq]
    exact h.record
  stored := by
    rw [Config.uploadsDirectory_eq_of_root hroot, hstored.read_eq]
    exact h.stored

/-- **What was filed stays filed,** unless another artifact is accepted under its identifier. -/
theorem filed_meet (h : l.Informed) {d : Demand} (hd : d.Rooted l.config.root) (hc : l.config.Clear l.disk)
    (hf : l.Filed run key) (hfresh : ∀ chunks, d = .upload chunks → (l.upload chunks).1 ≠ .ok run) :
    (l.meet d).Filed run key := by
  have hroot := (informed_meet h hd).2
  cases d with
  | request r =>
    exact hf.of_same hroot (same_meet_request h r fun run' => l.config.recordPath_ne_logPath run run')
      (same_meet_request h r fun run' => l.config.target_ne_logPath key run')
  | upload chunks =>
    obtain ⟨run', key', bytes, -, hok, haccepted⟩ | ⟨-, -, hrefused⟩ := upload_cases h.sound hc chunks
    · have hne : run ≠ run' := by
        rintro rfl
        exact hfresh chunks rfl hok
      have hrecord := haccepted.same _ (l.config.not_site_recordPath key' run) fun he => hne (Config.recordPath_inj he)
      by_cases hkey : key = key'
      · subst hkey
        refine ⟨?_, ?_⟩
        · rw [Config.recordPath_eq_of_root hroot]
          exact hrecord.read_eq.trans hf.record
        · rw [Config.uploadsDirectory_eq_of_root hroot]
          exact ⟨bytes, haccepted.read_eq, haccepted.digest_eq⟩
      · refine hf.of_same hroot hrecord (haccepted.same _ ?_ (l.config.target_ne_recordPath key run'))
        exact fun hsite => hkey (Upload.Site.key_eq (Or.inr rfl) hsite)
    · exact hf.of_same hroot
        (hrefused.same _ fun key' _ he => l.config.part_ne_recordPath key' run he.symm)
        (hrefused.same _ fun key' _ he => Upload.part_ne_target _ key' key he.symm)

theorem clear_meeting (h : l.Informed) {ds : List Demand} (hd : ∀ d ∈ ds, d.Rooted l.config.root)
    (hc : l.config.Clear l.disk) : (l.meeting ds).config.Clear (l.meeting ds).disk := by
  induction ds using List.reverseRecOn with
  | nil => exact hc
  | append_singleton ds d ih =>
    have hds : ∀ d ∈ ds, d.Rooted l.config.root := fun d hm => hd d (List.mem_append_left _ hm)
    obtain ⟨hi, hroot⟩ := informed_meeting h hds
    rw [meeting_concat]
    exact clear_meet hi (hroot.symm ▸ hd d (by simp)) (ih hds)

/-- **What was filed stays filed,** whatever is demanded, as long as its identifier is not given away again. -/
theorem filed_meeting (h : l.Informed) {ds : List Demand} (hd : ∀ d ∈ ds, d.Rooted l.config.root)
    (hc : l.config.Clear l.disk) (hf : l.Filed run key) (hfresh : l.Withholds run ds) :
    (l.meeting ds).Filed run key := by
  induction ds using List.reverseRecOn with
  | nil => exact hf
  | append_singleton ds d ih =>
    have hds : ∀ d ∈ ds, d.Rooted l.config.root := fun d hm => hd d (List.mem_append_left _ hm)
    obtain ⟨hi, hroot⟩ := informed_meeting h hds
    have hbefore := ih hds fun before chunks hb => hfresh before chunks (hb.trans (List.prefix_append _ _))
    rw [meeting_concat]
    refine filed_meet hi (hroot.symm ▸ hd d (by simp)) (clear_meeting h hds hc) hbefore fun chunks he => ?_
    exact hfresh ds chunks (he ▸ List.prefix_rfl)

/-! ## One upload -/

theorem upload_accepted_iff (hs : l.disk.Sound) (hc : l.config.Clear l.disk) :
    (∃ run, (l.upload chunks).1 = .ok run) ↔ ∃ (checksum : String) (sent : List Bytes),
      chunks = .metadata checksum :: sent.map .data ∧ Digest.Written checksum ∧
        (Digest.of sent.flatten).text = checksum.toLower := by
  constructor
  · rintro ⟨run, hok⟩
    obtain ⟨_, key, _, ⟨checksum, sent, hchunks, hkey, rfl, hdigest⟩, -⟩ | ⟨⟨e, he⟩, -⟩ := upload_cases hs hc chunks
    · obtain ⟨hwritten, hlower⟩ := Digest.ofText_eq_ok_iff.mp hkey
      exact ⟨checksum, sent, hchunks, hwritten, by rw [hdigest, hlower]⟩
    · rw [hok] at he
      cases he
  · rintro ⟨checksum, sent, rfl, hwritten, hdigest⟩
    have hkey := Digest.ofText_eq_ok_iff.mpr ⟨hwritten, hdigest.symm⟩
    obtain ⟨run, _, _, -, hok, -⟩ | ⟨-, hn, -⟩ := upload_cases hs hc (.metadata checksum :: sent.map .data)
    · exact ⟨run, hok⟩
    · exact absurd (Upload.delivers_iff.mpr ⟨hkey, rfl, rfl⟩) (hn _ _)

theorem accepted_of_upload (hs : l.disk.Sound) (hc : l.config.Clear l.disk) {checksum : String} {sent : List Bytes}
    (h : (l.upload (.metadata checksum :: sent.map .data)).1 = .ok run) :
    ∃ key, key.text = checksum.toLower ∧
      Accepted l (l.upload (.metadata checksum :: sent.map .data)).2 run key sent.flatten := by
  obtain ⟨run', key, bytes, hdelivers, hok, haccepted⟩ | ⟨⟨e, he⟩, -⟩ :=
    upload_cases hs hc (.metadata checksum :: sent.map .data)
  · rw [h, Except.ok.injEq] at hok
    subst hok
    obtain ⟨hkey, rfl, -⟩ := Upload.delivers_iff.mp hdelivers
    exact ⟨key, (Digest.ofText_eq_ok_iff.mp hkey).2.symm, haccepted⟩
  · rw [h] at he
    cases he

theorem refused_of_upload (hs : l.disk.Sound) (hc : l.config.Clear l.disk) {e : Error}
    (h : (l.upload chunks).1 = .error e) : Refused l (l.upload chunks).2 chunks := by
  obtain ⟨_, _, _, -, hok, -⟩ | ⟨-, -, hrefused⟩ := upload_cases hs hc chunks
  · rw [h] at hok
    cases hok
  · exact hrefused

theorem Accepted.filed (h : Accepted l l' run key bytes) : l'.Filed run key where
  record := by
    rw [h.config_eq]
    exact h.record_eq
  stored := by
    rw [h.config_eq]
    exact ⟨bytes, h.read_eq, h.digest_eq⟩

/-- **What was accepted is found under its identifier,** whatever is demanded later. -/
theorem Accepted.found_later (h : Accepted l l' run key bytes) (hi : l'.Informed) (hc : l'.config.Clear l'.disk)
    {more : List Demand} (hd : ∀ d ∈ more, d.Rooted l.config.root) (hfresh : l'.Withholds run more) :
    (l'.meeting more).artifact run = .ok (l.config.artifactPath key) ∧
      ∃ found, (l'.meeting more).disk.read (l.config.artifactPath key) = .ok found ∧
        Digest.of found = Digest.of bytes := by
  rw [← h.config_eq] at hd
  have hfiled := filed_meeting hi hd hc h.filed hfresh
  have hroot : (l'.meeting more).config.root = l.config.root := by rw [(informed_meeting hi hd).2, h.config_eq]
  have hdirectory := Config.uploadsDirectory_eq_of_root hroot
  obtain ⟨found, hfound, hdigest⟩ := hfiled.stored
  have hartifact := hfiled.artifact_eq
  rw [hdirectory] at hfound
  rw [Config.artifactPath, hdirectory] at hartifact
  exact ⟨hartifact, found, hfound, hdigest.trans h.digest_eq.symm⟩

end

/-- **An upload is accepted exactly if it is what it says, and nothing is lost if it is not.** Whatever files there are
and whatever was demanded before, as long as no directory is in the way:

* It is accepted exactly if 64 digits come first, in either case, and then pieces of octets that have this digest.
* Then these octets are the artifact with that digest in lower case, nothing is left where they were collected, and all
  files but these two and the record are as they were. The artifact is found under the identifier that is answered, and has
  the digest, whatever is demanded later, unless another artifact gets the same identifier.
* If it is refused, all files are as they were, but that nothing is left where the announced artifact is collected.
* No files but artifacts, those that they are collected in, and records are touched, at any step. -/
theorem upload_stores {config : Config} {disk : Disk} {clock : Clock} (hs : disk.Sound) (hb : disk.Bounded)
    (hc : config.Clear disk) {demands : List Demand} (hd : ∀ d ∈ demands, d.Rooted config.root)
    (chunks : List UploadChunk) :
    let now := (start config disk clock).meeting demands
    let later := (now.upload chunks).2
    let directory := now.config.uploadsDirectory
    ((∃ run, (now.upload chunks).1 = .ok run) ↔ ∃ (checksum : String) (sent : List Bytes),
      chunks = .metadata checksum :: sent.map .data ∧ Digest.Written checksum ∧
        (Digest.of sent.flatten).text = checksum.toLower) ∧
    (∀ run (checksum : String) (sent : List Bytes), (now.upload chunks).1 = .ok run →
      chunks = .metadata checksum :: sent.map .data →
      later.disk.read (joinPath directory checksum.toLower) = .ok sent.flatten ∧
      later.disk.contains (joinPath directory (checksum.toLower ++ ".part")) = false ∧
      (∀ path, path ≠ joinPath directory checksum.toLower → path ≠ joinPath directory (checksum.toLower ++ ".part") →
        path ≠ now.config.recordPath run → now.disk.Same later.disk path) ∧
      ∀ more : List Demand, (∀ d ∈ more, d.Rooted config.root) → later.Withholds run more →
        (later.meeting more).artifact run = .ok (joinPath directory checksum.toLower) ∧
        ∃ bytes, (later.meeting more).disk.read (joinPath directory checksum.toLower) = .ok bytes ∧
          Digest.of bytes = Digest.of sent.flatten) ∧
    (∀ e, (now.upload chunks).1 = .error e →
      (∀ path, (∀ checksum rest, chunks = .metadata checksum :: rest → Digest.Written checksum →
        path ≠ joinPath directory (checksum.toLower ++ ".part")) → now.disk.Same later.disk path) ∧
      ∀ checksum rest, chunks = .metadata checksum :: rest → Digest.Written checksum →
        later.disk.contains (joinPath directory (checksum.toLower ++ ".part")) = false) ∧
    ∀ path, (∀ digits, Digest.Written digits → digits.toLower = digits →
        path ≠ joinPath directory digits ∧ path ≠ joinPath directory (digits ++ ".part")) →
      (∀ steps, steps <+: stepsOf 0 chunks → now.disk.Same ((Uploads.mk now.disk []).run directory steps).disk path) ∧
      ((∀ run, path ≠ now.config.recordPath run) → now.disk.Same later.disk path) := by
  intro now later directory
  have hstart : (start config disk clock).Informed := informed_of_empty hs hb rfl
  obtain ⟨hnow, hroot⟩ : now.Informed ∧ now.config.root = config.root := informed_meeting hstart hd
  have hclear : now.config.Clear now.disk := clear_meeting hstart hd hc
  refine ⟨upload_accepted_iff hnow.sound hclear, ?_, ?_, ?_⟩
  · rintro run checksum sent hok rfl
    obtain ⟨key, hkey, haccepted⟩ := accepted_of_upload hnow.sound hclear hok
    rw [← hkey]
    refine ⟨haccepted.read_eq, Disk.contains_of_absent haccepted.part_eq,
      fun path hp hp' => haccepted.same path fun hsite => hsite.elim hp' hp, ?_⟩
    intro more hmore hfresh
    have hlater : later.Informed := (informed_meet (d := .upload _) hnow trivial).1
    have hclear' : later.config.Clear later.disk := clear_meet (d := .upload _) hnow trivial hclear
    rw [← hroot] at hmore
    exact haccepted.found_later hlater hclear' hmore hfresh
  · intro e he
    have hrefused := refused_of_upload hnow.sound hclear he
    constructor
    · intro path hp
      refine hrefused.same path ?_
      rintro key ⟨checksum, rest, hchunks, hkey⟩
      obtain ⟨hwritten, hlower⟩ := Digest.ofText_eq_ok_iff.mp hkey
      have hne := hp checksum rest hchunks hwritten
      rwa [hlower] at hne
    · intro checksum rest hchunks hwritten
      obtain ⟨key, hkey⟩ := Digest.exists_ofText_iff.mpr hwritten
      rw [(Digest.ofText_eq_ok_iff.mp hkey).2]
      exact Disk.contains_of_absent (hrefused.part_eq key ⟨checksum, rest, hchunks, hkey⟩)
  · intro path hp
    have hsite (key : Digest) : ¬Site directory key path := by
      obtain ⟨hwritten, hlower⟩ := key.written_text
      exact fun hsite => hsite.elim (hp _ hwritten hlower).2 (hp _ hwritten hlower).1
    refine ⟨fun steps _ => ?_, fun hrecord => ?_⟩
    · exact (Uploads.sound_run (Uploads.sound_of_idle hnow.sound directory) steps).2 path hsite
    · obtain ⟨run, key, _, -, -, haccepted⟩ | ⟨-, -, hrefused⟩ := upload_cases hnow.sound hclear chunks
      · exact haccepted.same path (hsite key) (hrecord run)
      · exact hrefused.same path fun key _ he => hsite key (Or.inl he)

/-- An artifact in two pieces, announced in upper case, beside another one, and looked for when the ledger was opened
again. -/
theorem upload_stores_reopened :
    let config := Config.rootedAt "r"
    let clock : Clock := ⟨⟨0, 0⟩, 0⟩
    let demands : List Demand := [.upload [.metadata (Digest.of [9]).text, .data [9]], .request (.restart config)]
    let checksum := String.ofList ((Digest.of [1, 2]).text.toList.map Char.toUpper)
    let now := (start config .empty clock).meeting demands
    let path := joinPath now.config.uploadsDirectory checksum.toLower
    Disk.empty.Sound ∧ Disk.empty.Bounded ∧ config.Clear .empty ∧ (∀ d ∈ demands, d.Rooted config.root) ∧
      ∃ run, (now.upload [.metadata checksum, .data [1], .data [2]]).1 = .ok run ∧
        (now.upload [.metadata checksum, .data [1], .data [2]]).2.disk.read path = .ok [1, 2] ∧
        ((now.upload [.metadata checksum, .data [1], .data [2]]).2.meeting [.request (.restart config)]).artifact run =
          .ok path := by
  intro config clock demands checksum
  have hb : Disk.empty.Bounded := fun b hb => absurd hb List.not_mem_nil
  have hc : config.Clear .empty := ⟨fun _ _ _ => nofun, fun _ => nofun⟩
  have hd : ∀ d ∈ demands, d.Rooted config.root :=
    List.forall_mem_cons.mpr ⟨trivial, List.forall_mem_singleton.mpr rfl⟩
  have hkey : Digest.ofText checksum = .ok (Digest.of [1, 2]) := by decide +kernel
  obtain ⟨hwritten, hlower⟩ := Digest.ofText_eq_ok_iff.mp hkey
  have h := @upload_stores config .empty clock Disk.sound_empty hb hc demands hd
    [.metadata checksum, .data [1], .data [2]]
  have hmore : ∀ d ∈ [Demand.request (.restart config)], d.Rooted config.root := List.forall_mem_singleton.mpr rfl
  dsimp only at h ⊢
  -- the ledgers need not be computed any more
  generalize (start config .empty clock).meeting demands = now at h ⊢
  generalize now.upload [.metadata checksum, .data [1], .data [2]] = sent at h ⊢
  clear_value checksum
  obtain ⟨haccepted, hstored, -, -⟩ := h
  obtain ⟨run, hrun⟩ := haccepted.mpr ⟨checksum, [[1], [2]], rfl, hwritten, hlower.symm⟩
  obtain ⟨hread, -, -, hlater⟩ := hstored run checksum [[1], [2]] hrun rfl
  have hfresh : sent.2.Withholds run [.request (.restart config)] := by
    intro before chunks hprefix
    have hmem := hprefix.subset (List.mem_append_right before (List.mem_singleton_self _))
    cases List.mem_singleton.mp hmem
  obtain ⟨hartifact, -⟩ := hlater _ hmore hfresh
  exact ⟨Disk.sound_empty, hb, hc, hd, run, hrun, hread, hartifact⟩

end Ledger

end RunLedger
