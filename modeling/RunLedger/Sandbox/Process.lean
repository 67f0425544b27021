import RunLedger.Sandbox.Thread

/-!
# Processes

What a process can ask of the machine: to read and write what is open, to open more, to change the files, to start
processes and wait for them, and to send signals. What cannot be done yet is tried again when something happened.

* `readFrom_closed`, `writeTo_closed`: where nothing is open nothing is read and nothing written.
-/

namespace RunLedger.Sandbox

/-- What a path is opened for. -/
structure Opening where
  reads : Bool
  writes : Bool
  /-- Whether a file is made if nothing is there. -/
  creates : Bool
  /-- Whether nothing may be there. -/
  isExclusive : Bool
  /-- Whether a file is emptied. -/
  truncates : Bool
  appends : Bool

namespace Opening

/-- To read what is there. -/
def reading : Opening := ⟨true, false, false, false, false, false⟩

/-- To write in place of what is there. -/
def writing : Opening := ⟨false, true, true, false, true, false⟩

/-- To write behind what is there. -/
def appending : Opening := ⟨false, true, true, false, false, true⟩

/-- To read and write over what is there. -/
def both : Opening := ⟨true, true, true, false, false, false⟩

/-- To write what is not there. -/
def creating : Opening := ⟨false, true, true, true, false, false⟩

end Opening

namespace World

/-- The world with a descriptor of the current process for what is open at a place. -/
def describe (w : World) (descriptor file : Nat) (isPrivate : Bool) : World :=
  w.alter w.current fun p => { p with descriptors := p.descriptors.set descriptor ⟨file, isPrivate⟩ }

/-- Opens something for the current process, at the lowest free descriptor from a number on. -/
def openAt (w : World) (least : Nat) (isPrivate : Bool) (file : OpenFile) : Nat × World :=
  let (place, w) := w.opened file
  let descriptor := ((w.process? w.current).map (free · least)).getD least
  (descriptor, w.describe descriptor place isPrivate)

/-- What a path leads to once it is opened, and the world with what was made for it. -/
def reach (w : World) (path : String) (o : Opening) (mode : Nat) : Except IoError (Target × World) :=
  -- What ends with a slash can only be a directory, and so it is not made.
  let isClosed := o.creates && path.toList.getLast? = some '/'
  match w.tree.spot w.workdir (if isClosed then FileTree.withoutSlashes path else path) true with
  | .error e => .error e
  | .ok s =>
    if isClosed then .error .isDirectory else
    match s.inode? with
    | none =>
      if !o.creates || (w.tree.parent? s.directory).isNone then .error .notFound
      else
        let umask := ((w.process? w.current).map Process.umask).getD 0
        let (n, tree) := w.tree.add ⟨.file .empty, mode &&& (0o7777 - umask), w.now⟩
        .ok (.inode n, { w with tree := tree.bind w.now s n })
    | some n =>
      if o.creates && o.isExclusive then .error .alreadyExists
      else
        match w.tree.content? n with
        | some (.directory _ _) => if o.writes || o.creates then .error .isDirectory else .ok (.inode n, w)
        | some (.pipe number) => .ok (.pipe number, w)
        | some (.device .terminal) => .error .noDevice
        | some (.file _) =>
          .ok (.inode n, if o.truncates then { w with tree := w.tree.rewrite w.now n fun _ => .empty } else w)
        | _ => .ok (.inode n, w)

/-- Notes that the end of a named pipe was opened. Answers how often the other one was. -/
def noteOpening (w : World) (target : Target) (o : Opening) : Nat × World :=
  match target with
  | .inode _ => (0, w)
  | .pipe number =>
    let p := w.pipes[number]?.getD Pipe.empty
    let count := fun (b : Bool) => if b then 1 else 0
    (if o.reads then p.writerCount else p.readerCount, (w.alterPipe number fun p => { p with
      readerCount := p.readerCount + count o.reads, writerCount := p.writerCount + count o.writes }).touched)

/-- Opens a path for the current process. Answers the descriptor, and if it is one end of a pipe only, the pipe and how
often the other end was opened before. -/
def openPath (w : World) (path : String) (o : Opening) (mode least : Nat) (isPrivate : Bool) :
    Except IoError (Nat × Option (Nat × Nat)) × World :=
  match w.reach path o mode with
  | .error e => (.error e, w)
  | .ok (target, w) =>
    let (seen, w) := w.noteOpening target o
    let (descriptor, w) := w.openAt least isPrivate ⟨target, 0, o.appends, o.reads, o.writes⟩
    match target with
    | .pipe number => (.ok (descriptor, if o.reads && o.writes then none else some (number, seen)), w)
    | .inode _ => (.ok (descriptor, none), w)

/-- Whether the other end of a pipe was opened by now. -/
def isMet (w : World) (number seen : Nat) (reads : Bool) : Bool :=
  let p := w.pipes[number]?.getD Pipe.empty
  if reads then seen < p.writerCount || w.hasEnd number OpenFile.writes
  else seen < p.readerCount || w.hasEnd number OpenFile.reads

/-- The world with the place of an open file moved. -/
def seek (w : World) (place position : Nat) : World :=
  { w with files := w.files.modify place fun file => { file with position } }

/-- A block of zeros. -/
def zeroBlock : ByteArray := ⟨Array.replicate 65536 0⟩

/-- So many zeros, block by block. -/
def zeros (count : Nat) : ByteArray :=
  (List.range (count / zeroBlock.size)).foldl (fun octets _ => octets ++ zeroBlock) .empty ++
    zeroBlock.extract 0 (count % zeroBlock.size)

/-- Octets of a device. -/
def deviceOctets (w : World) (count : Nat) : Device → ByteArray
  | .zero | .full => zeros count
  | .random => ⟨(Array.range count).map fun i => UInt8.ofNat ((w.clock / 7 + i * i * 31 + i * 17) % 251)⟩
  | .null | .terminal => .empty

/-- Reads from a descriptor, at most so many octets. Nothing if there will be something to read later. -/
def readFrom (w : World) (descriptor count : Nat) : Option (Except IoError ByteArray) × World :=
  match w.open? descriptor with
  | none => (some (.error .badDescriptor), w)
  | some (place, file) =>
    if !file.reads then (some (.error .badDescriptor), w)
    else
      match file.target with
      | .inode n =>
        match w.tree.content? n with
        | some (.file octets) =>
          let taken := octets.extract file.position (file.position + count)
          (some (.ok taken), w.seek place (file.position + taken.size))
        | some (.device kind) => (some (.ok (w.deviceOctets count kind)), w)
        | some (.directory _ _) => (some (.error .isDirectory), w)
        | _ => (some (.error .invalid), w)
      | .pipe number =>
        match w.pipes[number]? with
        | none => (some (.ok .empty), w)
        | some p =>
          if 0 < p.size then
            let (taken, p) := p.take count
            (some (.ok taken), (w.alterPipe number fun _ => p).touched)
          else if w.hasEnd number OpenFile.writes then (none, w)
          else (some (.ok .empty), w)

/-- Writes to a descriptor. Answers how many octets were written, or nothing if some can be written later. -/
def writeTo (w : World) (descriptor : Nat) (octets : ByteArray) : Option (Except IoError Nat) × World :=
  match w.open? descriptor with
  | none => (some (.error .badDescriptor), w)
  | some (place, file) =>
    if !file.writes then (some (.error .badDescriptor), w)
    else
      match file.target with
      | .inode n =>
        match w.tree.content? n with
        | some (.file old) =>
          let start := if file.appends then old.size else file.position
          let tree := w.tree.rewrite w.now n (FileTree.overwritten start octets)
          (some (.ok octets.size), { w with tree }.seek place (start + octets.size))
        | some (.device .full) => (some (.error .noSpace), w)
        | some (.device _) => (some (.ok octets.size), w)
        | _ => (some (.error .invalid), w)
      | .pipe number =>
        if octets.size = 0 then (some (.ok 0), w)
        else if !w.hasEnd number OpenFile.reads then
          (some (.error .brokenPipe), (w.deliver w.current Signal.pipe).2)
        else
          let count := (w.pipes[number]?.getD Pipe.empty).room octets.size
          if count = 0 then (none, w)
          else (some (.ok count), (w.alterPipe number (·.put (octets.extract 0 count))).touched)

/-- The world without a descriptor of the current process. -/
def close (w : World) (descriptor : Nat) : World :=
  (w.alter w.current fun p => { p with descriptors := p.descriptors.erase descriptor }).touched

/-- The world with a process that begins as a copy of the current one, and its number. -/
def copied (w : World) : Nat × World :=
  match w.process? w.current with
  | none => (w.next, w)
  | some p =>
    (w.next, { w with
      processes := w.processes.set w.next { p with parent := w.current, standing := .running, pending := [] }
      next := w.next + 1 })

/-- Whether a signal came that the current process serves itself. -/
def isCalled (w : World) : Bool := (w.process? w.current).any fun p => !p.pending.isEmpty

/-- The first of some processes that has ended, with its outcome. -/
def firstEnded? (w : World) (ids : List Nat) : Option (Nat × Outcome) :=
  ids.findSome? fun id => (w.outcome? id).map (id, ·)

/-- The processes that the current one started and did not ask for yet. -/
def children (w : World) : List Nat :=
  w.processes.entries.filterMap fun (id, p) => if p.parent = w.current then some id else none

/-- Where nothing is open nothing is read. -/
theorem readFrom_closed {w : World} {descriptor : Nat} (count : Nat) (h : w.open? descriptor = none) :
    w.readFrom descriptor count = (some (.error .badDescriptor), w) := by
  simp [readFrom, h]

/-- Where nothing is open nothing is written. -/
theorem writeTo_closed {w : World} {descriptor : Nat} (octets : ByteArray) (h : w.open? descriptor = none) :
    w.writeTo descriptor octets = (some (.error .badDescriptor), w) := by
  simp [writeTo, h]

end World

namespace Act

/-- The number of the process. -/
def self : Act Nat := look World.current

/-- Changes the record of the process. -/
def alter (f : Process → Process) : Act Unit := change fun w => w.alter w.current f

/-- Looks at the record of the process. -/
def record : Act (Option Process) := look fun w => w.process? w.current

/-- Ends the process. -/
def quit {α : Type} (outcome : Outcome) : Act α := fun _ => .step fun w => (w.terminate w.current outcome, .over)

/-- The nanoseconds that it takes to ask for something. -/
def callPause : Nat := 500

/-! ## Reading and writing -/

/-- Opens a path at the lowest free descriptor from a number on. One end of a pipe waits for the other. -/
def «open» (path : String) (o : Opening) (mode least : Nat) (isPrivate : Bool) : Act (Except IoError Nat) := do
  match ← work (·.openPath path o mode least isPrivate) with
  | .error e => return .error e
  | .ok (descriptor, none) => return .ok descriptor
  | .ok (descriptor, some (number, seen)) =>
    await fun w => (if w.isMet number seen o.reads then some (.ok descriptor) else none, w)

/-- Closes a descriptor. -/
def close (descriptor : Nat) : Act Unit := change (·.close descriptor)

/-- The octets that are moved without a pause of their own. -/
def smallLoad : Nat := 4096

/-- Reads from a descriptor, at most so many octets; no octets are the end. A large load takes two nanoseconds for each. -/
def read (descriptor count : Nat) : Act (Except IoError ByteArray) := do
  rest callPause
  let r ← await (·.readFrom descriptor count)
  match r with
  | .ok octets => if smallLoad < octets.size then rest (2 * octets.size)
  | .error _ => pure ()
  return r

/-- Reads from a descriptor, unless a signal comes that the process serves itself. -/
def readUnlessCalled (descriptor count : Nat) : Act (Except IoError ByteArray) := do
  rest callPause
  await fun w =>
    match w.readFrom descriptor count with
    | (none, w) => (if w.isCalled then some (.error .interrupted) else none, w)
    | r => r

/-- Writes octets to a descriptor, in at most so many parts. -/
def writeParts (descriptor : Nat) : Nat → ByteArray → Act (Except IoError Unit)
  | 0, _ => return .ok ()
  | n + 1, octets => do
    match ← await (·.writeTo descriptor octets) with
    | .error e =>
      rest 0
      return .error e
    | .ok count => if octets.size ≤ count then return .ok () else writeParts descriptor n (octets.extract count octets.size)

/-- Writes octets to a descriptor. A large load takes two nanoseconds for each. -/
def write (descriptor : Nat) (octets : ByteArray) : Act (Except IoError Unit) := do
  rest (if smallLoad < octets.size then callPause + 2 * octets.size else callPause)
  writeParts descriptor (octets.size + 1) octets

/-- The octets that one asks for at once. -/
def portion : Nat := 65536

/-- Reads all that is left behind a descriptor onto what was read, in at most so many parts. -/
def readOnto (descriptor : Nat) : Nat → ByteArray → Act (Except IoError ByteArray)
  | 0, front => return .ok front
  | n + 1, front => do
    match ← read descriptor portion with
    | .error e => return .error e
    | .ok octets => if octets.size = 0 then return .ok front else readOnto descriptor n (front ++ octets)

/-- Reads all that is left behind a descriptor. -/
def readAll (descriptor : Nat) : Act (Except IoError ByteArray) := readOnto descriptor manyTries .empty

/-- Opens a pipe of its own, to read from one descriptor and to write to another, both from a number on. -/
def pipe (least : Nat) (isPrivate : Bool) : Act (Nat × Nat) := work fun w =>
  let target := Target.pipe w.pipes.size
  let w := { w with pipes := w.pipes.push Pipe.empty }
  let (reader, w) := w.openAt least isPrivate ⟨target, 0, false, true, false⟩
  let (writer, w) := w.openAt least isPrivate ⟨target, 0, false, false, true⟩
  ((reader, writer), w)

/-- Makes a descriptor lead to where another one leads. Answers whether that one is open. -/
def duplicateTo (descriptor other : Nat) (isPrivate : Bool) : Act Bool := work fun w =>
  match (w.process? w.current).bind fun p => p.descriptors.get? descriptor with
  | none => (false, w)
  | some d => (true, (w.describe other d.file isPrivate).touched)

/-- Makes the lowest free descriptor from a number on lead to where another one leads. -/
def duplicate? (descriptor least : Nat) (isPrivate : Bool) : Act (Option Nat) := work fun w =>
  match w.process? w.current with
  | none => (none, w)
  | some p =>
    match p.descriptors.get? descriptor with
    | none => (none, w)
    | some d =>
      let other := World.free p least
      (some other, w.describe other d.file isPrivate)

/-- Whether a descriptor is open. -/
def isOpen (descriptor : Nat) : Act Bool := look fun w => (w.open? descriptor).isSome

/-! ## Files -/

/-- Looks at the files from the working directory. -/
def files {α : Type} (f : FileTree → Nat → α) : Act α := look fun w => f w.tree w.workdir

/-- Changes the files, or tells why not. -/
def edit (f : FileTree → Int → Nat → Except IoError FileTree) : Act (Except IoError Unit) := work fun w =>
  match f w.tree w.now w.workdir with
  | .ok tree => (.ok (), { w with tree })
  | .error e => (.error e, w)

/-- The mode of what the process makes, less its mask. -/
def masked (mode : Nat) : Act Nat := do
  return mode &&& (0o7777 - ((← record).map Process.umask).getD 0)

/-- The octets of the file that a path leads to. -/
def readFile (path : String) : Act (Except IoError String) := do
  match ← «open» path .reading 0 10 true with
  | .error e => return .error e
  | .ok descriptor =>
    let result ← readAll descriptor
    close descriptor
    return result.map Octets.ofArray

/-! ## Processes -/

/-- Starts a process that begins as a copy of this one and does something else. Answers its number. -/
def spawn (child : Act Unit) : Act Nat := fun next => .step fun w =>
  let (id, w) := w.copied
  (w, .start id (child fun _ => .over) (next id))

/-- Takes up another program: what is private is closed, and no signal is served any more. -/
def renew : Act Unit := change fun w =>
  (w.alter w.current fun p => { p with
    descriptors := p.descriptors.filter fun _ d => !d.isPrivate, caught := [] }).touched

/-- Waits for a process of its own to end, and forgets it. -/
def outcomeOf (id : Nat) : Act Outcome := await fun w =>
  match w.outcome? id with
  | some outcome => (some outcome, w.forget id)
  | none => (none, w)

/-- Sends a signal. Answers whether the process is there. -/
def signal (id number : Nat) : Act Bool := do
  let reached ← work (·.deliver id number)
  rest 0
  return reached

end Act

end RunLedger.Sandbox
