import RunLedger.Buffer
import RunLedger.OrderedMap
import RunLedger.Storage.Error

/-!
# Files

A `Disk` maps paths to files and directories. A file is an inode, a number under which its octets are kept, so that
whoever opened a file goes on writing to it after the path is renamed or removed. Directories above a file are made
when the file is; only a directory that stands where a file could be is recorded.

* `openFile_ok_iff`: a path can be opened unless a directory stands there.
* `contents_append`, `contents_setLength`, `contents_writeAt`: what becomes of the octets of an inode.
-/

namespace RunLedger

/-- What a path names. -/
inductive Entry where
  | file (inode : Nat)
  | directory
  deriving DecidableEq, Repr

/-- Paths and the contents of files. -/
structure Disk where
  names : OrderedMap String Entry
  /-- The contents of the inodes in order. -/
  inodes : List Buffer
  deriving Inhabited

namespace Disk

/-- No files. -/
def empty : Disk := ⟨.empty, []⟩

/-- The content of an inode. -/
def content (d : Disk) (inode : Nat) : Buffer := d.inodes[inode]?.getD {}

/-- The octets of an inode. -/
def contents (d : Disk) (inode : Nat) : Bytes := (d.content inode).toList

/-- Whether a path names anything. -/
def contains (d : Disk) (path : String) : Bool := d.names.contains path

/-- Whether a path names a file. -/
def isFile (d : Disk) (path : String) : Bool :=
  match d.names.get? path with
  | some (.file _) => true
  | _ => false

/-- The octets of the file at a path. -/
def read (d : Disk) (path : String) : Except IoError Bytes :=
  match d.names.get? path with
  | some (.file inode) => .ok (d.contents inode)
  | some .directory => .error .isDirectory
  | none => .error .notFound

/-- The inode of the file at a path, which is made empty if there is none. -/
def openFile (d : Disk) (path : String) : Except IoError (Nat × Disk) :=
  match d.names.get? path with
  | some (.file inode) => .ok (inode, d)
  | some .directory => .error .isDirectory
  | none => .ok (d.inodes.length, ⟨d.names.set path (.file d.inodes.length), d.inodes ++ [{}]⟩)

/-- The inode of a new file. -/
def createNew (d : Disk) (path : String) : Except IoError (Nat × Disk) :=
  if d.contains path then .error .alreadyExists else d.openFile path

/-- The disk with the content of an inode changed. -/
def modify (d : Disk) (inode : Nat) (f : Buffer → Buffer) : Disk :=
  { d with inodes := d.inodes.modify inode f }

/-- Appends to an inode. -/
def append (d : Disk) (inode : Nat) (bytes : Bytes) : Disk := d.modify inode (·.append bytes)

/-- Cuts an inode, or fills it up with zeros, to a length. -/
def setLength (d : Disk) (inode length : Nat) : Disk :=
  d.modify inode fun old => (old.slice 0 length).appendZeros (length - old.size)

/-- Writes into an inode from an offset on. A gap before the offset is filled with zeros. -/
def writeAt (d : Disk) (inode offset : Nat) (bytes : Bytes) : Disk :=
  d.modify inode fun old => (old.appendZeros (offset - old.size)).overwrite offset (.ofList bytes)

/-- The inode of the file at a path, emptied or made new. -/
def openEmpty (d : Disk) (path : String) : Except IoError (Nat × Disk) :=
  (d.openFile path).map fun (inode, d) => (inode, d.setLength inode 0)

/-- Writes a whole file. -/
def replace (d : Disk) (path : String) (bytes : Bytes) : Except IoError Disk :=
  (d.openEmpty path).map fun (inode, d) => d.append inode bytes

/-- Cuts the file at a path. -/
def truncate (d : Disk) (path : String) (length : Nat) : Except IoError Disk :=
  match d.names.get? path with
  | some (.file inode) => .ok (d.setLength inode length)
  | some .directory => .error .isDirectory
  | none => .error .notFound

/-- Takes a name off a file. -/
def remove (d : Disk) (path : String) : Except IoError Disk :=
  match d.names.get? path with
  | some (.file _) => .ok { d with names := d.names.erase path }
  | some .directory => .error .isDirectory
  | none => .error .notFound

/-- Gives the file at a path another name, in place of what had that name. -/
def rename (d : Disk) (source target : String) : Except IoError Disk :=
  match d.names.get? source, d.names.get? target with
  | none, _ => .error .notFound
  | some _, some .directory => .error .isDirectory
  | some entry, _ => .ok { d with names := (d.names.erase source).set target entry }

/-- Makes a directory at a path, unless a file is there. -/
def makeDirectory (d : Disk) (path : String) : Except IoError Disk :=
  match d.names.get? path with
  | some (.file _) => .error .alreadyExists
  | some .directory => .ok d
  | none => .ok { d with names := d.names.set path .directory }

/-- The names of the files right under a directory, sorted, with their sizes. -/
def list (d : Disk) (directory : String) : List (String × Nat) :=
  let found := d.names.entries.filterMap fun (path, entry) =>
    match entry with
    | .directory => none
    | .file inode =>
      let name := path.toList.drop (directory.length + 1)
      if path.toList.take (directory.length + 1) = directory.toList ++ ['/'] && !name.contains '/' then
        some (String.ofList name, (d.content inode).size)
      else none
  found.mergeSort fun a b => a.1 ≤ b.1

theorem content_modify (d : Disk) (inode : Nat) (f : Buffer → Buffer) (i : Nat) :
    (d.modify inode f).content i = if inode = i ∧ i < d.inodes.length then f (d.content i) else d.content i := by
  simp only [content, modify, List.getElem?_modify]
  by_cases hi : i < d.inodes.length
  · by_cases h : inode = i <;> simp [h, hi]
  · simp [hi]

/-- Octets are appended to the inode that they are for, and to no other. -/
theorem contents_append (d : Disk) (inode : Nat) (bytes : Bytes) (i : Nat) :
    (d.append inode bytes).contents i =
      if inode = i ∧ i < d.inodes.length then d.contents i ++ bytes else d.contents i := by
  simp only [contents, append, content_modify]
  split <;> simp

theorem contents_setLength (d : Disk) (inode length : Nat) (i : Nat) :
    (d.setLength inode length).contents i =
      if inode = i ∧ i < d.inodes.length then
        (d.contents i).take length ++ List.replicate (length - (d.contents i).length) 0
      else d.contents i := by
  simp only [contents, setLength, content_modify]
  split <;> simp [Buffer.appendZeros_eq]

theorem contents_writeAt (d : Disk) (inode offset : Nat) (bytes : Bytes) (i : Nat) :
    (d.writeAt inode offset bytes).contents i =
      if inode = i ∧ i < d.inodes.length then
        (d.contents i ++ List.replicate (offset - (d.contents i).length) 0).take offset ++
          (bytes ++ (d.contents i).drop (offset + bytes.length))
      else d.contents i := by
  simp only [contents, writeAt, content_modify]
  split
  · simp only [Buffer.toList_overwrite, Buffer.appendZeros_eq, Buffer.toList_append, Buffer.length_toList,
      Buffer.toList_ofList, Buffer.size_ofList]
    congr 2
    rw [List.drop_append]
    simp
    omega
  · rfl

theorem openFile_ok_iff {d : Disk} {path : String} :
    (∃ r, d.openFile path = .ok r) ↔ d.names.get? path ≠ some .directory := by
  unfold openFile
  split <;> simp_all

end Disk

/-- A path and a relative path behind it. An absolute path stands by itself. -/
def joinPath (base tail : String) : String :=
  if tail.toList.head? = some '/' || base.isEmpty then tail
  else if base.toList.getLast? = some '/' then base ++ tail
  else String.ofList (base.toList ++ '/' :: tail.toList)

end RunLedger
