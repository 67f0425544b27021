import RunLedger.OrderedMap
import RunLedger.Sandbox.Octets
import RunLedger.Storage.Error

/-!
# File trees

The files of a machine: numbered inodes, of which the directories give others their names. An inode is a directory, a
file with its octets, a link that stands for a path, a named pipe, or a device. A path is walked name by name from a
directory: `.` and an empty name stay, `..` goes up, a link is walked in its place, and a name can follow only in a
directory. How long names and paths are and how many links are walked is bounded.

* `walk_nil`: nothing to walk leads nowhere else.
* `content?_add`: a new inode holds what it was made with.
-/

namespace RunLedger.Sandbox

/-- What is no file and still reads or writes octets. -/
inductive Device where
  /-- Takes everything and gives nothing. -/
  | null
  /-- Takes everything and gives zeros. -/
  | zero
  /-- Takes nothing and gives zeros. -/
  | full
  /-- Takes everything and gives octets without a rule. -/
  | random
  /-- Belongs to a terminal that is not there. -/
  | terminal
  deriving DecidableEq, Repr

/-- What an inode is. -/
inductive Content where
  | file (octets : ByteArray)
  /-- A directory that is not in another one was removed; the root is in itself. -/
  | directory (parent : Option Nat) (entries : OrderedMap String Nat)
  /-- Stands for a path. -/
  | link (target : String)
  /-- The pipe of a number, by a name. -/
  | pipe (number : Nat)
  | device (kind : Device)

namespace Content

/-- Whether an inode is a file. -/
def isFile : Content → Bool
  | .file _ => true
  | _ => false

/-- Whether an inode is a directory. -/
def isDirectory : Content → Bool
  | .directory _ _ => true
  | _ => false

/-- Whether an inode stands for a path. -/
def isLink : Content → Bool
  | .link _ => true
  | _ => false

end Content

/-- What is kept about an inode. -/
structure Inode where
  content : Content
  /-- Twelve bits: what programs run as, and what owner, group and others may do. -/
  mode : Nat
  /-- When it was last changed, in nanoseconds since the epoch. -/
  modified : Int

/-- The inodes by their numbers. The root is the first one. -/
structure FileTree where
  inodes : Array Inode

/-- Where a path leads: the last name on it, the directory of that name, and the inode, if there is one. -/
structure Spot where
  directory : Nat
  name : String
  inode? : Option Nat

namespace FileTree

/-- The most octets of a name. -/
def maxName : Nat := 255

/-- The most octets of a path. -/
def maxPath : Nat := 4095

/-- The most links that one path leads through. -/
def maxLinks : Nat := 40

/-- The inode that every absolute path starts at. -/
def root : Nat := 0

/-- The moment at which the first inodes are made, in nanoseconds since the epoch. -/
def birth : Int := 1767225600000000000

/-- What an inode is, if it is there. -/
def content? (t : FileTree) (n : Nat) : Option Content := (t.inodes[n]?).map Inode.content

/-- The bits of an inode. -/
def mode (t : FileTree) (n : Nat) : Nat := ((t.inodes[n]?).map Inode.mode).getD 0

/-- When an inode was changed. -/
def modified (t : FileTree) (n : Nat) : Int := ((t.inodes[n]?).map Inode.modified).getD 0

/-- Whether an inode passes a test. -/
def holds (t : FileTree) (n : Nat) (test : Content → Bool) : Bool := (t.content? n).any test

/-- The tree with an inode changed. -/
def alter (t : FileTree) (n : Nat) (f : Inode → Inode) : FileTree := { t with inodes := t.inodes.modify n f }

/-- The tree with one more inode, and its number. -/
def add (t : FileTree) (i : Inode) : Nat × FileTree := (t.inodes.size, { t with inodes := t.inodes.push i })

/-- The names in a directory, with their inodes. -/
def entries (t : FileTree) (n : Nat) : OrderedMap String Nat :=
  match t.content? n with
  | some (.directory _ entries) => entries
  | _ => .empty

/-- The tree with the names of a directory changed. -/
def alterEntries (t : FileTree) (now : Int) (n : Nat) (f : OrderedMap String Nat → OrderedMap String Nat) : FileTree :=
  t.alter n fun i =>
    match i.content with
    | .directory parent entries => { i with content := .directory parent (f entries), modified := now }
    | _ => i

/-- The directory that a directory is in. -/
def parent? (t : FileTree) (n : Nat) : Option Nat :=
  match t.content? n with
  | some (.directory parent _) => parent
  | _ => none

/-- The tree with a directory put into another one, or into none. -/
def settle (t : FileTree) (n : Nat) (parent : Option Nat) : FileTree :=
  t.alter n fun i =>
    match i.content with
    | .directory _ entries => { i with content := .directory parent entries }
    | _ => i

/-! ## Paths -/

/-- Whether a path starts at the root. -/
def isAbsolute (path : String) : Bool := path.toList.head? = some '/'

/-- Walks names from a directory, through so many links at most. A link at the end is followed if asked. -/
def walk (t : FileTree) (follow : Bool) (links here : Nat) (names : List String) : Except IoError Spot :=
  match names with
  | [] => .ok ⟨here, "", some here⟩
  | name :: rest =>
    match t.content? here with
    | some (.directory parent entries) =>
      if name = "" || name = "." then
        if rest.isEmpty then .ok ⟨here, name, some here⟩ else t.walk follow links here rest
      else if name = ".." then
        match parent with
        | none => .error .notFound
        | some parent => if rest.isEmpty then .ok ⟨parent, name, some parent⟩ else t.walk follow links parent rest
      else if maxName < name.length then .error .nameTooLong
      else
        match entries.get? name with
        | none => if rest.isEmpty then .ok ⟨here, name, none⟩ else .error .notFound
        | some n =>
          match t.content? n with
          | some (.link target) =>
            if rest.isEmpty && !follow then .ok ⟨here, name, some n⟩
            else
              match links with
              | 0 => .error .tooManyLinks
              | left + 1 => t.walk follow left (if isAbsolute target then root else here) (target.splitOn "/" ++ rest)
          | _ => if rest.isEmpty then .ok ⟨here, name, some n⟩ else t.walk follow links n rest
    | _ => .error .notDirectory
termination_by (links, names.length)

/-- Where a path leads from a directory. Only its last name may lead nowhere. -/
def spot (t : FileTree) (base : Nat) (path : String) (follow : Bool) : Except IoError Spot :=
  if path = "" then .error .notFound
  else if maxPath < path.length then .error .nameTooLong
  else t.walk follow maxLinks (if isAbsolute path then root else base) (path.splitOn "/")

/-- The inode that a path leads to from a directory. -/
def find (t : FileTree) (base : Nat) (path : String) (follow : Bool) : Except IoError Nat :=
  match t.spot base path follow with
  | .error e => .error e
  | .ok s => s.inode?.elim (.error .notFound) .ok

/-- Whether a path leads to an inode that passes a test. -/
def leadsTo (t : FileTree) (base : Nat) (path : String) (test : Content → Bool) : Bool :=
  match t.find base path true with
  | .ok n => t.holds n test
  | .error _ => false

/-- The names on the way from the root to a directory, the last one first, in front of others. At most so many. -/
def namesTo (t : FileTree) : Nat → Nat → List String → Option (List String)
  | 0, _, _ => none
  | fuel + 1, n, below =>
    if n = root then some below
    else do
      let parent ← t.parent? n
      let (name, _) ← (t.entries parent).entries.find? fun e => e.2 = n
      t.namesTo fuel parent (name :: below)

/-- The path of a directory, if it has one. -/
def path? (t : FileTree) (n : Nat) : Option String :=
  (t.namesTo (t.inodes.size + 1) n []).map fun names => "/" ++ "/".intercalate names

/-- Whether an inode is another one or lies under it, at most so far. -/
def isUnder (t : FileTree) (above : Nat) : Nat → Nat → Bool
  | 0, n => n = above
  | fuel + 1, n =>
    n = above || match t.parent? n with
      | some parent => parent ≠ n && t.isUnder above fuel parent
      | none => false

/-- A path without the slashes at its end. -/
def withoutSlashes (path : String) : String :=
  let kept := (path.toList.reverse.dropWhile (· = '/')).reverse
  if kept.isEmpty && !path.isEmpty then "/" else String.ofList kept

/-! ## Changes -/

/-- How many names an inode has. A directory has one for each way into it. -/
def names (t : FileTree) (n : Nat) : Nat :=
  let among := fun (entries : OrderedMap String Nat) => (entries.entries.filter fun e => e.2 = n).length
  if t.holds n Content.isDirectory then
    2 + ((t.entries n).entries.filter fun e => t.holds e.2 Content.isDirectory).length
  else t.inodes.foldl (fun count i =>
    match i.content with
    | .directory _ entries => count + among entries
    | _ => count) 0

/-- The tree with a name for an inode at a spot. -/
def bind (t : FileTree) (now : Int) (s : Spot) (n : Nat) : FileTree :=
  t.alterEntries now s.directory (·.set s.name n)

/-- The tree without a name. -/
def unbind (t : FileTree) (now : Int) (s : Spot) : FileTree := t.alterEntries now s.directory (·.erase s.name)

/-- The spot of a path that leads nowhere yet, where something can be made. -/
def vacant (t : FileTree) (base : Nat) (path : String) : Except IoError Spot := do
  let s ← t.spot base path false
  if s.inode?.isSome then .error .alreadyExists
  else if (t.parent? s.directory).isNone then .error .notFound
  else .ok s

/-- Makes something at a path that leads nowhere yet. -/
def make (t : FileTree) (now : Int) (base : Nat) (path : String) (mode : Nat) (content : Nat → Content) :
    Except IoError (Nat × FileTree) := do
  let s ← t.vacant base path
  let (n, t) := t.add ⟨content s.directory, mode, now⟩
  return (n, t.bind now s n)

/-- Makes a directory. -/
def makeDirectory (t : FileTree) (now : Int) (base : Nat) (path : String) (mode : Nat) : Except IoError FileTree :=
  (t.make now base (withoutSlashes path) mode fun parent => .directory (some parent) .empty).map Prod.snd

/-- Makes a link that stands for a path. -/
def makeLink (t : FileTree) (now : Int) (base : Nat) (target path : String) : Except IoError FileTree :=
  if target = "" then .error .notFound
  else (t.make now base path 0o777 fun _ => .link target).map Prod.snd

/-- Gives an inode one more name. -/
def makeName (t : FileTree) (now : Int) (base : Nat) (source path : String) (follow : Bool) :
    Except IoError FileTree := do
  let n ← t.find base source follow
  let s ← t.vacant base path
  if t.holds n Content.isDirectory then .error .notPermitted else return t.bind now s n

/-- Takes a name off what is no directory. -/
def removeFile (t : FileTree) (now : Int) (base : Nat) (path : String) : Except IoError FileTree := do
  let s ← t.spot base path false
  match s.inode? with
  | none => .error .notFound
  | some n =>
    if t.holds n Content.isDirectory then .error .isDirectory
    else if path.toList.getLast? = some '/' then .error .notDirectory
    else return t.unbind now s

/-- Takes an empty directory away. -/
def removeDirectory (t : FileTree) (now : Int) (base : Nat) (path : String) : Except IoError FileTree := do
  let s ← t.spot base (withoutSlashes path) false
  match s.inode? with
  | none => .error .notFound
  | some n =>
    if !t.holds n Content.isDirectory then .error .notDirectory
    else if s.name = "." then .error .invalid
    else if s.name = ".." || (t.entries n).size ≠ 0 then .error .notEmpty
    else if n = root then .error .busy
    else return (t.unbind now s).settle n none

/-- Gives what a path leads to another path, in place of a file or an empty directory there. -/
def rename (t : FileTree) (now : Int) (base : Nat) (source target : String) : Except IoError FileTree := do
  let s ← t.spot base (withoutSlashes source) false
  let some n := s.inode? | .error .notFound
  let d ← t.spot base (withoutSlashes target) false
  let isDirectory := t.holds n Content.isDirectory
  if s.name = "." || s.name = ".." || d.name = "." || d.name = ".." || n = root then .error .busy
  else if isDirectory && t.isUnder n t.inodes.size d.directory then .error .invalid
  else if !isDirectory && target.toList.getLast? = some '/' then .error .notDirectory
  else
    let move := fun (t : FileTree) =>
      let t := (t.unbind now s).bind now d n
      if isDirectory then t.settle n (some d.directory) else t
    match d.inode? with
    | none => return move t
    | some old =>
      if old = n then return t
      else if t.holds old Content.isDirectory then
        if !isDirectory then .error .isDirectory
        else if (t.entries old).size ≠ 0 then .error .notEmpty
        else return move (t.settle old none)
      else if isDirectory then .error .notDirectory
      else return move t

/-- The tree with the octets of a file changed. -/
def rewrite (t : FileTree) (now : Int) (n : Nat) (f : ByteArray → ByteArray) : FileTree :=
  t.alter n fun i =>
    match i with
    | ⟨.file octets, mode, _⟩ => ⟨.file (f octets), mode, now⟩
    | i => i

/-- The octets of a file. -/
def octets (t : FileTree) (n : Nat) : ByteArray :=
  match t.content? n with
  | some (.file octets) => octets
  | _ => .empty

/-- Octets with others written over them from a place on; zeros fill what was not there. -/
def overwritten (start : Nat) (new old : ByteArray) : ByteArray :=
  if start = old.size then old ++ new
  else if start < old.size then old.extract 0 start ++ new ++ old.extract (start + new.size) old.size
  else old ++ ByteArray.mk (Array.replicate (start - old.size) 0) ++ new

/-! ## Trees -/

/-- The inode of a path from the root, with the directories on it made as needed. -/
def deepen (t : FileTree) (here : Nat) : List String → Nat × FileTree
  | [] => (here, t)
  | name :: rest =>
    match (t.entries here).get? name with
    | some n => t.deepen n rest
    | none =>
      let (n, t) := t.add ⟨.directory (some here) .empty, 0o755, birth⟩
      (t.alterEntries birth here (·.set name n)).deepen n rest

/-- The names on a path. -/
def namesOf (path : String) : List String := (path.splitOn "/").filter (· ≠ "")

/-- The tree with something at a path and the directories above it, all of it made in the first moment. -/
def place (t : FileTree) (path : String) (mode : Nat) (content : Content) : FileTree :=
  let names := namesOf path
  let (here, t) := t.deepen root names.dropLast
  let (n, t) := t.add ⟨content, mode, birth⟩
  t.alterEntries birth here (·.set (names.getLastD "") n)

/-- The tree with a directory at a path. -/
def withDirectory (t : FileTree) (path : String) : FileTree := (t.deepen root (namesOf path)).2

/-- The tree with a file at a path. -/
def store (t : FileTree) (path : String) (bytes : Bytes) : FileTree :=
  t.place (Octets.ofText path) 0o644 (.file ⟨bytes.toArray⟩)

/-- A tree with nothing in it. -/
def bare : FileTree := ⟨#[⟨.directory (some root) .empty, 0o755, birth⟩]⟩

theorem walk_nil (t : FileTree) (follow : Bool) (links here : Nat) :
    t.walk follow links here [] = .ok ⟨here, "", some here⟩ := by
  rw [walk]

/-- A new inode holds what it was made with. -/
theorem content?_add (t : FileTree) (i : Inode) : (t.add i).2.content? (t.add i).1 = some i.content := by
  simp [content?, add]

end FileTree

end RunLedger.Sandbox
