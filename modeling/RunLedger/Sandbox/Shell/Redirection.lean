import RunLedger.Sandbox.Shell.Expansion
import RunLedger.Sandbox.Shell.Job

/-!
# Redirections

How a shell makes descriptors lead elsewhere: words are filled in first, then one redirection is made after the other.
What a descriptor led to is kept behind a private one, and put back later.

* `reason_notFound`: a file that is not there is told apart from a directory that is not there.
-/

namespace RunLedger.Sandbox.Sh

/-- Where a descriptor is to lead. -/
inductive Aim where
  | file (path : String) (direction : Direction)
  /-- To where another descriptor leads, or nowhere. -/
  | descriptor (other : Option Nat)
  | text (s : String)

/-- Why a path could not be opened, for a purpose that is worded so. -/
def reason (absent : String) : IoError → String
  | .notFound | .notDirectory => absent
  | e => e.text

/-- Where a word makes a descriptor lead. -/
def aim (run : Run) (r : Redirection Word) : Sh Aim := do
  match r.direction with
  | .document => return .text (← expandDocument (capture run) r.target)
  | .duplicate =>
    let words ← match r.target with
      | [.text s false] => pure [s]
      | w => expandFields (capture run) w
    match words with
    | [] => fail "redir error"
    | word :: _ =>
      match word.toList with
      | ['-'] => return .descriptor none
      | [c] => if c.isDigit then return .descriptor (some (c.toNat - 48)) else refuseScript (← get).readLine "Bad fd number"
      | _ => refuseScript (← get).readLine "Bad fd number"
  | direction => return .file (← expandText (capture run) r.target) direction

/-- Where words make descriptors lead, in order. -/
def aims (run : Run) : List (Redirection Word) → Sh (List (Nat × Aim))
  | [] => return []
  | r :: rest => do
    let a ← aim run r
    return (r.descriptor, a) :: (← aims run rest)

/-! ## Opening -/

/-- The mode of files that a shell makes. -/
def fileMode : Nat := 0o666

/-- Opens a path at the lowest free descriptor from ten on. -/
def openFile (path : String) (o : Opening) : Sh Nat := do
  match ← (Act.open path o fileMode 10 true : Act _) with
  | .ok descriptor => return descriptor
  | .error e =>
    if o.creates || o.writes then fail ("cannot create " ++ path ++ ": " ++ reason "Directory nonexistent" e)
    else fail ("cannot open " ++ path ++ ": " ++ reason "No such file" e)

/-- Opens a path to write to it, unless a file is there. -/
def openNew (path : String) : Sh Nat := do
  let found ← Act.files fun t base =>
    match t.find base path true with
    | .ok n => some (t.holds n Content.isFile)
    | .error _ => none
  match found with
  | none => openFile path .creating
  | some false => openFile path ⟨false, true, false, false, false, false⟩
  | some true => fail ("cannot create " ++ path ++ ": " ++ IoError.text .alreadyExists)

/-- The octets of a document that are handed over at once. -/
def maxHanded : Nat := 4096

/-- Opens a text to read it. A long one is written by a process of its own. -/
def openText (run : Run) (s : String) : Sh Nat := do
  let (reader, writer) ← Act.pipe 10 true
  if s.length ≤ maxHanded then
    let _ ← emit writer s
  else
    let _ ← fork run .front do
      Act.close reader
      let _ ← emit writer s
      return 0
  Act.close writer
  return reader

/-- Opens what a descriptor is to lead to. -/
def openAim (run : Run) : Aim → Sh Nat
  | .text s => openText run s
  | .descriptor other => return other.getD 0
  | .file path direction => do
    match direction with
    | .read => openFile path .reading
    | .readWrite => openFile path .both
    | .append => openFile path .appending
    | .write => if (← get).has 'C' then openNew path else openFile path .writing
    | _ => openFile path .writing

/-! ## Leading descriptors elsewhere -/

/-- Keeps what a descriptor leads to, unless that was done before. -/
def save (descriptor : Nat) (isAlike : Bool) : Sh Unit := do
  let s ← get
  match s.redirections with
  | [] => return ()
  | frame :: rest =>
    if (frame.lookup descriptor).isSome then return ()
    else
      let saved ← match ← (Act.duplicate? descriptor 10 true : Act _) with
        | some other => pure (Saved.behind other)
        | none => pure (if isAlike then .untouched else .closed)
      set { s with redirections := ((descriptor, saved) :: frame) :: rest }

/-- Makes a descriptor lead elsewhere. -/
def lead (run : Run) (isKept : Bool) (descriptor : Nat) (a : Aim) : Sh Unit := do
  match a with
  | .descriptor (some other) =>
    if other = descriptor then return ()
    else
      if isKept then save descriptor false
      if !(← (Act.duplicateTo other descriptor false : Act _)) then
        fail (Text.Decimal.text other ++ ": " ++ IoError.text .badDescriptor)
  | .descriptor none =>
    if isKept then save descriptor true
    Act.close descriptor
  | a =>
    let opened ← openAim run a
    if isKept then save descriptor false
    let _ ← Act.duplicateTo opened descriptor false
    Act.close opened

/-- Makes descriptors lead elsewhere, one after the other. -/
def leadAll (run : Run) (isKept : Bool) : List (Nat × Aim) → Sh Unit
  | [] => return ()
  | (descriptor, a) :: rest => do
    lead run isKept descriptor a
    leadAll run isKept rest

/-- Puts a descriptor back, or only lets go of what was kept. -/
def unsave (isFinal : Bool) (descriptor : Nat) : Saved → Sh Unit
  | .untouched => return ()
  | .closed => if isFinal then return () else Act.close descriptor
  | .behind other => do
    if !isFinal then
      let _ ← Act.duplicateTo other descriptor false
    Act.close other

/-- Puts descriptors back. -/
def unsaveAll (isFinal : Bool) : List (Nat × Saved) → Sh Unit
  | [] => return ()
  | (descriptor, saved) :: rest => do
    unsave isFinal descriptor saved
    unsaveAll isFinal rest

/-- Ends the innermost redirections, for good if they are to stay. -/
def popRedirections (isFinal : Bool) : Sh Unit := do
  let s ← get
  set { s with redirections := s.redirections.drop 1 }
  unsaveAll isFinal (s.redirections.headD [])

/-- Does something with descriptors that lead elsewhere. If they cannot, answers the status of that. -/
def withAims (run : Run) (as : List (Nat × Aim)) (failed : Sh Nat) (body : Sh Nat) : Sh Nat := do
  if as.isEmpty then body
  else
    modify fun s => { s with redirections := [] :: s.redirections }
    thenAlways (do
      match ← attempt (leadAll run true as) with
      | .ok () => body
      | .error .failure => failed
      | .error stop => throw stop) (popRedirections false)

/-- A file that is not there is told apart from a directory that is not there. -/
theorem reason_notFound (absent : String) : reason absent .notFound = absent := rfl

end RunLedger.Sandbox.Sh
