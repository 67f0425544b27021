import RunLedger.Sandbox.Executable
import RunLedger.Sandbox.Script.Basic
import RunLedger.Text.Decimal

/-!
# The state of a shell

What a shell keeps while it runs a script: its variables, functions, aliases and parameters, what it does on signals, and
the jobs that it started. A command works on this state and on the machine, and may stop what is being run, up to a
loop, a function, or the shell.

* `value?_assigned`: a variable that was set holds its value.
-/

namespace RunLedger.Sandbox

/-- A variable of a shell. It may be marked without holding anything. -/
structure Variable where
  value : Option String
  isExported : Bool
  isFixed : Bool
  deriving Inhabited

/-- A function, and the line that its body starts on. -/
structure Function where
  line : Nat
  body : Command

/-- Processes that were started together, and how those ended that did. -/
structure Job where
  members : List (Nat × Option Outcome)
  /-- Whether its end was asked for. -/
  isAwaited : Bool
  /-- Whether its end is news. -/
  isChanged : Bool

/-- Whether a job goes on. -/
def Job.isRunning (j : Job) : Bool := j.members.any fun m => m.2.isNone

/-- What is put back when a function, or a command with settings of its own, ends. -/
inductive Kept where
  | variable (name : String) (held : Option Variable)
  | options (options : List Char)

/-- What a descriptor led to before a redirection. -/
inductive Saved where
  /-- It is kept behind another descriptor. -/
  | behind (descriptor : Nat)
  /-- It was closed. -/
  | closed
  /-- It was closed, and is again. -/
  | untouched

/-- How a script asks for its options: which parameter is next, and how far in the one before. -/
structure OptionPlace where
  index : Nat
  offset : Option Nat

/-- The state of a shell. -/
structure Shell where
  name : String
  parameters : List String
  place : OptionPlace
  bindings : OrderedMap String Variable
  functions : OrderedMap String Function
  aliases : OrderedMap String String
  /-- What is done on signals. -/
  traps : OrderedMap Nat String
  /-- The signals that were ignored before the shell could ask for anything. -/
  withstood : List Nat
  options : List Char
  /-- The status of the last command, and of the last one whose output was taken. -/
  status : Nat
  outputStatus : Nat
  /-- The status before what is done on a signal, or in the end. -/
  heldStatus : Option Nat
  /-- The jobs by their numbers, the latest first. -/
  jobs : List (Nat × Job)
  lastJob : Option Nat
  /-- The loops that are being run. -/
  loops : Nat
  /-- What is put back later, for each function or command that is being run. -/
  frames : List (List Kept)
  /-- How many functions are being run inside of one another. -/
  calls : Nat
  /-- What redirections that are in force changed. -/
  redirections : List (List (Nat × Saved))
  /-- The number of the shell itself, whatever part of it is running. -/
  id : Nat
  /-- Whether this is the shell itself, and no part of it in a process of its own. -/
  isWhole : Bool
  /-- The path of the working directory, as the shell entered it. -/
  directory : String
  /-- The line of the script, and of the function in it, that is being run. -/
  line : Nat
  functionLine : Nat
  /-- The line up to which the script is read. -/
  readLine : Nat
  /-- The command of the shell that is being run. -/
  command : Option String
  /-- The programs that were found by their names. -/
  tracked : OrderedMap String String
  /-- Whether a trace is being written. -/
  isTracing : Bool
  /-- How the process can go on as a program. -/
  launch : Launch

/-- How a shell stops what it runs. -/
inductive Stop where
  /-- The shell ends with a status. -/
  | exit (status : Nat)
  /-- The shell cannot go on. -/
  | failure
  /-- A function, or a script, ends, with the last status or with one that was chosen. -/
  | «return» (isChosen : Bool)
  /-- Loops end, or the outermost of them starts over. -/
  | leave (loops : Nat) (again : Bool)
  deriving DecidableEq, Repr

/-- Work of a shell: it is told what follows if it is done, and if it stops. -/
def Sh (α : Type) : Type := Shell → (α → Shell → Thread) → (Stop → Shell → Thread) → Thread

/-- What surrounds a command: whether something looks at its failure, and whether nothing follows in its process. -/
structure Standpoint where
  isTested : Bool
  isLast : Bool

/-- How commands are run. The answer is their status. -/
abbrev Run := Standpoint → Command → Sh Nat

namespace Standpoint

/-- Nothing looks at a failure, and something follows. -/
def plain : Standpoint := ⟨false, false⟩

/-- A failure is looked at. -/
def tested : Standpoint := ⟨true, false⟩

/-- Nothing follows. -/
def last : Standpoint := ⟨false, true⟩

/-- The same, but something follows. -/
def inner (p : Standpoint) : Standpoint := { p with isLast := false }

end Standpoint

namespace Shell

/-- The status of a command that makes no sense. -/
def failed : Nat := 2

/-- The status of a process that ended. -/
def statusOf : Outcome → Nat
  | .exited status => status % 256
  | .killed signal => 128 + signal

/-- Whether an option is on. -/
def has (s : Shell) (option : Char) : Bool := s.options.contains option

/-- What a variable holds. -/
def value? (s : Shell) (name : String) : Option String :=
  if name = "LINENO" then some (Text.Decimal.text (s.line + 1 - s.functionLine))
  else (s.bindings.get? name).bind Variable.value

/-- Whether a variable must not be set. -/
def isFixed (s : Shell) (name : String) : Bool := (s.bindings.get? name).any Variable.isFixed

/-- The separators of fields, if any were chosen. -/
def separators? (s : Shell) : Option String := s.value? "IFS"

/-- The directories in which a shell looks for programs. -/
def searchPath (s : Shell) : String := (s.value? "PATH").getD "/usr/local/sbin:/usr/local/bin:/usr/sbin:/usr/bin:/sbin:/bin"

/-- The state with a variable set. -/
def assigned (s : Shell) (name value : String) : Shell :=
  let old := (s.bindings.get? name).getD default
  { s with
    bindings := s.bindings.set name { old with value := some value, isExported := old.isExported || s.has 'a' }
    tracked := if name = "PATH" then .empty else s.tracked
    place := if name = "OPTIND" then ⟨(Text.Decimal.value (value.toList.takeWhile Char.isDigit)), none⟩ else s.place }

/-- The place of a name among the variables that programs are handed. -/
def bucket (name : String) : Nat :=
  (name.toList.foldl (fun n c => n + c.toNat) ((name.toList.headD '\x00').toNat * 16)) % 39

/-- What the programs that a shell starts find in their environment. -/
def environment (s : Shell) : OrderedMap String String :=
  let handed := s.bindings.entries.filterMap fun (name, v) =>
    v.value.bind fun value => if v.isExported then some (name, value) else none
  (handed.mergeSort fun a b => bucket a.1 ≤ bucket b.1).foldl (fun m (name, value) => m.set name value) .empty

/-- A variable that was set holds its value. -/
theorem value?_assigned (s : Shell) (name value other : String) (h : other ≠ "LINENO") :
    (s.assigned name value).value? other = if name = other then some value else s.value? other := by
  simp only [assigned, value?, h, if_false, OrderedMap.get?_set]
  split <;> rfl

end Shell

namespace Sh

instance : Monad Sh where
  pure a := fun s next _ => next a s
  bind m f := fun s next stop => m s (fun a s => f a s next stop) stop

instance : MonadStateOf Shell Sh where
  get := fun s next _ => next s s
  set s := fun _ next _ => next ⟨⟩ s
  modifyGet f := fun s next _ =>
    let (a, s) := f s
    next a s

instance : MonadExceptOf Stop Sh where
  throw e := fun s _ stop => stop e s
  tryCatch m handle := fun s next stop => m s next fun e s => handle e s next stop

instance : MonadLift Act Sh where
  monadLift act := fun s next _ => act fun a => next a s

/-- The work of a process that is a shell. -/
def toAct {α : Type} (m : Sh α) (s : Shell) : Act (Except Stop α × Shell) := fun next =>
  m s (fun a s => next (.ok a, s)) fun e s => next (.error e, s)

/-- Runs something and answers how it went. -/
def attempt {α : Type} (m : Sh α) : Sh (Except Stop α) := fun s next _ =>
  m s (fun a s => next (.ok a) s) fun e s => next (.error e) s

/-- Goes on as something went. -/
def resume {α : Type} : Except Stop α → Sh α
  | .ok a => return a
  | .error e => throw e

/-- Does something and puts the state in order, however it ends. -/
def thenAlways {α : Type} (m : Sh α) (after : Sh Unit) : Sh α := do
  let result ← attempt m
  after
  resume result

/-- Sets the status of the last command. -/
def setStatus (status : Nat) : Sh Unit := modify fun s => { s with status }

/-- Writes octets to a descriptor. Answers whether that went well. -/
def emit (descriptor : Nat) (text : String) : Sh Bool := do
  if text.isEmpty then return true
  match ← (Act.write descriptor (Octets.array text) : Act _) with
  | .ok () => return true
  | .error _ => return false

/-- Writes to where errors are told. -/
def tell (text : String) : Sh Unit := do
  let _ ← emit 2 text

/-- Tells what is wrong on a line. -/
def complainAt (line : Nat) (text : String) : Sh Unit := do
  let s ← get
  let command := s.command.elim "" fun c => c ++ ": "
  tell (s.name ++ ": " ++ Text.Decimal.text line ++ ": " ++ command ++ text ++ "\n")

/-- Tells what is wrong. -/
def complain (text : String) : Sh Unit := do complainAt (← get).line text

/-- Tells what is wrong and goes no further. -/
def fail {α : Type} (text : String) : Sh α := do
  complain text
  setStatus Shell.failed
  throw .failure

/-- Sets a variable, unless it is fixed. -/
def assign (name value : String) : Sh Unit := do
  if !isVariableName name then fail ((name.takeWhile (· ≠ '=')).toString ++ ": bad variable name")
  let s ← get
  if s.isFixed name then fail (name ++ ": is read only")
  else
    set (s.assigned name value)

/-- Whether a character may stand around a number. -/
def isSpace (c : Char) : Bool := c = ' ' || ('\t' ≤ c && c ≤ '\r')

/-- The number that a text writes, with blanks around it and a sign in front of it if need be. -/
def number? (word : String) : Option Nat :=
  let trimmed := word.toList.dropWhile isSpace
  let (isNegative, cs) := match trimmed with
    | '-' :: cs => (true, cs)
    | '+' :: cs => (false, cs)
    | cs => (false, cs)
  let digits := cs.takeWhile Char.isDigit
  let n := Text.Decimal.value digits
  if digits.isEmpty || !(cs.drop digits.length).all isSpace || 2147483647 < n || (isNegative && n ≠ 0) then none
  else some n

/-- The number that a word must be. -/
def numeral (word : String) : Sh Nat := do
  match number? word with
  | some n => return n
  | none => fail ("Illegal number: " ++ word)

/-- What is put back later if the innermost frame ends. -/
def keep (k : Kept) : Sh Unit := modify fun s => { s with
  frames := match s.frames with
    | frame :: rest => (k :: frame) :: rest
    | [] => [] }

/-- The state with something put back. -/
def putBack (s : Shell) : Kept → Shell
  | .variable name held =>
    { s with
      bindings := held.elim (s.bindings.erase name) (s.bindings.set name)
      tracked := if name = "PATH" then .empty else s.tracked }
  | .options options => { s with options }

/-- Does something in a frame of its own and puts back what it changed there. -/
def framed {α : Type} (m : Sh α) : Sh α := do
  modify fun s => { s with frames := [] :: s.frames }
  thenAlways m (modify fun s => { (s.frames.headD []).foldl putBack s with frames := s.frames.drop 1 })

end Sh

end RunLedger.Sandbox
