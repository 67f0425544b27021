import RunLedger.Sandbox.Program.Stream
import RunLedger.Sandbox.Shell.Run

/-!
# The shell as a program

How a shell is told what to run: a text among its arguments, a file, or what it reads; which options are on from the
start; and what it knows when it starts.

* `read_nil`: without arguments a shell runs what it reads.
-/

namespace RunLedger.Sandbox

/-- How a shell is told what to run. -/
structure Invocation where
  options : List Char
  /-- Whether the first operand is the script itself. -/
  isText : Bool
  operands : List String
  deriving DecidableEq, Repr

namespace Invocation

/-- Switches options as the letters of a word say, given the words behind it. Answers the words that are left, or tells
what is wrong. -/
def letters (isOn : Bool) (i : Invocation) (rest : List String) : List Char → Except String (Invocation × List String)
  | [] => .ok (i, rest)
  | c :: cs =>
    if c = 'c' then letters isOn { i with isText := true } rest cs
    else if c = 'l' then letters isOn i rest cs
    else if c = 'o' then
      match rest with
      | [] => letters isOn i [] cs
      | name :: rest =>
        match Sh.optionNames.lookup name with
        | some c => letters isOn { i with options := Sh.switched i.options isOn c } rest cs
        | none => .error ("Illegal option -o " ++ name)
    else if Sh.optionSigns.contains c then letters isOn { i with options := Sh.switched i.options isOn c } rest cs
    else .error ("Illegal option -" ++ c.toString)

/-- Reads arguments, of which there are at most so many. -/
def readFrom : Nat → Invocation → List String → Except String Invocation
  | 0, i, _ => .ok i
  | _, i, [] => .ok i
  | n + 1, i, word :: rest =>
    match word.toList with
    | ['-'] | ['-', '-'] => .ok { i with operands := rest }
    | '-' :: cs => (letters true i rest cs).bind fun (i, rest) => readFrom n i rest
    | '+' :: cs => (letters false i rest cs).bind fun (i, rest) => readFrom n i rest
    | _ => .ok { i with operands := word :: rest }

/-- Reads arguments. -/
def read (arguments : List String) : Except String Invocation := do
  let i ← readFrom (arguments.length + 1) ⟨[], false, []⟩ arguments
  if i.isText && i.operands.isEmpty then .error "-c requires an argument"
  else if !i.isText && i.operands.isEmpty then .ok { i with options := Sh.switched i.options true 's' }
  else .ok i

/-- Without arguments a shell runs what it reads. -/
theorem read_nil : read [] = .ok ⟨['s'], false, []⟩ := by rfl

end Invocation

namespace Shell

/-- The variables that a shell has if nobody set them. -/
def ownVariables (parent : Nat) : List (String × String) :=
  [("IFS", " \t\n"), ("OPTIND", "1"), ("PPID", Text.Decimal.text parent)]

/-- The variables that a shell sets unless they are set already. -/
def defaultVariables : List (String × String) :=
  [("PATH", Sh.standardPath), ("PS1", "# "), ("PS2", "> "), ("PS4", "+ ")]

/-- The variables that a shell starts with, in a directory of a path. -/
def firstVariables (environment : Environment) (parent : Nat) (directory : String) : OrderedMap String Variable :=
  let given := (environment.filter fun name _ => isVariableName name).mapValues fun _ value =>
    (⟨some value, true, false⟩ : Variable)
  let all := defaultVariables.foldl (fun m (name, value) =>
    if m.contains name then m else m.set name ⟨some value, false, false⟩) given
  let all := (ownVariables parent).foldl (fun m (name, value) =>
    m.set name ⟨some value, (m.get? name).any Variable.isExported, false⟩) all
  all.set "PWD" ⟨some directory, true, false⟩

/-- The path of the working directory, as the environment writes it if that leads there. -/
def firstDirectory (environment : Environment) (t : FileTree) (base : Nat) : String :=
  let real := (t.path? base).getD "/"
  match environment.get? "PWD" with
  | some path =>
    if FileTree.isAbsolute path && (t.find base path true).toOption = some base then path else real
  | none => real

/-- A shell that starts as a program in a process. -/
def start (c : Call) (id : Nat) (p : Process) (directory : String) : Shell where
  name := c.name
  parameters := []
  place := Sh.firstPlace
  bindings := firstVariables c.environment p.parent directory
  functions := .empty
  aliases := .empty
  traps := .empty
  withstood := p.ignored
  options := []
  status := 0
  outputStatus := 0
  heldStatus := none
  jobs := []
  lastJob := none
  loops := 0
  frames := []
  calls := 0
  redirections := []
  id
  isWhole := true
  directory
  line := 1
  functionLine := 1
  readLine := 1
  command := none
  tracked := .empty
  isTracing := false
  launch := c.launch

end Shell

namespace Sh

/-- Tells what is wrong before anything is run. -/
def refuseStart (text : String) : Sh Nat := do
  complainAt 0 text
  return Shell.failed

/-- Runs a script that was read. -/
def runScript (run : Run) (octets : ByteArray) : Sh Nat :=
  let text := (Octets.ofArray octets).toList.filter (· ≠ '\x00')
  ending run (runLines run true .plain maxLines 1 text 0)

/-- Runs what a shell is told to run. Answers the status that it ends with. -/
def invoked (run : Run) (i : Invocation) : Sh Nat := do
  modify fun s => { s with options := i.options }
  if i.options.contains 'm' || i.options.contains 'i' then
    complainAt 0 "can't access tty; job control turned off"
    switch false 'm'
  match i.isText, i.options.contains 's', i.operands with
  | true, _, [] => return Shell.failed
  | true, _, text :: operands =>
    modify fun s => { s with name := operands.headD s.name, parameters := operands.drop 1 }
    ending run (runText run .plain text)
  | false, false, path :: parameters =>
    match ← (Act.open path .reading 0 10 true : Act _) with
    | .error e => refuseStart ("cannot open " ++ path ++ ": " ++ reason "No such file" e)
    | .ok descriptor =>
      let octets ← Act.readAll descriptor
      Act.close descriptor
      modify fun s => { s with name := path, parameters }
      runScript run (octets.toOption.getD .empty)
  | false, _, parameters =>
    modify fun s => { s with parameters }
    let octets ← Act.readAll 0
    runScript run (octets.toOption.getD .empty)

end Sh

/-- `sh`: runs a script. -/
def Program.shell (c : Call) : Act Nat := do
  match ← Act.record with
  | none => return Shell.failed
  | some p =>
    let id ← Act.self
    let directory ← Act.files (Shell.firstDirectory c.environment)
    let body := match Invocation.read c.arguments with
      | .ok i => Sh.invoked (Sh.runTo Sh.maxDepth) i
      | .error text => Sh.refuseStart text
    match ← body.toAct (Shell.start c id p directory) with
    | (.ok status, _) => return status % 256
    | (.error _, s) => return s.status % 256

end RunLedger.Sandbox
