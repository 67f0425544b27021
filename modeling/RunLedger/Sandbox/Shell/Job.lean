import RunLedger.Sandbox.Script.Reader
import RunLedger.Sandbox.Shell.State

/-!
# Jobs

How a shell runs scripts, does what is due on signals, and starts parts of itself in processes of their own: what such a
part changes stays with it, and the shell learns how it ended. Processes that belong together are a job, which has a
number as long as nobody asked how it ended.

* `freeNumber_nil`: the first job has the number one.
-/

namespace RunLedger.Sandbox.Sh

/-! ## Scripts -/

/-- The most lines that a shell lives to run. -/
def maxLines : Nat := 1000000000

/-- Tells that a script makes no sense. -/
def refuseScript {α : Type} (line : Nat) (text : String) : Sh α := do
  complainAt line ("Syntax error: " ++ text)
  setStatus Shell.failed
  throw .failure

/-- Runs the lines of a script from a number on, at most so many, given whether they are shown if that is asked, and where
they stand. The answer is the status of the last one. -/
def runLines (run : Run) (isShown : Bool) (standpoint : Standpoint) : Nat → Nat → List Char → Nat → Sh Nat
  | 0, _, _, status => return status
  | n + 1, line, cs, status => do
    let s ← get
    match Script.line s.aliases cs line with
    | .finished => return status
    | .senseless complaint =>
      if isShown && s.has 'v' then tell (String.ofList cs)
      refuseScript complaint.line complaint.text
    | .command c rest next =>
      modify fun s => { s with readLine := next }
      if isShown && s.has 'v' then tell (String.ofList (cs.take (cs.length - rest.length)))
      match c with
      | .nothing => runLines run isShown standpoint n next rest status
      | c => runLines run isShown standpoint n next rest (← run standpoint c)

/-- Runs a script. The answer is the status of its last command, or zero. -/
def runText (run : Run) (standpoint : Standpoint) (text : String) : Sh Nat := do
  let line := (← get).readLine
  thenAlways (runLines run false standpoint maxLines 1 text.toList 0) (modify fun s => { s with readLine := line })

/-! ## Signals -/

/-- The signals that came and are not served yet. -/
def takePending : Act (List Nat) := Act.work fun w =>
  (((w.process? w.current).map Process.pending).getD [], w.alter w.current fun p => { p with pending := [] })

/-- Does what the shell is to do on signals, in the order of their numbers. What stops the shell's work leaves the other
signals for later. -/
def serveEach (run : Run) (status : Nat) : List Nat → Sh Unit
  | [] => return ()
  | signal :: rest => do
    match (← get).traps.get? signal with
    | none => serveEach run status rest
    | some action =>
      match ← attempt (runText run .plain action) with
      | .ok _ =>
        setStatus status
        serveEach run status rest
      | .error stop =>
        Act.alter fun p => { p with pending := rest ++ p.pending }
        match stop with
        | .return false | .leave _ _ => setStatus status
        | _ => pure ()
        throw stop

/-- Does what is due on signals. -/
def serve (run : Run) : Sh Unit := do
  if ← (Act.look World.isCalled : Act _) then
    let signals ← takePending
    let s ← get
    let outer := s.heldStatus
    let status := outer.getD s.status
    set { s with heldStatus := some status }
    thenAlways (serveEach run status (signals.mergeSort fun a b => a ≤ b))
      (modify fun s => { s with heldStatus := outer })

/-! ## The end of a shell -/

/-- The status that a shell ends with, as something stopped. -/
def stopStatus (result : Except Stop Nat) : Sh Nat := do
  match result with
  | .error (.exit status) => return status % 256
  | .error .failure => return Shell.failed
  | _ => return (← get).status % 256

/-- Runs what a shell is to do when it ends with a status. Answers the status it ends with then. -/
def atExit (run : Run) (status : Nat) : Sh Nat := do
  let s ← get
  match s.traps.get? Signal.exit with
  | none => return status
  | some action =>
    set { s with traps := s.traps.erase Signal.exit, status, heldStatus := some status, loops := 0 }
    match ← attempt (runText run .plain action) with
    | .ok _ | .error (.return _) | .error (.leave _ _) => return status
    | .error stop => stopStatus (.error stop)

/-- Does something as a shell, up to its end. Answers the status it ends with. -/
def ending (run : Run) (body : Sh Nat) : Sh Nat := do
  atExit run (← stopStatus (← attempt body))

/-- Does something as a shell up to the end of its process. -/
def toEnd (run : Run) (body : Sh Nat) (s : Shell) : Act Unit := do
  match ← (ending run body).toAct s with
  | (.ok status, _) => Act.quit (.exited status)
  | (.error _, s) => Act.quit (.exited (s.status % 256))

/-! ## Parts of a shell -/

/-- Where a part of a shell runs. -/
inductive Ground where
  | front
  /-- In the background; the first of a job has nothing to read. -/
  | back (isFirst : Bool)
  deriving DecidableEq

/-- The shell as a part of it begins. -/
def part (s : Shell) (ground : Ground) : Shell :=
  { s with
    traps := s.traps.filter fun _ action => action = ""
    withstood := if ground = .front then s.withstood else Signal.interrupt :: Signal.quit :: s.withstood
    jobs := []
    redirections := []
    heldStatus := none
    loops := 0
    isWhole := false }

/-- Prepares the process of a part. -/
def settle (ground : Ground) : Act Unit := do
  Act.alter fun p => { p with
    caught := []
    ignored := if ground = .front then p.ignored else Signal.interrupt :: Signal.quit :: p.ignored }
  if ground = .back true then
    Act.close 0
    let _ ← Act.open "/dev/null" .reading 0 0 false

/-- Starts a part of the shell that does something. Answers the number of its process. -/
def fork (run : Run) (ground : Ground) (body : Sh Nat) : Sh Nat := do
  let s ← get
  Act.spawn do
    settle ground
    toEnd run body (part s ground)

/-! ## The table of jobs -/

/-- The lowest number of a job that is free, from a number on. Jobs whose ends were asked for make room. -/
def freeNumber (jobs : List (Nat × Job)) : Nat → Nat → Nat
  | 0, n => n
  | fuel + 1, n =>
    match jobs.lookup n with
    | none => n
    | some job => if !job.isRunning && job.isAwaited then n else freeNumber jobs fuel (n + 1)

/-- Makes a job of processes. Answers its number. -/
def enroll (members : List Nat) : Sh Nat := do
  let s ← get
  let n := freeNumber s.jobs (s.jobs.length + 1) 1
  let job : Job := ⟨members.map fun id => (id, none), false, false⟩
  set { s with jobs := (n, job) :: s.jobs.filter fun e => e.1 ≠ n }
  return n

/-- The job of a number. -/
def job? (n : Nat) : Sh (Option Job) := do return (← get).jobs.lookup n

/-- Changes the job of a number. -/
def alterJob (n : Nat) (f : Job → Job) : Sh Unit := modify fun s =>
  { s with jobs := s.jobs.map fun e => if e.1 = n then (n, f e.2) else e }

/-- Forgets the job of a number. -/
def dropJob (n : Nat) : Sh Unit := modify fun s => { s with jobs := s.jobs.filter fun e => e.1 ≠ n }

/-- The status of a job, which is the one of its last process. -/
def jobStatus (j : Job) : Nat :=
  match j.members.getLast? with
  | some (_, some outcome) => Shell.statusOf outcome
  | _ => 0

/-- Notes that a process ended. Answers the number of its job. -/
def note (id : Nat) (outcome : Outcome) : Sh (Option Nat) := do
  let s ← get
  match s.jobs.find? fun e => e.2.isRunning && e.2.members.any fun m => m.1 = id with
  | none => return none
  | some (n, _) =>
    alterJob n fun j =>
      let members := j.members.map fun m => if m.1 = id then (id, some outcome) else m
      { j with members, isChanged := members.all fun m => m.2.isSome }
    return some n

/-- What there is to learn of the processes that the shell started. -/
inductive News where
  | ended (id : Nat) (outcome : Outcome)
  /-- A signal came that the shell serves. -/
  | called
  /-- There are no processes. -/
  | childless

/-- The next piece of news. -/
def news? (heeds : Bool) (w : World) : Option News × World :=
  let children := w.children
  match w.firstEnded? children with
  | some (id, outcome) => (some (.ended id outcome), w.forget id)
  | none =>
    if children.isEmpty then (some .childless, w)
    else if heeds && w.isCalled then (some .called, w)
    else (none, w)

/-- What is said of a process that the shell waited for, if it did not end by itself. -/
def obituary : Outcome → String
  | .exited _ => ""
  | .killed signal =>
    if signal = Signal.interrupt || signal = Signal.pipe then "" else Signal.description signal ++ "\n"

/-- Waits for a job, in so many steps. Answers whether it ended, or a signal came that is heeded. -/
def awaitJob (heeds : Bool) (n : Nat) : Nat → Sh Bool
  | 0 => return true
  | steps + 1 => do
    match ← job? n with
    | none => return true
    | some job =>
      if !job.isRunning then return true
      else
        match ← (Act.await (news? heeds) : Act _) with
        | .called => return false
        | .childless => return true
        | .ended id outcome =>
          if (← note id outcome) = some n then tell (obituary outcome)
          awaitJob heeds n steps

/-- Takes note of all processes that ended by now, in so many steps. -/
def catchUp : Nat → Sh Unit
  | 0 => return ()
  | steps + 1 => do
    let news ← Act.work fun w =>
      match w.firstEnded? w.children with
      | some (id, outcome) => (some (id, outcome), w.forget id)
      | none => (none, w)
    match news with
    | none => return ()
    | some (id, outcome) =>
      let _ ← note id outcome
      catchUp steps

/-- Waits for a job of the shell's own and forgets it. Answers its status. -/
def finish (n : Nat) : Sh Nat := do
  let _ ← awaitJob false n Act.manyTries
  match ← job? n with
  | some job =>
    dropJob n
    return jobStatus job
  | none => return 0

/-- Starts a part of the shell and waits for it. Answers its status. -/
def inPart (run : Run) (body : Sh Nat) : Sh Nat := do
  let id ← fork run .front body
  finish (← enroll [id])

/-! ## Output that is taken -/

/-- Reads what a part of the shell writes, and waits for it. -/
def capture (run : Run) (c : Command) : Sh String := do
  match c with
  | .nothing => return ""
  | c =>
    let (reader, writer) ← Act.pipe 10 true
    let id ← fork run .front do
      Act.close reader
      let _ ← Act.duplicateTo writer 1 false
      Act.close writer
      run .last c
    let n ← enroll [id]
    Act.close writer
    let octets ← match ← (Act.readAll reader : Act _) with
      | .ok octets => pure octets
      | .error _ => pure .empty
    Act.close reader
    let status ← finish n
    modify fun s => { s with outputStatus := status }
    let text := (Octets.ofArray octets).toList.filter (· ≠ '\x00')
    return String.ofList (text.reverse.dropWhile (· = '\n')).reverse

/-- The first job has the number one. -/
theorem freeNumber_nil (fuel : Nat) : freeNumber [] (fuel + 1) 1 = 1 := rfl

end RunLedger.Sandbox.Sh
