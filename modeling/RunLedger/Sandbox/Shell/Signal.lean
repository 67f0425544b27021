import RunLedger.Sandbox.Shell.Job
import RunLedger.Sandbox.Shell.Setting

/-!
# Signals and jobs in a shell

How a script sends signals, says what is done on them, and waits for the jobs that it started.

* `setTraps_nil`: to say nothing of signals goes well.
-/

namespace RunLedger.Sandbox.Sh

/-! ## Jobs -/

/-- A job in a line: its number, whether it is the latest or the one before, and how it is. -/
def jobLine (number place : Nat) (processes : Bool) (job : Job) : String :=
  let sign := if place = 0 then " + " else if place = 1 then " - " else "   "
  let first := if processes then Text.Decimal.text ((job.members.map Prod.fst).headD 0) ++ " " else ""
  let state :=
    if job.isRunning then "Running"
    else
      match job.members.getLast? with
      | some (_, some (.exited status)) =>
        if status = 0 then "Done" else "Done(" ++ Text.Decimal.text status ++ ")"
      | some (_, some (.killed signal)) => Signal.description signal
      | _ => ""
  let front := "[" ++ Text.Decimal.text number ++ "]" ++ sign ++ first ++ state
  front ++ String.ofList (List.replicate (33 - front.length) ' ')

/-- The job that a word means. -/
def jobOf (word : String) : Sh Nat := do
  let s ← get
  let missing := fun (text : String) => (fail text : Sh Nat)
  let absent := "No such job: " ++ word
  match word.toList with
  | '%' :: cs =>
    if cs = [] || cs = ['%'] || cs = ['+'] then
      match s.jobs with
      | (n, _) :: _ => return n
      | [] => missing "No current job"
    else if cs = ['-'] then
      match s.jobs with
      | _ :: (n, _) :: _ => return n
      | _ => missing "No previous job"
    else
      match Signal.digits? (String.ofList cs) with
      | some n => if s.jobs.any fun e => e.1 = n then return n else missing absent
      | none => missing absent
  | _ => missing absent

/-- Tells of jobs, and forgets those that ended. -/
def showJobs (processes groups : Bool) (numbers : List Nat) : Sh Nat := do
  let s ← get
  let places := s.jobs.map Prod.fst
  let text := numbers.filterMap fun n => (s.jobs.lookup n).map fun job =>
    if groups then Text.Decimal.text ((job.members.map Prod.fst).headD 0) ++ "\n"
    else
      let others := job.members.drop 1
      let more := if processes then
          others.map fun m => " |\n      " ++ Text.Decimal.text m.1 ++ String.ofList (List.replicate 24 ' ')
        else others.map fun _ => " | "
      jobLine n (places.idxOf n) processes job ++ String.join more ++ "\n"
  let status ← put (String.join text)
  if !groups then
    modify fun s => { s with jobs := s.jobs.filter fun e => !numbers.contains e.1 || e.2.isRunning }
  return status

/-- `jobs`: tells of jobs. -/
def jobs (words : List String) : Sh Nat := do
  let (options, words) ← optionsOf ['l', 'p'] [] words.length words
  catchUp Act.manyTries
  let last := (options.getLast?).map Prod.fst
  let numbers ← if words.isEmpty then pure ((← get).jobs.map Prod.fst) else words.mapM jobOf
  showJobs (last = some 'l') (last = some 'p') numbers

/-- The status of a shell that a signal called away from waiting. -/
def calledStatus : Act Nat := Act.look fun w =>
  128 + (((w.process? w.current).bind fun p => p.pending.getLast?).getD 0)

/-- Waits for all jobs, in so many steps. Answers the status. -/
def waitForAll : Nat → Sh Nat
  | 0 => return 0
  | steps + 1 => do
    let s ← get
    if !s.jobs.any fun e => e.2.isRunning then
      set { s with jobs := s.jobs.map fun (e : Nat × Job) => (e.1, { e.2 with isAwaited := true }) }
      return 0
    else
      match ← (Act.await (news? true) : Act _) with
      | .called => calledStatus
      | .childless => return 0
      | .ended id outcome =>
        let _ ← note id outcome
        waitForAll steps

/-- Waits for one job after the other, given the status so far. -/
def waitForEach : Nat → List String → Sh Nat
  | status, [] => return status
  | status, word :: rest => do
    let found ← if word.startsWith "%" then some <$> jobOf word else do
      let id ← numeral word
      let s ← get
      pure ((s.jobs.find? fun e => (e.2.members.getLast?).any fun m => m.1 = id).map Prod.fst)
    match found with
    | none => waitForEach status rest
    | some n =>
      if ← awaitJob true n Act.manyTries then
        alterJob n fun job => { job with isAwaited := true }
        match ← job? n with
        | some job => waitForEach (jobStatus job) rest
        | none => waitForEach status rest
      else calledStatus

/-- `wait`: waits for jobs, or for all of them. -/
def wait (words : List String) : Sh Nat := do
  match ← operands words with
  | [] => waitForAll Act.manyTries
  | words => waitForEach 127 words

/-! ## Signals -/

/-- Sends a signal to the processes of a group. Answers whether there are any. -/
def sendToGroup (group signal : Nat) : Act Bool := do
  let ids ← Act.look fun w => w.processes.entries.filterMap fun (id, p) => if p.group = group then some id else none
  for id in ids do
    let _ ← Act.work (·.deliver id signal)
  Act.rest 0
  return !ids.isEmpty

/-- Sends a signal to the process, or the group, that a word means. Answers whether there is any. -/
def send (signal : Nat) (word : String) : Sh Bool := do
  if word.startsWith "%" then
    let n ← jobOf word
    let first := ((← job? n).bind fun job => (job.members.map Prod.fst).head?).getD 0
    sendToGroup first signal
  else
    match word.toList with
    | '-' :: cs => sendToGroup (← numeral (String.ofList cs)) signal
    | _ =>
      let id ← numeral word
      if id = 0 then
        let own := ((← (Act.record : Act _)).map Process.group).getD 0
        sendToGroup own signal
      else Act.signal id signal

/-- Sends a signal to one after the other, given the status so far. -/
def sendEach (signal : Nat) : Nat → List String → Sh Nat
  | status, [] => return status
  | status, word :: rest => do
    if ← send signal word then sendEach signal status rest
    else
      complain (IoError.text .noSuchProcess ++ "\n")
      sendEach signal 1 rest

/-- How `kill` is to be called. -/
def killUsage : String :=
  "Usage: kill [-s sigspec | -signum | -sigspec] [pid | job]... or\nkill -l [exitstatus]"

/-- Tells the names of signals, or of one of them. -/
def nameSignals : List String → Sh Nat
  | [] => put (String.join ("0\n" :: (List.range (Signal.count - 1)).map fun n => Signal.nameOf (n + 1) ++ "\n"))
  | word :: _ => do
    let n ← numeral word
    let n := if 128 < n then n - 128 else n
    if 0 < n && n < Signal.count then put (Signal.nameOf n ++ "\n")
    else fail ("invalid signal number or exit status: " ++ word)

/-- `kill`: sends a signal to processes, or tells the names of signals. -/
def kill (words : List String) : Sh Nat := do
  match words with
  | [] => fail killUsage
  | first :: rest =>
    let direct := if first.startsWith "-" then Signal.number? 1 (first.drop 1).toString else none
    match direct with
    | some signal => if rest.isEmpty then fail killUsage else sendEach signal 0 rest
    | none =>
      let (options, words) ← if first.startsWith "-" then optionsOf ['l', 's'] ['s'] words.length words
        else pure ([], words)
      let mut signal := none
      for (c, value) in options do
        if c = 's' then
          match Signal.number? 1 value with
          | some n => signal := some n
          | none =>
            let _ ← (fail ("invalid signal number or name: " ++ value) : Sh Unit)
      if options.any fun o => o.1 = 'l' then
        if signal.isSome then fail killUsage else nameSignals words
      else if words.isEmpty then fail killUsage
      else sendEach (signal.getD Signal.standard) 0 words

/-! ## Traps -/

/-- Says what is done on a signal. -/
def setTrap (action : Option String) (signal : Nat) : Sh Unit := do
  modify fun s => { s with traps := action.elim (s.traps.erase signal) (s.traps.set signal) }
  if signal ≠ Signal.exit && !(← get).withstood.contains signal then
    let without := fun (signals : List Nat) => signals.filter (· ≠ signal)
    Act.alter fun p => { p with
      ignored := if action = some "" then signal :: without p.ignored else without p.ignored
      caught := if action.any (· ≠ "") then signal :: without p.caught else without p.caught }

/-- Says what is done on signals, one after the other. -/
def setTraps (action : Option String) : List String → Sh Nat
  | [] => return 0
  | word :: rest => do
    match Signal.number? 0 word with
    | some n =>
      setTrap action n
      setTraps action rest
    | none =>
      tell ("trap: " ++ word ++ ": bad trap\n")
      return 1

/-- `trap`: says what the shell does on signals and in the end. -/
def trap (words : List String) : Sh Nat := do
  match ← operands words with
  | [] =>
    let s ← get
    put (String.join ((List.range Signal.count).filterMap fun n => (s.traps.get? n).map fun action =>
      "trap -- " ++ inQuotes action ++ " " ++ Signal.nameOf n ++ "\n"))
  | action :: signals =>
    if signals.isEmpty || (Signal.digits? action).any (· < Signal.count) then setTraps none (action :: signals)
    else setTraps (if action = "-" then none else some action) signals

/-- To say nothing of signals goes well. -/
theorem setTraps_nil (action : Option String) : setTraps action [] = pure 0 := by
  rw [setTraps]

end RunLedger.Sandbox.Sh
