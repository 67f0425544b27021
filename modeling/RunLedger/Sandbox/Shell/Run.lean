import RunLedger.Sandbox.Shell.Builtin

/-!
# Running commands

What each kind of command does, given how the commands inside of it are run: `step` takes one command apart, and `runTo`
goes on with its parts to a bounded depth. The answer is the status of the command.

* `step_nothing`: the command that does nothing succeeds.
-/

namespace RunLedger.Sandbox.Sh

/-- Sets the line that is being run. -/
def atLine (line : Nat) : Sh Unit := modify fun s => { s with line }

/-- Whether the shell is to do something on a signal or in the end. -/
def hasTraps (s : Shell) : Bool := s.traps.entries.any fun e => e.2 ≠ ""

/-! ## What a command is called with -/

/-- The front of a command whose words are filled in one after the other. -/
structure Front where
  /-- The texts so far. -/
  argv : List String
  /-- The words that are not filled in yet. -/
  rest : List Word
  /-- Whether functions are passed over. -/
  skipsFunctions : Bool
  /-- Where programs are looked for, if not where the script says. -/
  path? : Option String

/-- Fills in words until there is a text. -/
def firstTexts (run : Run) : List Word → Sh (List String × List Word)
  | [] => return ([], [])
  | w :: rest => do
    match ← expandFields (capture run) w with
    | [] => firstTexts run rest
    | texts => return (texts, rest)

/-- Takes the options behind `command`, given what was seen so far. Answers everything if they ask for more than to run
something. -/
def afterCommand (run : Run) (seen : List String) (path? : Option String) :
    Nat → List String → List Word → Sh (Bool × Front)
  | 0, texts, rest => return (false, ⟨seen ++ texts, rest, false, none⟩)
  | n + 1, texts, rest => do
    let (texts, rest) ← if texts.isEmpty then firstTexts run rest else pure (texts, rest)
    match texts with
    | [] => return (false, ⟨seen, [], false, none⟩)
    | text :: more =>
      match text.toList with
      | ['-', '-'] =>
        let (more, rest) ← if more.isEmpty then firstTexts run rest else pure (more, rest)
        if more.isEmpty then return (false, ⟨seen ++ [text], [], false, none⟩)
        else return (true, ⟨more, rest, true, path?⟩)
      | '-' :: c :: cs =>
        if (c :: cs).all (· = 'p') then afterCommand run (seen ++ [text]) (some standardPath) n more rest
        else return (false, ⟨seen ++ texts, rest, false, none⟩)
      | _ => return (true, ⟨texts, rest, true, path?⟩)

/-- What a command calls. -/
inductive Callee where
  | nothing
  | builtin (isSpecial : Bool)
  | function (f : Function)
  | program
  deriving Inhabited

/-- Whether a callee is a command of the shell of a kind. -/
def Callee.isBuiltin : Callee → Bool
  | .builtin _ => true
  | _ => false

/-- What the front of a command calls, and the front without `command`, taken off so often at most. -/
def calleeOf (run : Run) (isInside : Bool) : Nat → Front → Sh (Callee × Front)
  | 0, f => return (.program, f)
  | n + 1, f => do
    let s ← get
    match f.argv with
    | [] => return (.nothing, f)
    | name :: texts =>
      match if f.skipsFunctions then none else s.functions.get? name with
      | some function => return (.function function, f)
      | none =>
        if name = "command" then
          let (isPeeled, peeled) ← afterCommand run [name] f.path? Act.manyTries texts f.rest
          if isPeeled then calleeOf run true n peeled else return (.builtin false, peeled)
        else if isBuiltin name then return (.builtin (!isInside && isSpecial name), f)
        else return (.program, f)

/-- The commands whose arguments may set variables. -/
def declares (name : String) : Bool := ["export", "readonly", "local", "alias"].contains name

/-- The texts of arguments, of which some may set variables. -/
def argumentsOf (run : Run) (areSettings : Bool) : List Word → Sh (List String)
  | [] => return []
  | w :: rest => do
    let texts ← if areSettings && w.isSetting then do pure [← expandSetting (capture run) w]
      else expandFields (capture run) w
    return texts ++ (← argumentsOf run areSettings rest)

/-! ## Functions and programs -/

/-- How many functions may call one another. -/
def maxCalls : Nat := 1000

/-- Runs a function. -/
def call (run : Run) (isTested : Bool) (f : Function) (arguments : List String) : Sh Nat := do
  let outer ← get
  if maxCalls ≤ outer.calls then
    fail ("Maximum function recursion depth (" ++ Text.Decimal.text maxCalls ++ ") reached")
  else
    set { outer with
      parameters := arguments, place := firstPlace, functionLine := f.line, loops := 0, calls := outer.calls + 1 }
    thenAlways (do
      try run ⟨isTested, false⟩ f.body
      catch
        | .return _ => return (← get).status
        | stop => throw stop) (modify fun s => { s with
      parameters := outer.parameters
      place := outer.place
      functionLine := outer.functionLine
      loops := outer.loops
      calls := outer.calls })

/-- Does what a command of the shell does. A mistake is a status, unless the command is a special one. -/
def runBuiltin (name : String) (isSpecial : Bool) (body : Sh Nat) : Sh Nat := do
  let command := (← get).command
  modify fun s => { s with command := some name }
  let result ← attempt body
  modify fun s => { s with command }
  match result with
  | .ok status =>
    setStatus status
    return status
  | .error .failure => if isSpecial then throw .failure else return Shell.failed
  | .error stop => throw stop

/-- Runs a program, in place of the shell if nothing follows. -/
def runProgram (isLast : Bool) (path? : Option String) (argv : List String) : Sh Nat := do
  match ← locate path? (argv.headD "") with
  | .error e =>
    complain (argv.headD "" ++ ": " ++ reason "not found" e)
    return 127
  | .ok _ =>
    let s ← get
    if isLast && !hasTraps s then
      let status ← become path? argv
      setStatus status
      throw (.exit status)
    else
      let id ← (Act.spawn do
        Act.alter fun p => { p with caught := [] }
        match ← (become path? argv).toAct s with
        | (.ok status, _) => Act.quit (.exited status)
        | (.error _, _) => Act.quit (.exited 126) : Act _)
      finish (← enroll [id])

/-! ## Simple commands -/

/-- Where a trace goes: to where errors were told before the innermost redirections. -/
def traceDescriptor (s : Shell) (isRedirected : Bool) : Nat :=
  match if isRedirected then (s.redirections.headD []).lookup 2 else none with
  | some (.behind descriptor) => descriptor
  | _ => 2

/-- Writes a trace of a command. -/
def trace (run : Run) (isRedirected : Bool) (texts : List String) : Sh Unit := do
  let s ← get
  if s.has 'x' && !s.isTracing then
    let reading : Script.Reading := ⟨((s.value? "PS4").getD "").toList, s.line, none, .empty, [], [], [], 0⟩
    set { s with isTracing := true }
    let front ← match Script.grammar.word .document reading with
      | .ok (w, _) => expandDocument (capture run) w
      | .error _ => pure ""
    modify fun s => { s with isTracing := false }
    let _ ← emit (traceDescriptor s isRedirected) (front ++ " ".intercalate texts ++ "\n")

/-- Sets variables as words say, up to the end of the innermost frame if asked. Answers the texts of the settings. -/
def setAll (run : Run) (isKept isExported : Bool) : List Word → Sh (List String)
  | [] => return []
  | w :: rest => do
    let text ← expandSetting (capture run) w
    let (name, value) := parted text
    if isKept then keepVariable name
    assign name (value.getD "")
    if isKept || isExported then remark name fun v => { v with isExported := true }
    return text :: (← setAll run isKept isExported rest)

/-- Runs what a command calls. -/
def invoke (run : Run) (p : Standpoint) (callee : Callee) (path? : Option String) (argv : List String) : Sh Nat := do
  match callee with
  | .nothing => return (← get).outputStatus
  | .function f => call run p.isTested f (argv.drop 1)
  | .program => runProgram p.isLast path? argv
  | .builtin isSpecial =>
    let name := argv.headD ""
    match builtin? run p.isTested name with
    | some body => runBuiltin name isSpecial (body (argv.drop 1))
    | none => return 0

/-- Runs a simple command. -/
def simple (run : Run) (p : Standpoint) (settings words : List Word) (rs : List (Redirection Word)) : Sh Nat := do
  (Act.rest 1000 : Act _)
  modify fun s => { s with outputStatus := 0 }
  let (texts, rest) ← firstTexts run words
  let (callee, front) ← calleeOf run false (texts.length + rest.length + 1) ⟨texts, rest, false, none⟩
  let name := front.argv.headD ""
  let argv := front.argv ++ (← argumentsOf run (callee.isBuiltin && declares name) front.rest)
  let isSpecial := match callee with
    | .builtin isSpecial => isSpecial
    | _ => false
  let isExec := callee.isBuiltin && name = "exec"
  let isOwn := !isSpecial && !argv.isEmpty
  let body := do
    let aims ← aims run rs
    let isRedirected := !aims.isEmpty
    let failed := do
      setStatus Shell.failed
      if isSpecial then throw .failure else return Shell.failed
    let command := do
      let set ← setAll run isOwn (isExec && 1 < argv.length) settings
      trace run isRedirected (set ++ argv)
      invoke run p callee front.path? argv
    if !isRedirected then command
    else
      modify fun s => { s with redirections := [] :: s.redirections }
      thenAlways (do
        match ← attempt (leadAll run true aims) with
        | .ok () => command
        | .error .failure => failed
        | .error stop => throw stop) (popRedirections isExec)
  if isOwn then framed body else body

/-! ## Processes -/

/-- Starts the commands of a pipeline, each with the output of the one before it as its input. Answers their numbers. -/
def stages (run : Run) (isTested : Bool) (isBack : Bool) (input : Option Nat) : List Command → Sh (List Nat)
  | [] => return []
  | c :: rest => do
    let pipe ← if rest.isEmpty then pure none else some <$> (Act.pipe 10 true : Act _)
    let id ← fork run (if isBack then .back input.isNone else .front) do
      match input with
      | some reader =>
        let _ ← Act.duplicateTo reader 0 false
        Act.close reader
      | none => pure ()
      match pipe with
      | some (reader, writer) =>
        Act.close reader
        let _ ← Act.duplicateTo writer 1 false
        Act.close writer
      | none => pure ()
      run ⟨isTested, true⟩ c
    match input with
    | some reader => Act.close reader
    | none => pure ()
    match pipe with
    | some (reader, writer) =>
      Act.close writer
      return id :: (← stages run isTested isBack (some reader) rest)
    | none => return [id]

/-- Notes what was started in the background. -/
def inBackground (ids : List Nat) : Sh Nat := do
  let _ ← enroll ids
  modify fun s => { s with lastJob := ids.getLast? }
  return 0

/-- Starts a command in the background. -/
def background (run : Run) (p : Standpoint) (c : Command) : Sh Nat := do
  match c with
  | .pipeline cs => inBackground (← stages run p.isTested true none cs)
  | .redirected line c rs => do
    atLine line
    let aims ← aims run rs
    let id ← fork run (.back true) do
      leadAll run false aims
      run .last c
    inBackground [id]
  | c => inBackground [← fork run (.back true) (run .last c)]

/-- Runs a command in a part of the shell. -/
def subshell (run : Run) (p : Standpoint) (c : Command) (rs : List (Redirection Word)) : Sh Nat := do
  let aims ← aims run rs
  let body := do
    leadAll run false aims
    run ⟨p.isTested, true⟩ c
  if p.isLast && !hasTraps (← get) then body else inPart run body

/-! ## Loops and choices -/

/-- Runs a part of a loop. Answers its status, or if it leaves the loop, whether the loop starts over. -/
def inLoop (body : Sh Nat) : Sh (Nat ⊕ Bool) := do
  try return .inl (← body)
  catch
    | .leave n again => if 1 < n then throw (.leave (n - 1) again) else return .inr again
    | stop => throw stop

/-- Does something as a loop. -/
def asLoop (body : Sh Nat) : Sh Nat := do
  modify fun s => { s with loops := s.loops + 1 }
  thenAlways body (modify fun s => { s with loops := s.loops - 1 })

/-- Runs a body as long as a condition holds or does not hold, at most so often, given the status of the last body. -/
def repeatedly (run : Run) (isTested whileTrue : Bool) (condition body : Command) : Nat → Nat → Sh Nat
  | 0, status => return status
  | n + 1, status => do
    match ← inLoop (run .tested condition) with
    | .inr true => repeatedly run isTested whileTrue condition body n status
    | .inr false => return status
    | .inl result =>
      if (decide (result = 0)) != whileTrue then return status
      else
        match ← inLoop (run ⟨isTested, false⟩ body) with
        | .inr false => return (← get).status
        | .inr true => repeatedly run isTested whileTrue condition body n (← get).status
        | .inl status => repeatedly run isTested whileTrue condition body n status

/-- Runs a body for each value of a variable, given the status of the last one. -/
def forEach (run : Run) (isTested : Bool) (name : String) (body : Command) : Nat → List String → Sh Nat
  | status, [] => return status
  | _, value :: rest => do
    assign name value
    match ← inLoop (run ⟨isTested, false⟩ body) with
    | .inr false => return (← get).status
    | .inr true => forEach run isTested name body (← get).status rest
    | .inl status => forEach run isTested name body status rest

/-- Whether one of some patterns accepts a text. -/
def acceptedBy (run : Run) (text : String) : List Word → Sh Bool
  | [] => return false
  | w :: rest => do
    if Pattern.accepts (← expandPattern (capture run) w) text.toList then return true else acceptedBy run text rest

/-- Whether a command does nothing because nothing was there. -/
def isNothing : Command → Bool
  | .nothing => true
  | _ => false

/-- Runs the first branch that accepts a text. -/
def choose (run : Run) (p : Standpoint) (text : String) : List Branch → Sh Nat
  | [] => return 0
  | .mk patterns body :: rest => do
    if ← acceptedBy run text patterns then if isNothing body then return 0 else run p body
    else choose run p text rest

/-! ## All of them -/

/-- A status, with whether it may end a shell that ends on failures, and whether it is to be kept. -/
structure Verdict where
  status : Nat
  counts : Bool
  isSet : Bool

/-- Runs a command whose parts can be run. -/
def step (run : Run) (p : Standpoint) : Command → Sh Verdict
  | .nothing => return ⟨0, false, false⟩
  | .simple line settings words rs => do
    atLine line
    return ⟨← simple run p settings words rs, true, true⟩
  | .redirected line c rs => do
    atLine line
    let aims ← aims run rs
    let result ← withAims run aims (return Shell.failed + 1) (run ⟨p.isTested, false⟩ c)
    return if result = Shell.failed + 1 then ⟨Shell.failed, true, true⟩ else ⟨result, false, true⟩
  | .pipeline cs => do
    let n ← enroll (← stages run p.isTested false none cs)
    return ⟨← finish n, true, true⟩
  | .negated c => do
    let status ← run .tested c
    return ⟨if status = 0 then 1 else 0, false, true⟩
  | .background c => do return ⟨← background run p c, true, true⟩
  | .sequence a b => do
    let _ ← run ⟨p.isTested, false⟩ a
    return ⟨← run p b, false, true⟩
  | .both a b => do
    let status ← run .tested a
    if status = 0 then return ⟨← run p b, false, true⟩ else return ⟨status, false, false⟩
  | .either a b => do
    let status ← run .tested a
    if status ≠ 0 then return ⟨← run p b, false, true⟩ else return ⟨status, false, false⟩
  | .subshell line c rs => do
    atLine line
    return ⟨← subshell run p c rs, true, true⟩
  | .choice condition yes no => do
    let status ← run .tested condition
    if status = 0 then return ⟨← run p yes, false, true⟩
    else if isNothing no then return ⟨0, false, true⟩
    else return ⟨← run p no, false, true⟩
  | .loop whileTrue condition body => do
    return ⟨← asLoop (repeatedly run p.isTested whileTrue condition body Act.manyTries 0), false, true⟩
  | .each line name words body => do
    atLine line
    let values ← expandAll (capture run) words
    return ⟨← asLoop (forEach run p.isTested name body 0 values), false, true⟩
  | .select line word branches => do
    atLine line
    return ⟨← choose run p (← expandText (capture run) word) branches, false, true⟩
  | .define line name body => do
    modify fun s => { s with functions := s.functions.set name ⟨line, body⟩ }
    return ⟨0, false, true⟩

/-- What is done after each command: what is due on signals, and the end of the shell if it is to end now. -/
def conclude (run : Run) (p : Standpoint) (v : Verdict) : Sh Nat := do
  if v.isSet then setStatus v.status
  serve run
  if v.counts && !p.isTested && v.status ≠ 0 && (← get).has 'e' then throw (.exit v.status)
  else if p.isLast then throw (.exit (← get).status)
  else return v.status

/-- How deep commands may stand in one another, and call one another. -/
def maxDepth : Nat := 30000

/-- Runs commands to a depth. -/
def runTo : Nat → Run
  | 0, _, _ => do
    (Act.quit (.killed Signal.fault) : Act Unit)
    return 0
  | n + 1, p, c => do
    if (← get).has 'n' then conclude (runTo n) p ⟨0, false, false⟩
    else conclude (runTo n) p (← step (runTo n) p c)

/-- The command that does nothing succeeds. -/
theorem step_nothing (run : Run) (p : Standpoint) : step run p .nothing = pure ⟨0, false, false⟩ := by
  rw [step]

end RunLedger.Sandbox.Sh
