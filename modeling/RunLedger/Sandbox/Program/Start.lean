import RunLedger.Sandbox.Pause
import RunLedger.Sandbox.Program.Stream

/-!
# Programs that start others

Other programs are started in a changed environment, with less time, or with arguments that are read.

* `quotedWords_nil`: nothing holds no words.
-/

namespace RunLedger.Sandbox.Program

/-- The status of a program that could not be started. -/
def refusalStatus (e : IoError) : Nat := if e = .notFound then 127 else 126

/-- Goes on as a program. If it cannot, it tells why and answers a status. -/
def goOn (c : Call) (what : String) (argv : List String) (environment : Environment) : Act Nat := do
  let e ← Act.launchNamed c.launch argv environment
  c.complain (what ++ Quoted.always (argv.headD "") ++ ": " ++ e.text)
  return refusalStatus e

/-! ## Environments -/

/-- What `env` does before it goes on. -/
structure Surroundings where
  environment : Environment
  directory : Option String
  /-- The end of a line when the environment is written. -/
  lineEnd : String

/-- The words of a text, as a shell would take them apart. -/
def shellWords : List Char → Option Char → Option String → List String → List String
  | [], _, word, done => (word.elim done (· :: done)).reverse
  | '\\' :: c :: rest, quote, word, done => shellWords rest quote (some ((word.getD "").push c)) done
  | c :: rest, some q, word, done =>
    if c = q then shellWords rest none (some (word.getD "")) done
    else shellWords rest (some q) (some ((word.getD "").push c)) done
  | c :: rest, none, word, done =>
    if c = '\'' || c = '"' then shellWords rest (some c) (some (word.getD "")) done
    else if c = ' ' || c = '\t' || c = '\n' then shellWords rest none none (word.elim done (· :: done))
    else shellWords rest none (some ((word.getD "").push c)) done

/-- The environment with the settings in front of a command, and the command. -/
def withSettings (environment : Environment) : List String → Environment × List String
  | [] => (environment, [])
  | word :: rest =>
    match word.splitOn "=" with
    | name :: value :: more => withSettings (environment.set name ("=".intercalate (value :: more))) rest
    | _ => (environment, word :: rest)

/-- `env`: starts a program in another environment, or tells what is in it. -/
def env (c : Call) : Act Nat :=
  let table : OptionTable := ⟨"iv0", "uCS", "", [("ignore-environment", 'i'), ("null", '0'), ("unset", 'u'),
    ("chdir", 'C'), ("split-string", 'S'), ("debug", 'v')], true⟩
  let split := match c.arguments with
    | "-S" :: text :: rest => shellWords text.toList none none [] ++ rest
    | word :: rest => if word.startsWith "-S" then shellWords (word.drop 2).toString.toList none none [] ++ rest
      else c.arguments
    | [] => []
  ({ c with argv := c.name :: split } : Call).reading table 125 fun a => do
    let (isBare, operands) := match a.operands with
      | "-" :: rest => (true, rest)
      | operands => (false, operands)
    let start := if isBare || a.has 'i' then .empty else c.environment
    let start := (a.values 'u').foldl (fun m name => m.erase name) start
    let (environment, command) := withSettings start operands
    match command with
    | [] =>
      c.put (String.join (environment.entries.map fun (name, value) =>
        name ++ "=" ++ value ++ if a.has '0' then "\x00" else "\n"))
      return 0
    | argv =>
      let isThere ← match a.value? 'C' with
        | none => pure true
        | some path =>
          match ← Act.files fun t base => (t.find base path true).map fun n => (n, t.holds n Content.isDirectory) with
          | .ok (n, true) =>
            Act.alter fun p => { p with workdir := n }
            pure true
          | .ok (_, false) =>
            c.complain ("cannot change directory to " ++ Quoted.always path ++ ": " ++ IoError.text .notDirectory)
            pure false
          | .error e =>
            c.complain ("cannot change directory to " ++ Quoted.always path ++ ": " ++ e.text)
            pure false
      if isThere then goOn c "" argv environment else return 125

/-- The arguments of `nice`, with a number alone behind a dash spelled out. -/
def adjustmentsSpelledOut : List String → List String
  | [] => []
  | word :: rest =>
    let isNumber := match word.toList with
      | '-' :: '-' :: d :: _ | '-' :: '+' :: d :: _ | '-' :: d :: _ => d.isDigit
      | _ => false
    if isNumber then "-n" :: (word.drop 1).toString :: adjustmentsSpelledOut rest
    else if word = "-n" || word = "--adjustment" then
      match rest with
      | value :: rest => word :: value :: adjustmentsSpelledOut rest
      | [] => [word]
    else if word.startsWith "-" && word ≠ "--" then word :: adjustmentsSpelledOut rest
    else word :: rest

/-- The number that a text writes, with a sign if need be. -/
def adjustment? (s : String) : Option Int :=
  let digits := if s.startsWith "-" || s.startsWith "+" then (s.drop 1).toString else s
  (Signal.digits? digits).map fun n => if s.startsWith "-" then -Int.ofNat n else Int.ofNat n

/-- `nice`: starts a program that lets others go first, or tells how much one does. -/
def nice (c : Call) : Act Nat :=
  ({ c with argv := c.name :: adjustmentsSpelledOut c.arguments } : Call).reading
      ⟨"", "n", "", [("adjustment", 'n')], true⟩ 125 fun a => do
    let start := fun (change : Int) => do
      Act.alter fun p => { p with niceness := max (-20) (min 19 (p.niceness + change)) }
      goOn c "" a.operands c.environment
    match a.value? 'n' with
    | some s =>
      match adjustment? s with
      | none => c.refuse 125 ("invalid adjustment " ++ Quoted.marked s)
      | some change =>
        if a.operands.isEmpty then c.misused 125 "a command must be given with an adjustment" else start change
    | none =>
      if a.operands.isEmpty then
        let niceness ← Act.look fun w => ((w.process? w.current).map Process.niceness).getD 0
        c.put ((if niceness < 0 then "-" else "") ++ Text.Decimal.text niceness.natAbs ++ "\n")
        return 0
      else start 10

/-- `nohup`: starts a program that takes no notice of being hung up on. -/
def nohup (c : Call) : Act Nat :=
  c.reading ⟨"", "", "", [], true⟩ 125 fun a => do
    if a.operands.isEmpty then c.misused 125 "missing operand"
    else
      Act.alter fun p => { p with ignored := Signal.hangup :: p.ignored }
      goOn c "failed to run command " a.operands c.environment

/-- `setsid`: starts a program in a group of its own. -/
def setsid (c : Call) : Act Nat :=
  c.reading ⟨"cfw", "", "", [("ctty", 'c'), ("fork", 'f'), ("wait", 'w')], true⟩ 1 fun a => do
    let own := do
      let id ← Act.self
      Act.alter fun p => { p with group := id }
      goOn c "failed to execute " a.operands c.environment
    if a.operands.isEmpty then c.misused 1 "no command specified"
    else if a.has 'f' then
      let child ← Act.spawn do Act.quit (.exited (← own))
      if a.has 'w' then
        match ← Act.outcomeOf child with
        | .exited status => return status
        | .killed signal => return 128 + signal
      else return 0
    else own

/-! ## Less time -/

/-- What a program waits for that limits another one. -/
inductive Watch where
  | ended (outcome : Outcome)
  | called (signal : Nat)
  | late
  deriving DecidableEq

/-- Waits for a process to end, for a signal, or for a time, in so many steps. -/
def watch (child : Nat) (limit : Option Nat) : Nat → Act Watch
  | 0 => return .late
  | n + 1 => do
    let seen ← Act.work fun w =>
      match w.outcome? child with
      | some outcome => (some (Watch.ended outcome), w.forget child)
      | none =>
        match (w.process? w.current).bind fun p => p.pending.head? with
        | some signal => (some (.called signal), w.alter w.current fun p => { p with pending := p.pending.drop 1 })
        | none => (if limit.any (· ≤ w.clock) then some .late else none, w)
    match seen with
    | some watch => return watch
    | none =>
      Act.stall limit
      watch child limit n

/-- How a program is limited. -/
structure Limit where
  signal : Nat
  killAfter : Option Nat
  keepsStatus : Bool
  isForeground : Bool
  isTold : Bool
  command : String

/-- Sends a signal to a process and to all others of one's own group. -/
def stopGroup (isForeground : Bool) (child signal : Nat) : Act Unit := do
  let _ ← Act.signal child signal
  if !isForeground then
    if !Signal.isSovereign signal then Act.alter fun p => { p with ignored := signal :: p.ignored }
    let own ← Act.self
    let group ← Act.look fun w => w.processes.entries.filterMap fun (id, p) =>
      if p.group = own && id ≠ own then some id else none
    for id in group do
      let _ ← Act.signal id signal
    if Signal.isSovereign signal then
      let _ ← Act.signal own signal
    else if signal ≠ Signal.continue then
      for id in child :: group do
        let _ ← Act.signal id Signal.continue

/-- Watches a process until it ends; when its time is up it is told to end. -/
def superviseTo (c : Call) (k : Limit) (child : Nat) : Nat → Option Nat → Nat → Option Nat → Bool → Act Nat
  | 0, _, _, _, _ => return 125
  | n + 1, limit, signal, killAfter, isLate => do
    let stopBy := fun (signal : Nat) (isLate : Bool) => do
      if k.isTold then
        c.complain ("sending signal " ++ Signal.nameOf signal ++ " to command " ++ Quoted.always k.command)
      stopGroup k.isForeground child signal
      let now ← Act.look World.clock
      match killAfter with
      | some nanos => superviseTo c k child n (some (now + nanos)) Signal.kill none isLate
      | none => superviseTo c k child n none signal none isLate
    match ← watch child limit Act.manyTries with
    | .late => stopBy signal true
    | .called other => stopBy other isLate
    | .ended (.exited status) => return if isLate && !k.keepsStatus then 124 else status
    | .ended (.killed ended) =>
      if !isLate then Act.quit (.killed ended)
      else return if k.keepsStatus || ended = Signal.kill then 128 + ended else 124

/-- `timeout`: starts a program and ends it when its time is up. -/
def timeout (c : Call) : Act Nat :=
  let table : OptionTable := ⟨"vpf", "ks", "", [("foreground", 'f'), ("preserve-status", 'p'), ("verbose", 'v'),
    ("kill-after", 'k'), ("signal", 's')], true⟩
  c.reading table 125 fun a => do
    let invalid := fun (s : String) => c.misused 125 ("invalid time interval " ++ Quoted.marked s)
    let nameOf := fun (s : String) =>
      let s := s.toUpper
      if s.startsWith "SIG" then (s.drop 3).toString else s
    let killAfter := match a.value? 'k' with
      | some s => (Pause.nanos? s).map some
      | none => some none
    match killAfter, (a.value? 's').elim (some Signal.standard) fun s => Signal.number? 0 (nameOf s), a.operands with
    | none, _, _ => invalid ((a.value? 'k').getD "")
    | _, none, _ => c.misused 125 (Quoted.marked ((a.value? 's').getD "") ++ ": invalid signal")
    | some killAfter, some signal, time :: argv =>
      if argv.isEmpty then c.misused 125 ""
      else
        match Pause.nanos? time with
        | none => invalid time
        | some nanos =>
          let own ← Act.self
          if !a.has 'f' then Act.alter fun p => { p with group := own }
          let caught := [Signal.hangup, Signal.interrupt, Signal.quit, Signal.standard]
          let caught := if signal = 0 || Signal.isSovereign signal then caught else signal :: caught
          Act.alter fun p => { p with caught }
          let child ← Act.spawn do
            Act.alter fun p => { p with caught := [] }
            Act.quit (.exited (← goOn c "failed to run command " argv c.environment))
          let now ← Act.look World.clock
          let limit := if nanos = 0 then none else some (now + nanos)
          superviseTo c ⟨signal, killAfter, a.has 'p', a.has 'f', a.has 'v', argv.headD ""⟩ child 1000000 limit signal
            (killAfter.filter (· ≠ 0)) false
    | _, _, [] => c.misused 125 ""

/-! ## Arguments that are read -/

/-- The words of a text, given how one is quoted and the word so far; or the quote that is not closed. -/
def quotedWords : List Char → Option Char → Option String → List String → Except Char (List String)
  | [], some q, _, _ => .error q
  | [], none, word, done => .ok (word.elim done (· :: done)).reverse
  | c :: rest, some q, word, done =>
    if c = q then quotedWords rest none (some (word.getD "")) done
    else if c = '\n' then .error q
    else quotedWords rest (some q) (some ((word.getD "").push c)) done
  | '\\' :: c :: rest, none, word, done => quotedWords rest none (some ((word.getD "").push c)) done
  | c :: rest, none, word, done =>
    if c = '\'' || c = '"' then quotedWords rest (some c) (some (word.getD "")) done
    else if c = ' ' || c = '\t' || c = '\n' then quotedWords rest none none (word.elim done (· :: done))
    else quotedWords rest none (some ((word.getD "").push c)) done

/-- The items of a text that are written one a line, without the quotes in them. -/
def quotedLines (text : String) : Except Char (List String) :=
  (((text.splitOn "\n").map fun l => l.toList.dropWhile fun c => c = ' ' || c = '\t').filter fun l => !l.isEmpty).mapM
    fun l =>
      -- Blanks do not end an item here, so they are taken for a letter.
      let hidden := l.map fun c => if c = ' ' then '\x01' else if c = '\t' then '\x02' else c
      (quotedWords hidden none none []).map fun words =>
        String.ofList ((words.headD "").toList.map fun c => if c = '\x01' then ' ' else if c = '\x02' then '\t' else c)

/-- Items in groups, none with more than so many or too long. -/
def grouped (most size : Nat) (items : List String) : List (List String) :=
  (items.foldl (fun (groups : List (Nat × Nat × List String)) item =>
    match groups with
    | (count, length, group) :: rest =>
      if count < most && length + item.length + 1 ≤ size then (count + 1, length + item.length + 1, item :: group) :: rest
      else (1, item.length + 1, [item]) :: groups
    | [] => [(1, item.length + 1, [item])]) []).reverse.map fun g => g.2.2.reverse

/-- The items of so many rows at a time, in at most so many groups. -/
def rowsJoined (count : Nat) : Nat → List (List String) → List (List String)
  | 0, _ | _, [] => []
  | n + 1, rows => (rows.take count).flatten :: rowsJoined count n (rows.drop count)

/-- Runs commands one after the other. Answers the status of all of them. -/
def runEach (c : Call) (isTold : Bool) : Nat → List (List String) → Act Nat
  | status, [] => return status
  | status, argv :: rest => do
    if isTold then Call.tell (" ".intercalate argv ++ "\n")
    let child ← Act.spawn do
      Act.close 0
      let _ ← Act.open "/dev/null" .reading 0 0 false
      let e ← Act.launchNamed c.launch argv c.environment
      c.complain (argv.headD "" ++ ": " ++ e.text)
      Act.quit (.exited (refusalStatus e))
    match ← Act.outcomeOf child with
    | .exited 255 => c.refuse 124 (argv.headD "" ++ ": exited with status 255; aborting")
    | .exited 0 => runEach c isTold status rest
    | .exited 126 => return 126
    | .exited 127 => return 127
    | .exited _ => runEach c isTold 123 rest
    | .killed signal => c.refuse 125 (argv.headD "" ++ ": terminated by signal " ++ Text.Decimal.text signal)

/-- What is said of a quote that is not closed. -/
def openQuote (q : Char) : String :=
  "unmatched " ++ (if q = '"' then "double" else "single") ++
    " quote; by default quotes are special to xargs unless you use the -0 option"

/-- `xargs`: starts a program with the arguments that it reads. -/
def xargs (c : Call) : Act Nat :=
  let table : OptionTable := ⟨"0rtpxo", "nLIdaPsE", "il", [("null", '0'), ("no-run-if-empty", 'r'), ("verbose", 't'),
    ("max-args", 'n'), ("max-lines", 'L'), ("replace", 'I'), ("delimiter", 'd'), ("arg-file", 'a'), ("max-procs", 'P'),
    ("max-chars", 's'), ("exit", 'x'), ("interactive", 'p')], true⟩
  c.reading table 1 fun a => do
    let text ← match a.value? 'a' with
      | some path => do
        match ← contents path with
        | .ok text => pure text
        | .error e =>
          c.complain ("Cannot open input file " ++ Quoted.marked path ++ ": " ++ e.error.text)
          Act.quit (.exited 1)
      | none => do pure (((← Act.readAll 0).map Octets.ofArray).toOption.getD "")
    let command := if a.operands.isEmpty then ["echo"] else a.operands
    let mark := (a.value? 'I').or (if a.has 'i' then some ((a.value? 'i').getD "\x7b\x7d") else none)
    let separator := if a.has '0' then some "\x00" else (a.value? 'd').map fun s =>
      if s = "\\n" then "\n" else if s = "\\t" then "\t" else if s = "\\0" then "\x00" else s
    let lineCount := (a.value? 'L').bind size?
    let items : Except Char (List String) := match separator with
      | some s =>
        let parts := text.splitOn s
        .ok (if parts.getLast? = some "" then parts.dropLast else parts)
      | none => if mark.isSome then quotedLines text else quotedWords text.toList none none []
    match items with
    | .error q => c.refuse 1 (openQuote q)
    | .ok items =>
      let most := ((a.value? 'n').bind size?).getD 1000000
      let size := min (((a.value? 's').bind size?).getD 129000) 129000 - command.foldl (fun n w => n + w.length + 1) 0
      let commands := match mark, lineCount with
        | some mark, _ => items.map fun item => command.map fun w => w.replace mark item
        | none, some count =>
          let rows := (((text.splitOn "\n").map fun l => (quotedWords l.toList none none []).toOption.getD []).filter
            fun l => !l.isEmpty)
          (rowsJoined (max count 1) rows.length rows).map (command ++ ·)
        | none, none => (grouped most size items).map (command ++ ·)
      let commands := if commands.isEmpty && mark.isNone && !a.has 'r' then [command] else commands
      runEach c (a.has 't') 0 commands

/-! ## Version control -/

/-- `git`: notes its arguments and answers as it was set up. -/
def git (c : Call) : Act Nat := do
  match ← Act.look World.git with
  | none => return 127
  | some answer =>
    Act.change fun w => { w with asked := some c.arguments }
    let _ ← Act.write 1 ⟨answer.output.toArray⟩
    match answer.code with
    | none => Act.quit (.killed Signal.kill)
    | some code => return if code < 0 || 2147483647 < code then 2 else code.toNat % 256

/-- Nothing holds no words. -/
theorem quotedWords_nil : quotedWords [] none none [] = .ok [] := rfl

end RunLedger.Sandbox.Program
