import RunLedger.Sandbox.Condition
import RunLedger.Sandbox.Format
import RunLedger.Sandbox.Shell.Redirection
import RunLedger.Sandbox.Shell.Signal

/-!
# What a shell does itself

The commands that are no programs, and how a shell goes on as a program. A mistake in a special command ends the shell; in
others it is their status.

* `isSpecial_colon`: the empty command is a special one.
-/

namespace RunLedger.Sandbox.Sh

/-- The commands that are not special. -/
def regularNames : List String :=
  ["[", "alias", "bg", "cd", "chdir", "command", "echo", "false", "fg", "getopts", "hash", "jobs", "kill", "printf", "pwd",
    "read", "test", "true", "type", "ulimit", "umask", "unalias", "wait"]

/-- Whether a mistake in a command ends the shell. -/
def isSpecial (name : String) : Bool := Script.specialNames.contains name

/-- Whether the shell does a command itself. -/
def isBuiltin (name : String) : Bool := isSpecial name || regularNames.contains name

/-! ## Programs -/

/-- Where programs are if nothing else is said. -/
def standardPath : String := "/usr/local/sbin:/usr/local/bin:/usr/sbin:/usr/bin:/sbin:/bin"

/-- The path of the program of a name among paths, or why there is none. -/
def foundIn (t : FileTree) (base : Nat) (refusal : IoError) : List String → Except IoError String
  | [] => .error refusal
  | path :: rest =>
    match t.find base path true with
    | .ok n => if Executable.isAllowed t n then .ok path else foundIn t base .permissionDenied rest
    | .error .notFound | .error .notDirectory => foundIn t base refusal rest
    | .error e => foundIn t base e rest

/-- The path of the program of a name. What was found is kept in mind. -/
def locate (path? : Option String) (name : String) : Sh (Except IoError String) := do
  if name.toList.contains '/' then return .ok name
  else
    let s ← get
    match if path?.isNone then s.tracked.get? name else none with
    | some path => return .ok path
    | none =>
      let places := Executable.candidates (path?.getD s.searchPath) name
      let found ← Act.files fun t base => foundIn t base .notFound places
      match found with
      | .ok path =>
        if path?.isNone then modify fun s => { s with tracked := s.tracked.set name path }
        return .ok path
      | .error e => return .error e

/-- The status of a program that could not be started. -/
def refusalStatus : IoError → Nat
  | .notFound | .notDirectory | .nameTooLong | .tooManyLinks => 127
  | _ => 126

/-- The paths that a name may mean, the one where it was found first. -/
def placesOf (s : Shell) (path? : Option String) (name : String) : List String :=
  let places := Executable.candidates (path?.getD s.searchPath) name
  match if path?.isNone then s.tracked.get? name else none with
  | some path => path :: places.filter (· ≠ path)
  | none => places

/-- Goes on as a program. Answers the status of the shell if it cannot. -/
def become (path? : Option String) (argv : List String) : Sh Nat := do
  let s ← get
  let name := argv.headD ""
  let e ← Act.launchFirst s.launch argv s.environment .notFound (placesOf s path? name)
  complain (name ++ ": " ++ reason "not found" e)
  return refusalStatus e

/-- `exec`: goes on as a program. -/
def exec (words : List String) : Sh Nat := do
  if words.isEmpty then return 0
  else
    let status ← become none words
    setStatus status
    throw (.exit status)

/-! ## Control -/

/-- `eval`: runs its arguments as a script. -/
def eval (run : Run) (isTested : Bool) (words : List String) : Sh Nat := do
  runText run ⟨isTested, false⟩ (" ".intercalate words)

/-- `.`: runs the script in a file. -/
def source (run : Run) (words : List String) : Sh Nat := do
  match ← operands words with
  | [] => return 0
  | name :: _ =>
    let s ← get
    let places := Executable.candidates s.searchPath name
    let found ← Act.files fun t base => places.find? fun path => t.leadsTo base path Content.isFile
    let path := if name.toList.contains '/' then some name else found
    match path with
    | none => fail (name ++ ": not found")
    | some path =>
      match ← (Act.readFile path : Act _) with
      | .error e => fail ("cannot open " ++ path ++ ": " ++ reason "No such file" e)
      | .ok text =>
        let command := s.command
        let line := s.readLine
        modify fun s => { s with command := some path }
        thenAlways (do
          try runLines run true .plain maxLines 1 text.toList 0
          catch
            | .return _ => return (← get).status
            | stop => throw stop) (modify fun s => { s with command, readLine := line })

/-- `exit`: ends the shell. -/
def leaveShell (words : List String) : Sh Nat := do
  match words with
  | [] =>
    let s ← get
    throw (.exit (s.heldStatus.getD s.status))
  | word :: _ => throw (.exit (← numeral word))

/-- `return`: ends a function or a script. -/
def leaveFunction (words : List String) : Sh Nat := do
  match words with
  | [] => throw (.return false)
  | word :: _ =>
    setStatus (← numeral word)
    throw (.return true)

/-- `break` and `continue`: end loops, or start one over. -/
def leaveLoops (again : Bool) (words : List String) : Sh Nat := do
  let n ← match words with
    | [] => pure 1
    | word :: _ => numeral word
  if n = 0 then fail ("Illegal number: " ++ words.headD "")
  else
    setStatus 0
    let loops := (← get).loops
    if loops ≠ 0 then throw (.leave (min n loops) again) else return 0

/-! ## Directories -/

/-- The path that leads to a path from a directory, with `.` and `..` worked out as they are written. -/
def entered (directory path : String) : String :=
  let names := fun (s : String) => (s.splitOn "/").filter fun name => name ≠ "" && name ≠ "."
  let start := if FileTree.isAbsolute path then [] else (names directory).reverse
  let names := (names path).foldl (fun above name => if name = ".." then above.drop 1 else name :: above) start
  "/" ++ "/".intercalate names.reverse

/-- Changes the working directory. Answers whether that could be done. -/
def goTo (isPhysical : Bool) (path : String) : Sh Bool := do
  let s ← get
  let path := if isPhysical then path else entered s.directory path
  let found ← Act.files fun t base =>
    match t.find base path true with
    | .ok n => if t.holds n Content.isDirectory then some (n, t.path? n) else none
    | .error _ => none
  match found with
  | none => return false
  | some (workdir, real) =>
    Act.alter fun p => { p with workdir }
    let directory := if isPhysical then real.getD path else path
    let old := s.directory
    modify fun s => { s with directory }
    for (name, value) in [("OLDPWD", old), ("PWD", directory)] do
      assign name value
      modify fun s => { s with
        bindings := s.bindings.set name { (s.bindings.get? name).getD default with isExported := true } }
    return true

/-- The directories in which a directory is looked for, with the paths that it would have there. -/
def entrances (s : Shell) (target : String) : List (String × String) :=
  let isPlain := FileTree.isAbsolute target || target = "." || target = ".." || target.startsWith "./" ||
    target.startsWith "../"
  match if isPlain then none else s.value? "CDPATH" with
  | none => [("", target)]
  | some directories => ((directories.splitOn ":").map fun d => (d, Executable.inside d target)) ++ [("", target)]

/-- `cd`: changes the working directory. -/
def enter (words : List String) : Sh Nat := do
  let (options, words) ← optionsOf ['L', 'P'] [] words.length words
  let isPhysical := (options.getLast?).any fun o => o.1 = 'P'
  let s ← get
  let target := match words with
    | [] => (s.value? "HOME").getD ""
    | "-" :: _ => (s.value? "OLDPWD").getD ""
    | word :: _ => word
  let target := if target = "" then "." else target
  let entrances := entrances s target
  let found ← Act.files fun t base => entrances.find? fun (_, path) => t.leadsTo base path Content.isDirectory
  let (directory, path) := found.getD ("", target)
  if ← goTo isPhysical path then
    if words.head? = some "-" || directory ≠ "" then put ((← get).directory ++ "\n") else return 0
  else fail ("can't cd to " ++ target)

/-- `pwd`: writes the path of the working directory. -/
def showDirectory (words : List String) : Sh Nat := do
  let (options, _) ← optionsOf ['L', 'P'] [] words.length words
  let real ← Act.files fun t base => t.path? base
  let s ← get
  put ((if (options.getLast?).any fun o => o.1 = 'P' then real.getD s.directory else s.directory) ++ "\n")

/-! ## Names -/

/-- Tells what a name means as a command, in words or as it is called. Answers the status. -/
def describe (inWords : Bool) (path? : Option String) (name : String) : Sh Nat := do
  let s ← get
  let told := fun (words short : String) => put ((if inWords then name ++ words else short) ++ "\n")
  if Script.keywords.contains name then told " is a shell keyword" name
  else
    match s.aliases.get? name with
    | some text => if inWords then put (name ++ " is an alias for " ++ text ++ "\n") else put ("alias " ++ aliasText name text)
    | none =>
      if s.functions.contains name then told " is a shell function" name
      else if isSpecial name then told " is a special shell builtin" name
      else if isBuiltin name then told " is a shell builtin" name
      else
        let isTracked := path?.isNone && s.tracked.contains name
        let places := placesOf s path? name
        let found ← Act.files fun t base => foundIn t base .notFound places
        match found with
        | .ok path => told ((if isTracked then " is a tracked alias for " else " is ") ++ path) path
        | .error _ =>
          if inWords then
            let _ ← put (name ++ ": not found\n")
          return 127

/-- Tells what names mean as commands. -/
def describeEach (status : Nat) : List String → Sh Nat
  | [] => return status
  | name :: rest => do describeEach (status ||| (← describe true none name)) rest

/-- `command`: tells what a name means. -/
def tellCommand (words : List String) : Sh Nat := do
  let (options, words) ← optionsOf ['p', 'v', 'V'] [] words.length words
  let asked := (options.map Prod.fst).filter (· ≠ 'p')
  let path? := if options.any fun o => o.1 = 'p' then some standardPath else none
  match asked.getLast?, words with
  | some c, name :: _ => describe (c = 'V') path? name
  | _, _ => return 0

/-- `hash`: keeps programs in mind, or tells which ones are. -/
def track (words : List String) : Sh Nat := do
  let (options, words) ← optionsOf ['r'] [] words.length words
  if !options.isEmpty then
    modify fun s => { s with tracked := .empty }
    return 0
  else if words.isEmpty then put (String.join ((← get).tracked.values.map (· ++ "\n")))
  else
    let mut status := 0
    for name in words do
      let s ← get
      if !(isBuiltin name || s.functions.contains name) then
        set { s with tracked := s.tracked.erase name }
        match ← locate none name with
        | .ok _ => pure ()
        | .error e =>
          complain (name ++ ": " ++ reason "not found" e)
          status := 1
    return status

/-! ## Questions and output -/

/-- Answers a question. -/
def ask (words : List String) : Sh Nat := do
  let scene ← Act.files fun tree base => (⟨tree, base⟩ : Scene)
  match Condition.builtin scene words with
  | .ok answer => return if answer then 0 else 1
  | .error complaint => fail complaint

/-- `[`: answers a question that a closing bracket ends. -/
def askInBrackets (words : List String) : Sh Nat := do
  if words.getLast? = some "]" then ask words.dropLast else fail "missing ]"

/-- `printf`: writes a format. -/
def printf (words : List String) : Sh Nat := do
  match ← operands words with
  | [] => fail "usage: printf format [arg ...]"
  | format :: arguments =>
    let (text, complaints, status) := Format.printf .shell format arguments
    for (_, complaint) in complaints do complain complaint
    return max status (← put text)

/-- `fg` and `bg`: go on with a job. -/
def resumeJob (words : List String) : Sh Nat := do
  let _ ← jobOf ((← operands words).headD "%")
  fail ("job " ++ words.headD "(null)" ++ " not created under job control")

/-! ## All of them -/

/-- What the shell does itself under a name. -/
def builtin? (run : Run) (isTested : Bool) (name : String) : Option (List String → Sh Nat) :=
  match name with
  | ":" | "true" => some fun _ => return 0
  | "false" => some fun _ => return 1
  | "." => some (source run)
  | "break" => some (leaveLoops false)
  | "continue" => some (leaveLoops true)
  | "eval" => some (eval run isTested)
  | "exec" => some exec
  | "exit" => some leaveShell
  | "return" => some leaveFunction
  | "export" => some «export»
  | "readonly" => some fix
  | "local" => some localize
  | "set" => some change
  | "shift" => some shift
  | "trap" => some trap
  | "unset" => some forget
  | "times" => some fun _ => put "0m0.000000s 0m0.000000s\n0m0.000000s 0m0.000000s\n"
  | "test" => some ask
  | "[" => some askInBrackets
  | "echo" => some fun words => put (Format.echo words)
  | "printf" => some printf
  | "cd" | "chdir" => some enter
  | "pwd" => some showDirectory
  | "read" => some read
  | "getopts" => some getOption
  | "kill" => some kill
  | "wait" => some wait
  | "jobs" => some jobs
  | "command" => some tellCommand
  | "type" => some (describeEach 0)
  | "umask" => some mask
  | "ulimit" => some limit
  | "hash" => some track
  | "alias" => some setAliases
  | "unalias" => some unalias
  | "bg" | "fg" => some resumeJob
  | _ => none

/-- The empty command is a special one. -/
theorem isSpecial_colon : isSpecial ":" = true := by decide

end RunLedger.Sandbox.Sh
