import RunLedger.Sandbox.Process

/-!
# Executables

How a path leads to a program: a file that may be run is a program itself, or names in its first line the program that
reads it. Names without a slash are looked for in directories.

* `ofOctets_empty`: an empty file is no executable.
* `inside_empty`: a directory without a name is the working directory.
-/

namespace RunLedger.Sandbox

/-- What can be run. -/
inductive Executable where
  | program (name : String)
  /-- A file that another program reads, with one argument in front if need be. -/
  | script (interpreter : String) (argument : Option String)
  deriving DecidableEq, Repr

namespace Executable

/-- The octets in front of the name of a program. -/
def magic : String := "\x7fELF"

/-- The file of a program. -/
def fileOf (name : String) : ByteArray := Octets.array (magic ++ name)

/-- How much of a file tells what it is. -/
def frontSize : Nat := 256

/-- What a file is by its octets, if it tells. -/
def ofOctets (octets : ByteArray) : Option Executable :=
  let front := (Octets.ofArray (octets.extract 0 frontSize)).toList
  match front with
  | '\x7f' :: 'E' :: 'L' :: 'F' :: name => some (.program (String.ofList name))
  | '#' :: '!' :: rest =>
    let trim := fun (cs : List Char) => cs.dropWhile fun c => c = ' ' || c = '\t'
    let line := rest.takeWhile fun c => c ≠ '\n' && c ≠ '\x00'
    let line := (trim (trim line).reverse).reverse
    let name := line.takeWhile fun c => c ≠ ' ' && c ≠ '\t'
    let argument := trim (line.drop name.length)
    if name.isEmpty then none
    else some (.script (String.ofList name) (if argument.isEmpty then none else some (String.ofList argument)))
  | _ => none

/-- Whether an inode may be run. -/
def isAllowed (t : FileTree) (n : Nat) : Bool := t.holds n Content.isFile && t.mode n &&& 0o111 ≠ 0

/-- The most files that name one another as their readers. -/
def maxScripts : Nat := 5

/-- The program that a path leads to, and what it is called with, through at most so many scripts. -/
def resolve (t : FileTree) (base : Nat) : Nat → String → List String → Except IoError (String × List String)
  | left, path, argv =>
    match t.find base path true with
    | .error e => .error e
    | .ok n =>
      if !isAllowed t n then .error .permissionDenied
      else
        match ofOctets (t.octets n) with
        | some (.program name) => .ok (name, argv)
        | some (.script interpreter argument) =>
          match left with
          | 0 => .error .tooManyLinks
          | left + 1 => resolve t base left interpreter (interpreter :: argument.toList ++ path :: argv.drop 1)
        | none => .error .notExecutable

/-- The path of a name in a directory. -/
def inside (directory name : String) : String := if directory = "" then name else directory ++ "/" ++ name

/-- The paths that a name may mean, by a list of directories. -/
def candidates (directories name : String) : List String :=
  if name.toList.contains '/' then [name] else (directories.splitOn ":").map (inside · name)

/-- What running the first of some paths comes to that can be run. Where something may not be run the search goes on. -/
def firstOf (t : FileTree) (base : Nat) (argv : List String) (refusal : IoError) :
    List String → Except IoError (String × String × List String)
  | [] => .error refusal
  | path :: rest =>
    match resolve t base maxScripts path argv with
    | .ok (name, argv) => .ok (path, name, argv)
    | .error .permissionDenied => firstOf t base argv .permissionDenied rest
    | .error .notFound | .error .notDirectory => firstOf t base argv refusal rest
    | .error e => .error e

/-- What running a name comes to, which is looked for in a list of directories if it is no path. -/
def named (t : FileTree) (base : Nat) (directories : String) (argv : List String) :
    Except IoError (String × String × List String) :=
  let name := argv.headD ""
  if name = "" then .error .notFound
  else if name.toList.contains '/' then (resolve t base maxScripts name argv).map (name, ·)
  else firstOf t base argv .notFound (candidates directories name)

/-- The octets of one argument that is too long. -/
def tooLong : Nat := 131072

/-- The octets that all arguments together may have. -/
def maxArguments : Nat := 2000000

/-- Whether arguments are too long, one of them or all together. -/
def areTooLong (argv : List String) : Bool :=
  argv.any (fun a => tooLong ≤ a.length) || maxArguments < argv.foldl (fun n a => n + a.length + 9) 0

/-- An empty file is no executable. -/
theorem ofOctets_empty : ofOctets .empty = none := by rfl

/-- A directory without a name is the working directory. -/
theorem inside_empty (name : String) : inside "" name = name := rfl

end Executable

/-- The environment of a program. -/
abbrev Environment := OrderedMap String String

/-- How the process goes on as a program: by its path, what it is called with, and its environment. There is an answer
only if it cannot. -/
abbrev Launch := String → List String → Environment → Act IoError

/-- What a program is started with. -/
structure Call where
  argv : List String
  environment : Environment
  /-- How the process can go on as another program. -/
  launch : Launch

namespace Call

/-- The name that a program is called by. -/
def name (c : Call) : String := c.argv.headD ""

/-- The arguments of a program. -/
def arguments (c : Call) : List String := c.argv.drop 1

end Call

namespace Act

/-- The directories in which a program looks for others if it was told of none. -/
def standardPath : String := "/bin:/usr/bin"

/-- Tries to go on as the programs of paths, one after the other. -/
def launchFirst (launch : Launch) (argv : List String) (environment : Environment) (refusal : IoError) :
    List String → Act IoError
  | [] => return refusal
  | path :: rest => do
    match ← launch path argv environment with
    | .permissionDenied => launchFirst launch argv environment .permissionDenied rest
    | .notFound | .notDirectory => launchFirst launch argv environment refusal rest
    | .notExecutable => launch "/bin/sh" ("/bin/sh" :: path :: argv.drop 1) environment
    | e => return e

/-- Goes on as the program of a name, which is looked for if it is no path. -/
def launchNamed (launch : Launch) (argv : List String) (environment : Environment) : Act IoError := do
  let name := argv.headD ""
  if name = "" then return .notFound
  else if name.toList.contains '/' then
    match ← launch name argv environment with
    | .notExecutable => launch "/bin/sh" ("/bin/sh" :: name :: argv.drop 1) environment
    | e => return e
  else
    let directories := (environment.get? "PATH").getD standardPath
    launchFirst launch argv environment .notFound (Executable.candidates directories name)

end Act

end RunLedger.Sandbox
