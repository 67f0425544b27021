import RunLedger.Sandbox.Program.Answer
import RunLedger.Sandbox.Program.Calculator
import RunLedger.Sandbox.Program.Copies
import RunLedger.Sandbox.Program.Copy
import RunLedger.Sandbox.Program.Editor.Run
import RunLedger.Sandbox.Program.Files
import RunLedger.Sandbox.Program.Grep
import RunLedger.Sandbox.Program.Lines
import RunLedger.Sandbox.Program.Listing
import RunLedger.Sandbox.Program.Search.Walk
import RunLedger.Sandbox.Program.Sequence
import RunLedger.Sandbox.Program.Sort
import RunLedger.Sandbox.Program.Start
import RunLedger.Sandbox.Program.Stat
import RunLedger.Sandbox.Program.Translate
import RunLedger.Sandbox.Shell.Invocation

/-!
# The loader

The programs by their names, and how a process goes on as one of them: the path is followed to a program, what is private
is closed, and the status that the program answers is the one that the process ends with.

* `launchTo_zero`: a process that went on as another program too often cannot go on.
-/

namespace RunLedger.Sandbox.Loader

/-- The programs for texts. -/
def textPrograms : List (String × (Call → Act Nat)) :=
  [("cat", Program.cat), ("tee", Program.tee), ("yes", Program.yes), ("head", Program.head), ("tail", Program.tail),
    ("tac", Program.tac), ("rev", Program.rev), ("tr", Program.tr), ("wc", Program.wc), ("nl", Program.nl),
    ("fold", Program.fold), ("cut", Program.cut), ("paste", Program.paste), ("uniq", Program.uniq),
    ("comm", Program.comm), ("sort", Program.sort), ("grep", Program.grep), ("egrep", Program.grep),
    ("fgrep", Program.grep), ("sed", Editor.sed), ("cmp", Program.cmp)]

/-- The programs for files. -/
def filePrograms : List (String × (Call → Act Nat)) :=
  [("basename", Program.basename), ("dirname", Program.dirname), ("pwd", Program.pwd), ("readlink", Program.readlink),
    ("realpath", Program.realpath), ("mkdir", Program.mkdir), ("rmdir", Program.rmdir), ("touch", Program.touch),
    ("mkfifo", Program.mkfifo), ("rm", Program.rm), ("unlink", Program.unlink), ("chmod", Program.chmod),
    ("truncate", Program.truncate), ("mktemp", Program.mktemp), ("cp", Program.cp), ("mv", Program.mv),
    ("ln", Program.ln), ("link", Program.link), ("sync", Program.settled), ("ls", Program.Listing.ls),
    ("stat", Program.Stat.stat), ("find", Search.find)]

/-- The programs that answer, write what they were told, or wait. -/
def plainPrograms : List (String × (Call → Act Nat)) :=
  [("true", Program.fixed 0), ("false", Program.fixed 1), ("echo", Program.echo), ("printf", Program.printf),
    ("test", Program.test), ("[", Program.bracket), ("sleep", Program.sleep), ("id", Program.userId),
    ("whoami", Program.telling "root"), ("groups", Program.telling "root"), ("nproc", Program.telling "1"),
    ("hostname", Program.telling "localhost"), ("arch", Program.telling "x86_64"), ("uname", Program.systemName),
    ("tty", Program.terminal), ("logname", Program.loginName), ("printenv", Program.environmentValues),
    ("date", Program.date), ("which", Program.which), ("expr", Calculator.expr), ("seq", Program.seq),
    ("factor", Program.factor)]

/-- The programs that start others. -/
def startingPrograms : List (String × (Call → Act Nat)) :=
  [("sh", Program.shell), ("dash", Program.shell), ("bash", Program.shell), ("env", Program.env), ("nice", Program.nice),
    ("nohup", Program.nohup), ("setsid", Program.setsid), ("timeout", Program.timeout), ("xargs", Program.xargs)]

/-- The programs that every machine has. -/
def standardPrograms : List (String × (Call → Act Nat)) :=
  plainPrograms ++ textPrograms ++ filePrograms ++ startingPrograms

/-- The program of a name. -/
def program? (name : String) : Option (Call → Act Nat) :=
  if name = "git" then some Program.git else standardPrograms.lookup name

/-- The nanoseconds until a program begins to work. -/
def startup : Nat := 1000000

/-- How a process goes on as a program, which may go on as another one in turn, so often at most. -/
def launchTo : Nat → Launch
  | 0, _, _, _ => return .tooManyLinks
  | n + 1, path, argv, environment => do
    if Executable.areTooLong (argv ++ environment.entries.map fun (name, value) => name ++ "=" ++ value) then
      return .argumentsTooLong
    else
      match ← Act.files fun t base => Executable.resolve t base Executable.maxScripts path argv with
      | .error e => return e
      | .ok (name, argv) =>
        match program? name with
        | none => return .notExecutable
        | some program =>
          Act.renew
          Act.rest startup
          Act.quit (.exited (← program ⟨argv, environment, launchTo n⟩))

/-- How a process goes on as a program. -/
def launch : Launch := launchTo 1000000000

/-- A process that went on as another program too often cannot go on. -/
theorem launchTo_zero (path : String) (argv : List String) (environment : Environment) :
    launchTo 0 path argv environment = pure .tooManyLinks := rfl

end RunLedger.Sandbox.Loader
