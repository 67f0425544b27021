import RunLedger.Command
import Std.Time.DateTime.Timestamp

/-!
# The program

Loads the files that a command reads, runs it, writes the files that it made or changed, and prints its lines. The exit
code is 0 if the command succeeds, 1 if it fails, and 2 if the arguments ask for nothing.
-/

namespace RunLedger.Program

/-- The time, with a random count so that stamps of different processes differ. -/
def readClock : IO Clock := do
  let now ← Std.Time.Timestamp.now
  let random ← IO.getRandomBytes 8
  let seconds := UInt64.ofNat now.toSecondsSinceUnixEpoch.val.toNat
  return ⟨⟨seconds, 0⟩, Bytes.toNatBE random.toList⟩

/-- A disk with the files at some paths, as far as they exist. -/
def load (paths : List String) : IO Disk := do
  let mut disk := Disk.empty
  for path in paths do
    try
      let octets ← IO.FS.readBinFile path
      disk := (disk.replace path octets.toList).toOption.getD disk
    catch _ => pure ()
  return disk

/-- Writes the files that one disk has and another lacks. -/
def store (before after : Disk) : IO Unit := do
  for (path, _) in after.names.entries do
    if !before.contains path then
      if let .ok bytes := after.read path then
        let directory := (path.splitOn "/").dropLast
        if !directory.isEmpty then IO.FS.createDirAll ("/".intercalate directory)
        IO.FS.writeBinFile path ⟨bytes.toArray⟩

/-- Runs a command on the files of the system. -/
def execute (command : Command) : IO UInt32 := do
  let disk ← load command.reads
  let (answer, after) := command.run disk (← readClock)
  if answer.isOk then store disk after
  IO.print (Command.output answer)
  match answer with
  | .error e =>
    IO.eprintln s!"Error: {e.message}"
    return 1
  | .ok _ => return 0

end RunLedger.Program

/-- The program. -/
def main (arguments : List String) : IO UInt32 :=
  match RunLedger.Command.Request.ofArguments? arguments with
  | some (.command command) => RunLedger.Program.execute command
  | some (.help topic) => do
    for line in topic.lines do IO.println line
    return 0
  | none => do
    for line in RunLedger.Command.Topic.program.lines do IO.eprintln line
    return 2
