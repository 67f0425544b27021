import RunLedger.Ledger.Basic

/-!
# The command line

Four commands: print the messages of a log file, print the digest of a file, print the messages of a run, and store a
file as an artifact. A command works on a disk and either prints lines or fails and prints none. Messages are printed
as JSON, one in a line. Arguments ask for a command or for an explanation.

* `lines_of_inspect`: what `inspect` prints are the messages of the log.
-/

namespace RunLedger

/-- What can be asked for. -/
inductive Command where
  | inspect (log : String)
  | checksum (file : String)
  | logs (root : String) (run : RunId)
  | upload (root : String) (file : String)
  deriving DecidableEq

namespace Command

/-- Why a command fails. -/
inductive Failure where
  | unreadable (path : String) (fault : IoError)
  | log (fault : LogError)
  | ledger (fault : Ledger.Error)
  deriving DecidableEq

/-- The wording of a failure. -/
def Failure.message : Failure → String
  | .unreadable path fault => s!"reading {path}: {fault.message}"
  | .log fault => fault.message
  | .ledger fault => fault.message

/-! ## Arguments -/

/-- What can be explained: the program, or one of its commands. -/
inductive Topic where
  | program
  | inspect
  | checksum
  | logs
  | upload
  deriving DecidableEq, Repr

namespace Topic

/-- The topic of a command's name. -/
def ofName? : String → Option Topic
  | "inspect" => some .inspect
  | "checksum" => some .checksum
  | "logs" => some .logs
  | "upload" => some .upload
  | _ => none

/-- Whether a command works on a data directory that can be named. -/
def takesRoot : Topic → Bool
  | .logs | .upload => true
  | _ => false

/-- The name of a command, of its operand, and what the operand is. -/
def usage : Topic → String × String × String
  | .program => ("", "<COMMAND>", "")
  | .inspect => ("inspect", "<LOG>", "Path to log file")
  | .checksum => ("checksum", "<FILE>", "File to hash")
  | .logs => ("logs", "<RUN>", "Run ID")
  | .upload => ("upload", "<FILE>", "File to upload")

/-- What a command does, or the program. -/
def purpose : Topic → String
  | .program => "KILN - run logs and artifacts"
  | .inspect => "Print the messages of a log file as JSON lines"
  | .checksum => "Print the upload key of a file"
  | .logs => "Print the persisted messages of a run as JSON lines"
  | .upload => "Store a file as a checksummed artifact"

/-- Names and explanations side by side. -/
def columns (rows : List (String × String)) : List String :=
  let width := rows.foldl (fun n (name, _) => max n name.length) 0
  rows.map fun (name, text) => "  " ++ name ++ String.ofList (List.replicate (width - name.length + 2) ' ') ++ text

/-- The explanation of a topic. -/
def lines (t : Topic) : List String :=
  let (name, operand, meaning) := t.usage
  let options := if t.takesRoot then
      [("-r, --root <ROOT>", "Data directory of the dispatch service [default: " ++ Ledger.Config.standardRoot ++ "]")]
    else []
  let parts := ["kiln", name, if t.takesRoot then "[OPTIONS]" else "", operand].filter (· ≠ "")
  let middle := if t = .program then
      "Commands:" :: columns ([Topic.inspect, .checksum, .logs, .upload].map (fun t => (t.usage.1, t.purpose)) ++
        [("help", "Print this message or the help of the given subcommand(s)")])
    else "Arguments:" :: columns [(operand, meaning)]
  [t.purpose, "", "Usage: " ++ " ".intercalate parts, ""] ++ middle ++
    ["", "Options:"] ++ columns (options ++ [("-h, --help", "Print help")])

end Topic

/-- What arguments ask for. -/
inductive Request where
  | help (t : Topic)
  | command (c : Command)
  deriving DecidableEq

/-- The arguments of a command: the root directory and the operand, if they are given, and whether the command is only to
be explained. -/
structure Arguments where
  root : Option String
  operand : Option String
  isHelp : Bool
  deriving DecidableEq, Repr

namespace Arguments

/-- The arguments with an operand, of which there is one at most. -/
def withOperand? (a : Arguments) (operand : String) : Option Arguments :=
  if a.operand.isSome then none else some { a with operand }

/-- The arguments with a root directory, of which there is one at most. -/
def withRoot? (a : Arguments) (root : String) : Option Arguments :=
  if a.root.isSome then none else some { a with root }

/-- Sorts words into arguments. What follows a request for help does not count. -/
def read? (takesRoot : Bool) (a : Arguments) : List String → Option Arguments
  | [] => some a
  | "--" :: rest => rest.foldlM withOperand? a
  | word :: rest =>
    if word = "--help" || word.startsWith "-h" then some { a with isHelp := true }
    else if takesRoot && (word = "--root" || word = "-r") then
      match rest with
      | root :: rest =>
        if root.startsWith "-" && root ≠ "-" then none else (a.withRoot? root).bind fun a => read? takesRoot a rest
      | [] => none
    else if word.startsWith "-" && word ≠ "-" then none
    else (a.withOperand? word).bind fun a => read? takesRoot a rest

end Arguments

/-- The command of a topic with a root directory and an operand, if the operand makes sense. -/
def ofTopic? (t : Topic) (root operand : String) : Option Command :=
  match t with
  | .program => none
  | .inspect => some (.inspect operand)
  | .checksum => some (.checksum operand)
  | .logs => (RunId.ofText operand).toOption.map (.logs root)
  | .upload => some (.upload root operand)

/-- What the arguments of the program ask for. -/
def Request.ofArguments? : List String → Option Request
  | [] => none
  | ["help"] => some (.help .program)
  | ["help", name] => (Topic.ofName? name).map .help
  | name :: rest =>
    if name = "--help" || name.startsWith "-h" then some (.help .program)
    else do
      let t ← Topic.ofName? name
      let a ← Arguments.read? t.takesRoot ⟨none, none, false⟩ rest
      match a.operand with
      | some operand =>
        (ofTopic? t (a.root.getD Ledger.Config.standardRoot) operand).map fun c =>
          if a.isHelp then .help t else .command c
      | none => if a.isHelp then some (.help t) else none

/-! ## What commands do -/

/-- The size of the pieces that files are handled in. -/
def pieceLength : Nat := 65536

/-- A file with the given path. -/
def file (d : Disk) (path : String) : Except Failure Bytes := (d.read path).mapError (.unreadable path)

/-- The digest of octets that are read piece by piece. -/
def digest (bytes : Bytes) : Digest := .ofHasher ((Ledger.parts pieceLength bytes).foldl Blake3.Hasher.update .empty)

/-- What is sent to store octets as an artifact: their digest, and the octets in pieces. -/
def sent (bytes : Bytes) : List Ledger.UploadChunk :=
  .metadata (Digest.of bytes).text :: (Ledger.parts pieceLength bytes).map .data

/-- The lines that a command prints, and the disk after it. -/
def run (d : Disk) (clock : Clock) : Command → Except Failure (List String) × Disk
  | .inspect log =>
    (do
      let bytes ← file d log
      let contents ← (readLog bytes schemaVersion).mapError .log
      return contents.read.messages.map Message.line, d)
  | .checksum path => ((file d path).map fun bytes => [(digest bytes).text], d)
  | .logs root run =>
    let chunks := (Ledger.start (.rootedAt root) d clock).logs run
    ((chunks.map fun cs => cs.flatMap fun c => c.messages.map Message.line).mapError .ledger, d)
  | .upload root path =>
    match file d path with
    | .error e => (.error e, d)
    | .ok bytes =>
      let (r, l) := (Ledger.start (.rootedAt root) d clock).upload (sent bytes)
      ((r.map fun run => [(Digest.of bytes).text ++ " " ++ run.text]).mapError .ledger, l.disk)

/-- Lines as they are written to an output, each with a newline behind it. -/
def printed (lines : List String) : String := lines.foldl (fun out line => out ++ line ++ "\n") ""

/-- What a command writes to the standard output: its lines, and nothing if it fails. -/
def output : Except Failure (List String) → String
  | .ok lines => printed lines
  | .error _ => ""

/-- The files that a command reads. -/
def reads : Command → List String
  | .inspect path | .checksum path | .upload _ path => [path]
  | .logs root run => [(Ledger.Config.rootedAt root).logPath run]

theorem lines_of_inspect {d : Disk} {clock : Clock} {path : String} {bytes : Bytes} {contents : LogContents}
    (hd : d.read path = .ok bytes) (hl : readLog bytes schemaVersion = .ok contents) :
    (run d clock (.inspect path)).1 = .ok (contents.read.messages.map Message.line) := by
  simp only [run, file, hd]
  show ((readLog bytes schemaVersion).mapError Failure.log >>= fun c => pure (c.read.messages.map Message.line)) = _
  rw [hl]
  rfl

end Command

end RunLedger
