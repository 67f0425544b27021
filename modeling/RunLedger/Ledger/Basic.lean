import RunLedger.Ledger.RunLog
import RunLedger.Ledger.Upload
import RunLedger.Ledger.Watch
import RunLedger.Message.Clock
import RunLedger.Text.Blank

/-!
# The ledger

A `Ledger` keeps the logs of runs on a disk: batches of messages are dispatched to a run, whose log can be read as a
whole or watched as it grows, and artifacts are uploaded. It holds at most one writer for each run. When it holds too
many, the writers of runs that nobody watches are let go; the log of such a run is looked at again when it is needed.

* `runs_restart`, `disk_restart`: opening the ledger anew keeps the files and nothing else.
-/

namespace RunLedger

/-- A ledger with the files that it keeps and the watchers of its runs. -/
structure Ledger where
  config : Ledger.Config
  disk : Disk
  clock : Clock
  /-- The runs that are held. -/
  runs : OrderedMap RunId Ledger.RunLog
  /-- All watches that were begun, without those that are over. -/
  watches : List (Option Ledger.Watch)

namespace Ledger

/-- Part of a log. -/
structure LogChunk where
  messages : List Message
  /-- Set in the last part of a log that ends in something that is no record. -/
  truncated : Bool
  deriving DecidableEq

/-- Opens a ledger on a disk. -/
def start (config : Config) (disk : Disk) (clock : Clock) : Ledger := ⟨config, disk, clock, .empty, []⟩

/-- Opens the ledger anew on the same files. The watches of before get nothing more. -/
def restart (l : Ledger) (config : Config) : Ledger :=
  { l with
    config := config
    runs := .empty
    watches := l.watches.map (·.map fun w => { w with feed := w.feed.close }) }

/-- How many runs are held. -/
def openRuns (l : Ledger) : Nat := l.runs.size

/-- Whether somebody waits for what will be published for a run. -/
def isWatched (l : Ledger) (run : RunId) : Bool :=
  l.watches.any fun w => w.any fun w => w.run = run && w.feed.isOpen

/-- Changes the feeds of a run's watchers. -/
def mapFeeds (l : Ledger) (run : RunId) (f : Feed → Feed) : Ledger :=
  { l with watches := l.watches.map (·.map fun w => if w.run = run then { w with feed := f w.feed } else w) }

/-- Lets go of the runs that are closed or that nobody watches. -/
def release (l : Ledger) : Ledger := { l with runs := l.runs.filter fun run log => log.live && l.isWatched run }

/-- Holds a run, for which others are let go if too many are held. -/
def hold (l : Ledger) (run : RunId) : RunLog × Ledger :=
  match l.runs.get? run with
  | some log => (log, l)
  | none =>
    let l := if l.config.maxOpenRuns ≤ l.runs.size then l.release else l
    (.new, { l with runs := l.runs.set run .new })

/-- The preamble of a log that the ledger starts now. -/
def suppliedPreamble (l : Ledger) : Message :=
  l.clock.stamp.message (.preamble (.startingAt l.config.schemaVersion l.clock.time l.config.preambleValidity))

/-- Appends a batch to the log of a run and publishes it. -/
def dispatch (l : Ledger) (run : RunId) (batch : List Message) : Except Error Ack × Ledger :=
  let (log, l) := l.hold run
  let (r, log, disk) := log.append l.disk l.config run l.suppliedPreamble batch
  let l := { l with runs := l.runs.set run log, disk := disk, clock := l.clock.next }
  match r with
  | .error e => (.error e, l)
  | .ok (ack, records) => (.ok ack, l.mapFeeds run fun feed => records.foldl Feed.push feed)

/-- Begins to watch a run that is held or has a log, and answers the number of the watch. -/
def watch (l : Ledger) (run : RunId) : Except Error Nat × Ledger :=
  if l.runs.contains run || l.disk.contains (l.config.logPath run) then
    let (log, l) := l.hold run
    let w := Watch.new run (l.config.logPath run) (.new l.config.watchCapacity log.live)
    (.ok l.watches.length, { l with watches := l.watches ++ [some w] })
  else (.error (.unknownRun run), l)

/-- The next thing that a watch has to say. -/
def next (l : Ledger) (number : Nat) : Poll × Ledger :=
  match l.watches[number]?.join with
  | none => (.ended, l)
  | some w =>
    let (said, w) := w.poll l.disk
    (said, { l with watches := l.watches.set number w })

/-- How a watch stands after messages were taken from it. -/
inductive Standing where
  /-- As many were taken as were asked for. -/
  | more
  /-- There is nothing more for now. -/
  | pending
  | ended
  deriving DecidableEq, Repr

/-- Takes what a watch has to say, up to so many messages and failures. -/
def take (l : Ledger) (number : Nat) : Nat → List (Except IoError Message) × Standing × Ledger
  | 0 => ([], .more, l)
  | count + 1 =>
    match l.next number with
    | (.pending, l) => ([], .pending, l)
    | (.ended, l) => ([], .ended, l)
    | (.message m, l) =>
      let (taken, after) := take l number count
      (.ok m :: taken, after)
    | (.failed e, l) =>
      let (taken, after) := take l number count
      (.error e :: taken, after)

/-- Stops a watch. -/
def leave (l : Ledger) (number : Nat) : Ledger := { l with watches := l.watches.set number none }

/-- Stops publishing for a run: its watchers are handed what is there and end. Answers whether the run was live. -/
def close (l : Ledger) (run : RunId) : Bool × Ledger :=
  match l.runs.get? run with
  | some log =>
    if log.live then
      (true, { l with runs := l.runs.set run { log with live := false } }.mapFeeds run Feed.close)
    else (false, l)
  | none => (false, l)

/-- A list in parts of a length, the last of which may be shorter. -/
def parts {α : Type} (length : Nat) : List α → List (List α)
  | [] => []
  | x :: xs => (x :: xs.take (length - 1)) :: parts length (xs.drop (length - 1))
termination_by xs => xs.length

/-- The parts of a log. -/
def chunked (read : ReadOutcome) : List (List Message) → List LogChunk
  | [] => []
  | [ms] => [⟨ms, read.isTruncated⟩]
  | ms :: rest => ⟨ms, false⟩ :: chunked read rest

/-- The messages in the log of a run. -/
def logs (l : Ledger) (run : RunId) : Except Error (List LogChunk) :=
  match l.disk.read (l.config.logPath run) with
  | .error .notFound => .error (.unknownRun run)
  | .error e => .error (.io e)
  | .ok log =>
    match readLog log l.config.schemaVersion with
    | .error fault => .error (.log fault)
    | .ok contents => .ok (chunked contents.read (parts (max 1 l.config.logChunk) contents.read.messages))

/-- Stores an artifact under its digest, and records it under the identifier of a new run. -/
def upload (l : Ledger) (chunks : List UploadChunk) : Except Error RunId × Ledger :=
  match receiveUpload l.disk l.config.uploadsDirectory chunks with
  | (.error e, disk) => (.error e, { l with disk := disk })
  | (.ok key, disk) =>
    let run : RunId := ⟨l.clock.stamp.id.uuid⟩
    match disk.replace (l.config.recordPath run) (Text.Utf8.encode key.text) with
    | .error e => (.error (.io e), { l with disk := disk })
    | .ok disk => (.ok run, { l with disk := disk, clock := l.clock.next })

/-- The path of the artifact that was recorded under a run. -/
def artifact (l : Ledger) (run : RunId) : Except Error String :=
  match l.disk.read (l.config.recordPath run) with
  | .error .notFound => .error (.unknownRun run)
  | .error e => .error (.io e)
  | .ok bytes =>
    match Text.Utf8.decode bytes with
    | .error _ => .error (.io .notText)
    | .ok text =>
      match Digest.ofText (Text.Blank.trim text) with
      | .error fault => .error (.invalidChecksum fault)
      | .ok key => .ok (l.config.artifactPath key)

/-- The names and sizes of the stored artifacts. -/
def artifacts (l : Ledger) : List (String × Nat) := l.disk.list l.config.uploadsDirectory

@[simp] theorem runs_restart (l : Ledger) (config : Config) : (l.restart config).runs = .empty := rfl

@[simp] theorem disk_restart (l : Ledger) (config : Config) : (l.restart config).disk = l.disk := rfl

end Ledger

end RunLedger
