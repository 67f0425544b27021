import RunLedger.Blake3.Compression
import RunLedger.Blake3.Tree
import RunLedger.Buffer
import RunLedger.Bytes
import RunLedger.Command
import RunLedger.Digest
import RunLedger.Double.Basic
import RunLedger.Double.Shortest
import RunLedger.Guest.Call
import RunLedger.Guest.Capability
import RunLedger.Guest.Host
import RunLedger.Guest.Marshal
import RunLedger.Guest.Memory
import RunLedger.Guest.System
import RunLedger.Identifier.Basic
import RunLedger.Identifier.Uuid
import RunLedger.Json.Basic
import RunLedger.Json.Printer
import RunLedger.Json.Reader
import RunLedger.Json.Token
import RunLedger.Ledger.Basic
import RunLedger.Ledger.Config
import RunLedger.Ledger.Error
import RunLedger.Ledger.Feed
import RunLedger.Ledger.RunLog
import RunLedger.Ledger.Upload
import RunLedger.Ledger.Watch
import RunLedger.Log.Contents
import RunLedger.Log.Cursor
import RunLedger.Log.File
import RunLedger.Log.Frame
import RunLedger.Log.Sink
import RunLedger.Log.Writer
import RunLedger.Main
import RunLedger.Message.Basic
import RunLedger.Message.Clock
import RunLedger.Message.Json
import RunLedger.Message.Wire
import RunLedger.OrderedMap
import RunLedger.Proofs.Guest.Calling
import RunLedger.Proofs.Guest.Packing
import RunLedger.Proofs.Identifier.Text
import RunLedger.Proofs.Ledger.Closing
import RunLedger.Proofs.Ledger.Consistency
import RunLedger.Proofs.Ledger.Delivery
import RunLedger.Proofs.Ledger.History
import RunLedger.Proofs.Ledger.Isolation
import RunLedger.Proofs.Ledger.Numbering
import RunLedger.Proofs.Ledger.Path
import RunLedger.Proofs.Ledger.Readable
import RunLedger.Proofs.Ledger.Recovery
import RunLedger.Proofs.Ledger.RunLog
import RunLedger.Proofs.Ledger.Watching
import RunLedger.Proofs.Log.Damage
import RunLedger.Proofs.Log.Following
import RunLedger.Proofs.Log.Frame
import RunLedger.Proofs.Log.Reading
import RunLedger.Proofs.Log.Recovery
import RunLedger.Proofs.Log.Writing
import RunLedger.Proofs.Message.Wire
import RunLedger.Proofs.Storage.Disk
import RunLedger.Proofs.Trace.Nesting
import RunLedger.Sandbox.Arithmetic
import RunLedger.Sandbox.Condition
import RunLedger.Sandbox.Date
import RunLedger.Sandbox.Executable
import RunLedger.Sandbox.Expression
import RunLedger.Sandbox.Field
import RunLedger.Sandbox.FileTree
import RunLedger.Sandbox.Format
import RunLedger.Sandbox.Loader
import RunLedger.Sandbox.Machine
import RunLedger.Sandbox.Measure
import RunLedger.Sandbox.Octets
import RunLedger.Sandbox.Pattern
import RunLedger.Sandbox.Pause
import RunLedger.Sandbox.Permission
import RunLedger.Sandbox.Pipe
import RunLedger.Sandbox.Process
import RunLedger.Sandbox.Program.Answer
import RunLedger.Sandbox.Program.Calculator
import RunLedger.Sandbox.Program.Copies
import RunLedger.Sandbox.Program.Copy
import RunLedger.Sandbox.Program.Description
import RunLedger.Sandbox.Program.Editor.Run
import RunLedger.Sandbox.Program.Editor.Script
import RunLedger.Sandbox.Program.Files
import RunLedger.Sandbox.Program.Grep
import RunLedger.Sandbox.Program.Lines
import RunLedger.Sandbox.Program.Listing
import RunLedger.Sandbox.Program.Options
import RunLedger.Sandbox.Program.Search.Query
import RunLedger.Sandbox.Program.Search.Walk
import RunLedger.Sandbox.Program.Sequence
import RunLedger.Sandbox.Program.Sort
import RunLedger.Sandbox.Program.Start
import RunLedger.Sandbox.Program.Stat
import RunLedger.Sandbox.Program.Stream
import RunLedger.Sandbox.Program.Translate
import RunLedger.Sandbox.Quoted
import RunLedger.Sandbox.Schedule
import RunLedger.Sandbox.Script.Basic
import RunLedger.Sandbox.Script.Reader
import RunLedger.Sandbox.Script.Token
import RunLedger.Sandbox.Script.Word
import RunLedger.Sandbox.Shell.Builtin
import RunLedger.Sandbox.Shell.Expansion
import RunLedger.Sandbox.Shell.Invocation
import RunLedger.Sandbox.Shell.Job
import RunLedger.Sandbox.Shell.Redirection
import RunLedger.Sandbox.Shell.Run
import RunLedger.Sandbox.Shell.Setting
import RunLedger.Sandbox.Shell.Signal
import RunLedger.Sandbox.Shell.State
import RunLedger.Sandbox.Signal
import RunLedger.Sandbox.Thread
import RunLedger.Sandbox.World
import RunLedger.Storage.Disk
import RunLedger.Storage.Error
import RunLedger.Task.Basic
import RunLedger.Task.Board
import RunLedger.Text.Blank
import RunLedger.Text.Decimal
import RunLedger.Text.Hex
import RunLedger.Text.Hidden
import RunLedger.Text.Quoted
import RunLedger.Text.Utf8
import RunLedger.Time
import RunLedger.Trace.Context
import RunLedger.Trace.Diff
import RunLedger.Trace.Graph
import RunLedger.Trace.Pipeline
import RunLedger.Version
import RunLedger.Wire.Basic
import RunLedger.Proofs.Trace.Deeds
import RunLedger.Proofs.Trace.Blocks
import RunLedger.Proofs.Trace.Passes
import RunLedger.Proofs.Trace.Boards
import RunLedger.Proofs.Identifier.Path
import RunLedger.Proofs.Trace.Graph
import RunLedger.Proofs.Trace.Lines
import RunLedger.Proofs.Trace.Forks
import RunLedger.Proofs.Guest.Metrics
import RunLedger.Proofs.Ledger.Demands
import RunLedger.Proofs.Ledger.Batches
import RunLedger.Proofs.Digest
import RunLedger.Proofs.Ledger.Uploads
import RunLedger.Proofs.Ledger.Unknown
import RunLedger.Proofs.Text.Utf8
import RunLedger.Proofs.Guest.Unpacking
import RunLedger.Proofs.Ledger.Holding
import RunLedger.Proofs.Text.Hex
import RunLedger.Proofs.Ledger.Storing
import RunLedger.Proofs.Guest.Frames
import RunLedger.Proofs.Guest.Resolving
import RunLedger.Proofs.Trace.Differences
import RunLedger.Proofs.Trace.PrefixTree
import RunLedger.Proofs.Trace.Forest
import RunLedger.Proofs.Log.Rewriting
import RunLedger.Proofs.Log.Counting
import RunLedger.Proofs.Ledger.Chunks
import RunLedger.Proofs.Command.Output
import RunLedger.Proofs.Command.Artifacts
import RunLedger.Proofs.Json.Literal
import RunLedger.Proofs.Json.Reading
import RunLedger.Proofs.Double.Text
import RunLedger.Proofs.Message.Json
import RunLedger.Proofs.Command.Lines
import RunLedger.Proofs.Time
import RunLedger.Proofs.Identifier.Naming
import RunLedger.Proofs.Identifier.Case
import RunLedger.Proofs.Ledger.Places
import RunLedger.Proofs.Log.Walking
import RunLedger.Proofs.Ledger.Live
import RunLedger.Proofs.Version
