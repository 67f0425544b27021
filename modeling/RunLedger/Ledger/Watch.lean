import RunLedger.Ledger.Feed
import RunLedger.Log.Cursor
import RunLedger.Storage.Disk

/-!
# Watching a run

A `Watch` hands out the messages of a run one by one, first those in the log and then those that are published. It
knows by its cursor which record comes next. When it missed messages, or is offered a later record than the next one,
it reads the log again from its cursor on; records that it has handed out already are passed over. When its feed is
closed it reads the log once more and ends. When the log cannot be read it says so and then ends; until it does, it
still counts as a watcher.

* `poll_ready`: messages that were read are handed out before anything else is done.
-/

namespace RunLedger.Ledger

/-- A reader of a run's log that goes on as the log grows. -/
structure Watch where
  run : RunId
  path : String
  feed : Feed
  /-- The place behind the last message that was read or taken. -/
  cursor : Cursor
  /-- Messages that were read from the log and not handed out. -/
  ready : List Message
  /-- Whether the log is to be read before the feed is looked at. -/
  behind : Bool
  /-- Whether the watch ends once it is not behind. -/
  closing : Bool
  deriving DecidableEq

/-- What a watch has to say. -/
inductive Poll where
  | message (m : Message)
  /-- The log could not be read; the watch has nothing to say but that. -/
  | failed (fault : IoError)
  /-- Nothing more for now. -/
  | pending
  | ended
  deriving DecidableEq

/-- The messages behind a cursor in the log at a path, and the cursor behind them. A log that is gone has none. -/
def catchUp (d : Disk) (path : String) (c : Cursor) : Except IoError (List Message × Cursor) :=
  match d.read path with
  | .error .notFound => .ok ([], c)
  | .error e => .error e
  | .ok log =>
    let (read, seen) := (Cursor.mk c.record 0).read (log.drop c.offset)
    .ok (read.messages, ⟨seen.record, c.offset + seen.offset⟩)

namespace Watch

/-- A watch from the start of a log. -/
def new (run : RunId) (path : String) (feed : Feed) : Watch := ⟨run, path, feed, .start, [], true, false⟩

/-- Bounds the steps until the watch has something to say. -/
def work (w : Watch) : Nat := w.feed.weight + 2 * (!w.closing).toNat + w.behind.toNat

/-- The next thing that a watch has to say, and the watch after it, unless it is over. -/
def poll (d : Disk) (w : Watch) : Poll × Option Watch :=
  match w.ready with
  | m :: rest => (.message m, some { w with ready := rest })
  | [] =>
    if _hb : w.behind then
      match catchUp d w.path w.cursor with
      | .error e => (.failed e, some { w with behind := false, closing := true })
      | .ok ([], cursor) => poll d { w with cursor := cursor, behind := false }
      | .ok (m :: rest, cursor) => (.message m, some { w with cursor := cursor, behind := false, ready := rest })
    else if _hc : w.closing then (.ended, none)
    else
      match _hr : w.feed.receive with
      | (.missed, feed) => poll d { w with feed := feed, behind := true }
      | (.message p, feed) =>
        if p.record < w.cursor.record then poll d { w with feed := feed }
        else if p.record = w.cursor.record then
          (.message p.message, some { w with feed := feed, cursor := ⟨p.record + 1, p.stop⟩ })
        else poll d { w with feed := feed, behind := true }
      | (.closed, _) => poll d { w with behind := true, closing := true }
      | (.empty, _) => (.pending, some w)
termination_by w.work
decreasing_by
  · simp_all [work]
  · have := Feed.weight_of_receive_missed _hr
    simp_all [work]
  · have := Feed.weight_of_receive_message _hr
    simp_all [work]
    omega
  · have := Feed.weight_of_receive_message _hr
    simp_all [work]
    omega
  · simp_all [work]

theorem poll_ready {d : Disk} {w : Watch} {m : Message} {rest : List Message} (h : w.ready = m :: rest) :
    w.poll d = (.message m, some { w with ready := rest }) := by
  rw [poll]; split <;> simp_all

end Watch

end RunLedger.Ledger
