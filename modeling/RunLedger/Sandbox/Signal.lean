import RunLedger.Text.Decimal

/-!
# Signals

The signals by their numbers: what they are called, and what one does to a process that asked for nothing else.

* `nameOf_number?`: a signal is known by its name.
-/

namespace RunLedger.Sandbox.Signal

/-- The names of signals in the order of their numbers. The first one stands for the end of a shell. -/
def names : List String :=
  ["EXIT", "HUP", "INT", "QUIT", "ILL", "TRAP", "ABRT", "BUS", "FPE", "KILL", "USR1", "SEGV", "USR2", "PIPE", "ALRM",
    "TERM", "16", "CHLD", "CONT", "STOP", "TSTP", "TTIN", "TTOU", "URG", "XCPU", "XFSZ", "VTALRM", "PROF", "WINCH",
    "IO", "PWR", "SYS"]

/-- What is said of a process that a signal ended, in the order of the numbers. -/
def descriptions : List String :=
  ["", "Hangup", "Interrupt", "Quit", "Illegal instruction", "Trace/breakpoint trap", "Aborted", "Bus error",
    "Floating point exception", "Killed", "User defined signal 1", "Segmentation fault", "User defined signal 2",
    "Broken pipe", "Alarm clock", "Terminated", "Stack fault", "Child exited", "Continued", "Stopped (signal)", "Stopped",
    "Stopped (tty input)", "Stopped (tty output)", "Urgent I/O condition", "CPU time limit exceeded",
    "File size limit exceeded", "Virtual timer expired", "Profiling timer expired", "Window changed", "I/O possible",
    "Power failure", "Bad system call"]

/-- How many numbers of signals there are. -/
def count : Nat := 65

/-- The end of a shell, which a shell treats like a signal. -/
def exit : Nat := 0

/-- The signal that ends a process because it is to be hung up on. -/
def hangup : Nat := 1

/-- The signal of an interruption. -/
def interrupt : Nat := 2

/-- The signal to quit. -/
def quit : Nat := 3

/-- The signal that nothing withstands. -/
def kill : Nat := 9

/-- The signal of a process that lost its way. -/
def fault : Nat := 11

/-- The signal for one who writes what nobody reads. -/
def pipe : Nat := 13

/-- The signal that ends a process if nothing else is asked for. -/
def standard : Nat := 15

/-- The signal that a process of one's own ended. -/
def child : Nat := 17

/-- The signal to go on. -/
def «continue» : Nat := 18

/-- The signal to halt, which nothing withstands. -/
def stop : Nat := 19

/-- The name of a signal. -/
def nameOf (signal : Nat) : String :=
  match names[signal]? with
  | some name => name
  | none =>
    if signal < 34 then Text.Decimal.text signal
    else if signal = 34 then "RTMIN"
    else if signal ≤ 49 then "RTMIN+" ++ Text.Decimal.text (signal - 34)
    else if signal < 64 then "RTMAX-" ++ Text.Decimal.text (64 - signal)
    else "RTMAX"

/-- What is said of a process that a signal ended. -/
def description (signal : Nat) : String :=
  descriptions[signal]?.getD (if signal < 34 then s!"Unknown signal {signal}" else s!"Real-time signal {signal - 34}")

/-- The number that a text writes in digits. -/
def digits? (s : String) : Option Nat :=
  if !s.isEmpty && s.toList.all Char.isDigit then some (Text.Decimal.value s.toList) else none

/-- The signal of a number or a name, for names from a number on. -/
def number? (least : Nat) (s : String) : Option Nat :=
  match digits? s with
  | some n => if n < count then some n else none
  | none => (List.range count).find? fun n => least ≤ n && nameOf n = s.toUpper

/-- Whether a signal does nothing to a process that asked for nothing. -/
def isIdle (signal : Nat) : Bool := [0, 17, 18, 23, 28].contains signal

/-- Whether a signal halts a process that asked for nothing. -/
def halts (signal : Nat) : Bool := [19, 20, 21, 22].contains signal

/-- Whether nothing but the signal's own effect can be asked for. -/
def isSovereign (signal : Nat) : Bool := signal = kill || signal = stop

/-- A signal is known by its name. -/
theorem nameOf_number? {least signal : Nat} {s : String} (h : number? least s = some signal) (hd : digits? s = none) :
    nameOf signal = s.toUpper := by
  simp only [number?, hd] at h
  have := List.find?_some h
  simp only [Bool.and_eq_true, decide_eq_true_eq] at this
  exact this.2

end RunLedger.Sandbox.Signal
