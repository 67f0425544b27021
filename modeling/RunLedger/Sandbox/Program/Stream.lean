import RunLedger.Sandbox.Program.Options
import RunLedger.Sandbox.Quoted

/-!
# Streams

What programs have in common: how they tell what is wrong, how they write, and how they go through what they read,
portion by portion or line by line.

* `right_of_le`: what is as wide as asked for stays as it is.
-/

namespace RunLedger.Sandbox

namespace Call

/-- Writes to where errors are told. -/
def tell (text : String) : Act Unit := do
  let _ ← Act.write 2 (Octets.array text)

/-- Tells what is wrong. -/
def complain (c : Call) (text : String) : Act Unit := tell (c.name ++ ": " ++ text ++ "\n")

/-- Writes to the standard output. A program that cannot ends with a status. -/
def putOr (c : Call) (status : Nat) (text : String) : Act Unit := do
  if text.isEmpty then return ()
  else
    match ← Act.write 1 (Octets.array text) with
    | .ok () => return ()
    | .error e =>
      c.complain ("write error: " ++ e.text)
      Act.quit (.exited status)

/-- Writes to the standard output. -/
def put (c : Call) (text : String) : Act Unit := c.putOr 1 text

/-- Tells that the arguments make no sense. Answers a status. -/
def misused (c : Call) (status : Nat) (text : String) : Act Nat := do
  if !text.isEmpty then c.complain text
  tell ("Try '" ++ c.name ++ " --help' for more information.\n")
  return status

/-- Tells what cannot be done. Answers a status. -/
def refuse (c : Call) (status : Nat) (text : String) : Act Nat := do
  c.complain text
  return status

/-- Tells that an operand is missing, or one is too many. -/
def miscounted (c : Call) (status : Nat) (operands : List String) (most : Nat) : Act Nat :=
  match operands, operands[most]? with
  | [], _ => c.misused status "missing operand"
  | _, some extra => c.misused status ("extra operand " ++ Quoted.marked extra)
  | _, none => c.misused status ("missing operand after " ++ Quoted.marked (operands.getLastD ""))

/-- Sorts the arguments out and goes on. If they make no sense, the answer is a status. -/
def reading (c : Call) (t : OptionTable) (status : Nat) (f : Arguments → Act Nat) : Act Nat :=
  match Arguments.read t c.arguments with
  | .ok a => f a
  | .error .help => do
    c.put ("Usage: " ++ c.name ++ " [OPTION]...\n")
    return 0
  | .error .version => do
    c.put (c.name ++ "\n")
    return 0
  | .error e => c.misused status e.text

end Call

namespace Program

/-- Why there is nothing to read. -/
inductive Failure where
  | opening (e : IoError)
  | reading (e : IoError)
  deriving DecidableEq, Repr

/-- The refusal behind a failure. -/
def Failure.error : Failure → IoError
  | .opening e | .reading e => e

/-- Does something with what an operand names. A dash is the standard input. -/
def withOperand {α : Type} (operand : String) (f : Nat → Act (Except IoError α)) : Act (Except Failure α) := do
  if operand = "-" then return (← f 0).mapError .reading
  else
    match ← Act.open operand .reading 0 3 false with
    | .error e => return .error (.opening e)
    | .ok descriptor =>
      let result ← f descriptor
      Act.close descriptor
      return result.mapError .reading

/-- All that an operand names. -/
def contents (operand : String) : Act (Except Failure String) := withOperand operand fun descriptor => do
  return (← Act.readAll descriptor).map Octets.ofArray

/-- The operands to read: the standard input if there are none. -/
def sources (operands : List String) : List String := if operands.isEmpty then ["-"] else operands

/-- Does something with each of some things. The answer is zero if all went well, otherwise a status. -/
def each {α : Type} (status : Nat) (f : α → Act Bool) : List α → Act Nat
  | [] => return 0
  | a :: rest => do
    let isFine ← f a
    let others ← each status f rest
    return if isFine then others else status

/-! ## Lines -/

/-- The parts of a text up to each end of a line, with it, and what is behind the last one. -/
def lines (s : String) : List String :=
  let parts := s.splitOn "\n"
  let ended := parts.dropLast.map (·.push '\n')
  match parts.getLast? with
  | some last => if last.isEmpty then ended else ended ++ [last]
  | none => ended

/-- Whether a line has its end. -/
def isEnded (line : String) : Bool := line.toList.getLast? = some '\n'

/-- A line without its end. -/
def bare (line : String) : String := if line.endsWith "\n" then (line.dropEnd 1).toString else line

/-- Feeds portions to work on a state as long as it asks for more, at most so many. Answers what became of the state. -/
def feedPortions {σ : Type} (descriptor : Nat) (f : σ → String → Act (σ × Bool)) : Nat → σ → Act (Except IoError σ)
  | 0, state => return .ok state
  | n + 1, state => do
    match ← Act.read descriptor Act.portion with
    | .error e => return .error e
    | .ok octets =>
      if octets.size = 0 then return .ok state
      else
        let (state, goesOn) ← f state (Octets.ofArray octets)
        if goesOn then feedPortions descriptor f n state else return .ok state

/-- Feeds lines to work on a state as long as it asks for more, given the front of the first line, in at most so many
portions. Answers what became of the state. -/
def feedLines {σ : Type} (descriptor : Nat) (f : σ → List String → Act (σ × Bool)) :
    Nat → String → σ → Act (Except IoError σ)
  | 0, _, state => return .ok state
  | n + 1, front, state => do
    match ← Act.read descriptor Act.portion with
    | .error e => return .error e
    | .ok octets =>
      if octets.size = 0 then
        if front.isEmpty then return .ok state
        else return .ok (← f state [front]).1
      else
        let all := lines (front ++ Octets.ofArray octets)
        let rest := match all.getLast? with
          | some last => if isEnded last then "" else last
          | none => ""
        let (state, goesOn) ← f state (if rest.isEmpty then all else all.dropLast)
        if goesOn then feedLines descriptor f n rest state else return .ok state

/-- Text with blanks in front, up to a width. -/
def right (width : Nat) (s : String) : String := String.ofList (List.replicate (width - s.length) ' ') ++ s

/-- Text with blanks behind it, up to a width. -/
def left (width : Nat) (s : String) : String := s ++ String.ofList (List.replicate (width - s.length) ' ')

/-- The units of sizes, each a power of one thousand, or of 1024. -/
def units : List Char := ['K', 'M', 'G', 'T', 'P', 'E', 'Z', 'Y', 'R', 'Q']

/-- The number of a size, with a unit of its own if need be. -/
def size? (s : String) : Option Nat :=
  let digits := s.toList.takeWhile Char.isDigit
  let unit := s.toList.drop digits.length
  let power := fun (base : Nat) (c : Char) =>
    match units.findIdx? (· = c.toUpper) with
    | some i => some (Nat.pow base (i + 1))
    | none => none
  let factor := match unit with
    | [] => some 1
    | ['b'] => some 512
    | [c] => power 1024 c
    | [c, 'B'] => power 1000 c
    | [c, 'i', 'B'] => power 1024 c
    | _ => none
  if digits.isEmpty then none else factor.map (Text.Decimal.value digits * ·)

/-- What is as wide as asked for stays as it is. -/
theorem right_of_le {width : Nat} {s : String} (h : width ≤ s.length) : right width s = s := by
  simp [right, Nat.sub_eq_zero_of_le h]

end Program

end RunLedger.Sandbox
