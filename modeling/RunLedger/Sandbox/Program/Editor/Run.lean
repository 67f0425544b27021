import RunLedger.Sandbox.Program.Editor.Script
import RunLedger.Sandbox.Program.Stream

/-!
# The stream editor

`sed` takes one line after the other onto its desk, does what its script says to it, and writes what became of it. A
second text is kept aside. Each command is a step on the desk; only reading and writing works on the machine.

* `put_empty`: to write nothing changes nothing.
-/

namespace RunLedger.Sandbox.Editor

/-- What is written at the end of a cycle. -/
inductive Later where
  | text (s : String)
  | file (path : String)
  deriving DecidableEq

/-- Whether a range of lines is open, and up to which line if that is known. -/
inductive Span where
  | opened (stop : Option Nat)
  | closed
  deriving DecidableEq

/-- How a script is run. -/
structure Mode where
  isQuiet : Bool
  isExtended : Bool
  /-- Whether each file is a text of its own. -/
  isSeparate : Bool
  /-- The character that ends lines. -/
  lineEnd : Char
  width : Nat

/-- Everything that a script works on. -/
structure Desk where
  /-- The line, and the text that is kept aside. -/
  space : String
  hold : String
  /-- Whether the line had its end. -/
  isEnded : Bool
  number : Nat
  /-- Whether something was substituted since the last line came. -/
  isChanged : Bool
  later : List Later
  spans : List (Nat × Span)
  lastSearch : Option Search
  /-- What is to be written, and whether an end of a line is owed. -/
  output : String
  owesEnd : Bool
  /-- What is to be written to files, the latest first. -/
  writings : List (String × String)
  /-- The name of the source of the line. -/
  name : String
  /-- The lines that are read but not taken, each with the name of its source, and the front of the line behind them. -/
  ready : List (String × String)
  front : String
  /-- The source that is being read, and those that follow. -/
  source : Option (String × Nat)
  sources : List String
  /-- What is left of the files that are read line by line. -/
  readers : List (String × List String)
  status : Nat

/-- Where a script goes on after a command. -/
inductive Next where
  | go (place : Nat)
  /-- The cycle is over: the line is written unless it was deleted. -/
  | done
  | deleted
  /-- The script starts over without a new line. -/
  | again
  /-- The next line is asked for, behind the old one or in its place. -/
  | line (isAppended : Bool) (place : Nat)
  | quit (isQuiet : Bool) (status : Nat)
  /-- There is no expression to look for. -/
  | lost

namespace Desk

/-- The desk with more to write. -/
def put (d : Desk) (s : String) : Desk :=
  if s.isEmpty then d
  else { d with output := d.output ++ (if d.owesEnd then "\n" else "") ++ s, owesEnd := false }

/-- The desk with a line to write, which has its end if the last line had one. -/
def putLine (m : Mode) (d : Desk) (s : String) : Desk :=
  let d := { d with output := d.output ++ (if d.owesEnd then m.lineEnd.toString else "") ++ s, owesEnd := false }
  if d.isEnded then { d with output := d.output.push m.lineEnd } else { d with owesEnd := true }

/-- The desk with something to write to a file. The output is a file too. -/
def writeTo (m : Mode) (d : Desk) (path s : String) : Desk :=
  if path = "/dev/stdout" then d.putLine m s else { d with writings := (path, s.push m.lineEnd) :: d.writings }

/-- Whether no line is left. -/
def isLast (d : Desk) : Bool := d.ready.isEmpty

/-! ## Which lines -/

/-- Looks for something in the line from a place on, and keeps in mind what. Nothing if there is nothing to look for. -/
def find? (d : Desk) (search? : Option Search) (place : Nat) : Option (Option Expression.Match × Desk) :=
  match search?.or d.lastSearch with
  | none => none
  | some s =>
    some (Expression.find? s.isFolded s.isLined s.expression d.space.toList.toArray place,
      { d with lastSearch := some s })

/-- Whether an address means the line. Nothing if there is nothing to look for. -/
def isAt (d : Desk) : Address → Option (Bool × Desk)
  | .line n => some (d.number = n, d)
  | .last => some (d.isLast, d)
  | .every first step =>
    some (if step = 0 then decide (d.number = first)
      else decide (first ≤ d.number) && decide ((d.number - first) % step = 0), d)
  | .found search? => (d.find? search? 0).map fun (m, d) => (m.isSome, d)

/-- The desk with a range opened or closed. -/
def spanned (d : Desk) (place : Nat) (s : Span) : Desk :=
  { d with spans := (place, s) :: d.spans.filter fun e => e.1 ≠ place }

/-- Whether the line is in an open range, and the range after it. -/
def inRange (d : Desk) (place : Nat) (stop : Until) (known : Option Nat) : Option (Bool × Desk) :=
  match known, stop with
  | some n, _ => some (decide (d.number ≤ n), if n ≤ d.number then d.spanned place .closed else d)
  | none, .address a => (d.isAt a).map fun (isEnd, d) => (true, if isEnd then d.spanned place .closed else d)
  | none, _ => some (true, d)

/-- The range that a line starts. -/
def opensRange (d : Desk) (place : Nat) (stop : Until) : Desk :=
  let upTo := fun (n : Nat) => if d.number < n then d.spanned place (.opened (some n)) else d
  match stop with
  | .address (.line n) => upTo n
  | .more n => upTo (d.number + n)
  | .multiple n => if n = 0 then d else upTo (d.number + n - d.number % n)
  | .address .last => if d.isLast then d else d.spanned place (.opened none)
  | .address _ => d.spanned place (.opened none)

/-- Whether a command is for the line. Nothing if there is nothing to look for. -/
def isMeant (d : Desk) (place : Nat) (g : Guard) : Option (Bool × Desk) :=
  let inverted := fun (r : Option (Bool × Desk)) => r.map fun (b, d) => (b != g.isInverted, d)
  inverted <|
    match g.start, g.stop with
    | none, _ => some (true, d)
    | some a, none => d.isAt a
    | some a, some stop =>
      match d.spans.lookup place with
      | some (.opened known) => d.inRange place stop known
      | span =>
        if span.isNone && g.fromOutset then d.inRange place stop none
        else
          let isCounted := match a with
            | .line _ => true
            | _ => false
          if isCounted && span = some .closed then some (false, d)
          else (d.isAt a).map fun (isStart, d) => (isStart, if isStart then d.opensRange place stop else d)

/-! ## What is done -/

/-- A text with letters as they were asked for: all of them, and the next one. -/
def lettered (all next : Option Char) (s : String) : String :=
  let s := match all with
    | some 'U' => s.toUpper
    | some 'L' => s.toLower
    | _ => s
  match next, s.toList with
  | some 'u', c :: cs => String.ofList (c.toUpper :: cs)
  | some 'l', c :: cs => String.ofList (c.toLower :: cs)
  | _, _ => s

/-- What takes the place of something found. -/
def replacement (text : Array Char) (found : Expression.Match) (pieces : List Piece) : String :=
  (pieces.foldl (fun (written, all, next) piece =>
    let add := fun (s : String) => if s.isEmpty then (written, all, next) else (written ++ lettered all next s, all, none)
    match piece with
    | .text s => add s
    | .group n =>
      add (((found.group? n).map fun (start, stop) => String.ofList (text.extract start stop).toList).getD "")
    | .letters c =>
      if c = 'E' then (written, none, next)
      else if c = 'U' || c = 'L' then (written, some c, next) else (written, all, some c)) ("", (none : Option Char),
        (none : Option Char))).1

/-- Puts something in the place of what is found from a place on: the text so far, how often something was found, the end
of what was found last, and whether anything was replaced. -/
def replaced (s : Substitution) (search : Search) (text : Array Char) :
    Nat → Nat → Nat → Option Nat → String → Bool → String × Bool
  | 0, _, _, _, done, isChanged => (done, isChanged)
  | n + 1, place, count, last, done, isChanged =>
    let cut := fun (i j : Nat) => String.ofList (text.extract i j).toList
    let rest := fun (_ : Unit) => (done ++ cut place text.size, isChanged)
    match Expression.find? search.isFolded search.isLined search.expression text place with
    | none => rest ()
    | some m =>
      let before := cut place m.start
      let isRepeated := m.start = m.stop && last = some m.start
      let count := if isRepeated then count else count + 1
      let own := cut m.start m.stop
      let isChosen := !isRepeated && (max s.number 1 ≤ count)
      let done := done ++ before ++ (if isChosen then replacement text m s.pieces else own)
      let isChanged := isChanged || isChosen
      if isChosen && !s.isGlobal then (done ++ cut m.stop text.size, isChanged)
      else if m.start = m.stop then
        if text.size ≤ m.stop then (done, isChanged)
        else replaced s search text n (m.stop + 1) count (some m.stop) (done ++ cut m.stop (m.stop + 1)) isChanged
      else replaced s search text n m.stop count (some m.stop) done isChanged

/-- The line with something substituted. Nothing if there is nothing to look for. -/
def substitute (m : Mode) (d : Desk) (s : Substitution) : Option Desk :=
  match s.search?.or d.lastSearch with
  | none => none
  | some search =>
    let text := d.space.toList.toArray
    let d := { d with lastSearch := some search }
    let (space, isChanged) := replaced s search text (text.size + 2) 0 0 none "" false
    if !isChanged then some d
    else
      let d := { d with space, isChanged := true }
      let d := if s.prints then d.putLine m space else d
      some (match s.target with
        | some path => d.writeTo m path space
        | none => d)

/-- The first line of a text, and what is behind its end. -/
def firstLine (s : String) : String × Option String :=
  match s.splitOn "\n" with
  | line :: rest => (line, if rest.isEmpty then none else some ("\n".intercalate rest))
  | [] => ("", none)

/-- A text with escapes for what cannot be seen, in lines of a width. -/
def listed (width : Nat) (s : String) : String :=
  let pieces := s.toList.map fun c => if c = '\\' then "\\\\" else if Quoted.isVisible c then c.toString else Quoted.escaped c
  let (done, _) := pieces.foldl (fun (done, column) piece =>
    if 1 < width && width - 1 < column + piece.length then (done ++ "\\\n" ++ piece, piece.length)
    else (done ++ piece, column + piece.length)) ("", 0)
  done ++ "$\n"

/-- Does what a command of one letter says. -/
def simple (m : Mode) (d : Desk) (place : Nat) (c : Char) : Desk × Next :=
  let on := fun (d : Desk) => (d, Next.go (place + 1))
  match c with
  | '=' => on (d.put (Text.Decimal.text d.number ++ "\n"))
  | 'd' => (d, .deleted)
  | 'D' =>
    match firstLine d.space with
    | (_, none) => (d, .deleted)
    | (_, some rest) => ({ d with space := rest }, .again)
  | 'F' => on (d.put (d.name ++ "\n"))
  | 'g' => on { d with space := d.hold }
  | 'G' => on { d with space := d.space.push m.lineEnd ++ d.hold }
  | 'h' => on { d with hold := d.space }
  | 'H' => on { d with hold := d.hold.push m.lineEnd ++ d.space }
  | 'n' =>
    if d.isLast then (d, .done)
    else (if m.isQuiet then d else d.putLine m d.space, .line false (place + 1))
  | 'N' => if d.isLast then (d, .done) else (d, .line true (place + 1))
  | 'p' => on (d.putLine m d.space)
  | 'P' => on (d.put ((firstLine d.space).1.push m.lineEnd))
  | 'x' => on { d with space := d.hold, hold := d.space }
  | 'z' => on { d with space := "" }
  | _ => on d

/-- The place behind a label, or behind the last command. -/
def placeOf (script : Array Command) (name : String) : Nat :=
  if name = "" then script.size
  else (script.findIdx? fun c => match c.deed with
    | .label other => other = name
    | _ => false).getD script.size

/-- Does what a command says that is meant for the line. -/
def perform (m : Mode) (script : Array Command) (d : Desk) (place : Nat) (g : Guard) : Deed → Desk × Next
  | .block _ | .close | .label _ => (d, .go (place + 1))
  | .jump kind target =>
    let goes := kind = 'b' || (kind = 't') == d.isChanged
    let d := if kind = 'b' then d else { d with isChanged := false }
    (d, .go (if goes then placeOf script target else place + 1))
  | .substitute s =>
    match d.substitute m s with
    | some d => (d, .go (place + 1))
    | none => (d, .lost)
  | .exchange table =>
    ({ d with space := String.ofList (d.space.toList.map fun c => (table.lookup c).getD c) }, .go (place + 1))
  | .text 'i' s => (d.put s, .go (place + 1))
  | .text 'c' s =>
    let isInside := match d.spans.lookup place with
      | some (.opened _) => g.stop.isSome && !g.isInverted
      | _ => false
    (if isInside then d else d.put s, .deleted)
  | .text _ s => ({ d with later := d.later ++ [.text s] }, .go (place + 1))
  | .file 'r' path => ({ d with later := d.later ++ [.file path] }, .go (place + 1))
  | .file 'R' path =>
    match d.readers.lookup path with
    | some (l :: rest) =>
      ({ d with
        later := d.later ++ [.text (l.push '\n')]
        readers := d.readers.map fun e => if e.1 = path then (path, rest) else e }, .go (place + 1))
    | _ => (d, .go (place + 1))
  | .file 'W' path => (d.writeTo m path (firstLine d.space).1, .go (place + 1))
  | .file _ path => (d.writeTo m path d.space, .go (place + 1))
  | .quit isQuiet status => (d, .quit isQuiet status)
  | .list width => (d.put (listed (width.getD m.width) d.space), .go (place + 1))
  | .simple c => d.simple m place c

/-- Does one command. -/
def step (m : Mode) (script : Array Command) (d : Desk) (place : Nat) : Desk × Next :=
  match script[place]? with
  | none => (d, .done)
  | some c =>
    match d.isMeant place c.guard with
    | none => (d, .lost)
    | some (true, d) => d.perform m script place c.guard c.deed
    | some (false, d) =>
      match c.deed with
      | .block stop => (d, .go (stop + 1))
      | _ => (d, .go (place + 1))

end Desk

/-! ## Reading and writing -/

/-- Where what is written goes: to the output, or onto a text. -/
structure Outlet where
  call : Call
  mode : Mode
  script : Array Command
  /-- The files that are written, with their descriptors. -/
  targets : List (String × Nat)
  /-- Whether the output is kept for the file that it came from. -/
  isKept : Bool

/-- Writes what is to be written. -/
def flush (o : Outlet) (d : Desk) : Act Desk := do
  for (path, s) in d.writings.reverse do
    match o.targets.lookup path with
    | some descriptor =>
      let _ ← Act.write descriptor (Octets.array s)
    | none => pure ()
  if o.isKept then return { d with writings := [] }
  else
    o.call.putOr 4 d.output
    return { d with writings := [], output := "" }

/-- Lines without their ends, whether the last one lacks it. -/
def partsAt (lineEnd : Char) (s : String) : List String × String :=
  let parts := s.splitOn lineEnd.toString
  (parts.dropLast, parts.getLastD "")

/-- Reads until there is more than one line, or nothing is left. At most so many portions are read. -/
def refill (o : Outlet) : Nat → Desk → Act Desk
  | 0, d => return d
  | n + 1, d => do
    if 2 ≤ d.ready.length then return d
    else
      match d.source with
      | some (name, descriptor) =>
        match ← Act.read descriptor Act.portion with
        | .error e =>
          o.call.complain ("read error on " ++ name ++ ": " ++ e.text)
          let _ ← flush o d
          Act.quit (.exited 4)
        | .ok octets =>
          if octets.size = 0 then
            if descriptor ≠ 0 then Act.close descriptor
            let ready := if d.front.isEmpty then d.ready else d.ready ++ [(d.front, name)]
            refill o n { d with ready, front := "", source := none }
          else
            let (parts, rest) := partsAt o.mode.lineEnd (d.front ++ Octets.ofArray octets)
            refill o n { d with ready := d.ready ++ parts.map fun l => (l.push o.mode.lineEnd, name), front := rest }
      | none =>
        match d.sources with
        | [] => return d
        | name :: sources =>
          let d := { d with sources }
          if name = "-" then refill o n { d with source := some ("-", 0) }
          else
            match ← Act.open name .reading 0 3 true with
            | .ok descriptor => refill o n { d with source := some (name, descriptor) }
            | .error e =>
              o.call.complain ("can't read " ++ name ++ ": " ++ e.text)
              refill o n { d with status := 2 }

/-- Takes the next line. Answers whether there is one. -/
def takeLine (o : Outlet) (isAppended : Bool) (d : Desk) : Act (Bool × Desk) := do
  let d ← refill o Act.manyTries d
  match d.ready with
  | [] => return (false, d)
  | (l, name) :: ready =>
    let isEnded := l.toList.getLast? = some o.mode.lineEnd
    let line := if isEnded then (l.dropEnd 1).toString else l
    let d := { d with
      ready, isEnded, name, number := d.number + 1
      space := if isAppended then d.space.push o.mode.lineEnd ++ line else line }
    return (true, ← refill o Act.manyTries d)

/-- Writes what was put off. -/
def writeLater (o : Outlet) : List Later → Desk → Act Desk
  | [], d => return d
  | .text s :: rest, d => writeLater o rest (d.put s)
  | .file path :: rest, d => do
    let text ← if path = "/dev/stdin" then
        return (← writeLater o rest (d.put (((← Act.readAll 0).map Octets.ofArray).toOption.getD "")))
      else Act.readFile path
    writeLater o rest (d.put (text.toOption.getD ""))

/-- How a cycle ended. -/
inductive CycleEnd where
  | over
  | again
  | quit (status : Nat)
  deriving DecidableEq

/-- Does what a cycle does in the end. -/
def endCycle (o : Outlet) (prints : Bool) (d : Desk) : Act Desk := do
  let d := if prints && !o.mode.isQuiet then d.putLine o.mode d.space else d
  let d ← writeLater o d.later { d with later := [] }
  if 4096 < d.output.length || !d.writings.isEmpty then flush o d else return d

/-- Runs commands from a place on, at most so many. -/
def runFrom (o : Outlet) : Nat → Nat → Desk → Act (CycleEnd × Desk)
  | 0, _, d => return (.over, d)
  | n + 1, place, d => do
    match d.step o.mode o.script place with
    | (d, .go place) => runFrom o n place d
    | (d, .done) => return (.over, ← endCycle o true d)
    | (d, .deleted) => return (.over, ← endCycle o false d)
    | (d, .again) => return (.again, ← endCycle o false d)
    | (d, .quit isQuiet status) =>
      let d ← if isQuiet then pure d else endCycle o true d
      return (.quit status, d)
    | (d, .lost) =>
      let _ ← flush o d
      o.call.complain "-e expression #1, char 0: no previous regular expression"
      return (.quit 1, d)
    | (d, .line isAppended place) =>
      let d ← writeLater o d.later { d with later := [] }
      match ← takeLine o isAppended d with
      | (true, d) => runFrom o n place d
      | (false, d) => return (.over, d)

/-- Runs cycles until nothing is left, at most so many. Answers the status if the script quits. -/
def cycles (o : Outlet) : Nat → Bool → Desk → Act (Option Nat × Desk)
  | 0, _, d => return (none, d)
  | n + 1, keepsLine, d => do
    let next ← if keepsLine then pure (true, d) else takeLine o false { d with isChanged := false }
    match next with
    | (false, d) => return (none, d)
    | (true, d) =>
      match ← runFrom o Act.manyTries 0 d with
      | (.over, d) => cycles o n false d
      | (.again, d) => cycles o n true d
      | (.quit status, d) => return (some status, d)

/-- A desk with nothing on it. -/
def Desk.bare (sources : List String) : Desk :=
  ⟨"", "", true, 0, false, [], [], none, "", false, [], "-", [], "", none, sources, [], 0⟩

/-- Edits a file in its place. The old one is kept under a name with an ending, if there is one. -/
def editFile (o : Outlet) (ending : String) (d : Desk) (path : String) : Act (Option Nat × Desk) := do
  let isFile ← Act.files fun t base => match t.find base path true with
    | .ok n => some (t.holds n Content.isFile, t.mode n)
    | .error _ => none
  match isFile with
  | none =>
    o.call.complain ("can't read " ++ path ++ ": " ++ IoError.text .notFound)
    return (none, { d with status := 2 })
  | some (false, _) =>
    o.call.complain ("couldn't edit " ++ path ++ ": not a regular file")
    return (none, { d with status := 4 })
  | some (true, mode) =>
    let start := { d with number := 0, spans := [], sources := [path], output := "", owesEnd := false, ready := [] }
    let (quit, d) ← cycles o Act.manyTries false start
    -- Whatever is left of the file stays as it is.
    let rest := String.join (d.ready.map Prod.fst) ++ d.front
    let rest ← match d.source with
      | some (_, descriptor) => do pure (rest ++ ((← Act.readAll descriptor).map Octets.ofArray).toOption.getD "")
      | none => pure rest
    let d ← flush o d
    let backup := if ending.toList.contains '*' then ending.replace "*" path else path ++ ending
    if ending.isEmpty then
      let _ ← Act.edit fun t now base => t.removeFile now base path
    else
      let _ ← Act.edit fun t now base => t.rename now base path backup
    match ← Act.open path .creating mode 3 true with
    | .ok descriptor =>
      let _ ← Act.write descriptor (Octets.array (d.output ++ rest))
      Act.close descriptor
      let _ ← Act.edit fun t _ base => (t.find base path true).map fun n => t.alter n fun i => { i with mode }
    | .error _ => pure ()
    return (quit, { d with output := "", source := none, front := "", ready := [] })

/-- Works through sources that are texts of their own. -/
def eachSource (o : Outlet) (ending : Option String) : List String → Desk → Act (Option Nat × Desk)
  | [], d => return (none, d)
  | path :: rest, d => do
    let (quit, d) ← match ending with
      | some ending => editFile o ending d path
      | none => cycles o Act.manyTries false { d with sources := [path], number := 0, spans := [] }
    match quit with
    | some status => return (some status, d)
    | none => eachSource o ending rest d

/-- The part of a script that a place is in, and how far in it the place is. -/
def placeIn : List Nat → Nat → Nat → Nat × Nat
  | [], part, place => (part, place)
  | length :: rest, part, place =>
    if place ≤ length || rest.isEmpty then (part, place) else placeIn rest (part + 1) (place - length - 1)

/-- The options of `sed`. -/
def table : OptionTable :=
  ⟨"nErsuzDPS", "efl", "i", [("quiet", 'n'), ("silent", 'n'), ("expression", 'e'), ("file", 'f'), ("in-place", 'i'),
    ("line-length", 'l'), ("posix", 'P'), ("regexp-extended", 'E'), ("separate", 's'), ("sandbox", 'S'),
    ("unbuffered", 'u'), ("null-data", 'z'), ("zero-terminated", 'z'), ("debug", 'D')], false⟩

/-- Tells how `sed` is called. -/
def usage (c : Call) : String :=
  "Usage: " ++ c.name ++ " [OPTION]... \x7bscript-only-if-no-other-script\x7d [input-file]...\n"

/-- The parts of a script that options tell. -/
def partsOf (c : Call) : List (Char × Option String) → Act (List String)
  | [] => return []
  | ('e', some text) :: rest => do
    return text :: (← partsOf c rest)
  | ('f', some path) :: rest => do
    match ← Program.contents path with
    | .ok text => return Program.bare text :: (← partsOf c rest)
    | .error e =>
      c.complain ("couldn't open file " ++ path ++ ": " ++ e.error.text)
      Act.quit (.exited 4)
  | _ :: rest => partsOf c rest

/-- The files that a script writes, in order. -/
def targetsOf (script : Array Command) : List String :=
  (script.toList.filterMap fun c => match c.deed with
    | .file 'w' path | .file 'W' path => some path
    | .substitute s => s.target
    | _ => none).eraseDups.filter (· ≠ "/dev/stdout")

/-- Runs a script that was read. -/
def edit (c : Call) (m : Mode) (script : Array Command) (ending : Option String) (operands : List String) : Act Nat := do
  let missing := script.toList.findSome? fun command => match command.deed with
    | .jump _ name =>
      if name = "" || (script.any fun other => match other.deed with
        | .label l => l = name
        | _ => false) then none
      else some name
    | _ => none
  match missing with
  | some name => do
    Call.tell (c.name ++ ": can't find label for jump to `" ++ name ++ "'\n")
    return 4
  | none =>
    let mut targets : List (String × Nat) := []
    for path in targetsOf script do
      if path = "/dev/stderr" then targets := (path, 2) :: targets
      else
        match ← Act.open path .writing 0o666 3 true with
        | .ok descriptor => targets := (path, descriptor) :: targets
        | .error e =>
          c.complain ("couldn't open file " ++ path ++ ": " ++ e.text)
          Act.quit (.exited 4)
    let mut readers : List (String × List String) := []
    for command in script do
      match command.deed with
      | .file 'R' path =>
        let text ← Act.readFile path
        readers := (path, (Program.lines (text.toOption.getD "")).map Program.bare) :: readers
      | _ => pure ()
    let o : Outlet := ⟨c, m, script, targets, ending.isSome⟩
    let d : Desk := { Desk.bare [] with readers }
    let (quit, d) ← if m.isSeparate && !operands.isEmpty then eachSource o ending operands d
      else cycles o Act.manyTries false { d with sources := Program.sources operands }
    let d ← flush { o with isKept := false } d
    return quit.getD d.status

/-- `sed`: edits lines by a script. -/
def sed (c : Call) : Act Nat := do
  match Arguments.read table c.arguments with
  | .error .help => do
    c.put (usage c)
    return 0
  | .error .version => do
    c.put "sed (GNU sed) 4.9\n"
    return 0
  | .error e => do
    c.complain e.text
    Call.tell (usage c)
    return 1
  | .ok a =>
    let given ← partsOf c a.options
    let isGiven := a.has 'e' || a.has 'f'
    let (parts, operands) := if isGiven then (given, a.operands) else (a.operands.take 1, a.operands.drop 1)
    if parts.isEmpty then
      Call.tell (usage c)
      return 1
    else
      let isExtended := a.has 'E' || a.has 'r'
      let ending := if a.has 'i' then some ((a.value? 'i').getD "") else none
      let text := "\n".intercalate parts
      match read isExtended text with
      | .error flaw =>
        let (part, place) := match flaw.left with
          | some left => placeIn (parts.map String.length) 1 (text.length - left)
          | none => (parts.length, 0)
        c.refuse 1 ("-e expression #" ++ Text.Decimal.text part ++ ", char " ++ Text.Decimal.text place ++ ": " ++ flaw.text)
      | .ok script =>
        let isSilent := a.has 'n' || (text.startsWith "#n\n" || text = "#n")
        let m : Mode := ⟨isSilent, isExtended, a.has 's' || a.has 'i', if a.has 'z' then '\x00' else '\n',
          ((a.value? 'l').bind Program.size?).getD 70⟩
        edit c m script ending operands

/-- To write nothing changes nothing. -/
theorem put_empty (d : Desk) : d.put "" = d := by simp [Desk.put]

end RunLedger.Sandbox.Editor
