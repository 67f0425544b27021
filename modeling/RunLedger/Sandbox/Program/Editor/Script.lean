import RunLedger.Sandbox.Expression

/-!
# Scripts of the stream editor

A script is a list of commands, each with the lines that it is for: a line by its number, the last one, lines in which an
expression is found, every so manieth line, or all from one to another. Blocks of commands are passed over as a whole.

* `read_empty`: the empty script has no commands.
-/

namespace RunLedger.Sandbox.Editor

/-- An expression and how it is looked for. -/
structure Search where
  expression : Expression
  isFolded : Bool
  isLined : Bool
  deriving Repr

/-- A line or lines. -/
inductive Address where
  | line (n : Nat)
  | last
  /-- The lines in which something is found; without an expression, the one that was looked for last. -/
  | found (search? : Option Search)
  | every (first step : Nat)

/-- Where a range of lines ends. -/
inductive Until where
  | address (a : Address)
  /-- So many lines on. -/
  | more (n : Nat)
  /-- At the next line whose number is a multiple. -/
  | multiple (n : Nat)

/-- The lines that a command is for. -/
structure Guard where
  start : Option Address
  stop : Option Until
  /-- Whether the range is open before the first line. -/
  fromOutset : Bool
  isInverted : Bool

/-- A part of what takes the place of something found. -/
inductive Piece where
  | text (s : String)
  | group (n : Nat)
  /-- What follows is written in other letters. -/
  | letters (c : Char)

/-- What is put in the place of what is found. -/
structure Substitution where
  /-- What is looked for; the same as last time if nothing is. -/
  search? : Option Search
  pieces : List Piece
  isGlobal : Bool
  number : Nat
  prints : Bool
  target : Option String

/-- What a command does. -/
inductive Deed where
  /-- Starts a block, which ends at a place. -/
  | block (stop : Nat)
  | close
  | label (name : String)
  /-- Goes on at a label, or at the end: always, after a substitution, or without one. -/
  | jump (kind : Char) (target : String)
  | substitute (s : Substitution)
  | exchange (table : List (Char × Char))
  /-- Writes a text: behind the line, in front of it, or in its place. -/
  | text (kind : Char) (s : String)
  /-- Reads or writes a file. -/
  | file (kind : Char) (path : String)
  | quit (isQuiet : Bool) (status : Nat)
  | list (width : Option Nat)
  | simple (c : Char)

/-- A command of a script. -/
structure Command where
  guard : Guard
  deed : Deed

/-- A script up to a place: what follows, the commands so far, the latest first, and the blocks that are open. -/
structure Reading where
  rest : List Char
  done : List Command
  opened : List Nat

/-- What is wrong with a script, and how much of it is left there; without a place if there is none. -/
structure Flaw where
  left : Option Nat
  text : String

/-- A flaw in front of what is left. -/
def flawed {α : Type} (cs : List Char) (text : String) : Except Flaw α := .error ⟨some cs.length, text⟩

/-- What is behind blanks. -/
def behindBlanks (cs : List Char) : List Char := cs.dropWhile fun c => c = ' ' || c = '\t'

/-- What is behind white space. -/
def behindSpace (cs : List Char) : List Char := cs.dropWhile Char.isWhitespace

/-- Digits in front, if there are some. -/
def digits? (cs : List Char) : Option Nat × List Char :=
  let ds := cs.takeWhile Char.isDigit
  (if ds.isEmpty then none else some (Text.Decimal.value ds), cs.drop ds.length)

/-- Where in an expression a character stands. -/
inductive Standing where
  | outside
  /-- At the start of a list of characters, or behind its mark. -/
  | atStart
  | behindMark
  | inside
  /-- In the name of a class between two signs, at the first of them or behind it. -/
  | named (sign : Char) (isFirst : Bool)
  deriving DecidableEq

/-- Where the character behind another one stands. -/
def Standing.after (place : Standing) (c : Char) (next : Option Char) : Standing :=
  match place with
  | .outside => if c = '[' then .atStart else .outside
  | .named sign true => .named sign false
  | .named sign false => if c = sign && next = some ']' then .behindMark else place
  | .atStart | .behindMark | .inside =>
    if c = '^' && place = .atStart then .behindMark
    else if c = ']' && place = .inside then .outside
    else
      match next with
      | some sign => if c = '[' && [':', '.', '='].contains sign then .named sign true else .inside
      | none => .inside

/-- Reads an expression up to a delimiter, given what is in front of it, backwards. In a list of characters the delimiter
is one of them. -/
def expressionUpTo? (delimiter : Char) (place : Standing) (front : List Char) : List Char → Option (List Char × List Char)
  | [] => none
  | c :: rest =>
    if c = '\\' && (place = .outside || rest.head? = some 'n') then
      match rest with
      | [] => none
      | d :: more =>
        if place ≠ .outside then expressionUpTo? delimiter .inside ('\n' :: front) more
        else if d = delimiter || d = '\n' then expressionUpTo? delimiter place (d :: front) more
        else if d = 'n' then expressionUpTo? delimiter place ('\n' :: front) more
        else expressionUpTo? delimiter place (d :: '\\' :: front) more
    else if place = .outside && c = delimiter then some (front.reverse, rest)
    else expressionUpTo? delimiter (place.after c rest.head?) (c :: front) rest

/-- Reads a text up to a delimiter, given what is in front of it, backwards. -/
def upTo? (delimiter : Char) (front : List Char) : List Char → Option (List Char × List Char)
  | [] => none
  | '\\' :: c :: rest =>
    if c = delimiter && c ≠ '&' then upTo? delimiter (c :: front) rest
    else upTo? delimiter (c :: '\\' :: front) rest
  | c :: rest =>
    if c = delimiter then some (front.reverse, rest)
    else if c = '\n' then none
    else upTo? delimiter (c :: front) rest

/-- The octet that a number behind a letter stands for, and what follows it. -/
def numbered? (letter : Char) (cs : List Char) : Option (Char × List Char) :=
  let read := fun (base count : Nat) =>
    let value := fun (c : Char) =>
      if c.isDigit then c.toNat - 48 else if 'a' ≤ c.toLower && c.toLower ≤ 'f' then c.toLower.toNat - 87 else 99
    let ds := (cs.take count).takeWhile fun c => value c < base
    if ds.isEmpty then none
    else some (Char.ofNat (ds.foldl (fun n d => n * base + value d) 0 % 256), cs.drop ds.length)
  match letter with
  | 'x' => read 16 2
  | 'd' => read 10 3
  | 'o' => read 8 3
  | _ => none

/-- A text with the octets in the place of the numbers that stand for them. -/
def withOctets : Nat → List Char → List Char
  | 0, cs => cs
  | _, [] => []
  | n + 1, '\\' :: c :: rest =>
    match numbered? c rest with
    | some (octet, rest) => octet :: withOctets n rest
    | none => '\\' :: c :: withOctets n rest
  | n + 1, c :: rest => c :: withOctets n rest

/-- Reads an expression that was written as a text. -/
def searchOf (isExtended : Bool) (isFolded isLined : Bool) (left : List Char) (text : List Char) :
    Except Flaw (Option Search) :=
  if text.isEmpty then .ok none
  else
    match Expression.read ⟨isExtended, false, true⟩ (String.ofList (withOctets (text.length + 1) text)) with
    | .ok expression => .ok (some ⟨expression, isFolded, isLined⟩)
    | .error e => flawed left e

/-- Reads an address. -/
def address? (isExtended : Bool) (cs : List Char) : Except Flaw (Option Address × List Char) := do
  let found := fun (delimiter : Char) (inside : List Char) =>
    match expressionUpTo? delimiter .outside [] inside with
    | none => flawed [] "unterminated address regex"
    | some (text, rest) =>
      let flags := rest.takeWhile fun c => c = 'I' || c = 'M'
      let rest := rest.drop flags.length
      (searchOf isExtended (flags.contains 'I') (flags.contains 'M') rest text).map fun s => (some (Address.found s), rest)
  match cs with
  | '$' :: rest => return (some .last, rest)
  | '/' :: rest => found '/' rest
  | '\\' :: delimiter :: rest => found delimiter rest
  | cs =>
    match digits? cs with
    | (none, _) => return (none, cs)
    | (some n, rest) =>
      match behindBlanks rest with
      | '~' :: more =>
        let (step, rest) := digits? (behindBlanks more)
        return (some (.every n (step.getD 0)), rest)
      | _ => return (some (.line n), rest)

/-- Reads where a range ends. -/
def until? (isExtended : Bool) (cs : List Char) : Except Flaw (Option Until × List Char) := do
  match cs with
  | '+' :: rest =>
    let (n, rest) := digits? rest
    return (some (.more (n.getD 0)), rest)
  | '~' :: rest =>
    let (n, rest) := digits? rest
    return (some (.multiple (n.getD 0)), rest)
  | cs =>
    let (a, rest) ← address? isExtended cs
    return (a.map Until.address, rest)

/-- Reads the lines that a command is for. -/
def guard (isExtended : Bool) (cs : List Char) : Except Flaw (Guard × List Char) := do
  match cs with
  | '+' :: rest | '~' :: rest => flawed (rest.dropWhile Char.isDigit) "invalid usage of +N or ~N as first address"
  | _ => pure ()
  let (start, rest) ← address? isExtended cs
  let (stop, rest) ← match start, behindSpace rest with
    | some _, ',' :: more =>
      let more := behindSpace more
      match ← until? isExtended more with
      | (none, rest) => flawed (rest.drop 1) "unexpected `,'"
      | r => pure r
    | _, _ => pure (none, rest)
  let rest := behindSpace rest
  let fromOutset := match start with
    | some (.line 0) => true
    | _ => false
  let isFound := match stop with
    | some (.address (.found _)) => true
    | _ => false
  if fromOutset && !isFound then flawed (rest.drop 1) "invalid usage of line address 0"
  else
    match rest with
    | '!' :: rest =>
      let rest := behindSpace rest
      if rest.head? = some '!' then flawed (rest.drop 1) "multiple `!'s"
      else return (⟨start, stop, fromOutset, true⟩, rest)
    | rest => return (⟨start, stop, fromOutset, false⟩, rest)

/-- Reads the end of a command. -/
def ended (cs : List Char) : Except Flaw (List Char) :=
  match behindBlanks cs with
  | [] => .ok []
  | c :: rest =>
    if c = ';' || c = '\n' then .ok rest
    else if c = '}' || c = '#' then .ok (c :: rest)
    else if c = '\r' then ended' rest
    else flawed rest "extra characters after command"
where
  /-- Reads the end of a command behind a carriage return. -/
  ended' (cs : List Char) : Except Flaw (List Char) :=
    match cs with
    | [] => .ok []
    | c :: rest => if c = '\n' || c = ';' then .ok rest else flawed rest "extra characters after command"

/-- The parts of what takes the place of something. -/
def piecesOf : Nat → List Char → List Piece
  | 0, _ => []
  | _, [] => []
  | n + 1, '\\' :: c :: rest =>
    if c.isDigit then .group (c.toNat - 48) :: piecesOf n rest
    else if ['L', 'U', 'E', 'l', 'u'].contains c then .letters c :: piecesOf n rest
    else
      match numbered? c rest with
      | some (octet, rest) => .text octet.toString :: piecesOf n rest
      | none => .text ((Expression.controls.lookup c).getD c).toString :: piecesOf n rest
  | n + 1, '&' :: rest => .group 0 :: piecesOf n rest
  | n + 1, c :: rest => .text c.toString :: piecesOf n rest

/-- Reads the flags of a substitution. -/
def flagsOf (s : Substitution) (isFolded isLined isNumbered : Bool) : List Char →
    Except Flaw (Substitution × Bool × Bool × List Char)
  | [] => .ok (s, isFolded, isLined, [])
  | c :: rest =>
    match c with
    | 'g' =>
      if s.isGlobal then flawed rest "multiple `g' options to `s' command"
      else flagsOf { s with isGlobal := true } isFolded isLined isNumbered rest
    | 'p' =>
      if s.prints then flawed rest "multiple `p' options to `s' command"
      else flagsOf { s with prints := true } isFolded isLined isNumbered rest
    | 'i' | 'I' => flagsOf s true isLined isNumbered rest
    | 'm' | 'M' => flagsOf s isFolded true isNumbered rest
    | 'e' => flagsOf s isFolded isLined isNumbered rest
    | 'w' =>
      let path := (behindBlanks rest).takeWhile (· ≠ '\n')
      if path.isEmpty then flawed rest "missing filename in r/R/w/W commands"
      else
        .ok ({ s with target := some (String.ofList path) }, isFolded, isLined,
          ((behindBlanks rest).drop path.length).drop 1)
    | c =>
      if c.isDigit then
        if isNumbered && ('0' ≤ c && c ≤ '9') && s.number % 10 = 0 && s.number = 0 then
          flawed rest "multiple number options to `s' command"
        else
          let number := s.number * 10 + (c.toNat - 48)
          if number = 0 && !(rest.head?.any Char.isDigit) then
            flawed rest "number option to `s' command may not be zero"
          else flagsOf { s with number } isFolded isLined true rest
      else if c = '}' || c = '#' then .ok (s, isFolded, isLined, c :: rest)
      else if c = ';' || c = '\n' then .ok (s, isFolded, isLined, rest)
      else if c = ' ' || c = '\t' || c = '\r' then flagsOf s isFolded isLined isNumbered rest
      else flawed rest "unknown option to `s'"

/-- Reads a substitution behind its letter. -/
def substitution (isExtended : Bool) (cs : List Char) : Except Flaw (Deed × List Char) := do
  let unterminated := fun {α : Type} => (flawed [] "unterminated `s' command" : Except Flaw α)
  match cs with
  | [] => unterminated
  | delimiter :: rest =>
    match expressionUpTo? delimiter .outside [] rest with
    | none => unterminated
    | some (text, rest) =>
      match replacement delimiter [] rest with
      | none => flawed ((rest.dropWhile (· ≠ '\n')).drop 0) "unterminated `s' command"
      | some (written, rest) =>
        let pieces := piecesOf (written.length + 1) written
        let (s, isFolded, isLined, rest) ← flagsOf ⟨none, pieces, false, 0, false, none⟩ false false false rest
        let search? ← searchOf isExtended isFolded isLined rest text
        let most := pieces.foldl (fun n p => match p with
          | .group m => max n m
          | _ => n) 0
        match search? with
        | some search =>
          if search.expression.groupCount < most then
            flawed rest ("invalid reference \\" ++ Text.Decimal.text most ++ " on `s' command's RHS")
          else return (.substitute { s with search? }, rest)
        | none => return (.substitute { s with search? }, rest)
where
  /-- Reads what takes the place, up to a delimiter. -/
  replacement (delimiter : Char) (front : List Char) : List Char → Option (List Char × List Char)
    | [] => none
    | '\\' :: c :: rest =>
      if c = delimiter && c ≠ '&' then replacement delimiter (c :: front) rest
      else replacement delimiter (c :: '\\' :: front) rest
    | c :: rest =>
      if c = delimiter then some (front.reverse, rest)
      else if c = '\n' then none
      else replacement delimiter (c :: front) rest

/-- The characters that are written in a list of characters to be exchanged. -/
def exchanged : List Char → List Char
  | '\\' :: c :: rest => (if c = 'n' then '\n' else (Expression.controls.lookup c).getD c) :: exchanged rest
  | c :: rest => c :: exchanged rest
  | [] => []

/-- Reads an exchange of characters behind its letter. -/
def exchange (cs : List Char) : Except Flaw (Deed × List Char) := do
  match cs with
  | [] => flawed [] "unterminated `y' command"
  | delimiter :: rest =>
    match upTo? delimiter [] rest with
    | none => flawed [] "unterminated `y' command"
    | some (source, rest) =>
      match upTo? delimiter [] rest with
      | none => flawed [] "unterminated `y' command"
      | some (target, rest) =>
        let read := fun (cs : List Char) => exchanged (withOctets (cs.length + 1) cs)
        let (a, b) := (read source, read target)
        if a.length ≠ b.length then flawed rest "strings for `y' command are different lengths"
        else return (.exchange (a.zip b), ← ended rest)

/-- Reads a text up to the end of a line that is not behind a backslash. -/
def textLines (front : List Char) : List Char → List Char × List Char
  | [] => (front.reverse, [])
  | ['\\'] => (front.reverse, [])
  | '\\' :: c :: rest =>
    match if c = '\n' then some c else Expression.controls.lookup c with
    | some d => textLines (d :: front) rest
    | none => textLines (c :: front) rest
  | '\n' :: rest => (front.reverse, rest)
  | c :: rest => textLines (c :: front) rest

/-- Reads the text of a command behind its letter. -/
def textOf (kind : Char) (cs : List Char) : Except Flaw (Deed × List Char) := do
  let cs := behindBlanks cs
  match cs with
  | [] => flawed cs "expected \\ after `a', `c' or `i'"
  | '\\' :: rest =>
    let behind := behindBlanks rest
    let inside := match behind with
      | '\n' :: rest => rest
      | [] => []
      | _ => rest
    let (text, rest) := textLines [] inside
    return (.text kind (String.ofList text ++ (if behind.isEmpty then "" else "\n")), rest)
  | cs =>
    let (text, rest) := textLines [] cs
    return (.text kind (String.ofList text ++ "\n"), rest)

/-- Reads a label behind a letter. -/
def labelOf (cs : List Char) : String × List Char :=
  let cs := behindBlanks cs
  let name := cs.takeWhile fun c => !c.isWhitespace && c ≠ ';' && c ≠ '}'
  (String.ofList name, cs.drop name.length)

/-- Reads a deed by its letter, which is not that of a block. -/
def deed (isExtended : Bool) (c : Char) (cs : List Char) : Except Flaw (Deed × List Char) := do
  if c = 's' then substitution isExtended cs
  else if c = 'y' then exchange cs
  else if c = 'a' || c = 'i' || c = 'c' then textOf c cs
  else if c = 'b' || c = 't' || c = 'T' then
    let (name, rest) := labelOf cs
    return (.jump c name, ← ended rest)
  else if ['r', 'R', 'w', 'W'].contains c then
    let path := (behindBlanks cs).takeWhile (· ≠ '\n')
    if path.isEmpty then flawed cs "missing filename in r/R/w/W commands"
    else return (.file c (String.ofList path), ((behindBlanks cs).drop path.length).drop 1)
  else if c = 'q' || c = 'Q' then
    let (n, rest) := digits? (behindBlanks cs)
    return (.quit (c = 'Q') (n.getD 0), ← ended rest)
  else if c = 'l' || c = 'L' then
    let (n, rest) := digits? (behindBlanks cs)
    return (.list n, ← ended rest)
  else if c = 'v' then return (.simple 'v', cs.dropWhile fun c => c ≠ '\n' && c ≠ ';')
  else if ['=', 'd', 'D', 'e', 'F', 'g', 'G', 'h', 'H', 'n', 'N', 'p', 'P', 'x', 'z'].contains c then
    return (.simple c, ← ended cs)
  else flawed cs ("unknown command: `" ++ c.toString ++ "'")

/-- Reads commands, as many as there is fuel for. -/
def commands (isExtended : Bool) : Nat → Reading → Except Flaw Reading
  | 0, r => .ok r
  | n + 1, r => do
    match r.rest.dropWhile fun c => c.isWhitespace || c = ';' with
    | [] => if r.opened.isEmpty then return { r with rest := [] } else .error ⟨none, "unmatched `\x7b'"⟩
    | '#' :: rest => commands isExtended n { r with rest := rest.dropWhile (· ≠ '\n') }
    | rest =>
      let (g, rest) ← guard isExtended rest
      let add := fun (deed : Deed) (rest : List Char) (opened : List Nat) =>
        commands isExtended n ⟨rest, ⟨g, deed⟩ :: r.done, opened⟩
      match rest with
      | [] => flawed [] "missing command"
      | '#' :: rest => flawed rest "comments don't accept any addresses"
      | '\x7b' :: rest => add (.block 0) rest (r.done.length :: r.opened)
      | '\x7d' :: rest =>
        match r.opened with
        | [] => flawed rest "unexpected `\x7d'"
        | start :: opened =>
          if g.start.isSome then flawed rest "\x7d doesn't want any addresses"
          else
            let place := r.done.length
            let done := r.done.reverse.toArray.modify start fun c => { c with deed := .block place }
            commands isExtended n ⟨← ended rest, ⟨g, .close⟩ :: done.toList.reverse, opened⟩
      | ':' :: rest =>
        let (name, after) := labelOf rest
        if g.start.isSome then flawed rest ": doesn't want any addresses"
        else if name.isEmpty then flawed rest "\":\" lacks a label"
        else add (.label name) (← ended after) r.opened
      | c :: rest =>
        let (deed, after) ← deed isExtended c rest
        if g.stop.isSome && ['q', 'Q'].contains c then flawed rest "command only uses one address"
        else add deed after r.opened

/-- Reads a script. -/
def read (isExtended : Bool) (script : String) : Except Flaw (Array Command) :=
  (commands isExtended (script.length + 2) ⟨script.toList, [], []⟩).map fun r => r.done.reverse.toArray

/-- The empty script has no commands. -/
theorem read_empty : (read false "").toOption.map Array.size = some 0 := by rfl

end RunLedger.Sandbox.Editor
