import RunLedger.Sandbox.Format
import RunLedger.Sandbox.Program.Files
import RunLedger.Sandbox.Program.Search.Query
import RunLedger.Sandbox.Program.Start

/-!
# Searches

`find` goes through directories and asks a query of everything that is there.

* `accepts_none`: the empty pattern accepts the empty text.
-/

namespace RunLedger.Sandbox.Search

/-- What is known of a search while it goes on. -/
structure Walk where
  status : Nat
  isOver : Bool
  /-- Whether what is in the directory is left out. -/
  isPruned : Bool
  /-- The paths gathered for commands, the latest first. -/
  gathered : List (Nat × List String)

/-- Something that was found: its path, how deep it is, and what it is. -/
structure Finding where
  path : String
  /-- The operand that the path begins with. -/
  start : String
  depth : Nat
  inode : Nat

/-- What does not change during a search. -/
structure Outing where
  call : Call
  query : Query
  range : Range
  /-- Whether links are followed, and whether they are only if they are operands. -/
  follows : Bool
  followsOperands : Bool
  started : Int

/-! ## Tests -/

/-- Whether a pattern accepts a text. -/
def accepts (isFolded : Bool) (pattern text : String) : Bool :=
  let fold := fun (s : String) => if isFolded then s.toLower else s
  Pattern.accepts (Pattern.ofMarked ((fold pattern).toList.map fun c => (c, false))) (fold text).toList

/-- The last name of a path, as a search shows it. -/
def nameOf (path : String) : String := Program.lastName path

/-- Whether a test holds. -/
def holds (o : Outing) (t : FileTree) (base : Nat) (f : Finding) : Query → Bool
  | .always holds => holds
  | .name isFolded pattern => accepts isFolded pattern (nameOf f.path)
  | .path isFolded pattern => accepts isFolded pattern f.path
  | .target isFolded pattern =>
    match t.content? f.inode with
    | some (.link target) => accepts isFolded pattern target
    | _ => false
  | .expression isFolded e =>
    let whole := f.path.toList.toArray
    match e.find? isFolded false whole 0 with
    | some m => m.start = 0 && m.stop = whole.size
    | none => false
  | .kind follows letters =>
    let n := if follows then (t.find base f.path true).toOption.getD f.inode else f.inode
    let letter := Program.Description.letter (t.content? n)
    letters.contains (if letter = '-' then 'f' else letter)
  | .size unit m => m.admits ((Program.Description.size t f.inode + unit - 1) / unit)
  | .empty =>
    match t.content? f.inode with
    | some (.file octets) => octets.size = 0
    | some (.directory _ entries) => entries.size = 0
    | _ => false
  | .newer path =>
    match t.find base path true with
    | .ok n => t.modified n < t.modified f.inode
    | .error _ => false
  | .same path => (t.find base path o.follows).toOption = some f.inode
  | .exactly bits => t.mode f.inode = bits
  | .allOf bits => t.mode f.inode &&& bits = bits
  | .anyOf bits => bits = 0 || t.mode f.inode &&& bits ≠ 0
  | .links m => m.admits (t.names f.inode)
  | .number m => m.admits (Program.Description.number f.inode)
  | .age seconds isWhole m =>
    let age := (o.started - t.modified f.inode).toNat
    let unit := seconds * 1000000000
    if isWhole then m.admits (age / unit)
    else
      match m.comparison with
      | .less => age < m.number * unit
      | .more => m.number * unit < age
      | .equal => age / unit + 1 = m.number
  | .runnable => t.holds f.inode Content.isDirectory || t.mode f.inode &&& 0o111 ≠ 0
  | _ => true

/-! ## Actions -/

/-- The path of a finding below the operand. -/
def below (f : Finding) : String :=
  let rest := (f.path.drop f.start.length).toString
  String.ofList (rest.toList.dropWhile (· = '/'))

/-- The part of a path in front of its last name. -/
def headOf (f : Finding) : String :=
  if f.path.toList.contains '/' then
    let kept := (FileTree.withoutSlashes f.path).toList
    let front := (kept.reverse.dropWhile (· ≠ '/')).reverse
    if front = ['/'] then "" else String.ofList (front.take (front.length - 1))
  else "."

/-- The letter of a kind in a format. -/
def kindLetter (t : FileTree) (n : Nat) : String :=
  let letter := Program.Description.letter (t.content? n)
  if letter = '-' then "f" else letter.toString

/-- A moment in a format: the whole of it, the seconds since the epoch, or a part. -/
def momentText (time : Int) : Char → String
  | '@' => Date.text time "%s.%N0".toList
  | '+' => Date.text time "%Y-%m-%d+%H:%M:%S.%N0".toList
  | 'S' => Date.text time "%S.%N0".toList
  | 'T' | 'X' => Date.text time "%H:%M:%S.%N0".toList
  | 'c' => Date.text time "%a %b %e %H:%M:%S.%N0 %Y".toList
  | c => Date.text time ['%', c]

/-- What a letter of a format stands for. -/
def field? (t : FileTree) (base : Nat) (f : Finding) (letter : Char) : Option String :=
  let n := f.inode
  let number := fun (n : Nat) => some (Text.Decimal.text n)
  match letter with
  | 'p' => some f.path
  | 'f' => some (nameOf f.path)
  | 'h' => some (headOf f)
  | 'P' => some (below f)
  | 'H' => some f.start
  | 's' => number (Program.Description.size t n)
  | 'd' => number f.depth
  | 'm' => some (Permission.octal (t.mode n))
  | 'M' => some (Program.Description.rights t n)
  | 'y' => some (kindLetter t n)
  | 'Y' =>
    match t.find base f.path true with
    | .ok n => some (kindLetter t n)
    | .error .tooManyLinks => some "L"
    | .error _ => some "N"
  | 'n' => number (t.names n)
  | 'i' => number (Program.Description.number n)
  | 'u' | 'g' => some "root"
  | 'U' | 'G' => some "0"
  | 'k' => number (Program.Description.blocks t n / 2)
  | 'b' => number (Program.Description.blocks t n)
  | 'l' =>
    match t.content? n with
    | some (.link target) => some target
    | _ => some ""
  | 't' | 'a' | 'c' => some (momentText (t.modified n) 'c')
  | _ => none

/-- A format filled in, at most so many characters of it. -/
def filled (t : FileTree) (base : Nat) (f : Finding) : Nat → List Char → String
  | 0, _ => ""
  | _, [] => ""
  | _ + 1, '\\' :: 'c' :: _ => ""
  | n + 1, '\\' :: cs =>
    match Format.escape ⟨true, false, false, false, false⟩ cs with
    | (.char c, rest) => c.toString ++ filled t base f n rest
    | (.text s, rest) => s ++ filled t base f n rest
    | (_, rest) => filled t base f n rest
  | n + 1, '%' :: '%' :: rest => "%" ++ filled t base f n rest
  | n + 1, '%' :: cs =>
    let flags := cs.takeWhile fun c => ['-', '0', '+', ' ', '#'].contains c
    let digits := (cs.drop flags.length).takeWhile Char.isDigit
    let width := Text.Decimal.value digits
    let pad := fun (s : String) => if flags.contains '-' then Program.left width s else Program.right width s
    match cs.drop (flags.length + digits.length) with
    | c :: d :: rest =>
      if c = 'T' || c = 'A' || c = 'C' then pad (momentText (t.modified f.inode) d) ++ filled t base f n rest
      else
        match field? t base f c with
        | some text => pad text ++ filled t base f n (d :: rest)
        | none => "%" ++ c.toString ++ filled t base f n (d :: rest)
    | [c] =>
      match field? t base f c with
      | some text => pad text
      | none => "%" ++ c.toString
    | [] => "%"
  | n + 1, c :: rest => c.toString ++ filled t base f n rest

/-- A finding with all that there is to know. -/
def described (t : FileTree) (now : Int) (f : Finding) : String :=
  let n := f.inode
  let number := fun (width n : Nat) => Program.right width (Text.Decimal.text n)
  let target := match t.content? n with
    | some (.link target) => " -> " ++ target
    | _ => ""
  number 9 (Program.Description.number n) ++ " " ++ number 6 (Program.Description.blocks t n / 2) ++ " " ++
    Program.Description.rights t n ++ " " ++ number 3 (t.names n) ++ " root     root     " ++
    number 8 (Program.Description.size t n) ++ " " ++ Program.Description.momentText now (t.modified n) ++ " " ++ f.path ++
    target ++ "\n"

/-- The directory of a path, and the path as it is written there. -/
def standing (path : String) : String × String :=
  let directory := Program.directoryName path
  let name := Program.lastName path
  (directory, if name = "/" then "/" else "./" ++ name)

/-- Runs a command, in a directory if asked. Answers whether it went well. -/
def runCommand (c : Call) (directory : Option String) (argv : List String) : Act Bool := do
  let child ← Act.spawn do
    match directory with
    | none => pure ()
    | some path =>
      match ← Act.files fun t base => t.find base path true with
      | .ok workdir => Act.alter fun p => { p with workdir }
      | .error _ => Act.quit (.exited 1)
    let e ← Act.launchNamed c.launch argv c.environment
    c.complain (Quoted.always (argv.headD "") ++ ": " ++ e.text)
    Act.quit (.exited 1)
  match ← Act.outcomeOf child with
  | .exited 0 => return true
  | _ => return false

/-- Removes a finding. -/
def remove (o : Outing) (f : Finding) : Act Bool := do
  if f.path = "." then return true
  else
    let isDirectory ← Act.files fun t _ => t.holds f.inode Content.isDirectory
    Program.attempt o.call "cannot delete" f.path fun t now base =>
      if isDirectory then t.removeDirectory now base f.path else t.removeFile now base f.path

/-- Asks a query of a finding. -/
def ask (o : Outing) (f : Finding) : Query → Walk → Act (Bool × Walk)
  | .not q, w => do
    let (answer, w) ← ask o f q w
    return (!answer, w)
  | .and a b, w => do
    let (answer, w) ← ask o f a w
    if answer && !w.isOver then ask o f b w else return (false, w)
  | .or a b, w => do
    let (answer, w) ← ask o f a w
    if answer || w.isOver then return (true, w) else ask o f b w
  | .both a b, w => do
    let (_, w) ← ask o f a w
    if w.isOver then return (true, w) else ask o f b w
  | .print ending, w => do
    o.call.put (f.path ++ ending)
    return (true, w)
  | .format text, w => do
    o.call.put (← Act.files fun t base => filled t base f (text.length + 1) text.toList)
    return (true, w)
  | .describe, w => do
    let now ← Act.look fun w => World.birth + Int.ofNat w.clock
    o.call.put (← Act.files fun t _ => described t now f)
    return (true, w)
  | .delete, w => do
    if ← remove o f then return (true, w) else return (false, { w with status := 1 })
  | .run isInside asks argv, w => do
    let (directory, path) := if isInside then standing f.path else ("", f.path)
    let isWanted ← if asks then
        Program.confirmed ("< " ++ argv.headD "" ++ " ... " ++ f.path ++ " > ? ")
      else pure true
    if isWanted then
      let argv := argv.map fun word => word.replace "\x7b\x7d" path
      return (← runCommand o.call (if isInside then some directory else none) argv, w)
    else return (false, w)
  | .gather number isInside argv, w => do
    if isInside then
      let (directory, path) := standing f.path
      let isFine ← runCommand o.call (some directory) (argv ++ [path])
      return (true, if isFine then w else { w with status := 1 })
    else
      let old := (w.gathered.lookup number).getD []
      return (true, { w with gathered := (number, f.path :: old) :: w.gathered.filter fun e => e.1 ≠ number })
  | .prune, w => return (true, { w with isPruned := true })
  | .quit, w => return (true, { w with isOver := true })
  | q, w => do return (← Act.files fun t base => holds o t base f q, w)

/-- Runs the commands that paths were gathered for. -/
def runGathered (o : Outing) : Query → Walk → Act Walk
  | .not q, w => runGathered o q w
  | .and a b, w | .or a b, w | .both a b, w => do runGathered o b (← runGathered o a w)
  | .gather number _ argv, w => do
    match w.gathered.lookup number with
    | some (path :: paths) =>
      if ← runCommand o.call none (argv ++ (path :: paths).reverse) then return w else return { w with status := 1 }
    | _ => return w
  | _, w => return w

/-! ## Going through directories -/

/-- The path of a name in a directory. -/
def within (directory name : String) : String :=
  if directory.endsWith "/" then directory ++ name else directory ++ "/" ++ name

/-- What is at a path. A link that leads nowhere stands for itself. -/
def foundAt (t : FileTree) (base : Nat) (path : String) (follows : Bool) : Except IoError Nat :=
  match t.find base path follows with
  | .ok n => .ok n
  | .error e => if follows && e = .notFound then t.find base path false else .error e

/-- Searches what is at a path and under it, to a depth. -/
def visit (o : Outing) (start : String) : Nat → Nat → String → Walk → Act Walk
  | 0, _, _, w => return w
  | n + 1, depth, path, w => do
    if w.isOver then return w
    else
      let follows := o.follows || (depth = 0 && o.followsOperands)
      let found ← Act.files fun t base => foundAt t base path follows
      match found with
      | .error e =>
        o.call.complain (Quoted.always path ++ ": " ++ e.text)
        return { w with status := 1 }
      | .ok inode =>
        let f : Finding := ⟨path, start, depth, inode⟩
        let asked := fun (w : Walk) => do
          if depth < o.range.least then return w
          else return (← ask o f o.query { w with isPruned := false }).2
        let entered := fun (w : Walk) => do
          let names ← Act.files fun t _ => (t.entries inode).keys
          if o.range.most.any (· ≤ depth) then return w
          else names.foldlM (fun w name => visit o start n (depth + 1) (within path name) w) w
        if o.range.isDeepFirst then
          let w ← entered w
          if w.isOver then return w else asked w
        else
          let w ← asked w
          if w.isPruned || w.isOver then return { w with isPruned := false } else entered w

/-- How deep directories may be nested. -/
def maxDepth : Nat := 5000

/-- Whether a word begins the query. -/
def beginsQuery (word : String) : Bool :=
  match word.toList with
  | '-' :: _ :: _ => true
  | ['('] | ['!'] => true
  | _ => false

/-- The options in front of the paths: whether links are followed, always or for operands only, and the other words. -/
def linkOptions : Bool → Bool → List String → Bool × Bool × List String
  | follows, operands, word :: rest =>
    if word = "-L" then linkOptions true false rest
    else if word = "-H" then linkOptions false true rest
    else if word = "-P" then linkOptions false false rest
    else if word = "--" then (follows, operands, rest)
    else (follows, operands, word :: rest)
  | follows, operands, [] => (follows, operands, [])

/-- The paths that a query compares with, of which the first is not there. -/
def missing? (t : FileTree) (base : Nat) : Query → Option (String × IoError)
  | .newer path | .same path =>
    match t.find base path true with
    | .ok _ => none
    | .error e => some (path, e)
  | .not q => missing? t base q
  | .and a b | .or a b | .both a b => (missing? t base a).or (missing? t base b)
  | _ => none

/-- `find`: searches directories. -/
def find (c : Call) : Act Nat := do
  let (follows, followsOperands, words) := linkOptions false false c.arguments
  let paths := words.takeWhile fun w => !beginsQuery w
  let rest := words.drop paths.length
  match rest with
  | ["--help"] | ["-help"] => do
    c.put "Usage: find [-H] [-L] [-P] [-Olevel] [-D debugopts] [path...] [expression]\n"
    return 0
  | ["--version"] | ["-version"] => do
    c.put "find (GNU findutils) 4.9.0\n"
    return 0
  | _ =>
    match read rest with
    | .error text => c.refuse 1 text
    | .ok (query, range) =>
      let query := if query.acts then query else .and query (.print "\n")
      match ← Act.files fun t base => missing? t base query with
      | some (path, e) => c.refuse 1 (Quoted.always path ++ ": " ++ e.text)
      | none =>
        let started ← Act.look fun w => World.birth + Int.ofNat w.clock
        let o : Outing := ⟨c, query, range, follows, followsOperands, started⟩
        let w ← (if paths.isEmpty then ["."] else paths).foldlM (fun w path => visit o path maxDepth 0 path w)
          ⟨0, false, false, []⟩
        let w ← runGathered o query w
        return w.status

/-- The empty pattern accepts the empty text. -/
theorem accepts_none : accepts false "" "" = true := by
  simp [accepts, Pattern.ofMarked, Pattern.itemsOf, Pattern.accepts_nil]

end RunLedger.Sandbox.Search
