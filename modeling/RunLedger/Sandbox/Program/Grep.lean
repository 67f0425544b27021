import RunLedger.Sandbox.Expression
import RunLedger.Sandbox.Program.Stream

/-!
# Searching

`grep` writes the lines in which one of some expressions is found, or says where they are: in which files, on which lines,
how often. Lines around them can come along.

* `isPicked_nil`: where nothing is looked for nothing is found.
-/

namespace RunLedger.Sandbox.Program

/-- What is looked for. -/
structure Quest where
  expressions : List Expression
  isFolded : Bool
  /-- Whether whole lines must match, or whole words. -/
  isWhole : Bool
  isWord : Bool

/-- The ground that a line is for an expression. -/
def Quest.ground (q : Quest) (e : Expression) (text : Array Char) : Expression.Ground := ⟨text, q.isFolded, false, !e.hasAgain⟩

/-- How far expressions reach from a place, as it is asked for. -/
def Quest.reach? (q : Quest) (text : Array Char) (i : Nat) : Option Nat :=
  q.expressions.foldl (fun best e =>
    let g := q.ground e text
    let places := Expression.farthestFirst (Expression.runs g e [⟨i, []⟩])
    let fits := fun (p : Expression.Place) =>
      (!q.isWhole || (i = 0 && p.position = text.size)) &&
        (!q.isWord || (!g.isAfterWord i && !g.isBeforeWord p.position))
    match places.find? fits with
    | some p => if best.all (· < p.position) then some p.position else best
    | none => best) none

/-- The first place from a place on where something is found, and where it ends; at most so many places on. -/
def Quest.find? (q : Quest) (text : Array Char) : Nat → Nat → Option (Nat × Nat)
  | 0, _ => none
  | n + 1, i =>
    match q.reach? text i with
    | some stop => some (i, stop)
    | none => if q.isWhole then none else find? q text n (i + 1)

/-- Whether something is found in a line. -/
def Quest.isPicked (q : Quest) (line : String) : Bool :=
  let text := line.toList.toArray
  (q.find? text (text.size + 1) 0).isSome

/-- All the places where something is found that is not empty. -/
def Quest.spans (q : Quest) (text : Array Char) : Nat → Nat → List (Nat × Nat)
  | 0, _ => []
  | n + 1, i =>
    match q.find? text (text.size + 1 - i) i with
    | none => []
    | some (start, stop) =>
      if stop = start then spans q text n (start + 1) else (start, stop) :: spans q text n stop

/-- What `grep` writes about lines. -/
structure Report where
  isInverted : Bool
  counts : Bool
  /-- Whether only names are written: of files with lines that are picked, or of those without. -/
  lists : Option Bool
  isQuiet : Bool
  onlyParts : Bool
  hasNumbers : Bool
  hasOffsets : Bool
  before : Nat
  after : Nat
  /-- Whether lines around others were asked for. -/
  hasContext : Bool
  most : Option Nat
  /-- Whether files of octets are texts. -/
  isText : Bool
  isColored : Bool
  /-- Whether a zero octet follows names. -/
  endsNames : Bool

/-- How far a file was searched. -/
structure SearchState where
  number : Nat
  offset : Nat
  found : Nat
  /-- The lines before this one that were not written, the latest first, with their numbers and offsets. -/
  held : List (Nat × Nat × String)
  /-- How many lines are still to be written behind the last one. -/
  owed : Nat
  /-- The number of the last line that was written, in any file. -/
  last : Option Nat
  isBinary : Bool
  written : String

/-- The front of a line that is written. -/
def Report.front (k : Report) (name : Option String) (mark : Char) (number offset : Nat) : String :=
  name.elim "" (·.push (if k.endsNames then '\x00' else mark)) ++ (if k.hasNumbers then (Text.Decimal.text number).push mark else "") ++
    (if k.hasOffsets then (Text.Decimal.text offset).push mark else "")

/-- A part of a line in color. -/
def colored (s : String) : String := "\x1b[01;31m\x1b[K" ++ s ++ "\x1b[m\x1b[K"

/-- A line with the parts in color that were found. -/
def coloredLine (q : Quest) (line : String) : String :=
  let text := line.toList.toArray
  let cut := fun (i j : Nat) => String.ofList (text.extract i j).toList
  let (place, shown) := (q.spans text (text.size + 1) 0).foldl (fun (place, shown) (start, stop) =>
    (stop, shown ++ cut place start ++ colored (cut start stop))) (0, "")
  shown ++ cut place text.size

/-- The parts of a line that were found, each on a line of its own. -/
def partsOf (q : Quest) (k : Report) (name : Option String) (number offset : Nat) (line : String) : String :=
  let text := line.toList.toArray
  String.join ((q.spans text (text.size + 1) 0).map fun (start, stop) =>
    let part := String.ofList (text.extract start stop).toList
    k.front name ':' number (offset + start) ++ (if k.isColored then colored part else part) ++ "\n")

/-- The state after a line. -/
def searchLine (q : Quest) (k : Report) (name : Option String) (s : SearchState) (whole : String) : SearchState :=
  let line := bare whole
  let here := (s.number, s.offset, line)
  let isPicked := q.isPicked line != k.isInverted
  let next := { s with number := s.number + 1, offset := s.offset + whole.length }
  let isSilent := k.isQuiet || k.counts || k.lists.isSome || s.isBinary
  if isPicked then
    if isSilent then { next with found := s.found + 1 }
    else
      let held := (s.held.take k.before).reverse
      let first := (held.head?.map Prod.fst).getD s.number
      let gap := if k.hasContext && s.last.any (· + 1 < first) then "--\n" else ""
      let context := String.join (held.map fun (n, o, l) => k.front name '-' n o ++ l ++ "\n")
      let own := if k.onlyParts then if k.isInverted then "" else partsOf q k name s.number s.offset line
        else k.front name ':' s.number s.offset ++ (if k.isColored && !k.isInverted then coloredLine q line else line) ++ "\n"
      { next with
        found := s.found + 1, held := [], owed := k.after, last := some s.number
        written := s.written ++ gap ++ (if k.onlyParts then "" else context) ++ own }
  else if 0 < s.owed && !isSilent then
    let own := if k.onlyParts then "" else k.front name '-' s.number s.offset ++ line ++ "\n"
    { next with owed := s.owed - 1, last := some s.number, written := s.written ++ own }
  else { next with held := if k.before = 0 then [] else here :: s.held.take (k.before - 1) }

/-- Whether nothing more is to be read. -/
def Report.isDone (k : Report) (s : SearchState) : Bool :=
  (k.most.any (· ≤ s.found) && s.owed = 0) || (0 < s.found && (k.isQuiet || k.lists.isSome || s.isBinary))

/-- Searches lines until nothing more is to be read. Lines behind the last one that counts only follow it. -/
def searchLines (q : Quest) (k : Report) (name : Option String) (s : SearchState) : List String → SearchState
  | [] => s
  | l :: rest =>
    if k.isDone s then s
    else if k.most.any (· ≤ s.found) then
      let own := k.front name '-' s.number s.offset ++ bare l ++ "\n"
      searchLines q k name
        { s with
          number := s.number + 1
          offset := s.offset + l.length
          owed := s.owed - 1
          last := some s.number
          written := s.written ++ own } rest
    else searchLines q k name (searchLine q k name s l) rest

/-- Searches what a descriptor leads to. Answers how many lines were picked, and the last one that was written. -/
def searchIn (c : Call) (q : Quest) (k : Report) (name : Option String) (shown : String) (last : Option Nat)
    (descriptor : Nat) : Act (Except IoError (Nat × Option Nat)) := do
  let start : SearchState := ⟨1, 0, 0, [], 0, last.map fun _ => 0, false, ""⟩
  if k.most = some 0 then return .ok (0, last)
  else
    let r ← feedLines descriptor (fun s ls => do
      let isBinary := s.isBinary || (!k.isText && ls.any fun l => l.toList.contains '\x00')
      let s := searchLines q k name { s with isBinary } ls
      c.putOr 2 s.written
      return ({ s with written := "" }, !k.isDone s)) Act.manyTries "" start
    match r with
    | .error e => return .error e
    | .ok s =>
      if s.isBinary && 0 < s.found && !k.isQuiet && !k.counts && k.lists.isNone then
        c.putOr 2 (c.name ++ ": " ++ shown ++ ": binary file matches\n")
      let ended := fun (name : String) (mark : Char) => name.push (if k.endsNames then '\x00' else mark)
      if k.counts then c.putOr 2 (name.elim "" (ended · ':') ++ Text.Decimal.text s.found ++ "\n")
      match k.lists with
      | some isPicked => if (0 < s.found) == isPicked then c.putOr 2 (ended shown '\n')
      | none => pure ()
      return .ok (s.found, s.last.or last)

/-- The files under a path, to a depth. -/
def filesUnder (t : FileTree) (base : Nat) (follows : Bool) (isChosen : Bool → String → Bool) : Nat → String → List String
  | 0, _ => []
  | depth + 1, path =>
    match t.find base path true with
    | .error _ => []
    | .ok n =>
      (t.entries n).entries.flatMap fun (name, child) =>
        let inner := if path = "" then name else if path.endsWith "/" then path ++ name else path ++ "/" ++ name
        if t.holds child Content.isDirectory || (follows && t.leadsTo base inner Content.isDirectory) then
          if isChosen true name then filesUnder t base follows isChosen depth inner else []
        else if t.holds child Content.isLink && !follows then []
        else if isChosen false name then [inner] else []

/-- The number of an option, if it tells one. -/
def countOf? (a : Arguments) (flag : Char) : Option (Option Nat) :=
  match a.value? flag with
  | none => some none
  | some s => if !s.isEmpty && s.toList.all Char.isDigit then some (some (Text.Decimal.value s.toList)) else none

/-- The options of `grep`. -/
def grepTable : OptionTable :=
  ⟨"EFGPivwxyclLqsnbHhorRaIzUTZuWV", "efmABCdDXYO0", "K",
    [("extended-regexp", 'E'), ("fixed-strings", 'F'), ("basic-regexp", 'G'), ("perl-regexp", 'P'), ("regexp", 'e'),
      ("file", 'f'), ("ignore-case", 'i'), ("no-ignore-case", 'W'), ("invert-match", 'v'), ("word-regexp", 'w'),
      ("line-regexp", 'x'), ("count", 'c'), ("files-with-matches", 'l'), ("files-without-match", 'L'),
      ("max-count", 'm'), ("only-matching", 'o'), ("quiet", 'q'), ("silent", 'q'), ("no-messages", 's'),
      ("byte-offset", 'b'), ("with-filename", 'H'), ("no-filename", 'h'), ("line-number", 'n'), ("initial-tab", 'T'),
      ("null", 'Z'), ("after-context", 'A'), ("before-context", 'B'), ("context", 'C'), ("text", 'a'),
      ("binary-files", 'D'), ("recursive", 'r'), ("dereference-recursive", 'R'), ("include", 'X'), ("exclude", 'Y'),
      ("exclude-dir", 'O'), ("directories", 'd'), ("color", 'K'), ("colour", 'K'), ("null-data", 'z'), ("binary", 'U'),
      ("line-buffered", 'u')], false⟩

/-- Arguments with a number alone behind a dash spelled out as lines around others. -/
def contextSpelledOut (arguments : List String) : List String :=
  arguments.flatMap fun word =>
    match word.toList with
    | '-' :: d :: ds => if (d :: ds).all Char.isDigit then ["-C", String.ofList (d :: ds)] else [word]
    | _ => [word]

/-- The expressions that texts write, one a line. -/
def expressionsOf (a : Arguments) (name : String) (texts : List String) : Except String (List Expression) :=
  let kind := a.last? ['E', 'F', 'G', 'P']
  let isFixed := kind = some 'F' || (kind.isNone && name.endsWith "fgrep")
  let isExtended := kind = some 'E' || kind = some 'P' || (kind.isNone && name.endsWith "egrep")
  (texts.flatMap fun text => text.splitOn "\n").mapM fun text =>
    if isFixed then
      .ok (text.toList.foldl (fun e c => Expression.followed e (.one (.char c))) .empty)
    else Expression.read ⟨isExtended, isExtended, false⟩ text

/-- Tells how `grep` is called. -/
def grepUsage (c : Call) : Act Nat := do
  Call.tell ("Usage: " ++ c.name ++ " [OPTION]... PATTERNS [FILE]...\n")
  c.misused 2 ""

/-- Whether the output goes to the file that a descriptor leads to. -/
def isOutputToo (descriptor : Nat) : Act Bool := Act.look fun w =>
  match w.open? descriptor, w.open? 1 with
  | some (_, a), some (_, b) => a.target = b.target && (match a.target with
    | .inode n => w.tree.holds n Content.isFile
    | .pipe _ => false)
  | _, _ => false

/-- What was found and what went wrong in the files searched so far. -/
structure Tally where
  isFound : Bool
  isFailed : Bool
  last : Option Nat

/-- Searches one file. -/
def searchFile (c : Call) (q : Quest) (k : Report) (isSilent hasNames : Bool) (tally : Tally) (path : String) :
    Act Tally := do
  if k.isQuiet && tally.isFound then return tally
  else
    let shown := if path = "-" then "(standard input)" else path
    let failed := fun (text : String) => do
      if !isSilent then c.complain (shown ++ ": " ++ text)
      return { tally with isFailed := true }
    let r ← withOperand path fun descriptor => do
      if !k.isQuiet && k.lists.isNone && k.most ≠ some 1 && (← isOutputToo descriptor) then return .ok none
      else return (← searchIn c q k (if hasNames then some shown else none) shown tally.last descriptor).map some
    match r with
    | .error e => failed e.error.text
    | .ok none => failed "input file is also the output"
    | .ok (some (found, last)) =>
      return { tally with isFound := tally.isFound || 0 < found, last }

/-- `grep`: writes the lines in which an expression is found. -/
def grep (c : Call) : Act Nat :=
  let name := (c.name.splitOn "/").getLastD ""
  let c := { c with argv := c.name :: contextSpelledOut c.arguments }
  match Arguments.read grepTable c.arguments with
  | .error .help => do
    c.put ("Usage: " ++ c.name ++ " [OPTION]... PATTERNS [FILE]...\n")
    return 0
  | .error .version => do
    c.put (name ++ " (GNU grep) 3.11\n")
    return 0
  | .error e => do
    c.complain e.text
    grepUsage c
  | .ok a => do
    if a.has 'V' then
      c.put (name ++ " (GNU grep) 3.11\n")
      Act.quit (.exited 0)
    let mut given : List String := []
    for (flag, value) in a.options do
      if flag = 'e' then given := given ++ [value.getD ""]
      else if flag = 'f' then
        match ← contents (value.getD "") with
        | .ok text => given := given ++ (lines text).map bare
        | .error e =>
          c.complain (value.getD "" ++ ": " ++ e.error.text)
          Act.quit (.exited 2)
    let isGiven := a.has 'e' || a.has 'f'
    let (texts, operands) := if isGiven then (given, a.operands) else (a.operands.take 1, a.operands.drop 1)
    if texts.isEmpty && !isGiven then grepUsage c
    else
      let context := fun flag => (countOf? a flag).map fun n => (n.or ((countOf? a 'C').getD none))
      match expressionsOf a name texts, countOf? a 'm', context 'A', context 'B', countOf? a 'C' with
      | .error text, _, _, _, _ => c.refuse 2 text
      | _, none, _, _, _ => c.refuse 2 "invalid max count"
      | _, _, none, _, _ => c.refuse 2 ((a.value? 'A').getD "" ++ ": invalid context length argument")
      | _, _, _, none, _ => c.refuse 2 ((a.value? 'B').getD "" ++ ": invalid context length argument")
      | _, _, _, _, none => c.refuse 2 ((a.value? 'C').getD "" ++ ": invalid context length argument")
      | .ok expressions, some most, some after, some before, some _ =>
        let q : Quest := ⟨expressions, a.last? ['i', 'y', 'W'] ≠ some 'W' && (a.has 'i' || a.has 'y'), a.has 'x',
          a.has 'w' && !a.has 'x'⟩
        let lists := (a.last? ['l', 'L']).map fun flag => decide (flag = 'l')
        let isText := a.has 'a' || a.has 'z' || a.value? 'D' = some "text"
        let k : Report := ⟨a.has 'v', a.has 'c' && lists.isNone, lists, a.has 'q', a.has 'o', a.has 'n', a.has 'b',
          before.getD 0, after.getD 0, before.isSome || after.isSome, most, isText, a.value? 'K' = some "always", a.has 'Z'⟩
        let isDeep := a.has 'r' || a.has 'R' || a.value? 'd' = some "recurse"
        let fits := fun (pattern text : String) =>
          Pattern.accepts (Pattern.ofMarked (pattern.toList.map fun c => (c, false))) text.toList
        let isChosen := fun (isDirectory : Bool) (name : String) =>
          if isDirectory then !(a.values 'O').any fun p => fits p name
          else (!a.has 'X' || (a.values 'X').any fun p => fits p name) && !(a.values 'Y').any fun p => fits p name
        let mut tally : Tally := ⟨false, false, none⟩
        let searched := if operands.isEmpty then if isDeep then [""] else ["-"] else operands
        let hasNames := match a.last? ['h', 'H'] with
          | some flag => flag = 'H'
          | none => isDeep || 1 < operands.length
        let isSingle := isDeep && operands.length = 1
        for operand in searched do
          let isDirectory ← Act.files fun t base =>
            operand = "" || (operand ≠ "-" && t.leadsTo base operand Content.isDirectory)
          if isDirectory && isDeep then
            let files ← Act.files fun t base =>
              filesUnder t base (a.has 'R') isChosen 100 (if operand = "" then "." else operand)
            let files := if operand = "" then files.map fun f => (f.drop 2).toString else files
            for path in files do
              tally ← searchFile c q k (a.has 's') hasNames tally path
          else if isDirectory then
            if a.value? 'd' ≠ some "skip" then
              if !a.has 's' then c.complain (operand ++ ": Is a directory")
              tally := { tally with isFailed := true }
          else if operand = "-" || isChosen false operand then
            tally ← searchFile c q k (a.has 's') (hasNames && !(isSingle && !a.has 'H')) tally operand
        if tally.isFailed && !(k.isQuiet && tally.isFound) then return 2
        else return if tally.isFound then 0 else 1

/-- Where nothing is looked for nothing is found. -/
theorem isPicked_nil (isFolded isWord : Bool) (line : String) :
    Quest.isPicked ⟨[], isFolded, true, isWord⟩ line = false := by
  simp [Quest.isPicked, Quest.find?, Quest.reach?]

end RunLedger.Sandbox.Program
