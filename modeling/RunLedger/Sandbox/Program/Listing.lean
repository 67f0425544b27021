import RunLedger.Sandbox.Pattern
import RunLedger.Sandbox.Program.Description
import RunLedger.Sandbox.Program.Sort

/-!
# Listings of directories

`ls` tells which names are in directories: one on a line, in columns, between commas, or with all that there is to know.

* `indentTo_self`: where the text is already nothing has to be filled.
-/

namespace RunLedger.Sandbox.Program.Listing

/-- How names are put on lines. -/
inductive Shape where
  | lines
  | long
  | commas
  | columns (isAcross : Bool)
  deriving DecidableEq

/-- What names are put in order by. -/
inductive Order where
  | name
  | time
  | size
  | ending
  | version
  | width
  | none
  deriving DecidableEq

/-- How a listing is made. -/
structure Style where
  arguments : Arguments
  shape : Shape
  order : Order
  /-- The signs behind names: none, one for directories, one for each kind, and one for what can be run too. -/
  marks : Nat
  /-- Which links are followed: none, those to directories if they are operands, all operands, all. -/
  follows : Nat
  quoting : String
  timeStyle : String
  lineWidth : Nat

/-- The value of a long option, if it is a known word or the beginning of one. -/
def wordOf (words : List String) (value : String) : Option String :=
  (words.find? (· = value)).or (words.find? (·.startsWith value))

/-! ## Names -/

/-- A name in a listing, and the inode behind it, if there is one that can be told of. -/
structure Item where
  name : String
  inode : Option Nat

/-- A text between double quotes, with escapes. -/
def doubleQuoted (s : String) : String :=
  "\"" ++ String.join (s.toList.map fun c =>
    if c = '"' || c = '\\' then "\\" ++ c.toString else if Quoted.isVisible c then c.toString else Quoted.escaped c) ++ "\""

/-- A name as it is shown. -/
def shownName (k : Style) (name : String) : String :=
  match k.quoting with
  | "c" => doubleQuoted name
  | "escape" => String.join (name.toList.map fun c =>
      if c = '\\' || c = ' ' then "\\" ++ c.toString
      else if Quoted.isVisible c then c.toString else Quoted.escaped c)
  | "shell" | "shell-escape" => Quoted.asNeeded name
  | "shell-always" | "shell-escape-always" => Quoted.always name
  | _ => if k.arguments.has 'q' then name.map fun c => if Quoted.isVisible c then c else '?' else name

/-- The sign behind a name. -/
def mark (k : Style) (t : FileTree) (n : Nat) : String :=
  match t.content? n with
  | some (.directory _ _) => if 1 ≤ k.marks then "/" else ""
  | some (.link _) => if 2 ≤ k.marks then "@" else ""
  | some (.pipe _) => if 2 ≤ k.marks then "|" else ""
  | some (.file _) => if 3 ≤ k.marks && t.mode n &&& 0o111 ≠ 0 then "*" else ""
  | _ => ""

/-- The ending of a name, with its dot. -/
def ending (name : String) : String :=
  let cs := (name.toList.reverse.takeWhile (· ≠ '.')).reverse
  if cs.length < name.length then "." ++ String.ofList cs else ""

/-- Whether an item comes before another one, or none before the other. -/
def comesBefore (k : Style) (t : FileTree) (a b : Item) : Bool :=
  let measure := fun (f : FileTree → Nat → Int) => (a.inode.elim 0 (f t), b.inode.elim 0 (f t))
  let byName := decide (a.name ≤ b.name)
  let byNumber := fun (x y : Int) => if x = y then byName else decide (y < x)
  match k.order with
  | .name | .none => byName
  | .time => let (x, y) := measure FileTree.modified; byNumber x y
  | .size => let (x, y) := measure fun t n => Int.ofNat (Description.size t n); byNumber x y
  | .ending => if ending a.name = ending b.name then byName else decide (ending a.name ≤ ending b.name)
  | .width => if a.name.length = b.name.length then byName else decide (a.name.length ≤ b.name.length)
  | .version => compareVersions (a.name.length + b.name.length + 1) a.name.toList b.name.toList ≠ .gt

/-- Whether an item is a directory, or a link to one. -/
def isEnterable (t : FileTree) (base : Nat) (path : String) : Bool := t.leadsTo base path Content.isDirectory

/-- Items in order. -/
def sorted (k : Style) (t : FileTree) (isDirectory : Item → Bool) (items : List Item) : List Item :=
  let ordered := if k.order = .none then items
    else items.mergeSort fun a b => if k.arguments.has 'r' then comesBefore k t b a else comesBefore k t a b
  let ordered := if k.order = .none && k.arguments.has 'r' then ordered.reverse else ordered
  if k.arguments.has '\x01' then ordered.filter isDirectory ++ ordered.filter fun i => !isDirectory i else ordered

/-- Whether a name in a directory is listed. -/
def isListed (k : Style) (name : String) : Bool :=
  let accepts := fun (pattern : String) =>
    Pattern.accepts (Pattern.ofMarked (pattern.toList.map fun c => (c, false))) name.toList
  let isHidden := name.toList.head? = some '.'
  let shows := k.arguments.last? ['a', 'A', 'f']
  (!isHidden || shows.isSome) && !(shows = some 'A' && (name = "." || name = "..")) &&
    !(k.arguments.has 'B' && name.endsWith "~") &&
    !((k.arguments.values 'I').any fun p => (!isHidden || p.startsWith ".") && accepts p) &&
    !(shows.isNone && (k.arguments.values '\x02').any accepts)

/-! ## Lines -/

/-- Blanks and tabs from one place on a line to another one. -/
def indentTo : Nat → Nat → Nat → String
  | 0, _, _ => ""
  | fuel + 1, start, stop =>
    if stop ≤ start then ""
    else if (start + 1) / 8 < stop / 8 then "\t" ++ indentTo fuel (start + 8 - start % 8) stop
    else " " ++ indentTo fuel (start + 1) stop

/-- How many octets or blocks something has, as asked. -/
def sizeText (k : Style) (octets : Nat) : String :=
  if k.arguments.has 'h' then Description.scaled 1024 octets
  else if k.arguments.has '\x03' then Description.scaled 1000 octets
  else Text.Decimal.text octets

/-- How many blocks something takes, as asked. -/
def blocksText (k : Style) (blocks : Nat) : String :=
  if k.arguments.has 'h' || k.arguments.has '\x03' then sizeText k (blocks * 512) else Text.Decimal.text ((blocks + 1) / 2)

/-- What stands in front of a name: the number of the inode, and its blocks. -/
def frontParts (k : Style) (t : FileTree) (i : Item) : List String :=
  let part := fun (flag : Char) (f : Nat → String) => if k.arguments.has flag then [i.inode.elim "?" f] else []
  part 'i' (fun n => Text.Decimal.text (Description.number n)) ++ part 's' (fun n => blocksText k (Description.blocks t n)) ++
    (if k.arguments.has 'Z' && k.shape ≠ .long then ["?"] else [])

/-- The widest of texts at each place. -/
def widths (rows : List (List String)) : List Nat :=
  rows.foldl (fun widths row =>
    let longer := max widths.length row.length
    (List.range longer).map fun i => max (widths.getD i 0) ((row[i]?).elim 0 String.length)) []

/-- What stands in front of a name, as wide as the others are. -/
def front (widths : List Nat) (parts : List String) : String :=
  String.join ((parts.zip widths).map fun (part, width) => right width part ++ " ")

/-- The time as a style shows it. -/
def timeText (k : Style) (now time : Int) : String :=
  match k.timeStyle with
  | "full-iso" => Date.text time "%Y-%m-%d %H:%M:%S.%N %z".toList
  | "long-iso" => Date.text time "%Y-%m-%d %H:%M".toList
  | "iso" =>
    let isRecent := decide (now - Description.halfYear * 1000000000 < time) && decide (time ≤ now)
    Date.text time (if isRecent then "%m-%d %H:%M" else "%Y-%m-%d ").toList
  | style =>
    if style.startsWith "+" then Date.text time (style.drop 1).toString.toList else Description.momentText now time

/-- What a long line tells of an item: texts to be put in columns, of which some are put to the left. -/
def longParts (k : Style) (t : FileTree) (now : Int) (i : Item) : List (Bool × String) :=
  let isNumeric := k.arguments.has 'n'
  let owner := if isNumeric then "0" else "root"
  let owners := (if k.arguments.has 'g' then [] else [(true, owner)]) ++
    (if k.arguments.has 'o' || k.arguments.has 'G' then [] else [(true, owner)]) ++
    (if k.arguments.has '\x16' then [(true, owner)] else [])
  match i.inode with
  | none =>
    [(true, "l?????????"), (false, "?")] ++ owners.map (fun _ => (true, "?")) ++ [(false, "?"), (false, "           ?")]
  | some n =>
    let size := match t.content? n with
      | some (.device kind) =>
        let (major, minor) := Description.deviceNumbers (some (.device kind))
        Text.Decimal.text major ++ ", " ++ Text.Decimal.text minor
      | _ => sizeText k (Description.size t n)
    [(true, Description.rights t n), (false, Text.Decimal.text (t.names n))] ++ owners ++
      [(false, size), (true, timeText k now (t.modified n))]

/-- A name with what stands behind it in a long line: the sign, or what a link stands for. -/
def longName (k : Style) (t : FileTree) (directory : Nat) (i : Item) : String :=
  let shown := shownName k i.name
  match i.inode.bind t.content?, i.inode with
  | some (.link target), _ =>
    let sign := match t.find directory target true with
      | .ok n => if 2 ≤ k.marks then mark k t n else ""
      | .error _ => ""
    shown ++ " -> " ++ shownName k target ++ sign
  | _, some n => shown ++ mark k t n
  | _, none => shown

/-- Names in columns, given the width of each. -/
def columnWidths (isAcross : Bool) (count : Nat) (lengths : List Nat) : List Nat :=
  let rows := (lengths.length + count - 1) / count
  let placed := (List.range lengths.length).zip lengths
  (List.range count).map fun column =>
    let mine := placed.filter fun (i, _) => column = if isAcross then i % count else i / rows
    (mine.map fun (_, length) => length + if column + 1 = count then 0 else 2).foldl max 3

/-- Names on as few lines as their widths allow. -/
def inColumns (isAcross : Bool) (lineWidth : Nat) (names : List String) : String :=
  let lengths := names.map String.length
  let counts := (List.range (min names.length (max 1 (lineWidth / 3)))).map (· + 1)
  let fits := fun count => count = 1 || (columnWidths isAcross count lengths).foldl (· + ·) 0 < lineWidth
  let count := (counts.reverse.find? fits).getD 1
  let widths := columnWidths isAcross count lengths
  let rows := (names.length + count - 1) / count
  let row := fun r =>
    let cells := (List.range count).filterMap fun c => names[if isAcross then r * count + c else c * rows + r]?
    let (text, _, _) := (cells.zip widths).foldl (fun (text, place, stop) (cell, width) =>
      (text ++ indentTo lineWidth place stop ++ cell, stop + cell.length, stop + width)) ("", 0, 0)
    text ++ "\n"
  String.join ((List.range rows).map row)

/-- Names between commas, on lines of a width. -/
def betweenCommas (lineWidth : Nat) (names : List String) : String :=
  let (text, _) := names.foldl (fun (text, place) name =>
    if place = 0 then (name, name.length)
    else if place + name.length + 2 < lineWidth then (text ++ ", " ++ name, place + name.length + 2)
    else (text ++ ",\n" ++ name, name.length)) ("", 0)
  text ++ "\n"

/-- The lines of items in a directory. -/
def shownItems (k : Style) (t : FileTree) (now : Int) (directory : Nat) (items : List Item) : String :=
  let fronts := items.map (frontParts k t)
  let frontWidths := if k.shape = .commas then [] else widths fronts
  let fronts := fronts.map fun parts => front (frontWidths ++ List.replicate parts.length 0) parts
  let finish := fun (s : String) => s ++ (if k.arguments.has '\x04' then "\x00" else "\n")
  if items.isEmpty then ""
  else if k.shape = .long then
    let rows := items.map (longParts k t now)
    let columns := widths (rows.map fun row => row.map Prod.snd)
    String.join ((fronts.zip (rows.zip items)).map fun (front, row, i) =>
      let cells := (row.zip columns).map fun ((isLeft, text), width) => (if isLeft then left else right) width text ++ " "
      finish (front ++ String.join cells ++ longName k t directory i))
  else
    let names := (fronts.zip items).map fun (front, i) => front ++ shownName k i.name ++ i.inode.elim "" (mark k t)
    match k.shape with
    | .commas => betweenCommas k.lineWidth names
    | .columns isAcross => inColumns isAcross k.lineWidth names
    | _ => String.join (names.map finish)

/-! ## Directories -/

/-- The path of a name in a directory. -/
def within (directory name : String) : String :=
  if directory.endsWith "/" then directory ++ name else directory ++ "/" ++ name

/-- Whether more is to be told of names than that they are there. -/
def looksCloser (k : Style) : Bool :=
  k.shape = .long || k.order = .time || k.order = .size || k.marks ≠ 0 || k.arguments.has 's'

/-- The names in a directory that are listed, with what is behind them, and those of them that lead nowhere. -/
def itemsOf (k : Style) (t : FileTree) (directory : Nat) : List Item × List String :=
  let parent := (t.parent? directory).getD directory
  let dots := if k.arguments.has 'a' || k.arguments.has 'f' then [(".", directory), ("..", parent)] else []
  let listed := (dots ++ (t.entries directory).entries).filter fun e => isListed k e.1
  let items := listed.map fun (name, n) =>
    if k.follows < 3 then (⟨name, some n⟩ : Item) else ⟨name, (t.find directory name true).toOption⟩
  (items, if looksCloser k then (items.filter fun i => i.inode.isNone).map Item.name else [])

/-- Lists directories, at most so many, given whether their names are shown, whether something was written before, and
the status so far. -/
def listEach (c : Call) (k : Style) (isNamed : Bool) : Nat → Bool → Nat → List String → Act Nat
  | 0, _, status, _ => return status
  | _, _, status, [] => return status
  | n + 1, isFirst, status, path :: rest => do
    let now ← Act.look fun w => World.birth + Int.ofNat w.clock
    let found ← Act.files fun t base =>
      (t.find base path true).map fun directory =>
        let (items, missing) := itemsOf k t directory
        let isDirectory := fun (i : Item) => isEnterable t directory i.name
        let items := sorted k t isDirectory items
        let below := if !k.arguments.has 'R' then [] else
          (items.filter fun i => i.name ≠ "." && i.name ≠ ".." && i.inode.any fun n => t.holds n Content.isDirectory).map
            fun i => within path i.name
        let total := (items.filterMap Item.inode).foldl (fun sum n => sum + Description.blocks t n) 0
        let head := if k.shape = .long || k.arguments.has 's' then "total " ++ blocksText k total ++ "\n" else ""
        (head ++ shownItems k t now directory items, missing, below)
    match found with
    | .error e =>
      c.complain ("cannot open directory " ++ Quoted.always path ++ ": " ++ e.text)
      listEach c k isNamed n isFirst (max status 1) rest
    | .ok (text, missing, below) =>
      for name in missing do
        let path := if path = "." then name else within path name
        c.complain ("cannot access " ++ Quoted.always path ++ ": " ++ IoError.text .notFound)
      let title := if isNamed then (if isFirst then "" else "\n") ++ shownName k path ++ ":\n" else ""
      c.put (title ++ text)
      listEach c k isNamed n false (max status (if missing.isEmpty then 0 else 1)) (below ++ rest)

/-- Whether a link that is an operand is followed. -/
def followsOperand (k : Style) (t : FileTree) (base : Nat) (path : String) : Bool :=
  match k.follows with
  | 0 => false
  | 1 => isEnterable t base path
  | _ => true

/-- Lists operands: first what is no directory, then the directories. -/
def listAll (c : Call) (k : Style) (operands : List String) : Act Nat := do
  let now ← Act.look fun w => World.birth + Int.ofNat w.clock
  let paths := if operands.isEmpty then ["."] else operands
  let found ← Act.files fun t base => paths.map fun path => (path, t.find base path (followsOperand k t base path))
  for (path, result) in found do
    match result with
    | .ok _ => pure ()
    | .error e => c.complain ("cannot access " ++ Quoted.always path ++ ": " ++ e.text)
  let status := if found.all fun (_, result) => result.toOption.isSome then 0 else 2
  let items := found.filterMap fun (path, result) => result.toOption.map fun n => (⟨path, some n⟩ : Item)
  let (text, directories) ← Act.files fun t base =>
    let items := sorted k t (fun i => isEnterable t base i.name) items
    let isDirectory := fun (i : Item) => !k.arguments.has 'd' && i.inode.any fun n => t.holds n Content.isDirectory
    (shownItems k t now base (items.filter fun i => !isDirectory i), (items.filter isDirectory).map Item.name)
  c.put text
  let isNamed := k.arguments.has 'R' || !(text.isEmpty && operands.length ≤ 1)
  listEach c k isNamed Act.manyTries text.isEmpty status directories

/-! ## Options -/

/-- The options. -/
def table : OptionTable :=
  ⟨"aAbBcCdfFgGhHiklLmnNopqQrRsStuUvxXZ1", "ITw\x02\x05\x06\x07\x08\x0e\x0f\x10", "\x11\x12", [("all", 'a'),
    ("almost-all", 'A'), ("escape", 'b'), ("ignore-backups", 'B'), ("directory", 'd'), ("classify", '\x12'),
    ("file-type", '\x13'), ("no-group", 'G'), ("human-readable", 'h'), ("si", '\x03'), ("inode", 'i'), ("ignore", 'I'),
    ("hide", '\x02'), ("kibibytes", 'k'), ("dereference", 'L'), ("dereference-command-line", 'H'),
    ("numeric-uid-gid", 'n'), ("literal", 'N'), ("hide-control-chars", 'q'), ("show-control-chars", '\x14'),
    ("quote-name", 'Q'), ("quoting-style", '\x05'), ("reverse", 'r'), ("recursive", 'R'), ("size", 's'),
    ("sort", '\x06'), ("time", '\x07'), ("time-style", '\x08'), ("tabsize", 'T'), ("width", 'w'), ("context", 'Z'),
    ("color", '\x11'), ("format", '\x0e'), ("full-time", '\x15'), ("group-directories-first", '\x01'), ("zero", '\x04'),
    ("indicator-style", '\x0f'), ("author", '\x16'), ("block-size", '\x10')], false⟩

/-- What an option does to the shape. -/
def shapeAfter (shape : Shape) : Char × Option String → Shape
  | ('1', _) => if shape = .long then .long else .lines
  | ('l', _) | ('g', _) | ('o', _) | ('n', _) | ('\x15', _) => .long
  | ('m', _) => .commas
  | ('C', _) => .columns false
  | ('x', _) => .columns true
  | ('\x04', _) => if shape = .long then .long else .lines
  | ('\x0e', some value) =>
    match wordOf ["across", "commas", "horizontal", "long", "single-column", "verbose", "vertical"] value with
    | some "across" | some "horizontal" => .columns true
    | some "commas" => .commas
    | some "long" | some "verbose" => .long
    | some "vertical" => .columns false
    | _ => .lines
  | _ => shape

/-- What an option does to the order. -/
def orderAfter (order : Order) : Char × Option String → Order
  | ('t', _) => .time
  | ('S', _) => .size
  | ('X', _) => .ending
  | ('v', _) => .version
  | ('U', _) | ('f', _) => .none
  | ('\x06', some value) =>
    match wordOf ["extension", "name", "none", "size", "time", "version", "width"] value with
    | some "extension" => .ending
    | some "none" => .none
    | some "size" => .size
    | some "time" => .time
    | some "version" => .version
    | some "width" => .width
    | _ => .name
  | _ => order

/-- What an option does to the signs. -/
def marksAfter (marks : Nat) : Char × Option String → Nat
  | ('F', _) => 3
  | ('\x12', value) => if [none, some "always", some "yes", some "force"].contains value then 3 else marks
  | ('p', _) => 1
  | ('\x13', _) => 2
  | ('\x0f', some value) =>
    match wordOf ["none", "slash", "file-type", "classify"] value with
    | some "slash" => 1
    | some "file-type" => 2
    | some "classify" => 3
    | _ => 0
  | _ => marks

/-- What an option does to the quotes. -/
def quotingAfter (quoting : String) : Char × Option String → String
  | ('Q', _) => "c"
  | ('b', _) => "escape"
  | ('N', _) => "literal"
  | ('\x05', some value) => value
  | _ => quoting

/-- The style that arguments ask for. -/
def styleOf (a : Arguments) : Style :=
  let shape := a.options.foldl shapeAfter .lines
  let order := a.options.foldl orderAfter .name
  let order := if order = .name && shape ≠ .long && (a.has 'c' || a.has 'u') then .time else order
  let marks := a.options.foldl marksAfter 0
  let follows := match a.last? ['H', 'L'] with
    | some 'L' => 3
    | some _ => 2
    | none => if a.has 'd' || a.has 'F' || shape = .long then 0 else 1
  let lineWidth := match (a.value? 'w').bind size? with
    | some 0 => 1000000
    | some n => n
    | none => 80
  { arguments := a
    shape
    order
    marks
    follows
    quoting := a.options.foldl quotingAfter "literal"
    timeStyle := if a.has '\x15' then "full-iso" else (a.value? '\x08').getD "locale"
    lineWidth }

/-- The words that options with a long name know. Those in a row mean the same. -/
def knownWords : List (Char × String × List (List String)) :=
  [('\x06', "sort", [["none"], ["time"], ["size"], ["extension"], ["version"], ["width"], ["name"]]),
    ('\x0e', "format", [["verbose", "long"], ["commas"], ["horizontal", "across"], ["vertical"], ["single-column"]]),
    ('\x0f', "indicator-style", [["none"], ["slash"], ["file-type"], ["classify"]]),
    ('\x05', "quoting-style", [["literal"], ["shell"], ["shell-always"], ["shell-escape"], ["shell-escape-always"], ["c"],
      ["c-maybe"], ["escape"], ["locale"], ["clocale"]])]

/-- `ls`: lists names. -/
def ls (c : Call) : Act Nat :=
  c.reading table 2 fun a => do
    let wrong := knownWords.findSome? fun (flag, option, rows) =>
      ((a.values flag).find? fun value => (wordOf rows.flatten value).isNone).map fun value => (option, value, rows)
    match wrong with
    | some (option, value, rows) =>
      let row := fun (words : List String) => "\n  - " ++ ", ".intercalate (words.map Quoted.marked)
      c.misused 1 ("invalid argument " ++ Quoted.marked value ++ " for " ++ Quoted.marked ("--" ++ option) ++
        "\nValid arguments are:" ++ String.join (rows.map row))
    | none => listAll c (styleOf a) a.operands

/-- Where the text is already nothing has to be filled. -/
theorem indentTo_self (fuel place : Nat) : indentTo fuel place place = "" := by
  cases fuel <;> simp [indentTo]

end RunLedger.Sandbox.Program.Listing
