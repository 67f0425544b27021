import RunLedger.Sandbox.Measure
import RunLedger.Sandbox.Program.Stream

/-!
# Lines in order

`sort` puts lines in order by keys, which are parts of the lines that are compared as texts, numbers, months or versions.
Where all keys agree the octets of the lines decide.

* `reversed_reversed`: an order that is turned around twice is the same.
-/

namespace RunLedger.Sandbox.Program

/-- A place in a line: how many fields and characters are passed, and whether blanks are passed first. -/
structure KeyEnd where
  field : Nat
  char : Nat
  skipsBlanks : Bool

/-- A part of a line to compare by. -/
structure SortKey where
  start : KeyEnd
  stop : Option KeyEnd
  /-- How the parts are compared. -/
  letters : List Char

/-- Whether a character is a blank between fields. -/
def isFieldBlank (c : Char) : Bool := c = ' ' || c = '\t' || c = '\n'

/-- A line behind its first fields. -/
def afterFields (separator : Option Char) (keepsSeparator : Bool) : Nat → List Char → List Char
  | 0, cs => cs
  | n + 1, cs =>
    match separator with
    | some s =>
      let rest := cs.dropWhile (· ≠ s)
      if n = 0 && keepsSeparator then rest else afterFields separator keepsSeparator n (rest.drop 1)
    | none => afterFields separator keepsSeparator n ((cs.dropWhile isFieldBlank).dropWhile fun c => !isFieldBlank c)

/-- The part of a line that a key means. -/
def SortKey.part (k : SortKey) (separator : Option Char) (line : List Char) : List Char :=
  let blanks := fun (b : Bool) (cs : List Char) => if b then cs.dropWhile isFieldBlank else cs
  let rest := (blanks k.start.skipsBlanks (afterFields separator false k.start.field line)).drop k.start.char
  match k.stop with
  | none => rest
  | some e =>
    let tail := if e.char = 0 then afterFields separator true (e.field + 1) line
      else (blanks e.skipsBlanks (afterFields separator false e.field line)).drop e.char
    rest.take (rest.length - tail.length)

/-! ## Comparing -/

/-- An order turned around. -/
def reversed : Ordering → Ordering
  | .lt => .gt
  | .eq => .eq
  | .gt => .lt

/-- A number in front of a text: its sign, the digits in front of the point without zeros, and those behind it. -/
def decimalFront (cs : List Char) : Int × List Char :=
  let cs := cs.dropWhile isFieldBlank
  let (negative, cs) := match cs with
    | '-' :: rest => (true, rest)
    | _ => (false, cs)
  let whole := cs.takeWhile Char.isDigit
  let fraction := match cs.drop whole.length with
    | '.' :: rest => rest.takeWhile Char.isDigit
    | _ => []
  let places := 40
  let value := Text.Decimal.value (whole ++ (fraction ++ List.replicate (places - fraction.length) '0').take places)
  (if negative then -Int.ofNat value else Int.ofNat value,
    (cs.drop whole.length).drop (if fraction.isEmpty then 0 else fraction.length + 1))

/-- The size of a unit behind a number. -/
def unitRank (n : Int) (rest : List Char) : Int :=
  match rest with
  | c :: _ =>
    match units.findIdx? (· = (if c = 'k' then 'K' else c)) with
    | some i => if n < 0 then -(Int.ofNat i + 1) else if n = 0 then 0 else Int.ofNat i + 1
    | none => 0
  | [] => 0

/-- The number of the month that a text starts with; zero if there is none. -/
def monthOf (cs : List Char) : Nat :=
  let front := String.ofList (((cs.dropWhile isFieldBlank).take 3).map Char.toUpper)
  ((["JAN", "FEB", "MAR", "APR", "MAY", "JUN", "JUL", "AUG", "SEP", "OCT", "NOV", "DEC"].findIdx? (· = front)).map
    (· + 1)).getD 0

/-- The rank of a binary number among all: what is none comes first. -/
def measureRank (cs : List Char) : Int × Int × Int :=
  match Measure.read? 64 (String.ofList (cs.dropWhile isFieldBlank)) with
  | none => (0, 0, 1)
  | some (m, _) =>
    match m.size with
    | some (n, e) =>
      let n := if m.isNegative then -Int.ofNat n else Int.ofNat n
      if 0 ≤ e then (2, n * Int.ofNat (Nat.pow 2 e.toNat), 1) else (2, n, Int.ofNat (Nat.pow 2 (-e).toNat))
    | none => (if m.isNegative then 1 else 3, 0, 1)

/-- The rank of a character in versions: `~` comes before everything, letters before the rest. -/
def versionRank (c : Char) : Int := if c = '~' then -1 else if c.isAlpha then c.toNat else c.toNat + 256

/-- Compares versions: digits by their values, other characters by their ranks. -/
def compareVersions : Nat → List Char → List Char → Ordering
  | 0, _, _ => .eq
  | n + 1, a, b =>
    let text := fun (cs : List Char) => cs.takeWhile fun c => !c.isDigit
    let ranks := fun (cs : List Char) => (text cs).map versionRank ++ [0]
    let digits := fun (cs : List Char) => (cs.drop (text cs).length).takeWhile Char.isDigit
    let rest := fun (cs : List Char) => cs.drop ((text cs).length + (digits cs).length)
    if a.isEmpty && b.isEmpty then .eq
    else
      match compare (ranks a) (ranks b) with
      | .eq =>
        match compare (Text.Decimal.value (digits a)) (Text.Decimal.value (digits b)) with
        | .eq => compareVersions n (rest a) (rest b)
        | o => o
      | o => o

/-- What a part of a line weighs in a comparison. -/
inductive Weight where
  | text (cs : List Char)
  | number (n : Int)
  /-- A number and the rank of its unit. -/
  | amount (unit n : Int)
  /-- A fraction, and the rank of its kind. -/
  | measure (kind n d : Int)
  | month (n : Nat)
  | version (cs : List Char)

/-- What a part of a line weighs as letters say. -/
def weigh (letters : List Char) (cs : List Char) : Weight :=
  let has := letters.contains
  if has 'n' then .number (decimalFront cs).1
  else if has 'h' then
    let (n, rest) := decimalFront cs
    .amount (unitRank n rest) n
  else if has 'g' then
    let (kind, n, d) := measureRank cs
    .measure kind n d
  else if has 'M' then .month (monthOf cs)
  else if has 'V' then .version cs
  else
    let cs := if has 'd' then cs.filter fun c => c.isAlphanum || isFieldBlank c else cs
    let cs := if has 'i' then cs.filter Quoted.isVisible else cs
    .text (if has 'f' then cs.map Char.toUpper else cs)

/-- Compares what was weighed in the same way. -/
def compareWeights : Weight → Weight → Ordering
  | .text a, .text b => compare a b
  | .number x, .number y => compare x y
  | .amount s x, .amount t y => (compare s t).then (compare x y)
  | .measure k n d, .measure l m e => (compare k l).then (compare (n * e) (m * d))
  | .month x, .month y => compare x y
  | .version a, .version b => compareVersions (a.length + b.length + 1) a b
  | _, _ => .eq

/-- How lines are sorted. -/
structure Sorting where
  keys : List SortKey
  separator : Option Char
  letters : List Char
  isStable : Bool
  isUnique : Bool

/-- A line, and what its keys weigh, each with whether it counts in the reversed order. -/
structure WeighedLine where
  line : String
  characters : List Char
  weights : List (Bool × Weight)

/-- A line with what its keys weigh. -/
def Sorting.weighed (s : Sorting) (line : String) : WeighedLine :=
  let characters := line.toList
  ⟨line, characters, s.keys.map fun k => (k.letters.contains 'r', weigh k.letters (k.part s.separator characters))⟩

/-- Compares lines by keys. -/
def compareKeys (a b : WeighedLine) : Ordering :=
  (a.weights.zip b.weights).foldl (fun o ((isReversed, x), (_, y)) =>
    o.then
      (let o := compareWeights x y
      if isReversed then reversed o else o)) .eq

/-- Compares lines. -/
def compareSorted (s : Sorting) (a b : WeighedLine) : Ordering :=
  match compareKeys a b with
  | .eq =>
    if s.isStable || s.isUnique then .eq
    else
      let o := compare a.characters b.characters
      if s.letters.contains 'r' then reversed o else o
  | o => o

/-- Lines in order. -/
def sorted (s : Sorting) (ls : List String) : List String :=
  let inOrder := (ls.map s.weighed).mergeSort fun a b => compareSorted s a b ≠ .gt
  if !s.isUnique then inOrder.map WeighedLine.line
  else
    (inOrder.foldl (fun kept l =>
      match kept with
      | (last : WeighedLine) :: _ => if compareKeys last l = .eq then kept else l :: kept
      | [] => [l]) []).reverse.map WeighedLine.line

/-! ## Arguments -/

/-- The letters that say how parts are compared. -/
def sortLetters : List Char := ['b', 'd', 'f', 'g', 'h', 'i', 'M', 'n', 'R', 'r', 'V']

/-- Reads one end of a key. -/
def keyEnd (isStart : Bool) (whole : String) (cs : List Char) : Except String (KeyEnd × List Char × List Char) := do
  let digits := cs.takeWhile Char.isDigit
  let where_ := if isStart then "invalid number at field start" else "invalid number after ','"
  if digits.isEmpty then
    throw (where_ ++ ": invalid count at start of " ++ Quoted.marked (String.ofList cs))
  let field := Text.Decimal.value digits
  if field = 0 then throw ("field number is zero: invalid field specification " ++ Quoted.marked whole)
  let (char, rest) ← match cs.drop digits.length with
    | '.' :: rest =>
      let digits := rest.takeWhile Char.isDigit
      if digits.isEmpty then
        throw ("invalid number after '.': invalid count at start of " ++ Quoted.marked (String.ofList rest))
      let char := Text.Decimal.value digits
      if isStart && char = 0 then
        throw ("character offset is zero: invalid field specification " ++ Quoted.marked whole)
      pure (if isStart then char - 1 else char, rest.drop digits.length)
    | rest => pure (0, rest)
  let letters := rest.takeWhile sortLetters.contains
  return (⟨field - 1, char, letters.contains 'b'⟩, letters, rest.drop letters.length)

/-- Reads a key. -/
def keyOf (s : String) : Except String SortKey := do
  let (start, letters, rest) ← keyEnd true s s.toList
  match rest with
  | [] => return ⟨start, none, letters⟩
  | ',' :: rest =>
    let (stop, more, rest) ← keyEnd false s rest
    if rest.isEmpty then return ⟨start, some stop, letters ++ more⟩
    else throw ("stray character in field spec: invalid field specification " ++ Quoted.marked s)
  | _ => throw ("stray character in field spec: invalid field specification " ++ Quoted.marked s)

/-- The separator of fields, if one is told. -/
def separatorOf : Option String → Except String (Option Char)
  | none => .ok none
  | some "" => .error "empty tab"
  | some "\\0" => .ok (some '\x00')
  | some s =>
    match s.toList with
    | [c] => .ok (some c)
    | _ => .error ("multi-character tab " ++ Quoted.marked s)

/-- How options ask for lines to be sorted. -/
def sortingOf (a : Arguments) : Except String Sorting := do
  let letters := sortLetters.filter a.has
  let keys ← (a.values 'k').mapM keyOf
  let separator ← separatorOf (a.value? 't')
  let isBare := fun (k : SortKey) => k.letters.isEmpty && !k.start.skipsBlanks
  let skips := letters.contains 'b'
  let inherit := fun (k : SortKey) =>
    if isBare k then
      { k with
        letters
        start := { k.start with skipsBlanks := skips }
        stop := k.stop.map fun e => { e with skipsBlanks := skips } }
    else k
  let whole : SortKey := ⟨⟨0, 0, skips⟩, none, letters⟩
  return ⟨if keys.isEmpty then [whole] else keys.map inherit, separator, letters, a.has 's', a.has 'u'⟩

/-- The first line that is out of order, with its number. -/
def disorder? (s : Sorting) : Nat → List WeighedLine → Option (Nat × String)
  | n, a :: b :: rest =>
    let o := if s.isUnique then compareKeys a b else compareSorted s a b
    if o = .gt || (s.isUnique && o = .eq) then some (n + 1, b.line) else disorder? s (n + 1) (b :: rest)
  | _, _ => none

/-- `sort`: writes lines in order. -/
def sort (c : Call) : Act Nat :=
  let table : OptionTable := ⟨"bdfghiMnRrVcCmsuz", "kotST", "", [("ignore-leading-blanks", 'b'),
    ("dictionary-order", 'd'), ("ignore-case", 'f'), ("general-numeric-sort", 'g'), ("human-numeric-sort", 'h'),
    ("ignore-nonprinting", 'i'), ("month-sort", 'M'), ("numeric-sort", 'n'), ("random-sort", 'R'), ("reverse", 'r'),
    ("version-sort", 'V'), ("check", 'c'), ("merge", 'm'), ("stable", 's'), ("unique", 'u'), ("zero-terminated", 'z'),
    ("key", 'k'), ("output", 'o'), ("field-separator", 't')], false⟩
  c.reading table 2 fun a => do
    match sortingOf a with
    | .error text => c.refuse 2 text
    | .ok s =>
      let operands := sources a.operands
      let read ← operands.mapM fun operand => return (operand, ← contents operand)
      let texts : Except String (List String) := read.mapM fun (operand, r) =>
        match r with
        | .ok text => .ok text
        | .error (.opening e) => .error ("cannot read: " ++ Quoted.name operand ++ ": " ++ e.text)
        | .error (.reading e) => .error ("read failed: " ++ Quoted.name operand ++ ": " ++ e.text)
      match texts with
      | .error text => c.refuse 2 text
      | .ok texts =>
        let ls := texts.flatMap fun text => (lines text).map bare
        if a.has 'c' || a.has 'C' then
          match disorder? s 1 (ls.map s.weighed) with
          | none => return 0
          | some (n, l) =>
            if a.has 'C' then return 1
            else c.refuse 1 (operands.headD "-" ++ ":" ++ Text.Decimal.text n ++ ": disorder: " ++ l)
        else
          let text := String.join ((sorted s ls).map (·.push '\n'))
          match a.value? 'o' with
          | none =>
            c.putOr 2 text
            return 0
          | some path =>
            match ← Act.open path .writing 0o666 3 true with
            | .error e => c.refuse 2 ("open failed: " ++ Quoted.name path ++ ": " ++ e.text)
            | .ok descriptor =>
              let _ ← Act.write descriptor (Octets.array text)
              return 0

/-- An order that is turned around twice is the same. -/
theorem reversed_reversed (o : Ordering) : reversed (reversed o) = o := by cases o <;> rfl

end RunLedger.Sandbox.Program
