import RunLedger.Sandbox.Program.Stream

/-!
# Programs that work on lines

Lines are counted, numbered, folded, cut into fields, put side by side, and compared with their neighbours.

* `merged_nil`: no ranges are merged to none.
-/

namespace RunLedger.Sandbox.Program

/-! ## Counting -/

/-- Whether an octet is a blank between words. -/
def isSpace (c : Char) : Bool := c = ' ' || ('\t' ≤ c && c ≤ '\r')

/-- What `wc` counts. -/
structure Counts where
  lines : Nat
  words : Nat
  octets : Nat
  /-- The width of the widest line. -/
  widest : Nat
  /-- Whether the last character belongs to a word. -/
  isInWord : Bool
  /-- The width of the current line. -/
  width : Nat

/-- Nothing was counted. -/
def Counts.none : Counts := ⟨0, 0, 0, 0, false, 0⟩

/-- The counts with one more character. -/
def Counts.next (k : Counts) (c : Char) : Counts :=
  let k := { k with octets := k.octets + 1 }
  if isSpace c then
    let isBreak := c = '\n' || c = '\r' || c = '\x0c'
    let width := if c = ' ' then k.width + 1 else if c = '\t' then k.width / 8 * 8 + 8 else k.width
    { k with
      lines := if c = '\n' then k.lines + 1 else k.lines
      widest := max k.widest width
      width := if isBreak then 0 else width
      isInWord := false }
  else
    let width := if Quoted.isVisible c then k.width + 1 else k.width
    { k with words := if k.isInWord then k.words else k.words + 1, isInWord := true, width, widest := max k.widest width }

/-- Two counts together. -/
def Counts.plus (a b : Counts) : Counts :=
  ⟨a.lines + b.lines, a.words + b.words, a.octets + b.octets, max a.widest b.widest, false, 0⟩

/-- The size of what an operand names, if it is a file. Nothing if it cannot be told. -/
def sizeOf? (operand : String) : Act (Option (Option Nat)) := Act.look fun w =>
  let size := fun n => if w.tree.holds n Content.isFile then some (w.tree.octets n).size else none
  if operand = "-" then
    match w.open? 0 with
    | some (_, file) =>
      match file.target with
      | .inode n => some (size n)
      | .pipe _ => some none
    | none => none
  else
    match w.tree.find w.workdir operand true with
    | .ok n => some (size n)
    | .error _ => none

/-- How wide `wc` writes its numbers. -/
def countWidth (columns : Nat) (sizes : List (Option (Option Nat))) : Nat :=
  let known := sizes.filterMap id
  if (sizes.length = 1 && columns = 1) || (sizes.head?.bind id).isNone then 1
  else
    let total := (known.filterMap id).foldl (· + ·) 0
    max (Text.Decimal.text total).length (if known.any Option.isNone then 7 else 1)

/-- `wc`: counts lines, words and octets. -/
def wc (c : Call) : Act Nat :=
  let table : OptionTable := ⟨"lwcmL", "", "",
    [("lines", 'l'), ("words", 'w'), ("bytes", 'c'), ("chars", 'm'), ("max-line-length", 'L')], false⟩
  c.reading table 1 fun a => do
    let has := fun (flag : Char) => a.has flag || (a.options.isEmpty && flag ≠ 'm' && flag ≠ 'L')
    let asked := fun (k : Counts) => ([('l', k.lines), ('w', k.words), ('m', k.octets), ('c', k.octets), ('L', k.widest)]
      ).filterMap fun e => if has e.1 then some e.2 else none
    let operands := sources a.operands
    let sizes ← operands.mapM sizeOf?
    let width := countWidth (asked .none).length sizes
    let show_ := fun (name : String) (k : Counts) =>
      c.put (" ".intercalate ((asked k).map fun n => right width (Text.Decimal.text n)) ++
        (if a.operands.isEmpty then "" else " " ++ Quoted.name name) ++ "\n")
    let (total, status) ← operands.foldlM (fun (total, status) operand => do
      let r ← withOperand operand fun descriptor => do
        let r ← feedPortions descriptor (fun k portion => return (portion.foldl Counts.next k, true)) Act.manyTries .none
        match r with
        | .ok k => return .ok (k, none)
        | .error e => return .ok (Counts.none, some e)
      match r with
      | .ok (k, failure) =>
        match failure with
        | some e => c.complain (Quoted.name operand ++ ": " ++ e.text)
        | none => pure ()
        show_ operand k
        return (total.plus k, if failure.isSome then 1 else status)
      | .error e =>
        c.complain (Quoted.name operand ++ ": " ++ e.error.text)
        return (total, 1)) (Counts.none, 0)
    if 1 < operands.length then show_ "total" total
    return status

/-- A number that an option tells, or what is said of it. -/
def numberOr (a : Arguments) (flag : Char) (default : Nat) (flaw : String → String) : Except String Nat :=
  match a.value? flag with
  | none => .ok default
  | some s =>
    match size? s with
    | some n => .ok n
    | none => .error (flaw s)

/-- Works through the lines of all operands, with a state that is kept from one to the next. -/
def throughLines {σ : Type} (c : Call) (operands : List String) (start : σ) (f : σ → List String → Act (σ × Bool)) :
    Act (σ × Nat) :=
  (sources operands).foldlM (fun (state, status) operand => do
    match ← withOperand operand fun descriptor => feedLines descriptor f Act.manyTries "" state with
    | .ok state => return (state, status)
    | .error e =>
      c.complain (Quoted.name operand ++ ": " ++ e.error.text)
      return (state, 1)) (start, 0)

/-- `nl`: writes lines with their numbers. -/
def nl (c : Call) : Act Nat :=
  let table : OptionTable := ⟨"p", "bdfhilnsvw", "", [("body-numbering", 'b'), ("number-width", 'w'),
    ("number-separator", 's'), ("starting-line-number", 'v'), ("line-increment", 'i'), ("number-format", 'n')], false⟩
  c.reading table 1 fun a => do
    let style := (a.value? 'b').getD "t"
    let number := fun flag default => (((a.value? flag).bind size?).getD default : Nat)
    let (width, step) := (number 'w' 6, number 'i' 1)
    let separator := (a.value? 's').getD "\t"
    let format := (a.value? 'n').getD "rn"
    let text := fun (n : Nat) =>
      let digits := Text.Decimal.text n
      if format = "ln" then left width digits
      else if format = "rz" then String.ofList (List.replicate (width - digits.length) '0') ++ digits
      else right width digits
    let (_, status) ← throughLines c a.operands (number 'v' 1) fun n ls => do
      let (n, shown) := ls.foldl (fun (n, shown) l =>
        let isCounted := style = "a" || (style = "t" && bare l ≠ "")
        if isCounted then (n + step, shown ++ text n ++ separator ++ bare l ++ "\n")
        else (n, shown ++ String.ofList (List.replicate (width + separator.length) ' ') ++ bare l ++ "\n")) (n, "")
      c.put shown
      return (n, true)
    return status

/-- The parts of a line that are not wider than a width. -/
def foldedLine (atBlanks : Bool) (width : Nat) : Nat → List Char → List (List Char)
  | 0, cs => [cs]
  | n + 1, cs =>
    if cs.length ≤ width then [cs]
    else
      let part := cs.take width
      let cut := if atBlanks then (part.reverse.dropWhile fun c => c ≠ ' ' && c ≠ '\t').length else 0
      let count := if cut = 0 then width else cut
      cs.take count :: foldedLine atBlanks width n (cs.drop count)

/-- `fold`: breaks long lines. -/
def fold (c : Call) : Act Nat :=
  c.reading ⟨"bs", "w", "", [("bytes", 'b'), ("spaces", 's'), ("width", 'w')], false⟩ 1 fun a => do
    match numberOr a 'w' 80 fun s => "invalid number of columns: " ++ Quoted.marked s with
    | .error text => c.refuse 1 text
    | .ok 0 => c.refuse 1 ("invalid number of columns: " ++ Quoted.marked "0")
    | .ok width =>
      let (_, status) ← throughLines c a.operands () fun () ls => do
        c.put (String.join (ls.map fun l =>
          let parts := foldedLine (a.has 's') width l.length (bare l).toList
          "\n".intercalate (parts.map String.ofList) ++ (if isEnded l then "\n" else "")))
        return ((), true)
      return status

/-! ## Fields -/

/-- Ranges in order, those that overlap as one. -/
def merged (ranges : List (Nat × Option Nat)) : List (Nat × Option Nat) :=
  let sorted := ranges.mergeSort fun a b => a.1 ≤ b.1
  (sorted.foldl (fun done r =>
    match done with
    | (low, high) :: rest =>
      match high with
      | none => done
      | some h =>
        if r.1 ≤ h then (low, r.2.map (max h)) :: rest else r :: done
    | [] => [r]) []).reverse

/-- What is between ranges. -/
def complementOf (ranges : List (Nat × Option Nat)) : List (Nat × Option Nat) :=
  let (next, done) := ranges.foldl (fun (next, done) (low, high) =>
    match next with
    | none => (none, done)
    | some n => (high.map (· + 1), if n < low then (n, some (low - 1)) :: done else done)) (some 1, [])
  (match next with
    | some n => (n, none) :: done
    | none => done).reverse

/-- The ranges that a list tells, or what is wrong with it. -/
def rangesOf (isFields : Bool) (list : String) : Except String (List (Nat × Option Nat)) :=
  let zero := if isFields then "fields are numbered from 1" else "byte/character positions are numbered from 1"
  let senseless := fun (s : String) =>
    (if isFields then "invalid field value " else "invalid byte/character position ") ++ Quoted.marked s
  let number := fun (s : String) =>
    if !s.isEmpty && s.toList.all Char.isDigit then
      let n := Text.Decimal.value s.toList
      if n = 0 then .error zero else .ok n
    else .error (senseless s)
  let parts := (list.splitOn ",").flatMap fun s => s.splitOn " "
  (parts.filter fun s => s ≠ "" || parts.length = 1).mapM fun part =>
    match part.splitOn "-" with
    | [one] => if one = "" then .error zero else (number one).map fun n => (n, some n)
    | ["", ""] => .error "invalid range with no endpoint: -"
    | [low, ""] => (number low).map fun n => (n, none)
    | ["", high] => (number high).map fun n => (1, some n)
    | [low, high] => do
      let (low, high) := (← number low, ← number high)
      if high < low then .error "invalid decreasing range" else return (low, some high)
    | _ => .error (if isFields then "invalid field range" else "invalid byte or character range")

/-- The parts of something that ranges select, range by range. -/
def selected {α : Type} (ranges : List (Nat × Option Nat)) (parts : List α) : List (List α) :=
  (ranges.map fun (low, high) =>
    let rest := parts.drop (low - 1)
    match high with
    | some high => rest.take (high + 1 - low)
    | none => rest).filter fun part => !part.isEmpty

/-- `cut`: writes parts of lines. -/
def cut (c : Call) : Act Nat :=
  let table : OptionTable := ⟨"nszC", "bcdfo", "", [("bytes", 'b'), ("characters", 'c'), ("fields", 'f'),
    ("delimiter", 'd'), ("only-delimited", 's'), ("output-delimiter", 'o'), ("complement", 'C')], false⟩
  c.reading table 1 fun a => do
    let lists := a.options.filter fun o => ['b', 'c', 'f'].contains o.1
    match lists with
    | [] => c.misused 1 "you must specify a list of bytes, characters, or fields"
    | _ :: _ :: _ => c.misused 1 "only one list may be specified"
    | [(flag, list)] =>
      let isFields := flag = 'f'
      let delimiter := (a.value? 'd').getD "\t"
      if 1 < delimiter.length then c.misused 1 "the delimiter must be a single character"
      else if !isFields && (a.value? 'd').isSome then
        c.misused 1 "an input delimiter may be specified only when operating on fields"
      else if !isFields && a.has 's' then
        c.misused 1 "suppressing non-delimited lines makes sense\n\tonly when operating on fields"
      else
        match rangesOf isFields (list.getD "") with
        | .error text => c.misused 1 text
        | .ok ranges =>
          let ranges := if a.has 'C' then complementOf (merged ranges) else merged ranges
          let separator := (a.value? 'o').getD (if isFields then delimiter else "")
          let delimiter := if delimiter.isEmpty then "\x00" else delimiter
          let (_, status) ← throughLines c a.operands () fun () ls => do
            c.put (String.join (ls.map fun l =>
              let l := bare l
              if isFields then
                let parts := l.splitOn delimiter
                if parts.length = 1 then if a.has 's' then "" else l ++ "\n"
                else separator.intercalate (selected ranges parts).flatten ++ "\n"
              else separator.intercalate ((selected ranges l.toList).map String.ofList) ++ "\n"))
            return ((), true)
          return status

/-- The delimiters that `paste` puts between lines, one after the other. -/
def delimitersOf : List Char → List String
  | [] => []
  | '\\' :: 'n' :: rest => "\n" :: delimitersOf rest
  | '\\' :: 't' :: rest => "\t" :: delimitersOf rest
  | '\\' :: '0' :: rest => "" :: delimitersOf rest
  | '\\' :: c :: rest => c.toString :: delimitersOf rest
  | c :: rest => c.toString :: delimitersOf rest

/-- Texts with delimiters between them, which come one after the other and start over. -/
def delimited (delimiters : List String) (texts : List String) : String :=
  let between := fun i => if delimiters.isEmpty then "" else delimiters[i % delimiters.length]?.getD ""
  String.join ((texts.zip (List.range texts.length)).map fun (t, i) => if i = 0 then t else between (i - 1) ++ t)

/-- `paste`: puts lines side by side. -/
def paste (c : Call) : Act Nat :=
  c.reading ⟨"sz", "d", "", [("serial", 's'), ("delimiters", 'd'), ("zero-terminated", 'z')], false⟩ 1 fun a => do
    let delimiters := delimitersOf ((a.value? 'd').getD "\t").toList
    let operands := sources a.operands
    let own := operands.filter (· ≠ "-")
    let read ← own.mapM fun operand => return (operand, ← contents operand)
    match read.find? fun e => match e.2 with
      | .error _ => true
      | .ok _ => false with
    | some (operand, .error e) => c.refuse 1 (Quoted.name operand ++ ": " ++ e.error.text)
    | _ =>
      let input ← if operands.contains "-" then contents "-" else pure (.ok "")
      let linesIn := fun (r : Except Failure String) => match r with
        | .ok text => (lines text).map bare
        | .error _ => []
      let shared := linesIn input
      let count := (operands.filter (· = "-")).length
      let isSerial := a.has 's'
      -- The standard input deals its lines out to all the dashes in turn.
      let dealt := fun (k : Nat) => if isSerial then if k = 0 then shared else []
        else ((shared.zip (List.range shared.length)).filter fun e => e.2 % count = k).map Prod.fst
      let (columns, _) := operands.foldl (fun (columns, k) operand =>
        if operand = "-" then (columns ++ [dealt k], k + 1)
        else (columns ++ [linesIn ((read.lookup operand).getD (.ok ""))], k)) (([] : List (List String)), 0)
      if isSerial then c.put (String.join (columns.map fun ls => delimited delimiters ls ++ "\n"))
      else
        let height := columns.foldl (fun n ls => max n ls.length) 0
        let columns := columns.map List.toArray
        c.put (String.join ((List.range height).map fun i =>
          delimited delimiters (columns.map fun column => column[i]?.getD "") ++ "\n"))
      return 0

/-! ## Neighbours -/

/-- The part of a line by which `uniq` compares it. -/
def comparedPart (fields chars : Nat) (width : Option Nat) (isFolded : Bool) (line : String) : List Char :=
  let isBlank := fun c => c = ' ' || c = '\t'
  let skipField := fun (cs : List Char) => (cs.dropWhile isBlank).dropWhile fun c => !isBlank c
  let cs := (List.range fields).foldl (fun cs _ => skipField cs) line.toList
  let cs := cs.drop chars
  let cs := width.elim cs cs.take
  if isFolded then cs.map Char.toUpper else cs

/-- Groups of lines that follow one another and are alike. -/
def alike (key : String → List Char) (ls : List String) : List (List String) :=
  (ls.foldl (fun (groups : List (List Char × List String)) l =>
    let k := key l
    match groups with
    | (held, group) :: rest => if held = k then (held, l :: group) :: rest else (k, [l]) :: groups
    | [] => [(k, [l])]) []).reverse.map fun g => g.2.reverse

/-- `uniq`: writes one of lines that are alike and follow one another. -/
def uniq (c : Call) : Act Nat :=
  let table : OptionTable := ⟨"cdDiuz", "fsw", "", [("count", 'c'), ("repeated", 'd'), ("ignore-case", 'i'),
    ("unique", 'u'), ("skip-fields", 'f'), ("skip-chars", 's'), ("check-chars", 'w')], false⟩
  c.reading table 1 fun a => do
    let flaw := fun (what s : String) => s ++ ": invalid number of " ++ what
    let numbers := do
      let fields ← numberOr a 'f' 0 (flaw "fields to skip")
      let chars ← numberOr a 's' 0 (flaw "bytes to skip")
      let width ← numberOr a 'w' 0 (flaw "bytes to compare")
      return (fields, chars, width)
    match numbers, a.operands with
    | .error text, _ => c.refuse 1 text
    | .ok _, _ :: _ :: extra :: _ => c.misused 1 ("extra operand " ++ Quoted.marked extra)
    | .ok (fields, chars, width), operands =>
      let operand := operands.headD "-"
      match ← contents operand with
      | .error (.opening e) => c.refuse 1 (Quoted.name operand ++ ": " ++ e.text)
      | .error (.reading e) => c.refuse 1 ("error reading " ++ Quoted.always operand ++ ": " ++ e.text)
      | .ok text =>
        let key := comparedPart fields chars (if a.has 'w' then some width else none) (a.has 'i')
        let groups := (alike key ((lines text).map bare)).filter fun g =>
          (!(a.has 'd' || a.has 'D') || 1 < g.length) && (!a.has 'u' || g.length = 1)
        let shown := String.join (groups.map fun g =>
          if a.has 'D' then String.join (g.map (·.push '\n'))
          else (if a.has 'c' then right 7 (Text.Decimal.text g.length) ++ " " else "") ++ g.headD "" ++ "\n")
        match operands with
        | [_, target] =>
          match ← Act.open target .writing 0o666 3 true with
          | .error e => c.refuse 1 (Quoted.name target ++ ": " ++ e.text)
          | .ok descriptor =>
            let _ ← Act.write descriptor (Octets.array shown)
            return 0
        | _ =>
          c.put shown
          return 0

/-- A part of what `comm` tells. -/
inductive Remark where
  | text (s : String)
  | unsorted (file : Nat)

/-- One of the files that `comm` compares: what it is called, what is left of it, the latest lines that were taken, and
whether it was found out of order. -/
structure Column where
  number : Nat
  left : List String
  taken : List String
  isUnsorted : Bool

/-- How `comm` checks the order of lines: never, always, or as soon as the files differ. -/
inductive OrderCheck where
  | never
  | always
  | ifUneven
  deriving DecidableEq

/-- A column behind its next line, and what there is to tell of the order of its lines. -/
def Column.next (k : Column) (isWatched : Bool) : Column × List Remark :=
  match k.left with
  | [] => (k, [])
  | line :: left =>
    let isWrong := match left, k.taken with
      | next :: _, _ => decide (next < line)
      | [], before :: _ => decide (line < before)
      | [], [] => false
    let isTold := isWatched && isWrong && !k.isUnsorted
    ({ k with left, taken := [line], isUnsorted := k.isUnsorted || isTold }, if isTold then [.unsorted k.number] else [])

/-- Compares sorted lines, in so many steps at most. Answers what is told, and how many lines there are of each kind. -/
def compareLines (shown : Nat → String → String) (check : OrderCheck) :
    Nat → Bool → Column → Column → List Remark × (Nat × Nat × Nat)
  | 0, _, _, _ => ([], 0, 0, 0)
  | n + 1, isUneven, a, b =>
    let goOn := fun (isUneven : Bool) (kind : Nat) (line : String) =>
      let isWatched := check = .always || (check = .ifUneven && isUneven)
      let (a, ofA) := if kind = 2 then (a, []) else a.next isWatched
      let (b, ofB) := if kind = 1 then (b, []) else b.next isWatched
      let (remarks, first, second, both) := compareLines shown check n isUneven a b
      (.text (shown kind line) :: ofA ++ ofB ++ remarks,
        if kind = 1 then (first + 1, second, both) else if kind = 2 then (first, second + 1, both) else (first, second, both + 1))
    match a.left, b.left with
    | [], [] => ([], 0, 0, 0)
    | x :: _, [] => goOn true 1 x
    | [], y :: _ => goOn true 2 y
    | x :: _, y :: _ => if x = y then goOn isUneven 3 x else if x < y then goOn true 1 x else goOn true 2 y

/-- `comm`: writes the lines of two files in columns: those of one, those of the other, and those of both. -/
def comm (c : Call) : Act Nat :=
  let table : OptionTable := ⟨"123zknt", "o", "",
    [("check-order", 'k'), ("nocheck-order", 'n'), ("output-delimiter", 'o'), ("total", 't'), ("zero-terminated", 'z')], false⟩
  c.reading table 1 fun a => do
    match a.operands with
    | [first, second] =>
      match ← contents first, ← contents second with
      | .error e, _ => c.refuse 1 (Quoted.name first ++ ": " ++ e.error.text)
      | _, .error e => c.refuse 1 (Quoted.name second ++ ": " ++ e.error.text)
      | .ok x, .ok y =>
        let separator := (a.value? 'o').getD "\t"
        let isShown := fun (n : Nat) => !a.has (Char.ofNat (48 + n))
        let shown := fun (column : Nat) (l : String) =>
          let before := (List.range column).filter fun n => n ≠ 0 && isShown n
          if isShown column then String.join (before.map fun _ => separator) ++ l ++ "\n" else ""
        let check : OrderCheck := match a.last? ['k', 'n'] with
          | some 'k' => .always
          | some _ => .never
          | none => .ifUneven
        let (xs, ys) := ((lines x).map bare, (lines y).map bare)
        let (remarks, counts) := compareLines shown check (xs.length + ys.length + 1) false ⟨1, xs, [], false⟩ ⟨2, ys, [], false⟩
        let mut text := ""
        let mut isUnsorted := false
        for remark in remarks do
          match remark with
          | .text s => text := text ++ s
          | .unsorted file =>
            c.put text
            text := ""
            isUnsorted := true
            c.complain ("file " ++ Text.Decimal.text file ++ " is not in sorted order")
            if check = .always then Act.quit (.exited 1)
        if a.has 't' then
          let number := Text.Decimal.text
          text := text ++ separator.intercalate [number counts.1, number counts.2.1, number counts.2.2, "total\n"]
        c.put text
        if isUnsorted then c.refuse 1 "input is not in sorted order" else return 0
    | operands => c.miscounted 1 operands 2

/-- No ranges are merged to none. -/
theorem merged_nil : merged [] = [] := by simp [merged]

end RunLedger.Sandbox.Program
