import RunLedger.Sandbox.Program.Stream

/-!
# Programs that copy texts

What is read goes out again: all of it, its first or last part, turned around, or with marks.

* `extentOf_none`: ten lines are written if nothing is said.
-/

namespace RunLedger.Sandbox.Program

/-! ## Whole texts -/

/-- Where in a text `cat` is. -/
structure Course where
  /-- The number of the next line. -/
  number : Nat
  isLineStart : Bool
  /-- How many empty lines came one after the other. -/
  blanks : Nat

/-- What `cat` adds to a text. -/
structure Marking where
  counts : Bool
  countsFilled : Bool
  squeezes : Bool
  marksEnds : Bool
  marksTabs : Bool
  marksHidden : Bool

/-- An octet, made visible. -/
def visible (k : Marking) (c : Char) : String :=
  let low := fun (c : Char) => if c < ' ' then "^" ++ (Char.ofNat (c.toNat + 64)).toString else if c = '\x7f' then "^?" else c.toString
  if c = '\t' then if k.marksTabs then "^I" else "\t"
  else if !k.marksHidden then c.toString
  else if c.toNat < 128 then low c
  else "M-" ++ low (Char.ofNat (c.toNat - 128))

/-- One octet as `cat` shows it. -/
def shown (k : Marking) (state : Course × String) (c : Char) : Course × String :=
  let (p, text) := state
  if c = '\n' then
    if p.isLineStart && k.squeezes && 1 ≤ p.blanks then (p, text)
    else
      let isCounted := p.isLineStart && k.counts && !k.countsFilled
      let front := if isCounted then right 6 (Text.Decimal.text p.number) ++ "\t" else ""
      (⟨if isCounted then p.number + 1 else p.number, true, if p.isLineStart then p.blanks + 1 else 0⟩,
        text ++ front ++ (if k.marksEnds then "$\n" else "\n"))
  else
    let isCounted := p.isLineStart && (k.counts || k.countsFilled)
    let front := if isCounted then right 6 (Text.Decimal.text p.number) ++ "\t" else ""
    (⟨if isCounted then p.number + 1 else p.number, false, 0⟩, text ++ front ++ visible k c)

/-- Whether what a descriptor leads to is the file that the standard output goes to, with something left to read. -/
def isOwnOutput (descriptor : Nat) : Act Bool := Act.look fun w =>
  match w.open? descriptor, w.open? 1 with
  | some (_, a), some (_, b) =>
    match a.target, b.target with
    | .inode n, .inode m => n = m && w.tree.holds n Content.isFile && a.position < (w.tree.octets n).size
    | _, _ => false
  | _, _ => false

/-- `cat`: writes its operands one after the other. -/
def cat (c : Call) : Act Nat :=
  let table : OptionTable := ⟨"AbeEnstTuv", "", "",
    [("number-nonblank", 'b'), ("number", 'n'), ("squeeze-blank", 's'), ("show-nonprinting", 'v'), ("show-ends", 'E'),
      ("show-tabs", 'T'), ("show-all", 'A')], false⟩
  c.reading table 1 fun a => do
    let any := fun (flags : List Char) => flags.any a.has
    let k : Marking := ⟨a.has 'n', a.has 'b', a.has 's', any ['e', 'E', 'A'], any ['t', 'T', 'A'], any ['v', 'e', 't', 'A']⟩
    let isPlain := !any ['n', 'b', 's', 'e', 'E', 't', 'T', 'v', 'A']
    let (_, status) ← (sources a.operands).foldlM (fun (place, status) operand => do
      let result ← withOperand operand fun descriptor => do
        if ← isOwnOutput descriptor then return .ok none
        else
          let r ← feedPortions descriptor (fun place portion => do
            if isPlain then
              c.put portion
              return (place, true)
            else
              let (place, text) := portion.foldl (shown k) (place, "")
              c.put text
              return (place, true)) Act.manyTries place
          return r.map some
      match result with
      | .ok (some place) => return (place, status)
      | .ok none =>
        c.complain (Quoted.name operand ++ ": input file is output file")
        return (place, 1)
      | .error e =>
        c.complain (Quoted.name operand ++ ": " ++ e.error.text)
        return (place, 1)) ((⟨1, true, 0⟩ : Course), 0)
    return status

/-- `tee`: writes its input to the standard output and to files. -/
def tee (c : Call) : Act Nat :=
  c.reading ⟨"ai", "", "p", [("append", 'a'), ("ignore-interrupts", 'i'), ("output-error", 'p')], false⟩ 1 fun a => do
    if a.has 'i' then Act.alter fun p => { p with ignored := Signal.interrupt :: p.ignored }
    if a.has 'p' then Act.alter fun p => { p with ignored := Signal.pipe :: p.ignored }
    let mut opened : List (String × Nat) := []
    let mut status := 0
    for path in a.operands do
      match ← Act.open path (if a.has 'a' then .appending else .writing) 0o666 3 true with
      | .ok descriptor => opened := opened ++ [(path, descriptor)]
      | .error e =>
        c.complain (Quoted.name path ++ ": " ++ e.text)
        status := 1
    let r ← feedPortions 0 (fun (targets, failures) portion => do
      let left ← targets.filterM fun (path, descriptor) => do
        match ← Act.write descriptor (Octets.array portion) with
        | .ok () => return true
        | .error e =>
          c.complain (Quoted.name path ++ ": " ++ e.text)
          return false
      return ((left, failures + targets.length - left.length), !left.isEmpty))
      Act.manyTries (("standard output", 1) :: opened, status)
    match r with
    | .ok (_, failures) => return min failures 1
    | .error e => c.refuse 1 ("read error: " ++ e.text)

/-- Writes octets again and again, so often at most. -/
def putAgain (c : Call) (octets : ByteArray) : Nat → Act Nat
  | 0 => return 0
  | n + 1 => do
    match ← Act.write 1 octets with
    | .ok () => putAgain c octets n
    | .error e => c.refuse 1 ("standard output: " ++ e.text)

/-- `yes`: writes a line again and again. -/
def yes (c : Call) : Act Nat :=
  c.reading ⟨"", "", "", [], false⟩ 1 fun a => do
    let line := (if a.operands.isEmpty then "y" else " ".intercalate a.operands) ++ "\n"
    putAgain c (Octets.array (String.join (List.replicate (8192 / line.length + 1) line))) Act.manyTries

/-! ## Parts of texts -/

/-- How much of a text `head` and `tail` write: a number of lines or octets, and the sign in front of it. -/
structure Extent where
  isOctets : Bool
  sign : Option Char
  count : Nat

/-- The extent that options tell, or what is wrong with them. -/
def extentOf (a : Arguments) : Except String Extent :=
  let read := fun (isOctets : Bool) (s : String) =>
    let (sign, digits) := match s.toList with
      | '-' :: ds => (some '-', String.ofList ds)
      | '+' :: ds => (some '+', String.ofList ds)
      | _ => (none, s)
    match size? digits with
    | some count => .ok (⟨isOctets, sign, count⟩ : Extent)
    | none => .error ("invalid number of " ++ (if isOctets then "bytes: " else "lines: ") ++ Quoted.marked digits)
  match a.options.reverse.find? fun o => o.1 = 'c' || o.1 = 'n' with
  | some (c, some s) => read (c = 'c') s
  | _ => .ok ⟨false, none, 10⟩

/-- Whether what follows a number alone behind a dash lets `tail` take it for a count. -/
def leavesCount : List String → Bool
  | [] => true
  | "--" :: rest => rest.length ≤ 1
  | [operand] => operand = "-" || !operand.startsWith "-"
  | _ => false

/-- The arguments of `head` and `tail`, with a number alone behind a dash, or a plus sign, spelled out. -/
def spelledOut (isTail : Bool) (arguments : List String) : List String :=
  match arguments with
  | word :: rest =>
    match word.toList with
    | sign :: d :: ds =>
      let digits := (d :: ds).takeWhile Char.isDigit
      let letters := (d :: ds).drop digits.length
      let isCount := !digits.isEmpty && (letters = [] || letters = ['l'] || letters = ['c'])
      let flag := if letters = ['c'] then "-c" else "-n"
      if sign = '-' && isCount && (!isTail || leavesCount rest) then flag :: String.ofList digits :: rest
      else if sign = '+' && isTail && isCount && leavesCount rest then flag :: String.ofList ('+' :: digits) :: rest
      else arguments
    | _ => arguments
  | [] => []

/-- The options of `head` and `tail`. -/
def partTable : OptionTable := ⟨"qvzfF", "ncs", "", [("lines", 'n'), ("bytes", 'c'), ("quiet", 'q'), ("silent", 'q'),
  ("verbose", 'v'), ("zero-terminated", 'z'), ("follow", 'f')], false⟩

/-- The name of an operand in a heading. -/
def headingName (operand : String) : String := if operand = "-" then "standard input" else operand

/-- Reads operands one after the other under headings. What cannot be read is told of. -/
def underHeadings (c : Call) (a : Arguments) (f : Nat → Act (Except IoError Unit)) : Act Nat := do
  let operands := sources a.operands
  let isHeaded := match a.last? ['q', 'v'] with
    | some 'v' => true
    | some _ => false
    | none => 1 < operands.length
  let (_, status) ← operands.foldlM (fun (isFirst, status) operand => do
    let name := headingName operand
    let heading := if isHeaded then (if isFirst then "" else "\n") ++ "==> " ++ name ++ " <==\n" else ""
    match ← withOperand operand fun descriptor => do
      c.put heading
      f descriptor with
    | .ok () => return (false, status)
    | .error (.opening e) =>
      c.complain ("cannot open " ++ Quoted.always operand ++ " for reading: " ++ e.text)
      return (isFirst, 1)
    | .error (.reading e) =>
      c.complain ("error reading " ++ Quoted.always name ++ ": " ++ e.text)
      return (false, 1)) (true, 0)
  return status

/-- Puts what was read too much of a file back. -/
def giveBack (descriptor count : Nat) : Act Unit := Act.change fun w =>
  match w.open? descriptor with
  | some (place, file) =>
    match file.target with
    | .inode _ => w.seek place (file.position - count)
    | .pipe _ => w
  | none => w

/-- Writes the first lines or octets of what a descriptor leads to, as they are read. -/
def putFirst (c : Call) (isOctets : Bool) (count : Nat) (descriptor : Nat) : Act (Except IoError Unit) := do
  if count = 0 then return .ok ()
  else
    let r ← feedPortions descriptor (fun left portion => do
      if isOctets then
        let part := String.ofList (portion.toList.take left)
        c.put part
        giveBack descriptor (portion.length - part.length)
        return (left - part.length, 0 < left - part.length)
      else
        let all := lines portion
        let ended := (all.filter isEnded).length
        let part := String.join (if left ≤ ended then all.take left else all)
        c.put part
        giveBack descriptor (portion.length - part.length)
        return (left - ended, 0 < left - ended)) Act.manyTries count
    return r.map fun _ => ()

/-- Writes a part of all that a descriptor leads to. -/
def putPart (c : Call) (isOctets : Bool) (choose : {α : Type} → List α → List α) (descriptor : Nat) :
    Act (Except IoError Unit) := do
  match ← Act.readAll descriptor with
  | .error e => return .error e
  | .ok octets =>
    let text := Octets.ofArray octets
    c.put (if isOctets then String.ofList (choose text.toList) else String.join (choose (lines text)))
    return .ok ()

/-- `head`: writes the first lines or octets. -/
def head (c : Call) : Act Nat :=
  ({ c with argv := c.name :: spelledOut false c.arguments } : Call).reading partTable 1 fun a => do
    match extentOf a with
    | .error text => c.refuse 1 text
    | .ok e =>
      underHeadings c a (if e.sign = some '-' then
        putPart c e.isOctets fun parts => parts.take (parts.length - e.count)
      else putFirst c e.isOctets e.count)

/-- `tail`: writes the last lines or octets. -/
def tail (c : Call) : Act Nat :=
  let table : OptionTable := { partTable with flags := partTable.flags ++ "0123456789" }
  ({ c with argv := c.name :: spelledOut true c.arguments } : Call).reading table 1 fun a => do
    match extentOf a, a.options.find? fun o => o.1.isDigit with
    | _, some (digit, _) => c.refuse 1 ("option used in invalid context -- " ++ digit.toString)
    | .error text, none => c.refuse 1 text
    | .ok e, none =>
      let status ← underHeadings c a (putPart c e.isOctets (if e.sign = some '+' then
        fun parts => parts.drop (e.count - 1)
      else fun parts => parts.drop (parts.length - e.count)))
      if (a.has 'f' || a.has 'F') && !a.operands.isEmpty then Act.await fun w => (none, w)
      else return status

/-! ## Texts turned around -/

/-- `tac`: writes the lines of each operand, the last one first. -/
def tac (c : Call) : Act Nat :=
  c.reading ⟨"br", "s", "", [("before", 'b'), ("regex", 'r'), ("separator", 's')], false⟩ 1 fun a =>
    each 1 (fun operand => do
      match ← contents operand with
      | .ok text =>
        c.put (String.join (lines text).reverse)
        return true
      | .error (.opening e) =>
        c.complain ("failed to open " ++ Quoted.always operand ++ " for reading: " ++ e.text)
        return false
      | .error (.reading e) =>
        c.complain (Quoted.name operand ++ ": read error: " ++ e.text)
        return false) (sources a.operands)

/-- `rev`: writes each line turned around. -/
def rev (c : Call) : Act Nat :=
  c.reading ⟨"0", "", "", [], false⟩ 1 fun a =>
    each 1 (fun operand => do
      match ← withOperand operand fun descriptor =>
        feedLines descriptor (fun () ls => do
          c.put (String.join (ls.map fun l =>
            String.ofList (bare l).toList.reverse ++ (if isEnded l then "\n" else "")))
          return ((), true)) Act.manyTries "" () with
      | .ok () => return true
      | .error e =>
        c.complain ("cannot open " ++ operand ++ ": " ++ e.error.text)
        return false) (sources a.operands)

/-- Ten lines are written if nothing is said. -/
theorem extentOf_none : extentOf .none = .ok ⟨false, none, 10⟩ := rfl

end RunLedger.Sandbox.Program
