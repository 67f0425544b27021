import RunLedger.Sandbox.Pattern
import RunLedger.Sandbox.Program.Stream

/-!
# Programs that exchange characters

`tr` reads two sets of characters, written in a small language of ranges, classes and repetitions, and puts the characters
of one in place of those of the other, takes them away, or makes one of many.

* `padded_nil`: an empty set stays empty.
-/

namespace RunLedger.Sandbox.Program

/-- A part of a set of characters. -/
inductive SetPart where
  | char (c : Char)
  | range (low high : Char)
  | class (name : String)
  | same (c : Char)
  /-- A character so often, or as often as it takes. -/
  | again (c : Char) (count : Option Nat)
  deriving DecidableEq

/-- A character that is written behind a backslash, and what follows it. -/
def escapedChar : List Char → Char × List Char
  | [] => ('\\', [])
  | c :: cs =>
    let digits := ((c :: cs).take 3).takeWhile fun d => '0' ≤ d && d ≤ '7'
    if digits.isEmpty then
      match Quoted.letters.find? fun e => e.2 = c with
      | some (hidden, _) => (hidden, cs)
      | none => (c, cs)
    else
      let n := digits.foldl (fun n d => n * 8 + (d.toNat - 48)) 0
      if n < 256 then (Char.ofNat n, (c :: cs).drop digits.length)
      else (Char.ofNat (n / 8), (c :: cs).drop (digits.length - 1))

/-- The next character and what follows it, with whether it stands for itself. -/
def setChar? : List Char → Option (Char × Bool × List Char)
  | [] => none
  | '\\' :: rest =>
    let (c, rest) := escapedChar rest
    some (c, true, rest)
  | c :: rest => some (c, false, rest)

/-- The count of a repetition, if digits write one. -/
def repetition? (digits : List Char) : Option (Option Nat) :=
  if digits.isEmpty then some none
  else if !digits.all Char.isDigit then none
  else
    let n := if digits.head? = some '0' then digits.foldl (fun n d => n * 8 + (d.toNat - 48)) 0
      else Text.Decimal.value digits
    some (if n = 0 then none else some n)

/-- A construct behind an opening bracket, and what follows it. -/
def bracketPart? (cs : List Char) : Option (Except String (SetPart × List Char)) :=
  match cs with
  | ':' :: rest =>
    let name := rest.takeWhile (· ≠ ':')
    match rest.drop name.length with
    | ':' :: ']' :: rest =>
      let name := String.ofList name
      some (if (Pattern.namedClass? name).isSome then .ok (.class name, rest)
        else .error ("invalid character class " ++ Quoted.marked name))
    | _ => none
  | '=' :: rest =>
    match setChar? rest with
    | some (c, _, '=' :: ']' :: rest) => some (.ok (.same c, rest))
    | _ => none
  | cs =>
    match setChar? cs with
    | some (c, _, '*' :: rest) =>
      let digits := rest.takeWhile (· ≠ ']')
      match rest.drop digits.length with
      | ']' :: rest => (repetition? digits).map fun count => .ok (.again c count, rest)
      | _ => none
    | _ => none

/-- Reads a set, as many parts as there is fuel for. -/
def setParts : Nat → List Char → Except String (List SetPart)
  | 0, _ => .ok []
  | n + 1, cs =>
    let construct := match cs with
      | '[' :: rest => bracketPart? rest
      | _ => none
    match construct with
    | some (.error text) => .error text
    | some (.ok (part, rest)) => (setParts n rest).map (part :: ·)
    | none =>
      match setChar? cs with
      | none => .ok []
      | some (low, _, '-' :: rest) =>
        match setChar? rest with
        | none => .ok [.char low, .char '-']
        | some (high, _, rest) =>
          if high < low then
            .error ("range-endpoints of '" ++ low.toString ++ "-" ++ high.toString ++
              "' are in reverse collating sequence order")
          else (setParts n rest).map (.range low high :: ·)
      | some (c, _, rest) => (setParts n rest).map (.char c :: ·)

/-- The characters from one to another. -/
def charsBetween (low high : Char) : List Char :=
  (List.range (high.toNat + 1 - low.toNat)).map fun i => Char.ofNat (low.toNat + i)

/-- All octets. -/
def allChars : List Char := charsBetween '\x00' (Char.ofNat 255)

/-- The characters of a class, in order. -/
def classChars (name : String) : List Char :=
  let ranges := (Pattern.namedClass? name).getD []
  allChars.filter fun c => ranges.any fun (low, high) => low ≤ c && c ≤ high

/-- The characters of a part. -/
def SetPart.chars : SetPart → List Char
  | .char c | .same c => [c]
  | .range low high => charsBetween low high
  | .class name => classChars name
  | .again c count => List.replicate (count.getD 0) c

/-- The characters of parts, where a repetition without a count fills up a length. -/
def fillUp (length : Nat) (parts : List SetPart) : List Char :=
  let fixed := (parts.flatMap SetPart.chars).length
  parts.flatMap fun
    | .again c none => List.replicate (length - fixed) c
    | part => part.chars

/-- Whether a part is the class of small letters or of capitals. -/
def SetPart.isCase : SetPart → Bool
  | .class name => name = "lower" || name = "upper"
  | _ => false

/-- Whether each class of letters in the second set stands where there is one in the first. -/
def isAligned (first second : List SetPart) : Bool :=
  let starts := fun (parts : List SetPart) => (parts.foldl (fun (place, found) part =>
    (place + part.chars.length, if part.isCase then place :: found else found)) (0, ([] : List Nat))).2
  (starts second).all fun place => (starts first).contains place

/-- What is wrong with sets to be exchanged for one another. -/
def flawOf? (isComplement isTruncated : Bool) (first second : List SetPart) : Option String :=
  let isOpen := fun part => match part with
    | SetPart.again _ none => true
    | _ => false
  if 1 < (second.filter isOpen).length then some "only one [c*] repeat construct may appear in string2"
  else if second.any fun part => match part with
    | .same _ => true
    | _ => false then some "[=c=] expressions may not appear in string2 when translating"
  else if second.any fun part => match part with
    | .class _ => !part.isCase
    | _ => false then
    some "when translating, the only character classes that may appear in\nstring2 are 'upper' and 'lower'"
  else if !isAligned first second then some "misaligned [:upper:] and/or [:lower:] construct"
  else if !isTruncated && (fillUp 1 second).isEmpty then
    some "when not truncating set1, string2 must be non-empty"
  else if isComplement && (first.any fun part => match part with
    | .class _ => true
    | _ => false) && 1 < (fillUp 1 second).eraseDups.length then
    some "when translating with complemented character classes,\nstring2 must map all characters in the domain to one"
  else none

/-- A set as long as another one: its last character comes again. -/
def padded (length : Nat) (cs : List Char) : List Char :=
  match cs.getLast? with
  | some last => cs ++ List.replicate (length - cs.length) last
  | none => []

/-- How `tr` works on an octet. -/
structure Exchange where
  deleted : Array Bool
  table : Array Char
  squeezed : Array Bool

/-- A table that tells for each octet whether it is among some. -/
def marks (cs : List Char) : Array Bool :=
  cs.foldl (fun t c => t.setIfInBounds c.toNat true) (Array.replicate 256 false)

/-- A portion as it goes out, and its last character, given the last one before. -/
def exchanged (e : Exchange) (last : Option Char) (portion : String) : Option Char × String :=
  portion.foldl (fun (last, text) c =>
    if e.deleted.getD c.toNat false then (last, text)
    else
      let c := e.table.getD c.toNat c
      if last = some c && e.squeezed.getD c.toNat false then (last, text) else (some c, text.push c)) (last, "")

/-- The exchange that sets ask for, or what is wrong with them. -/
def exchangeOf (isComplement deletes squeezes isTruncated : Bool) (first : List SetPart) (second? : Option (List SetPart)) :
    Except String Exchange :=
  if first.any fun part => match part with
    | .again _ _ => true
    | _ => false then .error "the [c*] repeat construct may not appear in string1"
  else
    let named := first.flatMap SetPart.chars
    let source := if isComplement then allChars.filter fun c => !named.contains c else named
    let same := allChars.toArray
    match second? with
    | none => .ok ⟨marks (if deletes then source else []), same, marks (if squeezes && !deletes then source else [])⟩
    | some second =>
      if deletes then .ok ⟨marks source, same, marks (fillUp source.length second)⟩
      else
        match flawOf? isComplement isTruncated first second with
        | some text => .error text
        | none =>
          let target := fillUp source.length second
          let target := if isTruncated then target else padded source.length target
          let table := (source.zip target).foldl (fun t (c, d) => t.setIfInBounds c.toNat d) same
          .ok ⟨marks [], table, marks (if squeezes then target else [])⟩

/-- `tr`: exchanges characters. -/
def tr (c : Call) : Act Nat :=
  let table : OptionTable := ⟨"cCdst", "", "", [("complement", 'c'), ("delete", 'd'), ("squeeze-repeats", 's'),
    ("truncate-set1", 't')], true⟩
  c.reading table 1 fun a => do
    let (deletes, squeezes) := (a.has 'd', a.has 's')
    let least := if deletes == squeezes then 2 else 1
    let most := if deletes && !squeezes then 1 else 2
    let note := fun (text : String) => do
      if !text.isEmpty then Call.tell (text ++ "\n")
      c.misused 1 ""
    match a.operands with
    | [] => c.misused 1 "missing operand"
    | operands =>
      if operands.length < least then
        c.complain ("missing operand after " ++ Quoted.marked (operands.getLastD ""))
        note (if squeezes then "Two strings must be given when both deleting and squeezing repeats."
          else "Two strings must be given when translating.")
      else if most < operands.length then
        c.complain ("extra operand " ++ Quoted.marked (operands[most]?.getD ""))
        note (if operands.length = 2 then "Only one string may be given when deleting without squeezing repeats." else "")
      else
        let parts := operands.mapM fun s => setParts (s.length + 1) s.toList
        let exchange := parts.bind fun parts =>
          exchangeOf (a.has 'c' || a.has 'C') deletes squeezes (a.has 't') (parts.headD []) parts[1]?
        match exchange with
        | .error text => c.refuse 1 text
        | .ok e =>
          let r ← feedPortions 0 (fun last portion => do
            let (last, text) := exchanged e last portion
            c.put text
            return (last, true)) Act.manyTries none
          match r with
          | .ok _ => return 0
          | .error e => c.refuse 1 ("read error: " ++ e.text)

/-- An empty set stays empty. -/
theorem padded_nil (length : Nat) : padded length [] = [] := rfl

end RunLedger.Sandbox.Program
