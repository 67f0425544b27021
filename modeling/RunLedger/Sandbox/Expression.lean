import RunLedger.Sandbox.Pattern
import RunLedger.Text.Decimal
import Std.Data.HashSet.Basic

/-!
# Expressions

Regular expressions, and where they are found in a text: at the first place possible, and there as far as possible. Of the
parts of an expression the earlier ones reach as far as they can.

* `runs_empty`: the empty expression goes nowhere.
* `one_run`: an item takes one character that it stands for.
-/

namespace RunLedger.Sandbox

/-- A regular expression. -/
inductive Expression where
  | empty
  | one (item : PatternItem)
  /-- The start of the text, and its end. -/
  | start
  | finish
  /-- The start of a word, its end, either of them, and no such place. -/
  | wordStart
  | wordEnd
  | edge
  | inside
  | both (a b : Expression)
  | either (a b : Expression)
  | many (least : Nat) (most : Option Nat) (body : Expression)
  | group (number : Nat) (body : Expression)
  /-- What a group was. -/
  | again (number : Nat)
  deriving Repr

namespace Expression

/-! ## Matching -/

/-- A place in a text, and where groups begin and end that were passed. -/
structure Place where
  position : Nat
  groups : List (Nat × Nat × Nat)
  deriving Repr, DecidableEq

/-- The text that an expression is looked for in. -/
structure Ground where
  text : Array Char
  /-- Whether small and capital letters are the same. -/
  isFolded : Bool
  /-- Whether each line is a text of its own for starts and ends. -/
  isLined : Bool
  /-- Whether a place stands for itself, whatever groups were passed. -/
  isForgetful : Bool

/-- Whether a character belongs to a word. -/
def isWord (c : Char) : Bool := c.isAlphanum || c = '_'

/-- Whether there is a word in front of a place. -/
def Ground.isAfterWord (g : Ground) (i : Nat) : Bool := 0 < i && (g.text[i - 1]?).any isWord

/-- Whether there is a word behind a place. -/
def Ground.isBeforeWord (g : Ground) (i : Nat) : Bool := (g.text[i]?).any isWord

/-- Whether an item stands for a character of the text. -/
def Ground.admits (g : Ground) (item : PatternItem) (c : Char) : Bool :=
  Pattern.admits c item || (g.isFolded && (Pattern.admits c.toLower item || Pattern.admits c.toUpper item))

/-- Whether two parts of the text are the same. -/
def Ground.isSame (g : Ground) (i j length : Nat) : Bool :=
  (List.range length).all fun k =>
    match g.text[i + k]?, g.text[j + k]? with
    | some a, some b => a = b || (g.isFolded && a.toLower = b.toLower)
    | _, _ => false

/-- Places that were found, the last one first, and their positions. -/
structure Finding where
  places : List Place := []
  positions : Std.HashSet Nat := {}

/-- Whether a place stands for one that was found. -/
def Ground.knows (g : Ground) (f : Finding) (p : Place) : Bool :=
  f.positions.contains p.position && (g.isForgetful || f.places.contains p)

/-- What was found with more places, and which of them are new. -/
def Ground.note (g : Ground) (f : Finding) (places : List Place) : Finding × List Place :=
  let (f, fresh) := places.foldl (fun (f, fresh) p =>
    if g.knows f p then (f, fresh) else (⟨p :: f.places, f.positions.insert p.position⟩, p :: fresh)) (f, [])
  (f, fresh.reverse)

/-- The places without those that stand for earlier ones. -/
def Ground.distinct (g : Ground) (places : List Place) : List Place :=
  match places with
  | [] | [_] => places
  | _ => (g.note {} places).2

/-- Places, those that are farther first. -/
def farthestFirst (places : List Place) : List Place := places.mergeSort fun p q => q.position ≤ p.position

/-- What a body leads to when it is repeated, by layers: how often it was, where it led then, and what was found. Only from
new places it goes on. -/
def layers (g : Ground) (body : List Place → List Place) (least : Nat) (most : Option Nat) :
    Nat → Nat → List Place → Finding → Finding
  | 0, _, _, found => found
  | n + 1, count, here, found =>
    let (found, fresh) := if least ≤ count then g.note found here else (found, here)
    if most.any (· ≤ count) || fresh.isEmpty then found
    else layers g body least most n (count + 1) (g.distinct (body fresh)) found

/-- The places that a body leads to from places when it is repeated. Where it may be repeated without end, what an earlier
place leads to need not be found again: everything farther on was found with it. -/
def repetitions (g : Ground) (body : List Place → List Place) (least : Nat) (most : Option Nat) (places : List Place) :
    List Place :=
  let isShared := g.isForgetful && most.isNone
  g.distinct ((places.foldl (fun (found, reached) p =>
    let f := layers g body least most (g.text.size + least + 2) 0 [p] ⟨[], if isShared then found else {}⟩
    (f.positions, farthestFirst f.places.reverse :: reached)) (({} : Std.HashSet Nat), [])).2.reverse.flatten)

/-- The places that an expression leads to from places, those to be preferred first. -/
def runs (g : Ground) : Expression → List Place → List Place
  | .empty, ps => ps
  | .one item, ps => ps.filterMap fun p =>
    match g.text[p.position]? with
    | some c => if g.admits item c then some { p with position := p.position + 1 } else none
    | none => none
  | .start, ps => ps.filter fun p => p.position = 0 || (g.isLined && g.text[p.position - 1]? = some '\n')
  | .finish, ps => ps.filter fun p => p.position = g.text.size || (g.isLined && g.text[p.position]? = some '\n')
  | .wordStart, ps => ps.filter fun p => !g.isAfterWord p.position && g.isBeforeWord p.position
  | .wordEnd, ps => ps.filter fun p => g.isAfterWord p.position && !g.isBeforeWord p.position
  | .edge, ps => ps.filter fun p => g.isAfterWord p.position != g.isBeforeWord p.position
  | .inside, ps => ps.filter fun p => g.isAfterWord p.position == g.isBeforeWord p.position
  | .both a b, ps => runs g b (runs g a ps)
  | .either a b, ps => g.distinct (ps.flatMap fun p => farthestFirst (runs g a [p] ++ runs g b [p]))
  | .many least most body, ps => repetitions g (runs g body) least most ps
  | .group number body, ps =>
    g.distinct (ps.flatMap fun p => (runs g body [p]).map fun q =>
      { q with groups := (number, p.position, q.position) :: q.groups.filter fun e => e.1 ≠ number })
  | .again number, ps => ps.filterMap fun p =>
    match p.groups.lookup number with
    | some (low, high) =>
      if p.position + (high - low) ≤ g.text.size && g.isSame low p.position (high - low) then
        some { p with position := p.position + (high - low) }
      else none
    | none => none

/-- Whether an expression asks what a group was. -/
def hasAgain : Expression → Bool
  | .both a b | .either a b => a.hasAgain || b.hasAgain
  | .many _ _ a | .group _ a => a.hasAgain
  | .again _ => true
  | _ => false

/-- Where an expression was found: from where to where, and its groups. -/
structure Match where
  start : Nat
  stop : Nat
  groups : List (Nat × Nat × Nat)
  deriving Repr

/-- What was found of a group. The group zero is all that was found. -/
def Match.group? (m : Match) (n : Nat) : Option (Nat × Nat) := if n = 0 then some (m.start, m.stop) else m.groups.lookup n

/-- The farthest that an expression leads from a place. -/
def matchAt (g : Ground) (e : Expression) (i : Nat) : Option Match :=
  match farthestFirst (runs g e [⟨i, []⟩]) with
  | p :: _ => some ⟨i, p.position, p.groups⟩
  | [] => none

/-- The character that everything starts with that an expression stands for, if there is one. -/
def first? : Expression → Option Char
  | .one (.char c) => some c
  | .both a _ | .group _ a => a.first?
  | .many (_ + 1) _ a => a.first?
  | _ => none

/-- The first place from a place on where an expression is found, at most so many places on. -/
def search (g : Ground) (e : Expression) : Nat → Nat → Option Match
  | 0, _ => none
  | n + 1, i =>
    let isHopeless := match e.first? with
      | some c => !g.isFolded && g.text[i]? ≠ some c
      | none => false
    match if isHopeless then none else matchAt g e i with
    | some m => some m
    | none => search g e n (i + 1)

/-! ## Reading -/

/-- How expressions are written. -/
structure Dialect where
  /-- Whether parentheses, braces and bars mean something without a backslash. -/
  isExtended : Bool
  /-- Whether what makes no sense stands for itself where that is possible. -/
  isLenient : Bool
  /-- Whether letters behind a backslash stand for characters that cannot be seen. -/
  hasControls : Bool

/-- An expression that was read: the rest of its text, and how many groups there are. -/
structure Reading where
  rest : List Char
  groups : Nat

/-- What is said of a bracket without its end. -/
def unmatchedBracket : String := "Unmatched [, [^, [:, [., or [="

/-- Reads the members of a set up to its closing bracket. -/
def members (hasControls : Bool) : Nat → List (Char × Char) → Bool → List Char →
    Except String (List (Char × Char) × List Char)
  | 0, _, _, _ => .error unmatchedBracket
  | _, _, _, [] => .error unmatchedBracket
  | _ + 1, ranges, false, ']' :: rest => .ok (ranges, rest)
  | n + 1, ranges, _, '[' :: ':' :: rest =>
    let name := rest.takeWhile Char.isAlpha
    match rest.drop name.length with
    | ':' :: ']' :: rest =>
      match Pattern.namedClass? (String.ofList name) with
      | some more => members hasControls n (more ++ ranges) false rest
      | none => .error "Invalid character class name"
    | _ => .error unmatchedBracket
  | n + 1, ranges, _, cs =>
    let element := fun (cs : List Char) =>
      match cs with
      | '[' :: '.' :: c :: '.' :: ']' :: rest => some (c, rest)
      | '[' :: '=' :: c :: '=' :: ']' :: rest => some (c, rest)
      | '\\' :: 'n' :: rest => if hasControls then some ('\n', rest) else some ('\\', 'n' :: rest)
      | '\\' :: 't' :: rest => if hasControls then some ('\t', rest) else some ('\\', 't' :: rest)
      | c :: rest => some (c, rest)
      | [] => none
    match element cs with
    | none => .error unmatchedBracket
    | some (low, '-' :: ']' :: rest) => members hasControls n ((low, low) :: ranges) false ('-' :: ']' :: rest)
    | some (low, '-' :: rest) =>
      match element rest with
      | none => .error unmatchedBracket
      | some (high, rest) =>
        if high < low then .error "Invalid range end" else members hasControls n ((low, high) :: ranges) false rest
    | some (c, rest) => members hasControls n ((c, c) :: ranges) false rest

/-- Reads a set behind its opening bracket. -/
def bracket (d : Dialect) (cs : List Char) : Except String (PatternItem × List Char) :=
  let outside := cs.head? = some '^'
  let cs := if outside then cs.drop 1 else cs
  (members d.hasControls (cs.length + 1) [] true cs).map fun (ranges, rest) => (.set outside ranges, rest)

/-- The most times that an expression may be asked to come. -/
def maxCount : Nat := 32767

/-- Reads how often something comes, behind the opening brace. Nothing if that makes no sense. -/
def interval? (d : Dialect) (cs : List Char) : Option (Except String (Nat × Option Nat × List Char)) :=
  let low := cs.takeWhile Char.isDigit
  let number := fun (digits : List Char) => Text.Decimal.value digits
  let (high, rest) := match cs.drop low.length with
    | ',' :: rest =>
      let digits := rest.takeWhile Char.isDigit
      (if digits.isEmpty then none else some (number digits), rest.drop digits.length)
    | rest => (some (number low), rest)
  let isBare := low.isEmpty && (cs.drop low.length).head? ≠ some ','
  let closed := match d.isExtended, rest with
    | true, '}' :: rest => some rest
    | false, '\\' :: '}' :: rest => some rest
    | _, _ => none
  match closed with
  | none => none
  | some rest =>
    if isBare || high.any (· < number low) then some (.error "Invalid content of \\\x7b\\\x7d")
    else if maxCount < number low || high.any (maxCount < ·) then some (.error "Regular expression too big")
    else some (.ok (number low, high, rest))

/-- What a letter behind a backslash stands for. -/
def classes : List (Char × Expression) :=
  let word := [('a', 'z'), ('A', 'Z'), ('0', '9'), ('_', '_')]
  let space := [(' ', ' '), ('\t', '\r')]
  [('w', .one (.set false word)), ('W', .one (.set true word)), ('s', .one (.set false space)),
    ('S', .one (.set true space)), ('b', .edge), ('B', .inside), ('<', .wordStart), ('>', .wordEnd),
    (Char.ofNat 96, .start), ('\'', .finish)]

/-- The characters that cannot be seen, by their letters. -/
def controls : List (Char × Char) :=
  [('n', '\n'), ('t', '\t'), ('f', '\x0c'), ('v', '\x0b'), ('a', '\x07'), ('r', '\r')]

/-- Whether alternatives end here. -/
def endsBranch (d : Dialect) (depth : Nat) : List Char → Bool
  | [] => true
  | '|' :: _ => d.isExtended
  | ')' :: _ => d.isExtended && (0 < depth || !d.isLenient)
  | '\\' :: '|' :: _ => !d.isExtended
  | '\\' :: ')' :: _ => !d.isExtended
  | _ => false

/-- An atom behind a backslash. -/
def escapedAtom (d : Dialect) (groups : Nat) : List Char → Except String (Expression × List Char)
  | [] => .error "Trailing backslash"
  | c :: rest =>
    match classes.lookup c with
    | some e => .ok (e, rest)
    | none =>
      if '1' ≤ c && c ≤ '9' then
        let n := c.toNat - 48
        if n ≤ groups then .ok (.again n, rest) else .error "Invalid back reference"
      else
        match if d.hasControls then controls.lookup c else none with
        | some c => .ok (.one (.char c), rest)
        | none => .ok (.one (.char c), rest)

/-- Reads how often an atom comes, as many times as that is said. -/
def repeated (d : Dialect) : Nat → Expression → List Char → Except String (Expression × List Char)
  | 0, e, cs => .ok (e, cs)
  | n + 1, e, cs =>
    let interval := fun (rest : List Char) =>
      match interval? d rest with
      | some (.ok (least, most, rest)) => repeated d n (.many least most e) rest
      | some (.error text) => if d.isExtended && d.isLenient then .ok (e, cs) else .error text
      | none =>
        if d.isExtended && d.isLenient then .ok (e, cs)
        else if rest.all fun c => c.isDigit || c = ',' then .error "Unmatched \\\x7b"
        else .error "Invalid content of \\\x7b\\\x7d"
    match cs, d.isExtended with
    | '*' :: rest, _ => repeated d n (.many 0 none e) rest
    | '+' :: rest, true => repeated d n (.many 1 none e) rest
    | '?' :: rest, true => repeated d n (.many 0 (some 1) e) rest
    | '\x7b' :: rest, true => interval rest
    | '\\' :: '+' :: rest, false => repeated d n (.many 1 none e) rest
    | '\\' :: '?' :: rest, false => repeated d n (.many 0 (some 1) e) rest
    | '\\' :: '\x7b' :: rest, false => interval rest
    | cs, _ => .ok (e, cs)

/-- Two expressions, one behind the other. -/
def followed : Expression → Expression → Expression
  | .empty, e => e
  | a, b => .both a b

mutual

/-- Reads alternatives. -/
def alternatives (d : Dialect) : Nat → Nat → Reading → Except String (Expression × Reading)
  | 0, _, _ => .error "Regular expression too big"
  | fuel + 1, depth, r => do
    let (e, r) ← branch d fuel depth true .empty r
    match r.rest, d.isExtended with
    | '|' :: rest, true | '\\' :: '|' :: rest, false =>
      let (other, r) ← alternatives d fuel depth { r with rest }
      return (.either e other, r)
    | _, _ => return (e, r)

/-- Reads what follows an expression in one alternative. -/
def branch (d : Dialect) : Nat → Nat → Bool → Expression → Reading → Except String (Expression × Reading)
  | 0, _, _, _, _ => .error "Regular expression too big"
  | fuel + 1, depth, isFirst, front, r =>
    if endsBranch d depth r.rest then .ok (front, r)
    else do
      let (atom, isAnchor, r) ← atom d fuel depth isFirst r
      if isAnchor && !d.isExtended then branch d fuel depth (isFirst && r.rest.head? = some '*') (followed front atom) r
      else
        let (e, rest) ← if isAnchor then pure (atom, r.rest) else repeated d (r.rest.length + 1) atom r.rest
        branch d fuel depth (isAnchor && isFirst) (followed front e) { r with rest }

/-- Reads an atom. Answers whether it is an anchor. -/
def atom (d : Dialect) : Nat → Nat → Bool → Reading → Except String (Expression × Bool × Reading)
  | 0, _, _, _ => .error "Regular expression too big"
  | fuel + 1, depth, isFirst, r =>
    let grouped := fun (rest : List Char) => do
      let number := r.groups + 1
      let (e, r) ← alternatives d fuel (depth + 1) ⟨rest, number⟩
      match r.rest, d.isExtended with
      | ')' :: rest, true | '\\' :: ')' :: rest, false => return (.group number e, false, { r with rest })
      | _, _ => .error "Unmatched ( or \\("
    let plain := fun (c : Char) (rest : List Char) => Except.ok (Expression.one (.char c), false, { r with rest })
    match r.rest with
    | [] => .ok (.empty, true, r)
    | '[' :: rest => do
      let (item, rest) ← bracket d rest
      return (.one item, false, { r with rest })
    | '.' :: rest => .ok (.one .one, false, { r with rest })
    | '^' :: rest => if d.isExtended || isFirst then .ok (.start, true, { r with rest }) else plain '^' rest
    | '$' :: rest =>
      if d.isExtended || endsBranch d (depth + 1) rest then .ok (.finish, true, { r with rest }) else plain '$' rest
    | '\\' :: '(' :: rest => if d.isExtended then plain '(' rest else grouped rest
    | '\\' :: '\x7b' :: rest =>
      if d.isExtended then plain '\x7b' rest
      else if isFirst then .error "Invalid preceding regular expression" else plain '\x7b' rest
    | '\\' :: rest => do
      let (e, rest) ← escapedAtom d r.groups rest
      return (e, false, { r with rest })
    | '(' :: rest => if d.isExtended then grouped rest else plain '(' rest
    | '\x7b' :: rest =>
      if d.isExtended && isFirst && !d.isLenient then .error "Invalid preceding regular expression"
      else plain '\x7b' rest
    | c :: rest =>
      if d.isExtended && (c = '*' || c = '+' || c = '?') then
        if d.isLenient then .ok (.empty, true, { r with rest }) else .error "Invalid preceding regular expression"
      else plain c rest

end

/-- Reads an expression. -/
def read (d : Dialect) (s : String) : Except String Expression := do
  let (e, r) ← alternatives d (4 * s.length + 8) 0 ⟨s.toList, 0⟩
  match r.rest with
  | [] => return e
  | _ => .error "Unmatched ) or \\)"

/-- How many groups an expression has. -/
def groupCount : Expression → Nat
  | .both a b | .either a b => max a.groupCount b.groupCount
  | .many _ _ a => a.groupCount
  | .group n a => max n a.groupCount
  | _ => 0

/-- Where an expression is found in a text from a place on. -/
def find? (isFolded isLined : Bool) (e : Expression) (text : Array Char) (place : Nat) : Option Match :=
  search ⟨text, isFolded, isLined, !e.hasAgain⟩ e (text.size + 1 - place) place

/-- The empty expression goes nowhere. -/
theorem runs_empty (g : Ground) (ps : List Place) : runs g .empty ps = ps := by rw [runs]

/-- An item takes one character that it stands for. -/
theorem one_run {g : Ground} {item : PatternItem} {p : Place} {c : Char} (h : g.text[p.position]? = some c) :
    runs g (.one item) [p] = if g.admits item c then [{ p with position := p.position + 1 }] else [] := by
  rw [runs]
  simp only [List.filterMap_cons, h, List.filterMap_nil]
  split <;> simp_all

end Expression

end RunLedger.Sandbox
