import RunLedger.Sandbox.FileTree
import RunLedger.Sandbox.Pattern

/-!
# Fields

What becomes of a word once its parameters are filled in: characters, quoted or not, quotation marks, and the stretches
that may be split. A zero among the characters stands between parameters. Separators in such stretches split the word
into fields, and a field with an open pattern stands for the paths that it accepts.

* `fields_unsplit`: a word without such stretches is one field.
* `fields_nil`: nothing is no field.
-/

namespace RunLedger.Sandbox

/-- A part of a word that is filled in. -/
inductive Cell where
  | char (c : Char) (isQuoted : Bool)
  /-- A quotation mark, which keeps an empty field. -/
  | mark
  deriving DecidableEq, Repr

/-- A stretch of cells that may be split: at separators, or between parameters only. -/
structure Stretch where
  start : Nat
  stop : Nat
  isJoint : Bool

/-- A word that is filled in, with its stretches, the latest first. -/
structure Filled where
  cells : Array Cell
  stretches : List Stretch

namespace Filled

/-- Nothing. -/
def empty : Filled := ⟨#[], []⟩

/-- How many cells there are. -/
def size (f : Filled) : Nat := f.cells.size

/-- The character between parameters. -/
def gap : Char := '\x00'

/-- The word with a text behind it. -/
def push (f : Filled) (s : String) (isQuoted : Bool) : Filled :=
  { f with cells := s.foldl (fun cells c => cells.push (.char c isQuoted)) f.cells }

/-- The word with a quotation mark behind it. -/
def pushMark (f : Filled) : Filled := { f with cells := f.cells.push .mark }

/-- The word whose cells from a place on may be split. -/
def stretch (f : Filled) (start : Nat) (isJoint : Bool) : Filled :=
  { f with stretches := ⟨start, f.size, isJoint⟩ :: f.stretches }

/-- The word up to a place, without the stretches from there on. -/
def upTo (f : Filled) (place : Nat) : Filled :=
  ⟨f.cells.extract 0 place, f.stretches.filter fun s => s.start < place⟩

/-- The characters of cells, marked where they are quoted. -/
def marked (cells : List Cell) : List Marked :=
  cells.filterMap fun
    | .char c q => some (c, q)
    | .mark => none

/-- The text of cells. -/
def text (cells : List Cell) : String := String.ofList ((marked cells).map Prod.fst)

/-- The characters from a place on. -/
def markedFrom (f : Filled) (place : Nat) : List Marked := marked (f.cells.extract place f.size).toList

/-- The text from a place on, up to a gap. -/
def textFrom (f : Filled) (place : Nat) : String :=
  String.ofList (((f.markedFrom place).map Prod.fst).takeWhile (· ≠ gap))

/-! ## Splitting -/

/-- Whether a separator is a blank, which never stands for an empty field. A gap is one. -/
def isBlank (c : Char) : Bool := c = ' ' || c = '\t' || c = '\n' || c = gap

/-- How far a word is split. -/
structure Splitting where
  /-- Where the field starts that is read. -/
  start : Nat
  /-- Whether blanks ended the field before. -/
  isSpaced : Bool
  /-- The fields before, as places, the latest first. -/
  done : List (Nat × Nat)
  /-- The fields that may still be split off, if they are bounded. -/
  left : Option Nat
  /-- Where what is left out at the end starts. -/
  cut : Option Nat

/-- The splitting after the character at a place, in a stretch of a kind behind one of a kind. -/
def Splitting.next (separators : List Char) (isJoint afterJoint : Bool) (s : Splitting) (place : Nat) (c : Char) :
    Splitting :=
  let isSeparator := c = gap || (!isJoint && separators.contains c)
  let isSpace := isSeparator && isBlank c
  if s.left = some 0 then
    if isSpace then { s with cut := s.cut.or (some place) }
    else { s with cut := if isSeparator && s.isSpaced then s.cut else none, isSpaced := false }
  else
    let behind := s.isSpaced && isSeparator
    let s := if s.isSpaced then { s with start := if isSeparator then place + 1 else place } else s
    if s.isSpaced && isSpace then s
    else if isSeparator && !behind then
      let isSpaced := if afterJoint || isJoint then s.isSpaced else isSpace
      if place = s.start && isSpaced then { s with start := place + 1, isSpaced := false }
      else
        match s.left with
        | some 1 => { s with left := some 0, cut := some place, isSpaced }
        | left =>
          { s with done := (s.start, place) :: s.done, start := place + 1, left := left.map (· - 1), isSpaced }
    else { s with isSpaced := false }

/-- The splitting after a stretch. -/
def Splitting.through (cells : Array Cell) (separators : List Char) (afterJoint : Bool) (s : Splitting) (r : Stretch) :
    Splitting :=
  (List.range (r.stop - r.start)).foldl (fun s i =>
    match cells[r.start + i]? with
    | some (.char c _) => s.next separators r.isJoint afterJoint (r.start + i) c
    | _ => s) { s with isSpaced := false }

/-- The splitting after stretches in order. -/
def Splitting.throughAll (cells : Array Cell) (separators : List Char) :
    Bool → Splitting → List Stretch → Splitting
  | _, s, [] => s
  | afterJoint, s, r :: rest => throughAll cells separators r.isJoint (s.through cells separators afterJoint r) rest

/-- The fields of a word, at most so many if they are bounded. -/
def fields (f : Filled) (separators : List Char) (bound : Option Nat) : List (List Cell) :=
  let stretches := f.stretches.reverse
  let s := Splitting.throughAll f.cells separators false ⟨0, false, [], bound, none⟩ stretches
  let stop := s.cut.getD f.size
  let isKept := (stretches.getLast?).any Stretch.isJoint
  let last := (f.cells.extract s.start stop).toList
  let isEmpty := match last with
    | [] => true
    | .char c _ :: _ => c = gap
    | .mark :: _ => false
  let whole := s.done.reverse.map fun (start, stop) => (f.cells.extract start stop).toList
  if isKept || !isEmpty then whole ++ [last] else whole

/-- A word without stretches is one field. -/
theorem fields_unsplit (c : Cell) (cells : List Cell) (separators : List Char) (h : c ≠ .char gap false)
    (h' : c ≠ .char gap true) : fields ⟨(c :: cells).toArray, []⟩ separators none = [c :: cells] := by
  have hc : ∀ d q, c = .char d q → d ≠ gap := by
    rintro d q rfl rfl
    cases q <;> contradiction
  have hd : (match (c :: cells) with
    | [] => true
    | .char d _ :: _ => decide (d = gap)
    | .mark :: _ => false) = false := by
    cases c with
    | mark => rfl
    | char d q => simp [hc d q rfl]
  simp [fields, Splitting.throughAll, size, hd]

/-- Nothing is no field. -/
theorem fields_nil (separators : List Char) (bound : Option Nat) : fields empty separators bound = [] := by
  rfl

end Filled

namespace Field

/-- The names of a field that is a path. -/
def names (field : List Marked) : List (List Marked) :=
  field.foldr (fun m names => if m.1 = '/' then [] :: names else
    match names with
    | name :: rest => (m :: name) :: rest
    | [] => [[m]]) [[]]

/-- The text of marked characters, without the backslashes that protect others. -/
def plain (items : List PatternItem) : String :=
  String.ofList (items.filterMap fun
    | .char c => some c
    | _ => none)

/-- The names of a directory that a pattern accepts. A name with a dot in front has to be asked for. -/
def accepted (t : FileTree) (base : Nat) (directory : String) (items : List PatternItem) : List String :=
  match t.find base (if directory = "" then "." else directory) true with
  | .ok n =>
    if t.holds n Content.isDirectory then
      ("." :: ".." :: (t.entries n).keys).filter fun name =>
        Pattern.accepts items name.toList && (name.toList.head? ≠ some '.' || items.head? = some (.char '.'))
    else []
  | _ => []

/-- The paths that names lead to behind a path, given whether some name was a pattern. -/
def pathsFrom (t : FileTree) (base : Nat) (path : String) (isFound : Bool) : List (List Marked) → List String
  | [] => if isFound then [path] else
    match t.find base path false with
    | .ok _ => [path]
    | .error _ => []
  | name :: rest =>
    let items := Pattern.ofMarked name
    let isOpen := Pattern.isOpen items
    let found := if isOpen then accepted t base path items else [plain items]
    found.flatMap fun n => pathsFrom t base (path ++ n ++ (if rest.isEmpty then "" else "/")) (isOpen && rest.isEmpty) rest

/-- The texts that a field stands for: the paths that its pattern accepts, or its own text if there are none. -/
def paths (t : FileTree) (base : Nat) (field : List Marked) : List String :=
  let own := String.ofList (field.map Prod.fst)
  if Pattern.isOpen (Pattern.ofMarked field) then
    match (pathsFrom t base "" false (names field)).mergeSort fun a b => a ≤ b with
    | [] => [own]
    | found => found
  else [own]

end Field

end RunLedger.Sandbox
