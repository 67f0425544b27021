import RunLedger.Sandbox.Arithmetic
import RunLedger.Sandbox.Field
import RunLedger.Sandbox.Shell.State

/-!
# Filling in words

What the words of a command stand for when it runs: parameters are filled in, sums are worked out and the output of
scripts is taken, from the left to the right; then the word is split into fields, or taken as one text or pattern.

* `fill_nil`: an empty word stands for nothing.
-/

namespace RunLedger.Sandbox

/-- How a word is filled in. -/
structure Filling where
  /-- Whether the word will be split into fields. -/
  splits : Bool
  isQuoted : Bool
  /-- Whether the word stands in place of a parameter, so that its own text may be split. -/
  isOperand : Bool
  /-- Whether the word sets a variable, so that `~` counts behind `=` and `:`. -/
  isSetting : Bool

namespace Sh

/-! ## Parameters -/

/-- The options in the order in which a shell tells them. -/
def optionLetters : List Char := ['u', 'b', 'a', 'C', 'E', 'V', 'v', 'x', 's', 'n', 'm', 'i', 'I', 'f', 'e']

/-- The parameters, put together as a parameter `@` or `*` asks. -/
def together (s : Shell) (name : String) (isQuoted splits : Bool) : String :=
  let first := match s.separators? with
    | none => some ' '
    | some ifs => ifs.toList.head?
  let separator := if splits && name = "@" && isQuoted then some Filled.gap
    else if splits && !isQuoted then some (if s.separators?.isSome then Filled.gap else ' ')
    else first
  (separator.elim "" Char.toString).intercalate s.parameters

/-- What a parameter stands for, if it is set. -/
def parameter? (s : Shell) (name : String) (isQuoted splits : Bool) : Option String :=
  match name with
  | "#" => some (Text.Decimal.text s.parameters.length)
  | "?" => some (Text.Decimal.text s.status)
  | "$" => some (Text.Decimal.text s.id)
  | "!" => s.lastJob.map Text.Decimal.text
  | "-" => some (String.ofList (optionLetters.filter s.has))
  | "@" | "*" => some (together s name isQuoted splits)
  | _ =>
    if (name.toList.headD ' ').isDigit then
      match Text.Decimal.value name.toList with
      | 0 => some s.name
      | n + 1 => s.parameters[n]?
    else s.value? name

/-- Works out a sum and sets the variables that it sets. -/
def workOut (text : String) : Sh String := do
  let s ← get
  match Arithmetic.value ⟨s.value?, s.isFixed⟩ text with
  | .ok (n, settings) =>
    for (name, value) in settings do assign name (Arithmetic.textOf value)
    return Arithmetic.textOf n
  | .error (.malformed reason) => fail ("arithmetic expression: " ++ reason ++ ": \"" ++ text ++ "\"")
  | .error (.noNumber text) => fail ("Illegal number: " ++ text)
  | .error (.fixed name) => fail (name ++ ": is read only")
  | .error .overflow => do
    (Act.quit (.killed 8) : Act Unit)
    throw .failure

/-- Complains about a parameter that is not set. -/
def unset {α : Type} (name : String) : Sh α := fail (name ++ ": parameter not set")

/-! ## Home directories -/

/-- The home directory of a user. -/
def homeOf? (t : FileTree) (user : String) : Option String :=
  match t.find FileTree.root "/etc/passwd" true with
  | .ok n =>
    let lines := (Octets.ofArray (t.octets n)).splitOn "\n"
    lines.findSome? fun line =>
      match line.splitOn ":" with
      | name :: _ :: _ :: _ :: _ :: home :: _ => if name = user then some home else none
      | _ => none
  | .error _ => none

/-- What `~` at the front of a text stands for, and the rest of the text, given whether anything follows the text. -/
def home? (s : Shell) (t : FileTree) (isSetting isFollowed : Bool) (cs : List Char) : Option (String × List Char) :=
  match cs with
  | '~' :: cs =>
    let user := cs.takeWhile fun c => c ≠ '/' && !(isSetting && c = ':')
    let rest := cs.drop user.length
    if rest.isEmpty && isFollowed then none
    else
      let home := if user.isEmpty then s.value? "HOME" else homeOf? t (String.ofList user)
      home.map (·, rest)
  | _ => none

/-- Puts a text that may be split behind a word. -/
def pushPlain (m : Filling) (cs : List Char) (f : Filled) : Filled :=
  let start := f.size
  let f := f.push (String.ofList cs) false
  if m.isOperand && !m.isQuoted && !cs.isEmpty then f.stretch start false else f

/-- Puts a text of the script behind a word, in at most so many parts. With `~` where it counts. -/
def fillText (m : Filling) (s : Shell) (t : FileTree) (isFollowed : Bool) :
    Nat → Bool → List Char → Filled → Filled
  | 0, _, cs, f => pushPlain m cs f
  | n + 1, isHome, cs, f =>
    match if isHome then home? s t m.isSetting isFollowed cs else none with
    | some (home, rest) => fillText m s t isFollowed n false rest (f.push home true)
    | none =>
      if m.isSetting then
        let front := cs.takeWhile fun c => c ≠ '=' && c ≠ ':'
        match cs.drop front.length with
        | [] => pushPlain m cs f
        | c :: rest => fillText m s t isFollowed n true rest (pushPlain m (front ++ [c]) f)
      else pushPlain m cs f

/-! ## Changes of parameters -/

/-- How long the longest or shortest part is that a pattern accepts at the start of a text. -/
def startCut (items : List PatternItem) (longest : Bool) (cs : List Char) : Option Nat :=
  let cs := cs.takeWhile (· ≠ Filled.gap)
  (Pattern.without longest items cs).map fun rest => cs.length - rest.length

/-- The parts of a text between its gaps, each with the place where it ends, the last one first. -/
def partsOf (cs : List Char) : List (List Char × Nat) :=
  let (part, stop, parts) := cs.reverse.foldl (fun (part, stop, parts) c =>
    if c = Filled.gap then ([], stop - part.length - 1, (part, stop) :: parts) else (c :: part, stop, parts))
    (([] : List Char), cs.length, ([] : List (List Char × Nat)))
  ((part, stop) :: parts).reverse

/-- Where the longest or shortest part starts that a pattern accepts at the end of a text. -/
def endCut (items : List PatternItem) (longest : Bool) (cs : List Char) : Option Nat :=
  let parts := partsOf cs
  (if longest then parts.drop (parts.length - 1) else parts).findSome? fun (part, stop) =>
    (Pattern.without longest items.reverse part.reverse).map fun rest => stop - (part.length - rest.length)

/-- The cells without what a pattern takes off. -/
def trimmed (use : Use) (items : List PatternItem) (cells : List Cell) : List Cell :=
  let cs := (Filled.marked cells).map Prod.fst
  match use with
  | .dropStart longest => (startCut items longest cs).elim cells cells.drop
  | .dropEnd longest => (endCut items longest cs).elim cells cells.take
  | _ => cells

/-- Whether a value counts as missing. -/
def isMissing (colon : Bool) (value : Option String) : Bool := value.isNone || (colon && value = some "")

/-- The word with a parameter behind it whose value starts at a place. -/
def recorded (m : Filling) (s : Shell) (name : String) (start : Nat) (f : Filled) : Filled :=
  if !m.isQuoted then f.stretch start false
  else if name = "@" && !s.parameters.isEmpty then f.stretch start true
  else f

/-- Fills in a parameter, given how its operand is filled in behind a word. -/
def fillParameter (m : Filling) (name : String) (use : Use) (isBlank : Bool)
    (operand : Filling → Filled → Sh Filled) (f : Filled) : Sh Filled := do
  let s ← get
  let start := f.size
  let value := parameter? s name m.isQuoted m.splits
  let present := fun (value : String) => do
    let s ← get
    return recorded m s name start (f.push value m.isQuoted)
  let inPlace : Filling := { m with isOperand := true }
  let apart : Filling := ⟨false, false, false, false⟩
  match use with
  | .malformed => fail "Bad substitution"
  | .plain =>
    match value with
    | some value => present value
    | none => if s.has 'u' then unset name else present ""
  | .length =>
    match parameter? s name m.isQuoted false with
    | some value => return recorded m s name start (f.push (Text.Decimal.text value.length) m.isQuoted)
    | none => if s.has 'u' then unset name else return recorded m s name start (f.push "0" m.isQuoted)
  | .otherwise colon => if isMissing colon value then operand inPlace f else present (value.getD "")
  | .instead colon => if isMissing colon value then present "" else operand inPlace f
  | .assign colon =>
    if isMissing colon value then
      assign name ((← operand apart f).textFrom start)
      let s ← get
      present ((parameter? s name m.isQuoted m.splits).getD "")
    else present (value.getD "")
  | .require colon =>
    if isMissing colon value then
      let text := (← operand apart f).textFrom start
      if isBlank then fail (name ++ ": parameter not set" ++ (if colon then " or null" else ""))
      else fail (name ++ ": " ++ text)
    else present (value.getD "")
  | .dropStart _ | .dropEnd _ =>
    if value.isNone && s.has 'u' then unset name
    else
      let f := f.push (value.getD "") m.isQuoted
      let place := f.size
      let items := Pattern.ofMarked ((← operand apart f).markedFrom place)
      let s ← get
      let cells := trimmed use items (f.cells.extract start place).toList
      return recorded m s name start { f with cells := f.cells.extract 0 start ++ cells.toArray }

/-! ## Words -/

mutual

/-- Fills in a piece of a word behind others, given how the output of scripts is taken. -/
def fillPiece (capture : Command → Sh String) (m : Filling) : Piece → Filled → Sh Filled
  | .text s q, f => return f.push s q
  | .mark, f => return f.pushMark
  | .parameter name use word, f =>
    fillParameter m name use word.isEmpty (fun m f => fillPieces capture m true false word f) f
  | .sum expression, f => do
    let start := f.size
    let filled ← fillPieces capture ⟨false, true, false, false⟩ false false expression f
    let f := f.push (← workOut (filled.textFrom start)) m.isQuoted
    return if m.isQuoted then f else f.stretch start false
  | .output script, f => do
    let start := f.size
    let f := f.push (← capture script) m.isQuoted
    return if m.isQuoted then f else f.stretch start false

/-- Fills in pieces of a word behind others, given whether `~` counts in front and whether quotation marks are open. -/
def fillPieces (capture : Command → Sh String) (m : Filling) (isFirst isOpen : Bool) :
    List Piece → Filled → Sh Filled
  | [], f => return f
  | .text s false :: rest, f => do
    let shell ← get
    let t ← (Act.look World.tree : Act _)
    let f := fillText m shell t (!rest.isEmpty) (s.length + 1) isFirst s.toList f
    fillPieces capture m false isOpen rest f
  | .mark :: .parameter "@" .plain [] :: .mark :: rest, f => do
    if isOpen then
      let f ← fillPiece capture m (.parameter "@" .plain []) f.pushMark
      fillPieces capture m false isOpen rest f.pushMark
    else
      let f ← fillPiece capture { m with isQuoted := true } (.parameter "@" .plain []) f
      fillPieces capture m false isOpen rest f
  | .mark :: rest, f => fillPieces capture m false (!isOpen) rest f.pushMark
  | piece :: rest, f => do
    let f ← fillPiece capture { m with isQuoted := m.isQuoted || isOpen } piece f
    fillPieces capture m false isOpen rest f

end

/-- How a word is filled in that becomes one text. -/
def wholly : Filling := ⟨false, false, false, false⟩

/-- How a word is filled in that becomes fields. -/
def splitting : Filling := ⟨true, false, false, false⟩

/-- The text that a word stands for. -/
def expandText (capture : Command → Sh String) (w : Word) : Sh String := do
  return (← fillPieces capture wholly true false w .empty).textFrom 0

/-- The text of a setting of a variable. -/
def expandSetting (capture : Command → Sh String) (w : Word) : Sh String := do
  return (← fillPieces capture ⟨false, false, false, true⟩ false false w .empty).textFrom 0

/-- The text of a document. -/
def expandDocument (capture : Command → Sh String) (w : Word) : Sh String := do
  return (← fillPieces capture ⟨false, true, false, false⟩ false false w .empty).textFrom 0

/-- The pattern that a word stands for. -/
def expandPattern (capture : Command → Sh String) (w : Word) : Sh (List PatternItem) := do
  return Pattern.ofMarked ((← fillPieces capture wholly true false w .empty).markedFrom 0)

/-- The separators of fields. -/
def separators (s : Shell) : List Char := (s.separators?.getD " \t\n").toList

/-- The texts that a word stands for. -/
def expandFields (capture : Command → Sh String) (w : Word) : Sh (List String) := do
  let filled ← fillPieces capture splitting true false w .empty
  let s ← get
  let fields := (filled.fields (separators s) none).map fun cells =>
    (Filled.marked cells).takeWhile fun m => m.1 ≠ Filled.gap
  if s.has 'f' then return fields.map fun field => String.ofList (field.map Prod.fst)
  else return (← (Act.files fun t base => fields.flatMap (Field.paths t base) : Act _))

/-- The texts that words stand for, in order. -/
def expandAll (capture : Command → Sh String) : List Word → Sh (List String)
  | [] => return []
  | w :: rest => do
    let fields ← expandFields capture w
    return fields ++ (← expandAll capture rest)

/-- An empty word stands for nothing. -/
theorem fill_nil (capture : Command → Sh String) (m : Filling) (f : Filled) :
    fillPieces capture m true false [] f = pure f := by
  rw [fillPieces]

end Sh

end RunLedger.Sandbox
