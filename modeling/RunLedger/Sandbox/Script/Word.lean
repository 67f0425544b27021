import RunLedger.Sandbox.Script.Token

/-!
# Words of scripts

How the pieces of a word are read, in each of the surroundings that a word may have: quotation marks and backslashes,
parameters in braces, sums, and the output of scripts.

* `parameterName_digit`: behind a dollar sign a digit is a parameter by itself.
-/

namespace RunLedger.Sandbox.Script

/-! ## Parameters -/

/-- Whether a character may start the name of a variable. -/
def isNameStart (c : Char) : Bool := c.isAlpha || c = '_'

/-- Whether a character may stand in the name of a variable. -/
def isNameChar (c : Char) : Bool := c.isAlphanum || c = '_'

/-- Whether a character is the name of a parameter that the shell sets itself. -/
def isParameterSign (c : Char) : Bool := ['@', '*', '#', '?', '-', '$', '!'].contains c

/-- The name of a parameter in front that no braces surround, and what follows. -/
def parameterName (cs : List Char) : String × List Char :=
  match cs with
  | [] => ("", [])
  | c :: rest =>
    if isNameStart c then
      let name := cs.takeWhile isNameChar
      (String.ofList name, cs.drop name.length)
    else if c.isDigit || isParameterSign c then (c.toString, rest)
    else ("", cs)

/-- What is asked of a parameter, as far as its front tells. -/
inductive Front where
  /-- All is said, the closing brace included. -/
  | closed (use : Use)
  /-- A word follows up to the closing brace. -/
  | «open» (use : Use)

/-- What is asked of a parameter behind its name in braces, and what follows. -/
def useOf (cs : List Char) : Front × List Char :=
  let changed := fun (colon : Bool) (cs : List Char) =>
    match cs with
    | '-' :: cs => (Front.open (.otherwise colon), cs)
    | '+' :: cs => (.open (.instead colon), cs)
    | '?' :: cs => (.open (.require colon), cs)
    | '=' :: cs => (.open (.assign colon), cs)
    | '}' :: cs => if colon then (.open .malformed, cs) else (.closed .plain, cs)
    | cs => (.open .malformed, cs.drop 1)
  match cs with
  | ':' :: cs => changed true cs
  | '#' :: '#' :: cs => (.open (.dropStart true), cs)
  | '#' :: cs => (.open (.dropStart false), cs)
  | '%' :: '%' :: cs => (.open (.dropEnd true), cs)
  | '%' :: cs => (.open (.dropEnd false), cs)
  | cs => changed false cs

/-- The name of a parameter in braces, what is asked of it, and what follows. -/
def braced (cs : List Char) : String × Front × List Char :=
  let named := fun (cs : List Char) =>
    let name := cs.takeWhile fun c => if (cs.headD ' ').isDigit then c.isDigit else isNameChar c
    (String.ofList name, cs.drop name.length)
  let measured := fun (name : String) (rest : List Char) =>
    match rest with
    | '}' :: rest => (name, Front.closed .length, rest)
    | rest => (name, .open .malformed, rest)
  match cs with
  | [] => ("", .open .malformed, [])
  | '}' :: _ => ("", .open .malformed, cs)
  | '#' :: c :: rest =>
    if isNameChar c then
      let (name, rest) := named (c :: rest)
      measured name rest
    else
      match rest with
      | '}' :: _ => if c ≠ '}' && isParameterSign c then measured c.toString rest else ("#", useOf (c :: rest))
      | _ => ("#", useOf (c :: rest))
  | c :: rest =>
    if isNameChar c then
      let (name, rest) := named cs
      (name, useOf rest)
    else if isParameterSign c then (c.toString, useOf rest)
    else ("", .open .malformed, rest)

/-- Reads a parameter behind its opening brace. -/
def bracedParameter (g : Grammar) (around : Surrounding) : Reader Piece := do
  skipJoints
  let r ← get
  let (name, front, rest) := braced r.rest
  set { r with rest }
  match front with
  | .closed use => return .parameter name use []
  | .open use =>
    let inside := match use with
      | .dropStart _ | .dropEnd _ => Surrounding.braces false
      | _ => .braces around.isQuoted
    return .parameter name use (← g.word inside)

/-! ## Scripts in words -/

/-- Reads a script that a closing parenthesis ends. -/
def output (g : Grammar) : Reader Piece := do
  let r ← get
  set { r with awaited := [], documents := [], token? := none }
  let c ← g.list true
  let t ← token g .none
  match t with
  | .operator ")" =>
    let documents := (← get).documents
    modify fun now => { now with awaited := r.awaited, documents := r.documents }
    return .output (c.fill documents)
  | t => surprise t (some "\")\"")

/-- Reads the text inside backquotes without the backslashes that protect it, latest first. -/
def backquotedOnto (isQuoted : Bool) : Nat → List Char → Reader (List Char)
  | 0, read => return read
  | n + 1, read => do
    skipJoints
    match ← next? with
    | none => refuse "EOF in backquote substitution"
    | some c =>
      if c = backquote then return read
      else if c = '\\' then
        match ← next? with
        | none => refuse "EOF in backquote substitution"
        | some d =>
          if d = '\\' || d = '$' || d = backquote || (isQuoted && d = '"') then backquotedOnto isQuoted n (d :: read)
          else backquotedOnto isQuoted n (d :: '\\' :: read)
      else backquotedOnto isQuoted n (c :: read)

/-- Reads the script inside backquotes. What follows its commands is passed over. -/
def backquoted (g : Grammar) (isQuoted : Bool) : Reader Piece := do
  let text ← backquotedOnto isQuoted plenty []
  let behind ← get
  set { behind with rest := text.reverse, line := 1, awaited := [], documents := [], token? := none, spans := [] }
  let c ← g.list true
  let documents := (← get).documents
  set behind
  return .output (c.fill documents)

/-- Reads what a `$` stands for. -/
def dollar (g : Grammar) (around : Surrounding) : Reader Piece := do
  skipJoints
  match ← peek with
  | some '(' =>
    skip 1
    if ← takes '(' then return .sum (← g.word .sum) else output g
  | some '{' =>
    skip 1
    bracedParameter g around
  | _ =>
    let r ← get
    let (name, rest) := parameterName r.rest
    if name = "" then return .text "$" around.isQuoted
    else
      set { r with rest }
      return .parameter name .plain []

/-! ## Pieces -/

/-- Whether a character stands for itself in such surroundings. -/
def isPlain (around : Surrounding) (c : Char) : Bool :=
  !isSpecial c &&
    match around with
    | .bare | .delimiter => !isMeta c
    | .braces _ => c ≠ '}'
    | .sum => c ≠ '(' && c ≠ ')'
    | _ => true

/-- Whether a backslash protects a character where most characters keep no meaning. -/
def isProtected (around : Surrounding) (c : Char) : Bool :=
  c = '$' || c = '\\' || c = backquote || (c = '"' && around ≠ .document) || (c = '}' && around = .braces true)

/-- What is complained about at the end of a script in a word. -/
def unclosed : Surrounding → String
  | .sum => "Missing '))'"
  | .braces false => "Missing '\x7d'"
  | _ => "Unterminated quoted string"

/-- Reads what a backslash protects. -/
def protectedPieces (around : Surrounding) : Reader Word := do
  match ← next? with
  | none => return [.text "\\" true]
  | some '\n' => return []
  | some c =>
    if around.isQuoted && !isProtected around c then return [.text (String.ofList ['\\', c]) true]
    else return [.text c.toString true]

/-- Reads what stands between single marks. -/
def singleQuoted : Reader Word := do
  let text ← run (· ≠ '\'')
  match ← next? with
  | none => refuse (unclosed .quotes)
  | some _ => return [.mark, .text text true, .mark]

/-- Reads the pieces of a word behind those read so far, latest first, inside of so many parentheses. -/
def piecesOnto (g : Grammar) (around : Surrounding) : Nat → Nat → Word → Reader Word
  | 0, _, read => return read.reverse
  | n + 1, depth, read => do
    let behind := fun (pieces : Word) => piecesOnto g around n depth (pieces.reverse ++ read)
    match ← peek with
    | none =>
      match around with
      | .bare | .delimiter | .document => return read.reverse
      | _ => refuse (unclosed around)
    | some c =>
      let literal := fun (depth : Nat) => do
        skip 1
        piecesOnto g around n depth (.text c.toString around.isQuoted :: read)
      if isPlain around c then behind [.text (← run (isPlain around)) around.isQuoted]
      else if c = '\\' then
        skip 1
        behind (← protectedPieces around)
      else if c = '$' && around ≠ .delimiter then
        skip 1
        behind [← dollar g around]
      else if c = backquote && around ≠ .delimiter then
        skip 1
        behind [← backquoted g around.isQuoted]
      else if c = '"' then
        match around with
        | .document | .sum => literal depth
        | .quotes | .inner =>
          skip 1
          return read.reverse
        | _ =>
          skip 1
          behind (.mark :: (← g.word (if around.isQuoted then .inner else .quotes)) ++ [.mark])
      else if c = '\'' then
        if around.isQuoted then literal depth
        else
          skip 1
          behind (← singleQuoted)
      else
        match around, c with
        | .bare, c => if isMeta c then return read.reverse else literal depth
        | .delimiter, c => if isMeta c then return read.reverse else literal depth
        | .braces _, '}' =>
          skip 1
          return read.reverse
        | .sum, '(' => literal (depth + 1)
        | .sum, ')' =>
          if 0 < depth then literal (depth - 1)
          else
            skip 1
            if ← takes ')' then return read.reverse else behind [.text ")" true]
        | _, _ => literal depth

/-- Reads a word in its surroundings. -/
def pieces (g : Grammar) (around : Surrounding) : Reader Word := do
  return (← piecesOnto g around plenty 0 []).joined

/-- Behind a dollar sign a digit is a parameter by itself. -/
theorem parameterName_digit (cs : List Char) : parameterName ('1' :: cs) = ("1", cs) := by
  rw [parameterName, if_neg (by decide), if_pos (by decide)]
  rfl

end RunLedger.Sandbox.Script
