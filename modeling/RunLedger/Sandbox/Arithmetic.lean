import RunLedger.Sandbox.Pause

/-!
# Arithmetic

The sums that a shell works out: whole numbers of 64 bits that wrap around, the operators of their usual strength,
choices, and variables that are read and written. A sum is worked out while it is read, from the left to the right; of
`&&`, `||` and a choice the part that is not needed is read and not worked out.

* `value_number`: a number that stands alone is itself.
-/

namespace RunLedger.Sandbox

/-- Why a sum has no value. -/
inductive SumError where
  /-- The sum makes no sense, or is undefined, for a reason. -/
  | malformed (reason : String)
  /-- A variable holds no number. -/
  | noNumber (text : String)
  /-- A variable must not be set. -/
  | fixed (name : String)
  /-- A quotient is no word. -/
  | overflow
  deriving DecidableEq, Repr

namespace Arithmetic

/-- The word nearest to a whole number. -/
def saturated (negative : Bool) (n : Nat) : Int64 :=
  if negative then if n < 9223372036854775808 then Int64.ofNat n * -1 else Int64.minValue
  else if n < 9223372036854775808 then Int64.ofNat n else Int64.maxValue

/-- The number in front of a text, in the base that its first digits tell, and what follows it. -/
def numberAt (cs : List Char) : Option (Nat × List Char) :=
  let based := fun (base : Nat) (cs : List Char) =>
    match Pause.digitsIn base cs with
    | ([], _) => none
    | (ds, rest) => some (Pause.valueIn base ds, rest)
  match cs with
  | '0' :: x :: rest => if x = 'x' || x = 'X' then (based 16 rest).or (some (0, x :: rest)) else based 8 cs
  | '0' :: _ => based 8 cs
  | _ => based 10 cs

/-- Whether a character is a blank of any kind. -/
def isBlank (c : Char) : Bool := c = ' ' || ('\t' ≤ c && c ≤ '\r')

/-- The number that a variable holds, if it fits a word; a blank one holds zero. -/
def integer? (s : String) : Option Int64 :=
  let read := fun (negative : Bool) (cs : List Char) =>
    match numberAt cs with
    | some (n, rest) =>
      if rest.all isBlank && n < 9223372036854775808 + (if negative then 1 else 0) then some (saturated negative n)
      else none
    | none => none
  match s.toList.dropWhile isBlank with
  | [] => some 0
  | '-' :: cs => read true cs
  | '+' :: cs => read false cs
  | cs => read false cs

/-! ## Tokens -/

/-- A token of a sum. -/
inductive Token where
  | number (n : Int64)
  | name (s : String)
  | sign (s : String)
  /-- What belongs to no sum. -/
  | stray
  | finished
  deriving DecidableEq, Repr

/-- The signs, the longer ones first. -/
def signs : List String :=
  ["<<=", ">>=", "<<", ">>", "<=", ">=", "==", "!=", "&&", "||", "+=", "-=", "*=", "/=", "%=", "&=", "^=", "|=", "=",
    "<", ">", "+", "-", "*", "/", "%", "&", "^", "|", "!", "~", "?", ":", "(", ")"]

/-- Whether a character may start a name. -/
def isNameStart (c : Char) : Bool := c.isAlpha || c = '_'

/-- Whether a character may stand in a name. -/
def isNameChar (c : Char) : Bool := c.isAlphanum || c = '_'

/-- The token in front, and what follows it. -/
def tokenAt : List Char → Token × List Char
  | [] => (.finished, [])
  | c :: cs =>
    if c = ' ' || c = '\t' || c = '\n' then tokenAt cs
    else if c.isDigit then
      match numberAt (c :: cs) with
      | some (n, rest) => (.number (saturated false n), rest)
      | none => (.stray, cs)
    else if isNameStart c then
      let name := (c :: cs).takeWhile isNameChar
      (.name (String.ofList name), (c :: cs).drop name.length)
    else
      match signs.find? fun s => s.toList.isPrefixOf (c :: cs) with
      | some sign => (.sign sign, (c :: cs).drop sign.length)
      | none => (.stray, c :: cs)

/-- How closely the operator of a sign holds its operands together; less is closer. -/
def strength? : String → Option Nat
  | "*" | "/" | "%" => some 0
  | "+" | "-" => some 1
  | "<<" | ">>" => some 2
  | "<" | "<=" | ">" | ">=" => some 3
  | "==" | "!=" => some 4
  | "&" => some 5
  | "^" => some 6
  | "|" => some 7
  | _ => none

/-- The strength of a token, if it is an operator between two operands. -/
def Token.strength? : Token → Option Nat
  | .sign s => Arithmetic.strength? s
  | _ => none

/-- The signs that set a variable, with the operators that they work out before. -/
def settings : List (String × String) :=
  [("=", ""), ("+=", "+"), ("-=", "-"), ("*=", "*"), ("/=", "/"), ("%=", "%"), ("<<=", "<<"), (">>=", ">>"),
    ("&=", "&"), ("^=", "^"), ("|=", "|")]

/-- The number of a truth value. -/
def truth (b : Bool) : Int64 := if b then 1 else 0

/-- What an operator makes of two numbers. -/
def apply (sign : String) (a b : Int64) : Except SumError Int64 :=
  let divided := fun (quotient : Int64) =>
    if b = 0 then Except.error (SumError.malformed "division by zero")
    else if a = Int64.minValue && b = -1 then .error .overflow
    else .ok quotient
  match sign with
  | "+" => .ok (a + b)
  | "-" => .ok (a - b)
  | "*" => .ok (a * b)
  | "/" => divided (a / b)
  | "%" => divided (a % b)
  | "<<" => .ok (a <<< b)
  | ">>" => .ok (a >>> b)
  | "<" => .ok (truth (a < b))
  | "<=" => .ok (truth (a ≤ b))
  | ">" => .ok (truth (b < a))
  | ">=" => .ok (truth (b ≤ a))
  | "==" => .ok (truth (a = b))
  | "!=" => .ok (truth (a ≠ b))
  | "&" => .ok (a &&& b)
  | "^" => .ok (a ^^^ b)
  | "|" => .ok (a ||| b)
  | _ => .ok b

/-! ## Working out -/

/-- What is known of variables: what they hold, and whether they must not be set. -/
structure Scope where
  held : String → Option String
  isFixed : String → Bool

/-- How far a sum is worked out: the token in front, what follows it, and the variables that were set, latest first. -/
structure Progress where
  token : Token
  rest : List Char
  set : List (String × Int64)

/-- Works out the front of a sum. -/
abbrev Work := StateT Progress (Except SumError)

/-- Takes the token in front. -/
def take : Work Token := fun p =>
  let (next, rest) := tokenAt p.rest
  .ok (p.token, { p with token := next, rest })

/-- The number of a variable: what it was set to last, or what it held before. -/
def lookup (scope : Scope) (name : String) : Work Int64 := fun p =>
  match p.set.lookup name with
  | some n => .ok (n, p)
  | none =>
    match scope.held name with
    | none => .ok (0, p)
    | some text =>
      match integer? text with
      | some n => .ok (n, p)
      | none => .error (.noNumber text)

/-- Sets a variable. -/
def assign (scope : Scope) (name : String) (n : Int64) : Work Int64 := fun p =>
  if scope.isFixed name then .error (.fixed name) else .ok (n, { p with set := (name, n) :: p.set })

/-- Finds that a sum makes no sense. -/
def refuse {α : Type} (reason : String) : Work α := fun _ => .error (.malformed reason)

mutual

/-- A sum that may set a variable. -/
def whole (scope : Scope) (isNeeded : Bool) : Nat → Work Int64
  | 0 => refuse "expecting primary"
  | n + 1 => do
    let p ← get
    match p.token, (tokenAt p.rest).1 with
    | .name x, .sign s =>
      match settings.lookup s with
      | some sign =>
        let _ ← take
        let _ ← take
        let value ← whole scope isNeeded n
        if isNeeded then
          let value ← if sign = "" then pure value else do apply sign (← lookup scope x) value
          assign scope x value
        else return value
      | none => choice scope isNeeded n
    | _, _ => choice scope isNeeded n

/-- A sum that may choose between two others. -/
def choice (scope : Scope) (isNeeded : Bool) : Nat → Work Int64
  | 0 => refuse "expecting primary"
  | n + 1 => do
    let c ← either scope isNeeded n
    if (← get).token = .sign "?" then
      let _ ← take
      let a ← whole scope (isNeeded && c ≠ 0) n
      if (← take) ≠ .sign ":" then refuse "expecting ':'"
      let b ← choice scope (isNeeded && c = 0) n
      return if c ≠ 0 then a else b
    else return c

/-- Operands with `||` between them. -/
def either (scope : Scope) (isNeeded : Bool) : Nat → Work Int64
  | 0 => refuse "expecting primary"
  | n + 1 => do
    let a ← both scope isNeeded n
    if (← get).token = .sign "||" then
      let _ ← take
      let b ← either scope (isNeeded && a = 0) n
      return truth (a ≠ 0 || b ≠ 0)
    else return a

/-- Operands with `&&` between them. -/
def both (scope : Scope) (isNeeded : Bool) : Nat → Work Int64
  | 0 => refuse "expecting primary"
  | n + 1 => do
    let a ← operand scope isNeeded n
    let a ← more scope isNeeded n 8 a
    if (← get).token = .sign "&&" then
      let _ ← take
      let b ← both scope (isNeeded && a ≠ 0) n
      return truth (a ≠ 0 && b ≠ 0)
    else return a

/-- Further operands behind a first one, as long as their operators are closer than a strength. -/
def more (scope : Scope) (isNeeded : Bool) : Nat → Nat → Int64 → Work Int64
  | 0, _, a => return a
  | n + 1, bound, a => do
    match (← get).token with
    | .sign s =>
      match strength? s with
      | some strength =>
        if strength < bound then
          let _ ← take
          let b ← operand scope isNeeded n
          let b ← more scope isNeeded n strength b
          let a ← if isNeeded then apply s a b else pure b
          more scope isNeeded n bound a
        else return a
      | none => return a
    | _ => return a

/-- An operand with the signs in front of it. -/
def operand (scope : Scope) (isNeeded : Bool) : Nat → Work Int64
  | 0 => refuse "expecting primary"
  | n + 1 => do
    match ← take with
    | .number v => return v
    | .name x => if isNeeded then lookup scope x else return 0
    | .sign "+" => operand scope isNeeded n
    | .sign "-" => return 0 - (← operand scope isNeeded n)
    | .sign "~" => return ~~~(← operand scope isNeeded n)
    | .sign "!" => return truth ((← operand scope isNeeded n) = 0)
    | .sign "(" =>
      let v ← whole scope isNeeded n
      if (← take) ≠ .sign ")" then refuse "expecting ')'" else return v
    | _ => refuse "expecting primary"

end

/-- The value of a sum, and the variables that it sets, in order. -/
def value (scope : Scope) (s : String) : Except SumError (Int64 × List (String × Int64)) := do
  let (token, rest) := tokenAt s.toList
  let (n, p) ← whole scope true (8 * s.length + 8) ⟨token, rest, []⟩
  if p.token = .finished then return (n, p.set.reverse) else .error (.malformed "expecting EOF")

/-- The digits of a sum, with its sign. -/
def textOf (n : Int64) : String := (if n < 0 then "-" else "") ++ Text.Decimal.text n.toInt.natAbs

/-- A number that stands alone is itself. -/
theorem value_number (scope : Scope) : value scope "7" = .ok (7, []) := by
  rfl

end Arithmetic

end RunLedger.Sandbox
