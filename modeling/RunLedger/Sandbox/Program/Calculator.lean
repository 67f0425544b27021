import RunLedger.Sandbox.Expression
import RunLedger.Sandbox.Program.Stream

/-!
# Calculations

`expr` works out what its arguments write: whole numbers of any size, texts, and questions about them, joined with
operators of different strength. What an operand on the right does not decide any more is not worked out.

* `number?_empty`: the empty text is no number.
-/

namespace RunLedger.Sandbox.Calculator

/-- Why there is no value. -/
inductive Fault where
  /-- An argument is missing behind another one. -/
  | missing (after : String)
  | unexpected (word : String)
  | unclosed (after : String)
  | unopened (word : String)
  /-- A bracket is closed that was not opened. -/
  | stray
  | noNumber
  | byZero
  | expression (text : String)

/-- What is wrong, in words. -/
def Fault.text : Fault → String
  | .missing word => "syntax error: missing argument after " ++ Quoted.always word
  | .unexpected word => "syntax error: unexpected argument " ++ Quoted.always word
  | .unclosed word => "syntax error: expecting ')' after " ++ Quoted.always word
  | .unopened word => "syntax error: expecting ')' instead of " ++ Quoted.always word
  | .stray => "syntax error: unexpected ')'"
  | .noNumber => "non-integer argument"
  | .byZero => "division by zero"
  | .expression text => text

/-- The whole number that a text writes. -/
def number? (s : String) : Option Int :=
  match s.toList with
  | '-' :: ds => if !ds.isEmpty && ds.all Char.isDigit then some (-Int.ofNat (Text.Decimal.value ds)) else none
  | ds => if !ds.isEmpty && ds.all Char.isDigit then some (Int.ofNat (Text.Decimal.value ds)) else none

/-- The text of a whole number. -/
def textOf (n : Int) : String := (if n < 0 then "-" else "") ++ Text.Decimal.text n.natAbs

/-- Whether a value is nothing: the empty text, or zero. -/
def isNothing (s : String) : Bool := s = "" || number? s = some 0

/-- A value and the words behind it. -/
abbrev Result := Except Fault (String × List String)

/-- Works on two numbers. -/
def onNumbers (a b : String) (f : Int → Int → Except Fault Int) : Except Fault String :=
  match number? a, number? b with
  | some a, some b => (f a b).map textOf
  | _, _ => .error .noNumber

/-- What an expression finds at the start of a text: what its first group was, or how long all of it is. -/
def matched (text pattern : String) : Except Fault String :=
  match Expression.read ⟨false, false, false⟩ pattern with
  | .error e => .error (.expression e)
  | .ok e =>
    let cs := text.toList.toArray
    let g : Expression.Ground := ⟨cs, false, false, !e.hasAgain⟩
    let found := Expression.matchAt g e 0
    if 0 < e.groupCount then
      .ok ((found.bind fun m => (m.group? 1).map fun (i, j) => String.ofList (cs.extract i j).toList).getD "")
    else .ok (Text.Decimal.text ((found.map fun m => m.stop).getD 0))

/-- How two values compare: as numbers if both are, otherwise as texts. -/
def compared (a b : String) : Ordering :=
  match number? a, number? b with
  | some a, some b => compare a b
  | _, _ => compare a b

/-- Applies an operator to two values. -/
def applied (op a b : String) : Except Fault String :=
  let truth := fun (b : Bool) => Except.ok (if b then "1" else "0")
  let o := compared a b
  match op with
  | "+" => onNumbers a b fun a b => .ok (a + b)
  | "-" => onNumbers a b fun a b => .ok (a - b)
  | "*" => onNumbers a b fun a b => .ok (a * b)
  | "/" => onNumbers a b fun a b => if b = 0 then .error .byZero else .ok (a.tdiv b)
  | "%" => onNumbers a b fun a b => if b = 0 then .error .byZero else .ok (a.tmod b)
  | "<" => truth (o = .lt)
  | "<=" => truth (o ≠ .gt)
  | "=" | "==" => truth (o = .eq)
  | "!=" => truth (o ≠ .eq)
  | ">=" => truth (o ≠ .lt)
  | ">" => truth (o = .gt)
  | _ => matched a b

/-- The operators, from the weakest to the strongest. -/
def levels : List (List String) :=
  [["|"], ["&"], ["<", "<=", "=", "==", "!=", ">=", ">"], ["+", "-"], ["*", "/", "%"], [":"]]

/-- A part of a text, given its first place and its length. -/
def part (text place length : String) : String :=
  match number? place, number? length with
  | some p, some n => if p ≤ 0 || n ≤ 0 then "" else String.ofList ((text.toList.drop (p.toNat - 1)).take n.toNat)
  | _, _ => ""

mutual

/-- Reads operands of a level joined by its operators. Only what counts is worked out. -/
def joined (counts : Bool) : Nat → List (List String) → String → List String → Result
  | 0, _, last, _ => .error (.missing last)
  | n + 1, [], last, words => operand counts n last words
  | n + 1, ops :: stronger, last, words => do
    let (a, rest) ← joined counts n stronger last words
    more counts n ops stronger a rest

/-- Reads operators of a level and the operands behind them, given the value in front. -/
def more (counts : Bool) : Nat → List String → List (List String) → String → List String → Result
  | 0, _, _, a, words => .ok (a, words)
  | n + 1, ops, stronger, a, words => do
    match words with
    | op :: rest =>
      if !ops.contains op then return (a, words)
      else
        let decided := (op = "|" && !isNothing a) || (op = "&" && isNothing a)
        let (b, rest) ← joined (counts && !decided) n stronger op rest
        let value ← if !counts then pure "" else match op with
          | "|" => pure (if !isNothing a then a else if isNothing b then "0" else b)
          | "&" => pure (if isNothing a || isNothing b then "0" else a)
          | op => applied op a b
        more counts n ops stronger value rest
    | [] => return (a, [])

/-- Reads an operand. -/
def operand (counts : Bool) : Nat → String → List String → Result
  | 0, last, _ => .error (.missing last)
  | _, last, [] => .error (.missing last)
  | n + 1, _, word :: rest => do
    match word with
    | "(" =>
      let (a, left) ← joined counts n levels word rest
      match left with
      | ")" :: left => return (a, left)
      | [] => .error (.unclosed (rest.getLastD word))
      | other :: _ => .error (.unopened other)
    | ")" => .error .stray
    | "+" =>
      match rest with
      | a :: rest => return (a, rest)
      | [] => .error (.missing "+")
    | "length" =>
      let (a, rest) ← operand counts n word rest
      return (Text.Decimal.text a.length, rest)
    | "match" =>
      let (a, rest) ← operand counts n word rest
      let (b, rest) ← operand counts n a rest
      return (← if counts then matched a b else pure "", rest)
    | "index" =>
      let (a, rest) ← operand counts n word rest
      let (b, rest) ← operand counts n a rest
      return (Text.Decimal.text (((a.toList.findIdx? b.toList.contains).map (· + 1)).getD 0), rest)
    | "substr" =>
      let (a, rest) ← operand counts n word rest
      let (b, rest) ← operand counts n a rest
      let (c, rest) ← operand counts n b rest
      return (part a b c, rest)
    | word => return (word, rest)

end

/-- The value that words write. -/
def value (words : List String) : Except Fault String := do
  let (a, rest) ← joined true (10 * words.length + 20) levels "" words
  match rest with
  | [] => return a
  | word :: _ => .error (.unexpected word)

/-- `expr`: writes the value of its arguments. -/
def expr (c : Call) : Act Nat := do
  let words := if c.arguments.head? = some "--" then c.arguments.drop 1 else c.arguments
  match words with
  | [] => c.misused 2 "missing operand"
  | ["--help"] => do
    c.put ("Usage: " ++ c.name ++ " EXPRESSION\n")
    return 0
  | words =>
    match value words with
    | .error fault => c.refuse 2 fault.text
    | .ok a =>
      c.put (a ++ "\n")
      return if isNothing a then 1 else 0

/-- The empty text is no number. -/
theorem number?_empty : number? "" = none := by decide

end RunLedger.Sandbox.Calculator
