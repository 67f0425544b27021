import RunLedger.Json.Basic

/-!
# The text of a JSON value

Values are written without blanks. In a string the quote, the backslash and the characters below the space are escaped,
the latter by a letter where there is one and else by four hexadecimal digits; everything else stands as it is.
-/

namespace RunLedger.Json

/-- The lowercase hexadecimal digit of a number below sixteen. -/
def hexDigit (n : Nat) : Char := if n < 10 then Char.ofNat (48 + n) else Char.ofNat (87 + n)

/-- A character inside a string literal. -/
def escape (c : Char) : List Char :=
  if c = '"' then ['\\', '"']
  else if c = '\\' then ['\\', '\\']
  else if 32 ≤ c.toNat then [c]
  else if c.toNat = 8 then ['\\', 'b']
  else if c = '\t' then ['\\', 't']
  else if c = '\n' then ['\\', 'n']
  else if c.toNat = 12 then ['\\', 'f']
  else if c = '\r' then ['\\', 'r']
  else ['\\', 'u', '0', '0', hexDigit (c.toNat / 16), hexDigit (c.toNat % 16)]

/-- A string literal. One that is no text is written as an escaped lone surrogate. -/
def literal : Option String → List Char
  | some s => '"' :: s.toList.flatMap escape ++ ['"']
  | none => ['"', '\\', 'u', 'd', '8', '0', '0', '"']

/-- A number literal. -/
def Number.text (n : Number) : List Char :=
  (if n.negative then ['-'] else []) ++ n.whole ++ (if n.fraction.isEmpty then [] else '.' :: n.fraction) ++
    match n.exponent with
    | none => []
    | some (down, digits) => 'e' :: (if down then '-' else '+') :: digits

/-- What is written of a list after its first item. -/
def separated : List (List Char) → List Char
  | [] => []
  | item :: rest => ',' :: item ++ separated rest

/-- Items with commas between them. -/
def commas : List (List Char) → List Char
  | [] => []
  | item :: rest => item ++ separated rest

mutual

/-- The text of a value. -/
def render : Json → List Char
  | .null => ['n', 'u', 'l', 'l']
  | .bool true => ['t', 'r', 'u', 'e']
  | .bool false => ['f', 'a', 'l', 's', 'e']
  | .number n => n.text
  | .string s => literal s
  | .array items => '[' :: commas (renderItems items) ++ [']']
  | .object members => '{' :: commas (renderMembers members) ++ ['}']

/-- The texts of the items of an array. -/
def renderItems : List Json → List (List Char)
  | [] => []
  | item :: rest => render item :: renderItems rest

/-- The texts of the members of an object. -/
def renderMembers : List (Option String × Json) → List (List Char)
  | [] => []
  | (key, value) :: rest => (literal key ++ ':' :: render value) :: renderMembers rest

end

/-- The text of a value. -/
def print (j : Json) : String := String.ofList j.render

end RunLedger.Json
