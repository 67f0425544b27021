import RunLedger.Text.Decimal

/-!
# Quoted texts

How programs show a name in what they say: between quotes, so that a shell would read it as one word. Octets that cannot
be seen are written as escapes.

* `always_empty`: the empty text is a pair of quotes.
-/

namespace RunLedger.Sandbox.Quoted

/-- The letters of escapes. -/
def letters : List (Char × Char) :=
  [('\x07', 'a'), ('\x08', 'b'), ('\t', 't'), ('\n', 'n'), ('\x0b', 'v'), ('\x0c', 'f'), ('\r', 'r')]

/-- Three octal digits. -/
def octal (c : Char) : String :=
  String.ofList ([64, 8, 1].map fun d => Char.ofNat (48 + c.toNat / d % 8))

/-- An octet that cannot be seen. -/
def escaped (c : Char) : String :=
  match letters.lookup c with
  | some letter => "\\" ++ letter.toString
  | none => "\\" ++ octal c

/-- Whether an octet can be seen. -/
def isVisible (c : Char) : Bool := ' ' ≤ c && c ≤ '~'

/-- Whether an octet stands for itself between double quotes. -/
def isMild (c : Char) : Bool :=
  c.isAlphanum || [' ', '#', '~', '{', '}', '%', '+', ',', '-', '.', '/', ':', ']', '_', '\''].contains c

/-- A text between quotes. -/
def always (s : String) : String :=
  let cs := s.toList
  if cs.contains '\'' && cs.all isMild then "\"" ++ s ++ "\""
  else
    let (text, _) := cs.foldl (fun (text, isEscaping) c =>
      if isVisible c then
        let text := if isEscaping then text ++ "''" else text
        (if c = '\'' then text ++ "'\\''" else text.push c, false)
      else ((if isEscaping then text else text ++ "'$'") ++ escaped c, true)) ("'", false)
    text ++ "'"

/-- Whether a text means something else to a shell if it stands alone. -/
def isDelicate (s : String) : Bool :=
  let cs := s.toList
  let quote := Char.ofNat 96
  cs.isEmpty || cs = ['\x7b'] || cs = ['\x7d'] || ['#', '~'].contains (cs.headD ' ') ||
    cs.any fun c => !isVisible c ||
      [' ', '!', '"', '$', '&', '(', ')', '*', ';', '<', '=', '>', '[', '^', '|', '?', '\'', '\\', quote].contains c

/-- A text, between quotes if a shell would not read it as one word otherwise. -/
def asNeeded (s : String) : String := if isDelicate s then always s else s

/-- The name of a file in front of a colon. -/
def name (s : String) : String := if isDelicate s || s.toList.contains ':' then always s else s

/-- A text between quotes, with escapes for what is not plain. -/
def marked (s : String) : String :=
  "'" ++ String.join (s.toList.map fun c =>
    if c = '\'' || c = '\\' then "\\" ++ c.toString else if isVisible c then c.toString else escaped c) ++ "'"

/-- The empty text is a pair of quotes. -/
theorem always_empty : always "" = "''" := by rfl

end RunLedger.Sandbox.Quoted
