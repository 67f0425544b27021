import RunLedger.Text.Hidden

/-!
# Quoted text

How error messages show a text or a character: between delimiters, with a backslash before the delimiter and before a
backslash, short forms for the tab, the line ends and NUL, and the hexadecimal number of every other character that has
no visible form.
-/

namespace RunLedger.Text.Quoted

/-- The shown form of a character inside the given delimiter. -/
def escape (delimiter c : Char) : List Char :=
  if c = Char.ofNat 0 then ['\\', '0']
  else if c = '\t' then ['\\', 't']
  else if c = '\n' then ['\\', 'n']
  else if c = '\r' then ['\\', 'r']
  else if c = delimiter ∨ c = '\\' then ['\\', c]
  else if Hidden.isHidden c then ['\\', 'u', '{'] ++ Nat.toDigits 16 c.toNat ++ ['}']
  else [c]

/-- A text between double quotes. -/
def text (s : String) : String := String.ofList ('"' :: s.toList.flatMap (escape '"') ++ ['"'])

/-- A character between single quotes. -/
def character (c : Char) : String := String.ofList ('\'' :: escape '\'' c ++ ['\''])

/-- Nothing is shown as a pair of quotes around nothing. -/
theorem text_empty : text "" = "\"\"" := rfl

end RunLedger.Text.Quoted
