import RunLedger.OrderedMap
import RunLedger.Sandbox.Script.Basic

/-!
# Tokens of scripts

A script is read token by token: ends of lines, operators, the fronts of redirections, and words. Where a command may
start, a word may be reserved or stand for the text of an alias. Documents are read at the end of the line that asked for
them. What can stand inside something else, scripts in words and words in scripts, is given to each reader as a
`Grammar`.

* `peek_nil`: in front of the end there is nothing.
-/

namespace RunLedger.Sandbox.Script

/-- A token of a script. -/
inductive Token where
  | finished
  | newline
  | operator (sign : String)
  /-- The front of a redirection: its descriptor and what it asks for, and whether a document is indented. -/
  | redirection (descriptor : Nat) (direction : Direction) (isIndented : Bool)
  | word (w : Word)
  | keyword (s : String)

/-- The name of a token in complaints. -/
def Token.name : Token → String
  | .finished => "end of file"
  | .newline => "newline"
  | .operator sign => "\"" ++ sign ++ "\""
  | .redirection _ _ _ => "redirection"
  | .word _ => "word"
  | .keyword s => "\"" ++ s ++ "\""

/-- What a token is looked through for. -/
structure Checks where
  /-- Whether ends of lines are passed over. -/
  lines : Bool
  keywords : Bool
  aliases : Bool

namespace Checks

/-- Every word is a word, and every end of a line is one. -/
def none : Checks := ⟨false, false, false⟩

/-- A command may start here, on a later line too. -/
def all : Checks := ⟨true, true, true⟩

/-- A command may start here, on this line. -/
def command : Checks := ⟨false, true, true⟩

/-- The name of a command may stand here. -/
def name : Checks := ⟨false, false, true⟩

/-- A reserved word may stand here, on a later line too. -/
def reserved : Checks := ⟨true, true, false⟩

end Checks

/-- The text of an alias in front of the rest of a script. -/
structure Span where
  /-- How much of the script is left behind it. -/
  stop : Nat
  name : String
  /-- Whether it ends in a blank, so that the next word may be an alias too. -/
  isOpen : Bool

/-- A document that is to be read at the end of the line. -/
structure Awaited where
  number : Nat
  mark : String
  isIndented : Bool
  /-- Whether parameters are filled in. -/
  isOpen : Bool

/-- How far a script is read. -/
structure Reading where
  rest : List Char
  line : Nat
  /-- A token that was read and put back. -/
  token? : Option Token
  aliases : OrderedMap String String
  spans : List Span
  awaited : List Awaited
  documents : Documents
  /-- How many documents there were. -/
  count : Nat

/-- What is wrong with a script, and on which line. -/
structure Complaint where
  line : Nat
  text : String
  deriving DecidableEq, Repr

/-- Reads from the front of a script, or finds that it makes no sense. -/
abbrev Reader := StateT Reading (Except Complaint)

/-- Finds that a script makes no sense. -/
def refuse {α : Type} (text : String) : Reader α := fun r => .error ⟨r.line, text⟩

/-- Finds a token where another one, if one is named, should be. -/
def surprise {α : Type} (t : Token) (expected : Option String) : Reader α :=
  refuse (t.name ++ " unexpected" ++ expected.elim "" fun e => " (expecting " ++ e ++ ")")

/-- What surrounds the characters of a word. -/
inductive Surrounding where
  | bare
  /-- The mark that ends a document. -/
  | delimiter
  | quotes
  /-- Quotation marks inside braces that are inside quotation marks. -/
  | inner
  | braces (isQuoted : Bool)
  | document
  | sum
  deriving DecidableEq

/-- Whether characters keep no meaning but `$` and the like. -/
def Surrounding.isQuoted : Surrounding → Bool
  | .bare | .delimiter => false
  | .braces isQuoted => isQuoted
  | _ => true

/-- How what is inside of something else is read: a list of commands, which may be empty if asked, a command, and words
with what closes them. -/
structure Grammar where
  list : Bool → Reader Command
  command : Checks → Reader Command
  word : Surrounding → Reader Word

/-- More steps than any script is long. -/
def plenty : Nat := 1000000000

/-! ## Characters -/

/-- The mark around the output of a script. -/
def backquote : Char := Char.ofNat 96

/-- Whether a character ends a word. -/
def isMeta (c : Char) : Bool := [' ', '\t', '\n', ';', '&', '|', '<', '>', '(', ')'].contains c

/-- Whether a character means more than itself in a word. -/
def isSpecial (c : Char) : Bool := ['\\', '\'', '"', '$', backquote].contains c

/-- Takes the next character. -/
def next? : Reader (Option Char) := fun r =>
  match r.rest with
  | [] => .ok (none, r)
  | c :: rest => .ok (some c, { r with rest, line := if c = '\n' then r.line + 1 else r.line })

/-- The next character. -/
def peek : Reader (Option Char) := fun r => .ok (r.rest.head?, r)

/-- Takes so many characters. -/
def skip : Nat → Reader Unit
  | 0 => return ()
  | n + 1 => do
    let _ ← next?
    skip n

/-- Takes the characters that pass a test. -/
def run (test : Char → Bool) : Reader String := fun r =>
  let front := r.rest.takeWhile test
  .ok (String.ofList front,
    { r with rest := r.rest.drop front.length, line := r.line + (front.filter (· = '\n')).length })

/-- The characters behind ends of lines that a backslash takes away, and how many of these there are. -/
def afterJoints : List Char → List Char × Nat
  | '\\' :: '\n' :: cs =>
    let (rest, n) := afterJoints cs
    (rest, n + 1)
  | cs => (cs, 0)

/-- Passes over ends of lines that a backslash takes away. -/
def skipJoints : Reader Unit := fun r =>
  let (rest, n) := afterJoints r.rest
  .ok ((), { r with rest, line := r.line + n })

/-- Takes the next character if it is the one asked for. -/
def takes (c : Char) : Reader Bool := do
  skipJoints
  if (← peek) = some c then
    skip 1
    return true
  else return false

/-! ## Documents -/

/-- Whether a line goes on behind its end: backslashes at the end of it do not take each other away. -/
def goesOn (line : List Char) : Bool := (line.reverse.takeWhile (· = '\\')).length % 2 = 1

/-- The lines of a document up to its mark, latest first, and what follows, in at most so many lines, given whether the
line in front goes on. -/
def documentOnto (a : Awaited) : Nat → Bool → List (List Char) → List Char → List (List Char) × List Char
  | 0, _, lines, cs => (lines, cs)
  | _, _, lines, [] => (lines, [])
  | n + 1, isLater, lines, cs =>
    let whole := cs.takeWhile (· ≠ '\n')
    let ending := (cs.drop whole.length).take 1
    let rest := cs.drop (whole.length + 1)
    let line := if a.isIndented && !isLater then whole.dropWhile (· = '\t') else whole
    if !isLater && line = a.mark.toList then (lines, rest)
    else documentOnto a n (a.isOpen && goesOn line) ((line ++ ending) :: lines) rest

/-- Reads a document. -/
def readDocument (g : Grammar) (a : Awaited) : Reader Unit := do
  let r ← get
  let (lines, rest) := documentOnto a plenty false [] r.rest
  let text := lines.reverse.flatten
  let word ← if a.isOpen then do
      set { r with rest := text }
      g.word .document
    else pure [.text (String.ofList text) true]
  let read := r.rest.take (r.rest.length - rest.length)
  set { r with
    rest, line := r.line + (read.filter (· = '\n')).length, documents := (a.number, word) :: r.documents }

/-- Reads documents in order. -/
def readEach (g : Grammar) : List Awaited → Reader Unit
  | [] => return ()
  | a :: rest => do
    readDocument g a
    readEach g rest

/-- Reads the documents that are asked for. -/
def readDocuments (g : Grammar) : Reader Unit := do
  let r ← get
  set { r with awaited := [] }
  readEach g r.awaited

/-! ## Tokens -/

/-- The reserved words. -/
def keywords : List String :=
  ["!", "case", "do", "done", "elif", "else", "esac", "fi", "for", "if", "in", "then", "until", "while", "\x7b", "\x7d"]

/-- Passes over blanks and a comment. -/
def skipBlanks : Nat → Reader Unit
  | 0 => return ()
  | n + 1 => do
    skipJoints
    match ← peek with
    | some '#' =>
      let _ ← run (· ≠ '\n')
    | some c =>
      if c = ' ' || c = '\t' then
        let _ ← run fun c => c = ' ' || c = '\t'
        skipBlanks n
    | none => return ()

/-- Reads an operator behind its first character, which may be followed by another one. -/
def operator (sign other : String) (c : Char) : Reader Token := do
  if ← takes c then return .operator other else return .operator sign

/-- What a redirection asks for behind its first sign, and whether a document is indented. -/
def direction (sign : Char) : Reader (Direction × Bool) := do
  if sign = '>' then
    if ← takes '>' then return (.append, false)
    else if ← takes '|' then return (.overwrite, false)
    else if ← takes '&' then return (.duplicate, false)
    else return (.write, false)
  else if ← takes '<' then return (.document, ← takes '-')
  else if ← takes '&' then return (.duplicate, false)
  else if ← takes '>' then return (.readWrite, false)
  else return (.read, false)

/-- The number of a descriptor in front of a redirection, if a word is nothing else. -/
def descriptor? : Word → Option (Option Nat)
  | [] => some none
  | [.text s false] =>
    match s.toList with
    | [c] => if c.isDigit then some (some (c.toNat - 48)) else none
    | _ => none
  | _ => none

/-- Reads a word, or the front of a redirection. -/
def wordToken (g : Grammar) (around : Surrounding) : Reader Token := do
  let w ← g.word around
  match descriptor? w, ← peek with
  | some number, some c =>
    if c = '<' || c = '>' then
      skip 1
      let (direction, isIndented) ← direction c
      return .redirection (number.getD (if c = '>' then 1 else 0)) direction isIndented
    else return .word w
  | _, _ => return .word w

/-- Reads a token as it stands. -/
def rawToken (g : Grammar) (around : Surrounding) : Reader Token := do
  skipBlanks plenty
  match ← peek with
  | none => return .finished
  | some c =>
    match c with
    | '\n' =>
      skip 1
      return .newline
    | '&' =>
      skip 1
      operator "&" "&&" '&'
    | '|' =>
      skip 1
      operator "|" "||" '|'
    | ';' =>
      skip 1
      operator ";" ";;" ';'
    | '(' | ')' =>
      skip 1
      return .operator c.toString
    | _ => wordToken g around

/-- Puts a token back. -/
def unread (t : Token) : Reader Unit := modify fun r => { r with token? := some t }

/-- Whether the text of an alias is being read, or was read up to the last character. -/
def Reading.isInside (r : Reading) (name : String) : Bool :=
  r.spans.any fun s => s.name = name && s.stop ≤ r.rest.length

/-- Whether an alias that ends in a blank was left while so much was read. -/
def Reading.leaves (r : Reading) (before after : Nat) : Bool :=
  r.spans.any fun s => s.isOpen && s.stop < before && after ≤ s.stop

/-- The text of an alias that a word stands for here. -/
def Reading.aliased? (r : Reading) (name : String) : Option String :=
  if r.isInside name then none else r.aliases.get? name

/-- Puts the text of an alias in front. -/
def enterAlias (name text : String) : Reader Unit := modify fun r => { r with
  rest := text.toList ++ r.rest
  spans := ⟨r.rest.length, name, text.toList.getLast?.any fun c => c = ' ' || c = '\t'⟩ :: r.spans }

/-- How often one word may lead to another by aliases. -/
def maxAliases : Nat := 1000

/-- Reads a token and the documents in front of it. -/
def plainToken (g : Grammar) (checks : Checks) : Nat → Reader Token
  | 0 => return .finished
  | n + 1 => do
    let r ← get
    let t ← match r.token? with
      | some t => do
        set { r with token? := none }
        pure t
      | none => rawToken g .bare
    match t with
    | .newline =>
      if checks.lines then
        readDocuments g
        plainToken g checks n
      else return t
    | t => return t

/-- Reads a token and looks through it. -/
def tokenIn (g : Grammar) (checks : Checks) : Nat → Reader Token
  | 0 => return .finished
  | n + 1 => do
    let r ← get
    let before := if r.spans.isEmpty then 0 else r.rest.length
    let t ← plainToken g checks plenty
    match t with
    | .word [.text s false] =>
      let r ← get
      let isOpen := checks.aliases || (!r.spans.isEmpty && r.leaves before (r.rest.length + s.length))
      if checks.keywords && keywords.contains s then return .keyword s
      else if isOpen then
        match r.aliased? s with
        | some text =>
          enterAlias s text
          tokenIn g checks n
        | none => return t
      else return t
    | t => return t

/-- Reads a token. -/
def token (g : Grammar) (checks : Checks) : Reader Token := tokenIn g checks maxAliases

/-- In front of the end there is nothing. -/
theorem peek_nil {r : Reading} (h : r.rest = []) : peek r = .ok (none, r) := by
  simp [peek, h]

end RunLedger.Sandbox.Script
