/-!
# Scripts

What a shell script says. A word is made of pieces: text, quotation marks, parameters, sums, and the output of scripts. A
command is a simple one, with settings of variables in front and redirections, or it is put together from commands. A
document inside a script is known by a number until it is read, and is filled in then.

* `literal?_text`: a word of plain text is literal.
-/

namespace RunLedger.Sandbox

/-- What is asked of a parameter. Each of the first four changes looks at whether the parameter is set; with a colon an
empty one counts as unset. -/
inductive Use where
  | plain
  | length
  /-- Stands in for one that is unset. -/
  | otherwise (colon : Bool)
  /-- Sets one that is unset. -/
  | assign (colon : Bool)
  /-- Complains about one that is unset. -/
  | require (colon : Bool)
  /-- Stands in for one that is set. -/
  | instead (colon : Bool)
  /-- Takes a pattern off the start. -/
  | dropStart (longest : Bool)
  /-- Takes a pattern off the end. -/
  | dropEnd (longest : Bool)
  /-- Makes no sense. -/
  | malformed
  deriving DecidableEq, Repr

/-- Where a descriptor of a command leads. -/
inductive Direction where
  | read
  | write
  /-- To a file, even if one is there that should be kept. -/
  | overwrite
  | append
  | readWrite
  /-- To where another descriptor leads, or nowhere. -/
  | duplicate
  /-- From a text in the script. -/
  | document
  deriving DecidableEq, Repr

/-- A redirection, for words of any kind. A document that is not read yet is known by its number. -/
structure Redirection (word : Type) where
  descriptor : Nat
  direction : Direction
  number : Nat
  target : word

mutual

/-- A piece of a word. -/
inductive Piece where
  | text (s : String) (isQuoted : Bool)
  /-- A quotation mark. -/
  | mark
  | parameter (name : String) (use : Use) (word : List Piece)
  | sum (expression : List Piece)
  | output (script : Command)

/-- A command. What complains keeps the number of its line. -/
inductive Command where
  | nothing
  | simple (line : Nat) (settings words : List (List Piece)) (redirections : List (Redirection (List Piece)))
  | redirected (line : Nat) (c : Command) (redirections : List (Redirection (List Piece)))
  | pipeline (commands : List Command)
  | negated (c : Command)
  | background (c : Command)
  | sequence (a b : Command)
  | both (a b : Command)
  | either (a b : Command)
  | subshell (line : Nat) (c : Command) (redirections : List (Redirection (List Piece)))
  | choice (condition yes no : Command)
  | loop (whileTrue : Bool) (condition body : Command)
  | each (line : Nat) (name : String) (words : List (List Piece)) (body : Command)
  | select (line : Nat) (word : List Piece) (branches : List Branch)
  | define (line : Nat) (name : String) (body : Command)

/-- A branch of a selection. -/
inductive Branch where
  | mk (patterns : List (List Piece)) (body : Command)

end

/-- A word of a script. -/
abbrev Word := List Piece

/-- Whether a text is the name of a variable. -/
def isVariableName (s : String) : Bool :=
  match s.toList with
  | c :: cs => (c.isAlpha || c = '_') && cs.all fun c => c.isAlphanum || c = '_'
  | [] => false

namespace Word

/-- A word of plain text. -/
def text (s : String) : Word := [.text s false]

/-- The text of a word with nothing else in it. -/
def literal? : Word → Option String
  | [] => some ""
  | .text s _ :: rest => (literal? rest).map (s ++ ·)
  | .mark :: rest => literal? rest
  | _ :: _ => none

/-- The parameters, each of them a field of its own. -/
def parameters : Word := [.mark, .parameter "@" .plain [], .mark]

/-- A word behind a run of texts of one kind, the latest first. -/
def joinedOnto (run : List String) (isQuoted : Bool) : Word → Word
  | .text s q :: rest =>
    if run.isEmpty || q = isQuoted then joinedOnto (s :: run) q rest
    else .text (String.join run.reverse) isQuoted :: joinedOnto [s] q rest
  | p :: rest =>
    if run.isEmpty then p :: joinedOnto [] false rest
    else .text (String.join run.reverse) isQuoted :: p :: joinedOnto [] false rest
  | [] => if run.isEmpty then [] else [.text (String.join run.reverse) isQuoted]

/-- A word with neighbouring texts of one kind put together. -/
def joined (w : Word) : Word := joinedOnto [] false w

/-- Whether a word sets a variable. -/
def isSetting : Word → Bool
  | .text s false :: _ =>
    let name := String.ofList (s.toList.takeWhile (· ≠ '='))
    name.length < s.length && isVariableName name
  | _ => false

theorem literal?_text (s : String) : literal? (text s) = some s := by
  simp [text, literal?]

end Word

/-! ## Documents -/

/-- The documents of a script by their numbers. -/
abbrev Documents := List (Nat × Word)

/-- A redirection with its document filled in. -/
def Redirection.fill (documents : Documents) (r : Redirection Word) : Redirection Word :=
  if r.direction = .document then { r with target := (documents.lookup r.number).getD r.target } else r

mutual

/-- A command with its documents filled in. -/
def Command.fill (documents : Documents) : Command → Command
  | .nothing => .nothing
  | .simple line settings words rs => .simple line settings words (rs.map (·.fill documents))
  | .redirected line c rs => .redirected line (c.fill documents) (rs.map (·.fill documents))
  | .pipeline cs => .pipeline (fillAll documents cs)
  | .negated c => .negated (c.fill documents)
  | .background c => .background (c.fill documents)
  | .sequence a b => .sequence (a.fill documents) (b.fill documents)
  | .both a b => .both (a.fill documents) (b.fill documents)
  | .either a b => .either (a.fill documents) (b.fill documents)
  | .subshell line c rs => .subshell line (c.fill documents) (rs.map (·.fill documents))
  | .choice condition yes no => .choice (condition.fill documents) (yes.fill documents) (no.fill documents)
  | .loop whileTrue condition body => .loop whileTrue (condition.fill documents) (body.fill documents)
  | .each line name words body => .each line name words (body.fill documents)
  | .select line word branches => .select line word (fillBranches documents branches)
  | .define line name body => .define line name (body.fill documents)

/-- Commands with their documents filled in. -/
def fillAll (documents : Documents) : List Command → List Command
  | [] => []
  | c :: rest => c.fill documents :: fillAll documents rest

/-- Branches with their documents filled in. -/
def fillBranches (documents : Documents) : List Branch → List Branch
  | [] => []
  | .mk patterns body :: rest => .mk patterns (body.fill documents) :: fillBranches documents rest

end

end RunLedger.Sandbox
