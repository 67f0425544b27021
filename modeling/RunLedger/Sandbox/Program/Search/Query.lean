import RunLedger.Sandbox.Pattern
import RunLedger.Sandbox.Expression
import RunLedger.Sandbox.Program.Description

/-!
# Queries

What is asked of files that are searched through, and what is done with those that answer: tests and actions, joined by
`!`, `-a`, `-o`, `,` and parentheses.

* `read_nil`: to ask nothing is true of everything.
-/

namespace RunLedger.Sandbox.Search

/-- How a number is compared with one that was given. -/
inductive Comparison where
  | less
  | equal
  | more
  deriving DecidableEq, Repr

/-- A number to compare with. -/
structure Measure where
  comparison : Comparison
  number : Nat
  deriving DecidableEq, Repr

/-- Whether a number compares so. -/
def Measure.admits (m : Measure) (n : Nat) : Bool :=
  match m.comparison with
  | .less => n < m.number
  | .equal => n = m.number
  | .more => m.number < n

/-- What is asked of a file, or done with it. -/
inductive Query where
  | always (holds : Bool)
  | name (isFolded : Bool) (pattern : String)
  | path (isFolded : Bool) (pattern : String)
  | target (isFolded : Bool) (pattern : String)
  | expression (isFolded : Bool) (e : Expression)
  | kind (follows : Bool) (letters : List Char)
  | size (unit : Nat) (m : Measure)
  | empty
  | newer (path : String)
  | same (path : String)
  /-- Asks for bits: all of these and no others, all of these, or some of these. -/
  | exactly (bits : Nat)
  | allOf (bits : Nat)
  | anyOf (bits : Nat)
  | links (m : Measure)
  | number (m : Measure)
  /-- Asks how many units of time ago a file was changed, counted from one or rounded down. -/
  | age (seconds : Nat) (isWhole : Bool) (m : Measure)
  | runnable
  | print (ending : String)
  | format (text : String)
  | describe
  | delete
  /-- Runs a command with the path, in its directory if asked, after a question if asked. -/
  | run (isInside asks : Bool) (argv : List String)
  /-- Runs a command with many paths at once. -/
  | gather (number : Nat) (isInside : Bool) (argv : List String)
  | prune
  | quit
  | not (q : Query)
  | and (a b : Query)
  | or (a b : Query)
  | both (a b : Query)

/-- Whether a query does something, so that the paths are not written otherwise. -/
def Query.acts : Query → Bool
  | .print _ | .format _ | .describe | .delete | .run _ _ _ | .gather _ _ _ | .quit => true
  | .not q => q.acts
  | .and a b | .or a b | .both a b => a.acts || b.acts
  | _ => false

/-- Whether a query takes files away. -/
def Query.deletes : Query → Bool
  | .delete => true
  | .not q => q.deletes
  | .and a b | .or a b | .both a b => a.deletes || b.deletes
  | _ => false

/-- How far a search goes. -/
structure Range where
  least : Nat
  most : Option Nat
  /-- Whether what is in a directory comes before it. -/
  isDeepFirst : Bool

/-! ## Reading -/

/-- What is left to read, and what was read of the range. -/
structure Reading where
  words : List String
  /-- The word that was read last. -/
  last : String
  range : Range
  /-- How many commands gather paths. -/
  count : Nat

/-- Reads queries, or tells what is wrong. -/
abbrev Reader := StateT Reading (Except String)

/-- A text between a backquote and a quote. -/
def quoted (s : String) : String := (Char.ofNat 96).toString ++ s ++ "'"

/-- The next word, which belongs to a test. -/
def value (test : String) : Reader String := do
  let r ← get
  match r.words with
  | [] => throw ("missing argument to " ++ quoted test)
  | word :: rest =>
    set { r with words := rest, last := test }
    return word

/-- The number of digits, if there are nothing but digits. -/
def digits? (cs : List Char) : Option Nat :=
  if cs.isEmpty || !cs.all Char.isDigit then none else some (Text.Decimal.value cs)

/-- A number with a sign that tells how it is compared. -/
def measureOf (cs : List Char) : Option Measure :=
  match cs with
  | '+' :: cs => (digits? cs).map fun n => ⟨.more, n⟩
  | '-' :: cs => (digits? cs).map fun n => ⟨.less, n⟩
  | cs => (digits? cs).map fun n => ⟨.equal, n⟩

/-- The measure behind a test. -/
def measure (test : String) : Reader Measure := do
  let word ← value test
  match measureOf word.toList with
  | some m => return m
  | none => throw ("invalid argument " ++ quoted word ++ " to " ++ quoted test)

/-- The units of sizes. -/
def sizeUnits : List (Char × Nat) :=
  [('b', 512), ('c', 1), ('w', 2), ('k', 1024), ('M', 1048576), ('G', 1073741824)]

/-- What is asked of a size. -/
def sizeQuery : Reader Query := do
  let word ← value "-size"
  match word.toList.getLast? with
  | none => throw "invalid null argument to -size"
  | some last =>
    let (unit, cs) := if last.isDigit then (some 512, word.toList) else (sizeUnits.lookup last, word.toList.dropLast)
    match unit with
    | none => throw ("invalid -size type " ++ quoted last.toString)
    | some unit =>
      match measureOf cs with
      | some m => return .size unit m
      | none => throw ("Invalid argument " ++ quoted word ++ " to -size")

/-- What is asked of permissions. -/
def permissionQuery : Reader Query := do
  let word ← value "-perm"
  let bits := fun (s : String) => (Permission.changed? ⟨false, 0, 0⟩ s : Option Nat)
  let found := match word.toList with
    | '-' :: cs => (bits (String.ofList cs)).map Query.allOf
    | '/' :: cs => (bits (String.ofList cs)).map Query.anyOf
    | _ => (bits word).map Query.exactly
  match found with
  | some q => return q
  | none => throw ("invalid mode " ++ Quoted.always word)

/-- What is asked of a kind. -/
def kindQuery (follows : Bool) (test : String) : Reader Query := do
  let word ← value test
  let parts := word.splitOn ","
  match parts.find? fun p => !(["b", "c", "d", "p", "f", "l", "s"].contains p) with
  | none => return .kind follows (parts.flatMap String.toList)
  | some "" => throw ("Arguments to " ++ test ++ " should contain at least one letter")
  | some part =>
    if 1 < part.length then throw ("Must separate multiple arguments to " ++ test ++ " using: ','")
    else throw ("Unknown argument to " ++ test ++ ": " ++ part)

/-- The words of a command up to its end, and whether it gathers paths. -/
def commandWords : List String → List String → Option (List String × Bool × List String)
  | _, [] => none
  | front, ";" :: rest => some (front.reverse, false, rest)
  | "\x7b\x7d" :: front, "+" :: rest => some (("\x7b\x7d" :: front).reverse, true, rest)
  | front, word :: rest => commandWords (word :: front) rest

/-- Whether a word has a place for the path. -/
def hasPlace (word : String) : Bool := 1 < (word.splitOn "\x7b\x7d").length

/-- What is run. -/
def commandQuery (test : String) : Reader Query := do
  let r ← get
  match r.words, commandWords [] r.words with
  | ";" :: _, _ => throw ("invalid argument " ++ quoted ";" ++ " to " ++ quoted test)
  | words, none =>
    match words.find? fun w => hasPlace w && w ≠ "\x7b\x7d" with
    | some word =>
      if words.contains "+" then
        throw ("In " ++ Quoted.always (test ++ " ... \x7b\x7d +") ++ " the '\x7b\x7d' must appear by itself, but you specified " ++
          Quoted.always word)
      else throw ("missing argument to " ++ quoted test)
    | none => throw ("missing argument to " ++ quoted test)
  | _, some (argv, isGathering, rest) =>
    let isInside := test = "-execdir" || test = "-okdir"
    set { r with words := rest, last := test, count := r.count + 1 }
    if isGathering && !test.startsWith "-ok" then
      if 1 < (argv.filter hasPlace).length then
        throw ("Only one instance of \x7b\x7d is supported with " ++ test ++ " ... +")
      else return .gather r.count isInside argv.dropLast
    else return .run isInside (test.startsWith "-ok") argv

/-- Sets how deep a search goes. -/
def depthOf (test : String) (f : Nat → Range → Range) : Reader Query := do
  let word ← value test
  match digits? word.toList with
  | some n =>
    modify fun r => { r with range := f n r.range }
    return .always true
  | none =>
    throw ("Expected a positive decimal integer argument to " ++ test ++ ", but got " ++ Quoted.always word)

/-- Reads a test or an action. -/
def primary (word : String) : Reader Query := do
  modify fun r => { r with last := word }
  match word with
  | "-true" | "-xdev" | "-mount" | "-noleaf" | "-daystart" | "-nowarn" | "-warn" | "-follow" | "-readable" | "-writable" |
    "-ignore_readdir_race" => return .always true
  | "-false" | "-nouser" | "-nogroup" => return .always false
  | "-depth" | "-d" => do
    modify fun r => { r with range := { r.range with isDeepFirst := true } }
    return .always true
  | "-maxdepth" => depthOf word fun n r => { r with most := some n }
  | "-mindepth" => depthOf word fun n r => { r with least := n }
  | "-name" => .name false <$> value word
  | "-iname" => .name true <$> value word
  | "-path" | "-wholename" => .path false <$> value word
  | "-ipath" | "-iwholename" => .path true <$> value word
  | "-lname" => .target false <$> value word
  | "-ilname" => .target true <$> value word
  | "-regex" | "-iregex" =>
    match Expression.read ⟨false, true, false⟩ (← value word) with
    | .ok e => return .expression (word = "-iregex") e
    | .error text => throw text
  | "-regextype" => do
    let _ ← value word
    return .always true
  | "-type" => kindQuery false word
  | "-xtype" => kindQuery true word
  | "-size" => sizeQuery
  | "-empty" => return .empty
  | "-newer" | "-anewer" | "-cnewer" | "-newermm" => .newer <$> value word
  | "-samefile" => .same <$> value word
  | "-perm" => permissionQuery
  | "-links" => .links <$> measure word
  | "-inum" => .number <$> measure word
  | "-mtime" | "-atime" | "-ctime" => .age 86400 true <$> measure word
  | "-mmin" | "-amin" | "-cmin" => .age 60 false <$> measure word
  | "-user" | "-group" => do
    let name ← value word
    if name = "root" then return .always true
    else if name.toList.all Char.isDigit then return .always (Text.Decimal.value name.toList = 0)
    else throw (Quoted.always name ++ " is not the name of " ++ (if word = "-user" then "a known user" else "an existing group"))
  | "-uid" | "-gid" => do
    let m ← measure word
    return .always (m.admits 0)
  | "-executable" => return .runnable
  | "-print" => return .print "\n"
  | "-print0" => return .print "\x00"
  | "-printf" => .format <$> value word
  | "-ls" => return .describe
  | "-delete" => do
    modify fun r => { r with range := { r.range with isDeepFirst := true } }
    return .delete
  | "-exec" | "-execdir" | "-ok" | "-okdir" => commandQuery word
  | "-prune" => return .prune
  | "-quit" => return .quit
  | _ =>
    if word.startsWith "-" then throw ("unknown predicate " ++ quoted word)
    else throw ("paths must precede expression: " ++ quoted word)

/-- The words that join queries. -/
def joints : List String := ["-o", "-or", "-a", "-and", ",", ")"]

/-- Takes the next word if it is one of some. -/
def take? (words : List String) : Reader (Option String) := do
  let r ← get
  match r.words with
  | word :: rest =>
    if words.contains word then
      set { r with words := rest }
      return some word
    else return none
  | [] => return none

/-- How a query that may be negated is read, given how one in parentheses is, in at most so many steps. -/
def negation (inner : Reader Query) : Nat → String → Reader Query
  | 0, _ => throw ""
  | n + 1, joint => do
    let r ← get
    match r.words with
    | [] =>
      throw (if joint = "" then "invalid expression" else "expected an expression after " ++ Quoted.always joint)
    | word :: rest =>
      if word = "!" || word = "-not" then
        set { r with words := rest }
        .not <$> negation inner n word
      else if word = "(" then
        set { r with words := rest }
        if rest.head? = some ")" then throw "invalid expression; empty parentheses are not allowed."
        else
          let q ← if rest.isEmpty then throw ("invalid expression; expected to find a ')' but didn't see one. " ++
              "Perhaps you need an extra predicate after '('")
            else inner
          match ← take? [")"] with
          | some _ => return q
          | none => throw "invalid expression; I was expecting to find a ')' somewhere but did not see one."
      else if word = ")" then
        throw (if joint = "" then "invalid expression; you have too many ')'"
          else "expected an expression between " ++ Quoted.always joint ++ " and ')'")
      else if joints.contains word then
        throw ("invalid expression; you have used a binary operator " ++ Quoted.always word ++ " with nothing before it.")
      else
        set { r with words := rest }
        primary word

/-- Reads queries that must all hold, behind one. -/
def conjunction (inner : Reader Query) : Nat → Query → Reader Query
  | 0, q => return q
  | n + 1, q => do
    let r ← get
    match r.words with
    | [] => return q
    | word :: rest =>
      if word = "-a" || word = "-and" then
        set { r with words := rest }
        conjunction inner n (.and q (← negation inner (rest.length + 2) word))
      else if joints.contains word then return q
      else conjunction inner n (.and q (← negation inner (rest.length + 2) ""))

/-- Reads queries of which one must hold, behind one. -/
def disjunction (inner : Reader Query) : Nat → Query → Reader Query
  | 0, q => return q
  | n + 1, q => do
    match ← take? ["-o", "-or"] with
    | none => return q
    | some word =>
      let fuel := (← get).words.length + 2
      disjunction inner n (.or q (← conjunction inner fuel (← negation inner fuel word)))

/-- Reads queries of which the last one counts, behind one. -/
def list (inner : Reader Query) : Nat → Query → Reader Query
  | 0, q => return q
  | n + 1, q => do
    match ← take? [","] with
    | none => return q
    | some word =>
      let fuel := (← get).words.length + 2
      let next ← disjunction inner fuel (← conjunction inner fuel (← negation inner fuel word))
      list inner n (.both q next)

/-- Reads a query that is nested so deep at most. -/
def query : Nat → Reader Query
  | 0 => throw "invalid expression"
  | n + 1 => do
    let inner := query n
    let fuel := (← get).words.length + 2
    list inner fuel (← disjunction inner fuel (← conjunction inner fuel (← negation inner fuel "")))

/-- Reads words as a query, with the range of the search. -/
def read (words : List String) : Except String (Query × Range) :=
  let range : Range := ⟨0, none, false⟩
  if words.isEmpty then .ok (.always true, range)
  else do
    let (q, r) ← (query (words.length + 1)).run ⟨words, "", range, 0⟩
    match r.words with
    | [] => return (q, r.range)
    | ")" :: _ => .error "invalid expression; you have too many ')'"
    | word :: _ => .error ("paths must precede expression: " ++ quoted word)

/-- To ask nothing is true of everything. -/
theorem read_nil : (read []).map Prod.fst = .ok (.always true) := rfl

end RunLedger.Sandbox.Search
