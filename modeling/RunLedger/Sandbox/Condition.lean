import RunLedger.Sandbox.Arithmetic
import RunLedger.Sandbox.FileTree

/-!
# Conditions

What the words behind `test` ask: whether texts are empty or alike, how numbers compare, and what files there are, joined
with `!`, `-a`, `-o` and parentheses. The program `test` and the one built into the shell agree on what is asked alone
and differ in how they read longer questions; a question that makes no sense is answered with a complaint.

* `program_nil`, `builtin_nil`: to ask nothing is false.
* `program_word`: a word alone holds if it is not empty.
-/

namespace RunLedger.Sandbox

/-- What questions are about: the files, and the directory where names start. -/
structure Scene where
  tree : FileTree
  base : Nat

/-- The answer to a question, or a complaint about it. -/
abbrev Answer := Except String

namespace Condition

/-- The number that a text writes in decimal, with a sign in front and blanks around it if need be. -/
def integer? (s : String) : Option Int :=
  let digits := fun (cs : List Char) =>
    let front := cs.takeWhile Char.isDigit
    if front.isEmpty || !(cs.drop front.length).all Arithmetic.isBlank then none
    else some (Text.Decimal.value front)
  match s.toList.dropWhile Arithmetic.isBlank with
  | '-' :: ds => (digits ds).map fun n => -Int.ofNat n
  | '+' :: ds => (digits ds).map Int.ofNat
  | ds => (digits ds).map Int.ofNat

/-- The number that a text writes, if it fits a word. -/
def word? (s : String) : Option Int := (integer? s).filter fun n => -9223372036854775808 ≤ n && n ≤ 9223372036854775807

/-! ## Files -/

/-- Whether an inode may be run or, a directory, be searched. -/
def isRunnable (t : FileTree) (n : Nat) : Bool := t.holds n Content.isDirectory || t.mode n &&& 0o111 ≠ 0

/-- Whether something is in an inode. -/
def isFilled (t : FileTree) (n : Nat) : Bool :=
  match t.content? n with
  | some (.file octets) => octets.size ≠ 0
  | some (.directory _ _) => true
  | _ => false

/-- What a flag asks of a path, if it asks that. -/
def file? (s : Scene) (flag path : String) : Option Bool :=
  let t := s.tree
  let leads := fun (test : Nat → Bool) =>
    some (match t.find s.base path true with
      | .ok n => test n
      | .error _ => false)
  match flag with
  | "-e" | "-r" | "-w" | "-O" | "-G" => leads fun _ => true
  | "-f" => leads fun n => t.holds n Content.isFile
  | "-d" => leads fun n => t.holds n Content.isDirectory
  | "-s" => leads (isFilled t)
  | "-x" => leads (isRunnable t)
  | "-c" => leads fun n => t.holds n fun
    | .device _ => true
    | _ => false
  | "-p" => leads fun n => t.holds n fun
    | .pipe _ => true
    | _ => false
  | "-b" | "-S" => leads fun _ => false
  | "-u" => leads fun n => t.mode n &&& 0o4000 ≠ 0
  | "-g" => leads fun n => t.mode n &&& 0o2000 ≠ 0
  | "-k" => leads fun n => t.mode n &&& 0o1000 ≠ 0
  | "-h" | "-L" =>
    some (match t.find s.base path false with
      | .ok n => t.holds n Content.isLink
      | .error _ => false)
  | _ => none

/-- When a path was changed, if it is there. -/
def modified? (s : Scene) (path : String) : Option Int :=
  match s.tree.find s.base path true with
  | .ok n => some (s.tree.modified n)
  | .error _ => none

/-- Whether two paths lead to one inode. -/
def isSame (s : Scene) (a b : String) : Bool :=
  match s.tree.find s.base a true, s.tree.find s.base b true with
  | .ok m, .ok n => m = n
  | _, _ => false

/-- How two numbers compare, if the word asks that. -/
def compares? (word : String) (a b : Int) : Option Bool :=
  match word with
  | "-eq" => some (a = b)
  | "-ne" => some (a ≠ b)
  | "-lt" => some (a < b)
  | "-le" => some (a ≤ b)
  | "-gt" => some (a > b)
  | "-ge" => some (a ≥ b)
  | _ => none

/-! ## The program -/

/-- A text in the marks of complaints. -/
def marked (s : String) : String := "'" ++ s ++ "'"

/-- Whether a word asks about two operands, in the program. -/
def isRelation (word : String) : Bool :=
  ["=", "!=", "==", "-nt", "-ot", "-ef", "-eq", "-ne", "-lt", "-le", "-gt", "-ge"].contains word

/-- What is read of a question: the answer so far, and the words left. -/
abbrev Read := Answer (Bool × List String)

/-- The complaint about words that end too early, given all of them. -/
def missing {α : Type} (words : List String) : Answer α := .error ("missing argument after " ++ marked (words.getLastD ""))

/-- The number of an operand: its own, or how long it is. -/
def operand (isLength : Bool) (word : String) : Answer Int :=
  if isLength then .ok (Int.ofNat word.length)
  else
    match integer? word with
    | some n => .ok n
    | none => .error ("invalid integer " ++ marked word)

/-- Whether one of two files is newer, if the first one is there. -/
def isNewer (a b : Option Int) : Bool :=
  match a, b with
  | some x, some y => y < x
  | some _, none => true
  | none, _ => false

/-- The answer about two operands, each of which may be a length. -/
def related (s : Scene) (isLeftLength : Bool) (words : List String) : Read :=
  let behind := if isLeftLength then words.drop 1 else words
  let isRightLength := 4 ≤ behind.length && behind[2]? = some "-l"
  let start := if isLeftLength || isRightLength then words.drop 1 else words
  let start := if isLeftLength && isRightLength then start.drop 1 else start
  let at_ := fun (ws : List String) (i : Nat) => (ws[i]?).getD ""
  let word := at_ behind 1
  let a := at_ behind 0
  let b := at_ behind (if isRightLength then 3 else 2)
  let lengthless := fun (answer : Bool) =>
    if isLeftLength || isRightLength then .error (word ++ " does not accept -l") else .ok (answer, start.drop 3)
  match word with
  | "=" | "==" => .ok (at_ start 0 = at_ start 2, start.drop 3)
  | "!=" => .ok (at_ start 0 ≠ at_ start 2, start.drop 3)
  | "-nt" => lengthless (isNewer (modified? s a) (modified? s b))
  | "-ot" => lengthless (isNewer (modified? s b) (modified? s a))
  | "-ef" => lengthless (isSame s a b)
  | word => do
    let m ← operand isLeftLength a
    let n ← operand isRightLength b
    return ((compares? word m n).getD false, start.drop 3)

/-- The answer about one word. -/
def oneWord : List String → Read
  | word :: rest => .ok (!word.isEmpty, rest)
  | [] => .error ""

/-- The answer about a flag and its operand, given all words. -/
def flagged (s : Scene) (all : List String) : List String → Read
  | flag :: rest =>
    let known := ["-n", "-z", "-t", "-N"].contains flag || (file? s flag "").isSome
    if !known then .error (marked flag ++ ": unary operator expected")
    else
      match rest with
      | [] => missing all
      | word :: rest =>
        match flag with
        | "-n" => .ok (!word.isEmpty, rest)
        | "-z" => .ok (word.isEmpty, rest)
        | "-t" => (operand false word).map fun _ => (false, rest)
        | "-N" => .ok (false, rest)
        | flag => .ok ((file? s flag word).getD false, rest)
  | [] => missing all

/-- Whether a word is a flag of one letter. -/
def isFlag (word : String) : Bool := word.length = 2 && word.startsWith "-"

/-- The opposite of an answer. -/
def opposite (r : Read) : Read := r.map fun (b, rest) => (!b, rest)

/-- The answer about two words. -/
def twoWords (s : Scene) (all words : List String) : Read :=
  match words with
  | "!" :: rest => opposite (oneWord rest)
  | word :: _ => if isFlag word then flagged s all words else missing all
  | [] => missing all

/-- Takes the word that a closing parenthesis should be. -/
def closed (r : Read) : Read := do
  match ← r with
  | (b, ")" :: rest) => return (b, rest)
  | (_, word :: _) => .error (marked ")" ++ " expected, found " ++ marked word)
  | (_, []) => .error (marked ")" ++ " expected")

/-- The answer about three words, given how longer questions are read. -/
def threeWords (longer : List String → Read) (s : Scene) (all words : List String) : Read :=
  match words with
  | a :: word :: b :: rest =>
    if isRelation word then related s false words
    else if a = "!" then opposite (twoWords s all (word :: b :: rest))
    else if a = "(" && b = ")" then closed (oneWord (word :: b :: rest))
    else if word = "-a" || word = "-o" then longer words
    else .error (marked word ++ ": binary operator expected")
  | _ => missing all

/-- The answer about so many words. -/
def someWords (longer : List String → Read) (s : Scene) (all : List String) (count : Nat) (words : List String) :
    Read :=
  match count, words with
  | 1, _ => oneWord words
  | 2, _ => twoWords s all words
  | 3, _ => threeWords longer s all words
  | 4, "!" :: rest => opposite (threeWords longer s all rest)
  | 4, "(" :: a :: b :: ")" :: rest => closed (twoWords s all (a :: b :: ")" :: rest))
  | _, _ => longer words

/-- How many words stand in front of the parenthesis that closes: up to four, or else all. -/
def insideCount (words : List String) : Nat :=
  let count := ((words.drop 1).takeWhile (· ≠ ")")).length + 1
  if count ≤ 4 then count else words.length

/-- Reads a term, given how the questions inside parentheses are read. -/
def term (longer : List String → Read) (s : Scene) (all : List String) : List String → Read
  | [] => missing all
  | "!" :: rest => opposite (term longer s all rest)
  | "(" :: rest => if rest.isEmpty then missing all else closed (someWords longer s all (insideCount rest) rest)
  | word :: rest =>
    let words := word :: rest
    if 4 ≤ words.length && word = "-l" && isRelation ((words[2]?).getD "") then related s true words
    else if 3 ≤ words.length && isRelation (rest.headD "") then related s false words
    else if isFlag word then flagged s all words
    else .ok (!word.isEmpty, rest)

/-- Reads more terms behind a word that joins them, at most so many. -/
def joined (word : String) (join : Bool → Bool → Bool) (next : List String → Read) : Nat → Bool → List String → Read
  | 0, b, words => .ok (b, words)
  | n + 1, b, words =>
    match words with
    | w :: rest =>
      if w = word then do
        let (c, rest) ← next rest
        joined word join next n (join b c) rest
      else .ok (b, words)
    | [] => .ok (b, [])

/-- Reads terms with `-a` between them, and those with `-o` between them. -/
def question (s : Scene) (all : List String) : Nat → List String → Read
  | 0, _ => missing all
  | n + 1, words => do
    let both := fun words => do
      let (b, rest) ← term (question s all n) s all words
      joined "-a" and (term (question s all n) s all) (rest.length + 1) b rest
    let (b, rest) ← both words
    joined "-o" or both (rest.length + 1) b rest

/-- What the program `test` answers. -/
def program (s : Scene) (words : List String) : Answer Bool :=
  if words.isEmpty then .ok false
  else do
    match ← someWords (question s words words.length) s words words.length words with
    | (b, []) => return b
    | (_, word :: _) => .error ("extra argument " ++ marked word)

/-! ## The shell -/

/-- What a word is to the shell. -/
inductive Kind where
  | unary
  | binary
  | not
  | and
  | or
  | opening
  | closing
  | operand
  | ending
  deriving DecidableEq

/-- What a word is, wherever it stands. -/
def kindOf (word : String) : Kind :=
  if ["-r", "-w", "-x", "-e", "-f", "-d", "-c", "-b", "-p", "-u", "-g", "-k", "-s", "-t", "-z", "-n", "-h", "-O", "-G",
    "-L", "-S"].contains word then .unary
  else if ["=", "!=", "<", ">", "-eq", "-ne", "-ge", "-gt", "-le", "-lt", "-nt", "-ot", "-ef"].contains word then .binary
  else
    match word with
    | "!" => .not
    | "-a" => .and
    | "-o" => .or
    | "(" => .opening
    | ")" => .closing
    | _ => .operand

/-- What the first of some words is where it stands. -/
def kindAt : List String → Kind
  | [] => .ending
  | word :: rest =>
    match kindOf word, rest with
    | .unary, [] => .operand
    | .unary, [_] => .unary
    | .unary, next :: _ :: _ => if kindOf next = .binary then .operand else .unary
    | .opening, [] => .operand
    | kind, _ => kind

/-- The number of an operand. -/
def number (word : String) : Answer Int :=
  match word? word with
  | some n => .ok n
  | none => .error ("Illegal number: " ++ word)

/-- The answer about two operands. -/
def relation (s : Scene) (a word b : String) : Answer Bool :=
  let compared := fun (test : Int → Int → Bool) =>
    .ok (match modified? s a, modified? s b with
      | some x, some y => test x y
      | _, _ => false)
  match word with
  | "=" => .ok (a = b)
  | "!=" => .ok (a ≠ b)
  | "<" => .ok (a < b)
  | ">" => .ok (b < a)
  | "-nt" => compared fun x y => y < x
  | "-ot" => compared fun x y => x < y
  | "-ef" => .ok (isSame s a b)
  | word => do
    let m ← number a
    let n ← number b
    return (compares? word m n).getD false

/-- The answer about a relation behind its first operand. The word that was looked at last stays in front. -/
def binary (s : Scene) (a : String) : List String → Read
  | word :: b :: rest => do return (← relation s a word b, b :: rest)
  | word :: _ => .error (word ++ ": argument expected")
  | [] => .error "argument expected"

mutual

/-- Reads questions with `-o` between them. -/
def anyOf (s : Scene) : Nat → Kind → List String → Read
  | 0, _, words => .ok (false, words)
  | n + 1, kind, words => do
    let (b, at_) ← allOf s n kind words
    if kindAt (at_.drop 1) = .or then
      let (c, at_) ← anyOf s n (kindAt (at_.drop 2)) (at_.drop 2)
      return (b || c, at_)
    else return (b, at_)

/-- Reads questions with `-a` between them. -/
def allOf (s : Scene) : Nat → Kind → List String → Read
  | 0, _, words => .ok (false, words)
  | n + 1, kind, words => do
    let (b, at_) ← negated s n kind words
    if kindAt (at_.drop 1) = .and then
      let (c, at_) ← allOf s n (kindAt (at_.drop 2)) (at_.drop 2)
      return (b && c, at_)
    else return (b, at_)

/-- Reads a question that may be turned round. -/
def negated (s : Scene) : Nat → Kind → List String → Read
  | 0, _, words => .ok (false, words)
  | n + 1, kind, words =>
    if kind = .not then
      let rest := words.drop 1
      opposite (negated s n (kindAt rest) (if rest.isEmpty then words else rest))
    else single s n kind words

/-- Reads a question with nothing between. -/
def single (s : Scene) : Nat → Kind → List String → Read
  | 0, _, words => .ok (false, words)
  | n + 1, kind, words =>
    match kind, words with
    | .ending, words => .ok (false, words)
    | .opening, _ :: rest =>
      if kindAt rest = .closing then .ok (false, rest)
      else do
        let (b, at_) ← anyOf s n (kindAt rest) rest
        if kindAt (at_.drop 1) = .closing then return (b, at_.drop 1) else .error "closing paren expected"
    | .unary, flag :: rest =>
      match rest with
      | [] => .error (flag ++ ": argument expected")
      | word :: _ =>
        match flag with
        | "-z" => .ok (word.isEmpty, rest)
        | "-n" => .ok (!word.isEmpty, rest)
        | "-t" => (number word).map fun _ => (false, rest)
        | flag => .ok ((file? s flag word).getD false, rest)
    | _, word :: rest => if kindAt rest = .binary then binary s word rest else .ok (!word.isEmpty, words)
    | _, [] => .ok (false, [])

end

/-- The answer of the shell to a question that starts with a word of a kind. -/
def wholly (s : Scene) (kind : Kind) (words : List String) : Answer Bool := do
  match ← anyOf s (4 * words.length + 8) kind words with
  | (_, word :: _ :: _) => .error (if word = "" then "unexpected operator" else word ++ ": unexpected operator")
  | (b, _) => return b

/-- What the shell's own `test` answers. -/
def builtin (s : Scene) (words : List String) : Answer Bool :=
  match words with
  | [] => .ok false
  | [a, word, b] =>
    if kindOf word = .binary then wholly s .operand words
    else if a = "(" && b = ")" then wholly s (kindAt [word]) [word]
    else if a = "!" then (builtin s [word, b]).map (!·)
    else wholly s (kindAt words) words
  | [a, b, c, d] =>
    if a = "(" && d = ")" then wholly s (kindAt [b, c]) [b, c]
    else if a = "!" then (builtin s [b, c, d]).map (!·)
    else wholly s (kindAt words) words
  | _ => wholly s (kindAt words) words
termination_by words.length

theorem program_nil (s : Scene) : program s [] = .ok false := rfl

theorem program_word (s : Scene) (word : String) : program s [word] = .ok !word.isEmpty := rfl

theorem builtin_nil (s : Scene) : builtin s [] = .ok false := by
  rw [builtin]

end Condition

end RunLedger.Sandbox
