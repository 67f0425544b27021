import RunLedger.Sandbox.Field
import RunLedger.Sandbox.Shell.State

/-!
# Settings

How a script sets what the shell keeps: variables that programs are to see, that are fixed, or that belong to a function,
the parameters, the options, aliases, the mask of modes, and variables that take a line of input.

* `inQuotes_empty`: an empty text is a pair of quotes.
-/

namespace RunLedger.Sandbox.Sh

/-! ## Options of commands -/

/-- Takes the options of a word behind its dash, given which ones are known and which of them have a value. -/
def clusterOf (known valued : List Char) (rest : List String) :
    List Char → Sh (List (Char × String) × List String)
  | [] => return ([], rest)
  | c :: cs => do
    if !known.contains c then fail ("Illegal option -" ++ c.toString)
    else if valued.contains c then
      match cs, rest with
      | [], [] => fail ("No arg for -" ++ c.toString ++ " option")
      | [], value :: rest => return ([(c, value)], rest)
      | cs, rest => return ([(c, String.ofList cs)], rest)
    else
      let (options, rest) ← clusterOf known valued rest cs
      return ((c, "") :: options, rest)

/-- Takes the options of a command, from at most so many words. Answers them with their values, and the words left. -/
def optionsOf (known valued : List Char) : Nat → List String → Sh (List (Char × String) × List String)
  | 0, words => return ([], words)
  | _, [] => return ([], [])
  | n + 1, word :: rest => do
    match word.toList with
    | ['-', '-'] => return ([], rest)
    | '-' :: c :: cs =>
      let (front, rest) ← clusterOf known valued rest (c :: cs)
      let (options, rest) ← optionsOf known valued n rest
      return (front ++ options, rest)
    | _ => return ([], word :: rest)

/-- The words of a command that knows no options. -/
def operands (words : List String) : Sh (List String) := do
  return (← optionsOf [] [] words.length words).2

/-- Writes to the standard output. A failure is told, and is the status. -/
def put (text : String) : Sh Nat := do
  if ← emit 1 text then return 0
  else
    complain (((← get).command.getD "") ++ ": I/O error")
    return 1

/-! ## Texts in quotes -/

/-- The characters of a text in quotes that keep everything, by runs, in at most so many. -/
def quotedFrom : Nat → List Char → List Char
  | 0, cs => cs
  | n + 1, cs =>
    let front := cs.takeWhile (· ≠ '\'')
    let marks := (cs.drop front.length).takeWhile (· = '\'')
    let rest := cs.drop (front.length + marks.length)
    '\'' :: front ++ '\'' :: (if marks.isEmpty then [] else '"' :: marks ++ '"' :: (if rest.isEmpty then [] else quotedFrom n rest))

/-- A text in quotes that keep everything. -/
def inQuotes (s : String) : String := String.ofList (quotedFrom (s.length + 1) s.toList)

/-! ## Variables -/

/-- A name and the value behind `=`, if there is one. -/
def parted (word : String) : String × Option String :=
  let name := word.toList.takeWhile (· ≠ '=')
  (String.ofList name, if name.length < word.length then some (String.ofList (word.toList.drop (name.length + 1))) else none)

/-- Refuses a text that names no variable. -/
def checkName (name : String) : Sh Unit := do
  if !isVariableName name then fail (name ++ ": bad variable name")

/-- Changes how a variable is marked. -/
def remark (name : String) (change : Variable → Variable) : Sh Unit := modify fun s =>
  { s with bindings := s.bindings.set name (change ((s.bindings.get? name).getD default)) }

/-- Sets a variable as a word says and changes how it is marked. -/
def declare (change : Variable → Variable) (word : String) : Sh Unit := do
  let (name, value) := parted word
  match value with
  | some value => assign name value
  | none => checkName name
  remark name change

/-- The lines that set variables again, sorted by their names. -/
def listing (front : String) (picks : Variable → Bool) (s : Shell) : String :=
  let picked := (s.bindings.entries.filter fun e => picks e.2).mergeSort fun a b => a.1 ≤ b.1
  String.join (picked.map fun (name, v) => front ++ name ++ v.value.elim "" (fun value => "=" ++ inQuotes value) ++ "\n")

/-- Marks variables, or lists those that are marked. -/
def mark (front : String) (isMarked : Variable → Bool) (change : Variable → Variable) (words : List String) :
    Sh Nat := do
  let (options, words) ← optionsOf ['p'] [] words.length words
  if !options.isEmpty || words.isEmpty then put (listing front isMarked (← get))
  else
    for word in words do declare change word
    return 0

/-- `export`: hands variables to programs. -/
def «export» : List String → Sh Nat := mark "export " Variable.isExported fun v => { v with isExported := true }

/-- `readonly`: fixes variables. -/
def fix : List String → Sh Nat := mark "readonly " Variable.isFixed fun v => { v with isFixed := true }

/-- Keeps what a variable holds until the innermost frame ends. -/
def keepVariable (name : String) : Sh Unit := do
  let s ← get
  keep (.variable name (s.bindings.get? name))

/-- `local`: keeps what is done to variables inside of a function. -/
def localize (words : List String) : Sh Nat := do
  if (← get).frames.isEmpty then fail "not in a function"
  else
    for word in words do
      if word = "-" then
        let s ← get
        keep (.options s.options)
      else
        let (name, value) := parted word
        checkName name
        keepVariable name
        match value with
        | some value => assign name value
        | none => remark name id
    return 0

/-- The variables that are there even if they hold nothing. -/
def standing : List String := ["IFS", "MAIL", "MAILPATH", "PATH", "PS1", "PS2", "PS4", "OPTIND", "LINENO", "TERM", "HISTSIZE"]

/-- Forgets a variable. -/
def forgetVariable (name : String) : Sh Unit := do
  checkName name
  let s ← get
  match s.bindings.get? name with
  | none => return ()
  | some v =>
    if v.isFixed then fail (name ++ ": is read only")
    else
      let isStanding := standing.contains name || s.frames.any fun frame => frame.any fun
        | .variable other _ => other = name
        | .options _ => false
      let bindings := if isStanding then s.bindings.set name { v with value := none } else s.bindings.erase name
      set { s with bindings, tracked := if name = "PATH" then .empty else s.tracked }

/-- `unset`: forgets variables or functions. -/
def forget (words : List String) : Sh Nat := do
  let (options, words) ← optionsOf ['v', 'f'] [] words.length words
  let areFunctions := (options.getLast?).any fun o => o.1 = 'f'
  for word in words do
    if areFunctions then modify fun s => { s with functions := s.functions.erase word }
    else forgetVariable word
  return 0

/-! ## Parameters and options -/

/-- The place of the first option. -/
def firstPlace : OptionPlace := ⟨1, none⟩

/-- `shift`: drops parameters in front. -/
def shift (words : List String) : Sh Nat := do
  let n ← match words with
    | [] => pure 1
    | word :: _ => numeral word
  let s ← get
  if s.parameters.length < n then fail "can't shift that many"
  else
    set { s with parameters := s.parameters.drop n, place := firstPlace }
    return 0

/-- The names of options, with their letters; those without a letter have a capital one that is none. -/
def optionNames : List (String × Char) :=
  [("errexit", 'e'), ("noglob", 'f'), ("ignoreeof", 'I'), ("interactive", 'i'), ("monitor", 'm'), ("noexec", 'n'),
    ("stdin", 's'), ("xtrace", 'x'), ("verbose", 'v'), ("vi", 'V'), ("emacs", 'E'), ("noclobber", 'C'),
    ("allexport", 'a'), ("notify", 'b'), ("nounset", 'u'), ("nolog", 'L'), ("debug", 'D')]

/-- The letters of options. -/
def optionSigns : List Char := ['e', 'f', 'I', 'i', 'm', 'n', 's', 'x', 'v', 'V', 'E', 'C', 'a', 'b', 'u']

/-- The options with one of them on or off. -/
def switched (options : List Char) (isOn : Bool) (c : Char) : List Char :=
  let others := options.filter fun d => d ≠ c && !(isOn && ((c = 'V' && d = 'E') || (c = 'E' && d = 'V')))
  if isOn then others ++ [c] else others

/-- Switches an option. -/
def switch (isOn : Bool) (c : Char) : Sh Unit := modify fun s => { s with options := switched s.options isOn c }

/-- Switches the options of letters. -/
def switchEach (isOn : Bool) : List Char → Sh Unit
  | [] => return ()
  | c :: cs => do
    if !optionSigns.contains c then fail ("Illegal option -" ++ c.toString)
    else
      switch isOn c
      switchEach isOn cs

/-- Switches the option of a name. -/
def switchNamed (isOn : Bool) (name : String) : Sh Unit := do
  match optionNames.lookup name with
  | some c => switch isOn c
  | none => fail ("Illegal option -o " ++ name)

/-- Tells which options are on. -/
def showOptions (isOn : Bool) : Sh Unit := do
  let s ← get
  let line := fun (name : String) (c : Char) =>
    if isOn then
      name ++ String.ofList (List.replicate (16 - name.length) ' ') ++ (if s.has c then "on" else "off") ++ "\n"
    else "set " ++ (if s.has c then "-o " else "+o ") ++ name ++ "\n"
  let _ ← emit 1 ((if isOn then "Current option settings\n" else "") ++
    String.join (optionNames.map fun (name, c) => line name c))

/-- Sets the parameters. -/
def setParameters (parameters : List String) : Sh Unit := modify fun s => { s with parameters, place := firstPlace }

/-- Switches options as words say, and sets the parameters from what follows. -/
def switchAll : Nat → List String → Sh Unit
  | 0, _ => return ()
  | _, [] => return ()
  | n + 1, word :: rest => do
    match word.toList with
    | ['-'] =>
      switch false 'x'
      switch false 'v'
      if !rest.isEmpty then setParameters rest
    | ['-', '-'] => setParameters rest
    | sign :: cs =>
      if sign = '-' || sign = '+' then
        let isOn := decide (sign = '-')
        let letters := cs.filter (· ≠ 'o')
        if cs.contains 'o' then
          switchEach isOn letters
          match rest with
          | name :: rest =>
            switchNamed isOn name
            switchAll n rest
          | [] => showOptions isOn
        else
          switchEach isOn letters
          switchAll n rest
      else setParameters (word :: rest)
    | [] => setParameters (word :: rest)

/-- `set`: switches options and sets the parameters, or lists the variables. -/
def change (words : List String) : Sh Nat := do
  if words.isEmpty then put (listing "" (fun v => v.value.isSome) (← get))
  else
    switchAll (words.length + 1) words
    if (← get).has 'm' then
      switch false 'm'
      complain "can't access tty; job control turned off"
    return 0

/-- What the next option of a script is. -/
structure NextOption where
  sign : String
  value : Option String
  complaint : String
  place : OptionPlace
  isDone : Bool

/-- The next option among words. -/
def nextOption (known : List Char) (words : List String) (place : OptionPlace) : NextOption :=
  let isQuiet := known.head? = some ':'
  let word := fun (i : Nat) => (words[i - 1]?).map String.toList
  let left := match place.offset with
    | some offset => if place.index ≤ 1 then [] else ((word (place.index - 1)).getD []).drop offset
    | none => []
  let done := fun (index : Nat) => NextOption.mk "?" none "" ⟨index, none⟩ true
  let (index, cs) := if !left.isEmpty then (place.index, left) else
    match word place.index with
    | some ('-' :: c :: cs) => (place.index + 1, c :: cs)
    | _ => (place.index, [])
  match cs with
  | [] => done index
  | c :: rest =>
    if left.isEmpty && cs = ['-'] then done index
    else
      let length := ((word (index - 1)).getD []).length
      let here : OptionPlace := ⟨index, if rest.isEmpty then some length else some (length - rest.length)⟩
      let complain := fun (sign text : String) (place : OptionPlace) =>
        if isQuiet then NextOption.mk sign (some c.toString) "" place false
        else NextOption.mk "?" none (text ++ "\n") place false
      match (known.dropWhile fun d => d ≠ c || d = ':') with
      | [] => complain "?" ("Illegal option -" ++ c.toString) here
      | _ :: ':' :: _ =>
        if !rest.isEmpty then ⟨c.toString, some (String.ofList rest), "", ⟨index, none⟩, false⟩
        else
          match word index with
          | some value => ⟨c.toString, some (String.ofList value), "", ⟨index + 1, none⟩, false⟩
          | none => complain ":" ("No arg for -" ++ c.toString ++ " option") ⟨index, some length⟩
      | _ => ⟨c.toString, some "", "", here, false⟩

/-- `getopts`: takes the next option of a script. -/
def getOption (words : List String) : Sh Nat := do
  match ← operands words with
  | known :: name :: own =>
    let s ← get
    let words := if own.isEmpty then s.parameters else own
    let place := if words.length + 1 < s.place.index then firstPlace else s.place
    let next := nextOption known.toList words place
    tell next.complaint
    match next.value with
    | some value => if !next.isDone then assign "OPTARG" value
    | none => if !next.isDone then modify fun s => { s with bindings := s.bindings.erase "OPTARG" }
    assign "OPTIND" (Text.Decimal.text next.place.index)
    assign name next.sign
    modify fun s => { s with place := next.place }
    return if next.isDone then 1 else 0
  | _ => fail "Usage: getopts optstring var [arg...]"

/-! ## Aliases -/

/-- An alias as it is set. -/
def aliasText (name text : String) : String := name ++ "=" ++ inQuotes text ++ "\n"

/-- `alias`: sets aliases, or tells them. -/
def setAliases (words : List String) : Sh Nat := do
  let s ← get
  if words.isEmpty then
    put (String.join ((s.aliases.entries.mergeSort fun a b => Shell.bucket a.1 ≤ Shell.bucket b.1).map fun (name, text) =>
      aliasText name text))
  else
    let mut status := 0
    for word in words do
      let (name, text) := match word.toList with
        | c :: cs =>
          let (name, text) := parted (String.ofList cs)
          (c.toString ++ name, text)
        | [] => ("", none)
      match text with
      | some text => modify fun s => { s with aliases := s.aliases.set name text }
      | none =>
        match (← get).aliases.get? name with
        | some text =>
          let _ ← put (aliasText name text)
        | none =>
          tell ("alias: " ++ name ++ " not found\n")
          status := 1
    return status

/-- `unalias`: forgets aliases. -/
def unalias (words : List String) : Sh Nat := do
  let (options, words) ← optionsOf ['a'] [] words.length words
  if !options.isEmpty then
    modify fun s => { s with aliases := .empty }
    return 0
  else
    let mut status := 0
    for word in words do
      let s ← get
      if s.aliases.contains word then set { s with aliases := s.aliases.erase word }
      else
        tell ("unalias: " ++ word ++ " not found\n")
        status := 1
    return status

/-! ## Modes -/

/-- The digits of a mode. -/
def modeText (mode : Nat) : String :=
  String.ofList ([mode / 512, mode / 64, mode / 8, mode].map fun n => Char.ofNat (48 + n % 8))

/-- What is granted, for owner, group and others. -/
def grantedText (mode : Nat) : String :=
  let rights := fun (n : Nat) =>
    (if n &&& 4 ≠ 0 then "r" else "") ++ (if n &&& 2 ≠ 0 then "w" else "") ++ (if n &&& 1 ≠ 0 then "x" else "")
  "u=" ++ rights (mode / 64 % 8) ++ ",g=" ++ rights (mode / 8 % 8) ++ ",o=" ++ rights (mode % 8)

/-- The classes of users of a letter. -/
def classOf : Char → Nat
  | 'u' => 0o100
  | 'g' => 0o10
  | 'o' => 0o1
  | _ => 0o111

/-- The rights of a letter, given what is granted so far. -/
def rightOf (mode : Nat) : Char → Nat
  | 'r' => 4
  | 'w' => 2
  | 'x' => 1
  | 'u' => mode / 64
  | 'g' => mode / 8
  | 'o' => mode
  | 'X' => if mode &&& 0o111 ≠ 0 then 1 else 0
  | _ => 0

/-- What is granted after signs in words, at most so many. Nothing if they make no sense. -/
def granted? (before : Nat) : Nat → Nat → Nat → List Char → Option Nat
  | 0, _, mode, _ => some mode
  | _, _, mode, [] => some mode
  | n + 1, classes, mode, cs =>
    let who := cs.takeWhile ['a', 'u', 'g', 'o'].contains
    let classes := who.foldl (fun m c => m ||| classOf c) classes
    let classes := if classes = 0 then 0o111 else classes
    match cs.drop who.length with
    | op :: rest =>
      if !(['=', '+', '-'].contains op) then none
      else
        let what := rest.takeWhile ['r', 'w', 'x', 'u', 'g', 'o', 'X', 's'].contains
        let rights := ((what.foldl (fun m c => m ||| rightOf before c) 0) % 8) * classes
        let without := fun (m bits : Nat) => m - (m &&& bits)
        let mode := if op = '-' then without mode rights
          else if op = '=' then without mode (classes * 7) ||| rights
          else mode ||| rights
        match rest.drop what.length with
        | [] => some mode
        | ',' :: rest => granted? before n 0 mode rest
        | c :: rest => if ['=', '+', '-'].contains c then granted? before n classes mode (c :: rest) else none
    | [] => none

/-- `umask`: sets or tells what is left out of the modes of files. -/
def mask (words : List String) : Sh Nat := do
  let (options, words) ← optionsOf ['S'] [] words.length words
  let old := ((← (Act.record : Act _)).map Process.umask).getD 0
  let change := fun (umask : Nat) => do
    Act.alter fun p => { p with umask }
    return 0
  match words with
  | [] =>
    if options.isEmpty then put (modeText old ++ "\n") else put (grantedText (0o777 - old) ++ "\n")
  | word :: _ =>
    match word.toList with
    | [] => return 0
    | c :: cs =>
      if c.isDigit then
        if (c :: cs).all fun d => '0' ≤ d && d ≤ '7' then
          change ((c :: cs).foldl (fun n d => n * 8 + (d.toNat - 48)) 0 % 512)
        else fail ("Illegal number: " ++ word)
      else
        match granted? (0o777 - old) word.length 0 (0o777 - old) (c :: cs) with
        | some mode => change (0o777 - mode % 512)
        | none => fail ("Illegal mode: " ++ word)

/-- `ulimit`: tells a limit. -/
def limit (words : List String) : Sh Nat := do
  let (options, words) ← optionsOf ("HSatfdsmcnpvwlr").toList [] words.length words
  if !words.isEmpty then return 0
  else
    match options.getLast? with
    | some ('n', _) => put "1048576\n"
    | some ('s', _) => put "8192\n"
    | some ('c', _) => put "0\n"
    | _ => put "unlimited\n"

/-! ## Input -/

/-- Reads characters of a line onto those read before, with the stretches between protected ones, at most so many. Answers
whether the line had an end. -/
def readLine (isRaw isProtected : Bool) (start : Nat) : Nat → Filled → Sh (Filled × Bool)
  | 0, f => return (f.stretch start false, false)
  | n + 1, f => do
    match ← (Act.readUnlessCalled 0 1 : Act _) with
    | .error _ => return (f.stretch start false, false)
    | .ok octets =>
      match octets.data.toList with
      | [] => return (f.stretch start false, false)
      | octet :: _ =>
        let c := Char.ofNat octet.toNat
        if octet = 0 then readLine isRaw isProtected start n f
        else if isProtected then
          let f := f.stretch start false
          let f := if c = '\n' then f else f.push c.toString true
          readLine isRaw false f.size n f
        else if c = '\\' && !isRaw then readLine isRaw true start n f
        else if c = '\n' then return (f.stretch start false, true)
        else readLine isRaw false start n (f.push c.toString false)

/-- `read`: takes a line of input into variables. -/
def read (words : List String) : Sh Nat := do
  let (options, names) ← optionsOf ['p', 'r'] ['p'] words.length words
  if names.isEmpty then fail "arg count"
  else
    let isRaw := options.any fun o => o.1 = 'r'
    let (line, isEnded) ← readLine isRaw false 0 Act.manyTries .empty
    let separators := ((← get).separators?.getD " \t\n").toList
    let fields := (line.fields separators (some names.length)).map Filled.text
    for (name, value) in names.zip (fields ++ List.replicate names.length "") do assign name value
    return if isEnded then 0 else 1

/-- An empty text is a pair of quotes. -/
theorem inQuotes_empty : inQuotes "" = "''" := by rfl



end RunLedger.Sandbox.Sh
