import RunLedger.Sandbox.Script.Word

/-!
# Reading scripts

How commands are read, and with them whole scripts. A script is read line by line, so that what stands in front of a
mistake is run. The grammar of a depth is put together from the one a step less deep.

* `line_empty`: an empty script has no line.
-/

namespace RunLedger.Sandbox.Script

/-- Whether a token ends a list of commands that is inside of something else. -/
def Token.endsList : Token → Bool
  | .finished => true
  | .operator sign => sign = ")" || sign = ";;"
  | .keyword s => ["do", "done", "elif", "else", "esac", "fi", "then", "\x7d"].contains s
  | _ => false

/-- Reads a token that must be a keyword. -/
def expect (g : Grammar) (checks : Checks) (s : String) : Reader Unit := do
  match ← token g checks with
  | .keyword t => if t = s then return () else surprise (.keyword t) (some ("\"" ++ s ++ "\""))
  | t => surprise t (some ("\"" ++ s ++ "\""))

/-- Reads a token that must be a closing parenthesis. -/
def expectClosed (g : Grammar) : Reader Unit := do
  match ← token g .none with
  | .operator ")" => return ()
  | t => surprise t (some "\")\"")

/-! ## Redirections -/

/-- Whether some of a word was quoted. -/
def isQuoted (w : Word) : Bool :=
  w.any fun
    | .mark => true
    | .text _ q => q
    | _ => false

/-- Reads what follows the front of a redirection. A document is awaited. -/
def redirection (g : Grammar) (descriptor : Nat) (direction : Direction) (isIndented : Bool) :
    Reader (Redirection Word) := do
  match ← if direction = .document then rawToken g .delimiter else token g .none with
  | .word w =>
    if direction = .document then
      let r ← get
      let awaited : Awaited := ⟨r.count, w.literal?.getD "", isIndented, !isQuoted w⟩
      set { r with count := r.count + 1, awaited := r.awaited ++ [awaited] }
      return ⟨descriptor, direction, r.count, []⟩
    else return ⟨descriptor, direction, 0, w⟩
  | t => surprise t none

/-- Reads redirections behind those read so far, latest first. -/
def redirectionsOnto (g : Grammar) : Nat → List (Redirection Word) → Reader (List (Redirection Word))
  | 0, read => return read.reverse
  | n + 1, read => do
    match ← token g .command with
    | .redirection descriptor direction isIndented =>
      redirectionsOnto g n ((← redirection g descriptor direction isIndented) :: read)
    | t =>
      unread t
      return read.reverse

/-! ## Commands -/

/-- The builtin commands that no function can be named for. -/
def specialNames : List String :=
  [":", ".", "break", "continue", "eval", "exec", "exit", "export", "local", "readonly", "return", "set", "shift",
    "times", "trap", "unset"]

/-- The name that a word gives to a function. -/
def functionName? : Word → Option String
  | [.text s false] => if isVariableName s && !specialNames.contains s then some s else none
  | _ => none

/-- Reads a simple command behind what was read of it so far, latest first, or the definition of a function. -/
def simpleOnto (g : Grammar) (line : Nat) : Nat → List Word → List Word → List (Redirection Word) → Reader Command
  | 0, _, _, _ => return .nothing
  | n + 1, settings, words, redirections => do
    match ← token g (if words.isEmpty then .name else .none) with
    | .word w =>
      if words.isEmpty && w.isSetting then simpleOnto g line n (w :: settings) words redirections
      else simpleOnto g line n settings (w :: words) redirections
    | .redirection descriptor direction isIndented =>
      simpleOnto g line n settings words ((← redirection g descriptor direction isIndented) :: redirections)
    | t =>
      match t, settings, words, redirections with
      | .operator "(", [], [w], [] =>
        expectClosed g
        match functionName? w with
        | some name =>
          let line := (← get).line
          return .define line name (← g.command .all)
        | none => refuse "Bad function name"
      | t, settings, words, redirections =>
        unread t
        return .simple line settings.reverse words.reverse redirections.reverse

/-- Reads what follows the condition of a choice, and its other branches. -/
def branches (g : Grammar) : Nat → Reader Command
  | 0 => return .nothing
  | n + 1 => do
    let condition ← g.list false
    expect g .none "then"
    let yes ← g.list false
    match ← token g .none with
    | .keyword "elif" => return .choice condition yes (← branches g n)
    | .keyword "else" => return .choice condition yes (← g.list false)
    | t =>
      unread t
      return .choice condition yes .nothing

/-- Reads the words of a loop behind those read so far, latest first, up to the end of their line. -/
def wordsOnto (g : Grammar) : Nat → List Word → Reader (List Word)
  | 0, read => return read.reverse
  | n + 1, read => do
    match ← token g .none with
    | .word w => wordsOnto g n (w :: read)
    | .newline | .operator ";" => return read.reverse
    | t => surprise t none

/-- Reads a loop over words behind its first word. -/
def eachLoop (g : Grammar) (line : Nat) : Reader Command := do
  match ← token g .none with
  | .word [.text name false] =>
    if !isVariableName name then refuse "Bad for loop variable"
    else
      let words ← match ← token g .all with
        | .keyword "in" => wordsOnto g plenty []
        | .operator ";" => pure [Word.parameters]
        | t => do
          unread t
          pure [Word.parameters]
      expect g .all "do"
      return .each line name words (← g.list false)
  | _ => refuse "Bad for loop variable"

/-- The word that a token is where a pattern should be. -/
def Token.pattern : Token → Word
  | .word w => w
  | .keyword s => .text s
  | _ => []

/-- Reads the patterns of a branch from a token on, up to the parenthesis that closes them. -/
def patternsOnto (g : Grammar) : Nat → Token → List Word → Reader (List Word)
  | 0, _, read => return read.reverse
  | n + 1, t, read => do
    match ← token g .none with
    | .operator "|" => patternsOnto g n (← token g .none) (t.pattern :: read)
    | .operator ")" => return (t.pattern :: read).reverse
    | u => surprise u (some "\")\"")

/-- Reads the branches of a selection, behind those read so far, latest first. -/
def selectionOnto (g : Grammar) : Nat → List Branch → Reader (List Branch)
  | 0, read => return read.reverse
  | n + 1, read => do
    match ← token g .reserved with
    | .keyword "esac" => return read.reverse
    | t =>
      let first ← match t with
        | .operator "(" => token g .none
        | t => pure t
      let patterns ← patternsOnto g plenty first []
      let branch := Branch.mk patterns (← g.list true)
      match ← token g .reserved with
      | .keyword "esac" => return (branch :: read).reverse
      | .operator ";;" => selectionOnto g n (branch :: read)
      | t => surprise t (some "\";;\"")

/-- A command with redirections, if there are any. -/
def redirected (line : Nat) (c : Command) (redirections : List (Redirection Word)) : Command :=
  match c with
  | .subshell line c _ => .subshell line c redirections
  | c => if redirections.isEmpty then c else .redirected line c redirections

/-- Reads a command whose first token is looked through for so much. -/
def command (g : Grammar) (checks : Checks) : Reader Command := do
  let line := (← get).line
  let t ← token g checks
  let behind := fun (c : Command) => do return redirected line c (← redirectionsOnto g plenty [])
  match t with
  | .keyword "if" =>
    let c ← branches g plenty
    expect g .none "fi"
    behind c
  | .keyword "while" | .keyword "until" =>
    let condition ← g.list false
    expect g .none "do"
    let body ← g.list false
    expect g .none "done"
    behind (.loop (t.name = "\"while\"") condition body)
  | .keyword "for" =>
    let c ← eachLoop g line
    expect g .none "done"
    behind c
  | .keyword "case" =>
    match ← token g .none with
    | .word w =>
      expect g .all "in"
      behind (.select line w (← selectionOnto g plenty []))
    | t => surprise t (some "word")
  | .operator "(" =>
    let c ← g.list false
    expectClosed g
    behind (.subshell line c [])
  | .keyword "\x7b" =>
    let c ← g.list false
    expect g .none "\x7d"
    behind c
  | .word _ | .redirection _ _ _ =>
    unread t
    simpleOnto g (← get).line plenty [] [] []
  | t => surprise t none

/-- Reads further commands of a pipeline, behind those read so far, latest first. -/
def pipedOnto (g : Grammar) : Nat → List Command → Reader (List Command)
  | 0, read => return read.reverse
  | n + 1, read => do
    match ← token g .none with
    | .operator "|" => pipedOnto g n ((← command g .all) :: read)
    | t =>
      unread t
      return read.reverse

/-- Reads a pipeline whose first command is looked through for so much. -/
def piped (g : Grammar) (checks : Checks) : Reader Command := do
  match ← pipedOnto g plenty [← command g checks] with
  | [c] => return c
  | cs => return .pipeline cs

/-- Reads a pipeline that may be negated. Its first token is looked through for so much. -/
def pipeline (g : Grammar) (checks : Checks) : Reader Command := do
  match ← token g checks with
  | .keyword "!" => return .negated (← piped g .command)
  | t =>
    unread t
    piped g .none

/-- Reads pipelines joined by `&&` and `||`, behind what was read of them. -/
def joinedOnto (g : Grammar) : Nat → Command → Reader Command
  | 0, a => return a
  | n + 1, a => do
    match ← token g .none with
    | .operator "&&" => joinedOnto g n (.both a (← pipeline g .all))
    | .operator "||" => joinedOnto g n (.either a (← pipeline g .all))
    | t =>
      unread t
      return a

/-- Commands in a row. -/
def inSequence : List Command → Command
  | [] => .nothing
  | [c] => c
  | c :: rest => .sequence c (inSequence rest)

/-! ## Lists of commands -/

/-- Where a list of commands stands. -/
inductive Place where
  /-- On a line of the script. -/
  | line
  /-- Inside of something else, where there must be a command, or need not be one. -/
  | inside (canBeEmpty : Bool)
  deriving DecidableEq

/-- Reads a list of commands, behind those read so far, latest first. -/
def listOnto (g : Grammar) (place : Place) : Nat → List Command → Reader Command
  | 0, read => return inSequence read.reverse
  | n + 1, read => do
    let finished := fun (read : List Command) => inSequence read.reverse
    let t ← token g (if place = .line then .command else .all)
    match t with
    | .newline =>
      readDocuments g
      return finished read
    | .finished =>
      readDocuments g
      unread t
      return finished read
    | t =>
      unread t
      if t.endsList && place ≠ .line && (place = .inside true || !read.isEmpty) then return finished read
      else
        let first ← pipeline g .none
        let c ← joinedOnto g plenty first
        match ← token g .none with
        | .finished =>
          readDocuments g
          unread .finished
          return finished (c :: read)
        | .newline =>
          unread .newline
          listOnto g place n (c :: read)
        | .operator "&" => listOnto g place n (.background c :: read)
        | .operator ";" => listOnto g place n (c :: read)
        | t =>
          if place = .line then surprise t none
          else
            unread t
            return finished (c :: read)

/-- Reads a list of commands. -/
def list (g : Grammar) (place : Place) : Reader Command := do
  listOnto g place plenty []

/-- How what is so deep is read. -/
def grammarAt : Nat → Grammar
  | 0 => ⟨fun _ => refuse "", fun _ => refuse "", fun _ => refuse ""⟩
  | n + 1 =>
    let g := grammarAt n
    ⟨fun canBeEmpty => list g (.inside canBeEmpty), command g, pieces g⟩

/-- How deep scripts and words may stand in one another. -/
def maxDepth : Nat := 1000

/-- How scripts and words of any bearable depth are read. -/
def grammar : Grammar := grammarAt maxDepth

/-! ## Scripts -/

/-- What the front of a script says. -/
inductive Line where
  /-- There is no more. -/
  | finished
  /-- A command, and the script behind it from a line on. -/
  | command (c : Command) (rest : List Char) (line : Nat)
  | senseless (complaint : Complaint)

/-- The next line of a script from its number on. -/
def line (aliases : OrderedMap String String) (cs : List Char) (number : Nat) : Line :=
  if cs.isEmpty then .finished
  else
    match list grammar .line ⟨cs, number, none, aliases, [], [], [], 0⟩ with
    | .ok (c, r) => .command (c.fill r.documents) r.rest r.line
    | .error complaint => .senseless complaint

theorem line_empty (aliases : OrderedMap String String) (number : Nat) : line aliases [] number = .finished := rfl

end RunLedger.Sandbox.Script
