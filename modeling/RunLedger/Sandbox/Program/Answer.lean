import RunLedger.Sandbox.Condition
import RunLedger.Sandbox.Date
import RunLedger.Sandbox.Format
import RunLedger.Sandbox.Program.Stream

/-!
# Programs that answer

Programs that only write something, answer a question by their status, wait, or tell who and where one is.

* `unescapedWords_plain`: without an option the words stay as they are.
-/

namespace RunLedger.Sandbox.Program

/-- A program with a fixed status, which only explains itself if it is asked. -/
def fixed (status : Nat) (c : Call) : Act Nat := do
  match c.arguments with
  | ["--help"] => c.put ("Usage: " ++ c.name ++ " [ignored command line arguments]\n")
  | ["--version"] => c.put (c.name ++ "\n")
  | _ => pure ()
  return status

/-- Whether a word is an option of `echo`. -/
def isEchoOption (word : String) : Bool :=
  match word.toList with
  | '-' :: c :: cs => (c :: cs).all fun c => c = 'n' || c = 'e' || c = 'E'
  | _ => false

/-- Words in a line, with escapes worked out if that is asked, and whether the line ends early. -/
def unescapedWords (escapes : Bool) (words : List String) : String × Bool :=
  let text := " ".intercalate words
  if escapes then Format.unescaped Format.programEscapes text else (text, false)

/-- `echo`: writes its arguments. -/
def echo (c : Call) : Act Nat := do
  match c.arguments with
  | ["--help"] => c.put ("Usage: " ++ c.name ++ " [SHORT-OPTION]... [STRING]...\n")
  | ["--version"] => c.put (c.name ++ "\n")
  | arguments =>
    let options := arguments.takeWhile isEchoOption
    let letters := options.flatMap fun o => o.toList.drop 1
    let escapes := (letters.reverse.find? fun c => c = 'e' || c = 'E') = some 'e'
    let (text, isStopped) := unescapedWords escapes (arguments.drop options.length)
    c.put (if isStopped || letters.contains 'n' then text else text.push '\n')
  return 0

/-- `printf`: writes a format. -/
def printf (c : Call) : Act Nat := do
  let words := if c.arguments.head? = some "--" then c.arguments.drop 1 else c.arguments
  match words with
  | [] => c.misused 1 "missing operand"
  | ["--help"] => do
    c.put ("Usage: " ++ c.name ++ " FORMAT [ARGUMENT]...\n")
    return 0
  | format :: arguments =>
    let (text, complaints, status) := Format.printf .program format arguments
    let mut written := 0
    for (place, complaint) in complaints do
      c.put (String.ofList ((text.toList.take place).drop written))
      c.complain complaint
      written := place
    c.put (String.ofList (text.toList.drop written))
    return status

/-- Answers a question. -/
def answered (c : Call) (words : List String) : Act Nat := do
  let scene ← Act.files fun tree base => (⟨tree, base⟩ : Scene)
  match Condition.program scene words with
  | .ok answer => return if answer then 0 else 1
  | .error text => c.refuse 2 text

/-- `test`: answers a question. -/
def test (c : Call) : Act Nat := answered c c.arguments

/-- `[`: answers a question that a closing bracket ends. -/
def bracket (c : Call) : Act Nat := do
  match c.arguments with
  | ["--help"] | ["--version"] => return 0
  | arguments => if arguments.getLast? = some "]" then answered c arguments.dropLast else c.refuse 2 "missing ']'"

/-- `sleep`: waits as long as all of its operands say together. -/
def sleep (c : Call) : Act Nat :=
  c.reading ⟨"", "", "", [], false⟩ 1 fun a => do
    match a.operands with
    | [] => c.misused 1 "missing operand"
    | operands =>
      let wrong := operands.filter fun s => (Pause.nanos? s).isNone
      if !wrong.isEmpty then
        for s in wrong.dropLast do c.complain ("invalid time interval " ++ Quoted.marked s)
        c.misused 1 ("invalid time interval " ++ Quoted.marked (wrong.getLastD ""))
      else
        Act.rest ((operands.filterMap Pause.nanos?).foldl (· + ·) 0)
        return 0

/-! ## Who and where -/

/-- A line of the list of users: the name and the two numbers. -/
def users : List (String × Nat × Nat) :=
  [("root", 0, 0), ("daemon", 1, 1), ("bin", 2, 2), ("sys", 3, 3), ("mail", 8, 8), ("www-data", 33, 33),
    ("nobody", 65534, 65534)]

/-- The name of a group. -/
def groupName (n : Nat) : String :=
  if n = 65534 then "nogroup" else ((users.find? fun u => u.2.2 = n).map Prod.fst).getD (Text.Decimal.text n)

/-- `id`: tells the user. -/
def userId (c : Call) : Act Nat :=
  let table : OptionTable := ⟨"agGnruzZ", "", "", [("group", 'g'), ("groups", 'G'), ("name", 'n'), ("real", 'r'),
    ("user", 'u'), ("zero", 'z')], false⟩
  c.reading table 1 fun a => do
    let name := a.operands.headD "root"
    match users.find? fun u => u.1 = name || Text.Decimal.text u.2.1 = name with
    | none => c.refuse 1 (Quoted.marked name ++ ": no such user")
    | some (name, user, group) =>
      let number := fun (n : Nat) => Text.Decimal.text n
      let both := fun (n : Nat) (name : String) => number n ++ "(" ++ name ++ ")"
      let groups := groupName group
      let text := match a.last? ['u', 'g', 'G'] with
        | some 'u' => if a.has 'n' then name else number user
        | some _ => if a.has 'n' then groups else number group
        | none => "uid=" ++ both user name ++ " gid=" ++ both group groups ++ " groups=" ++ both group groups
      c.put (text ++ "\n")
      return 0

/-- A program that takes no operands and writes a line. -/
def telling (line : String) (c : Call) : Act Nat :=
  c.reading ⟨"", "", "", [], false⟩ 1 fun a => do
    match a.operands with
    | [] =>
      c.put (line ++ "\n")
      return 0
    | extra :: _ => c.misused 1 ("extra operand " ++ Quoted.marked extra)

/-- `uname`: tells of the system. -/
def systemName (c : Call) : Act Nat :=
  let table : OptionTable := ⟨"asnrvmpio", "", "", [("all", 'a'), ("kernel-name", 's'), ("nodename", 'n'),
    ("kernel-release", 'r'), ("kernel-version", 'v'), ("machine", 'm'), ("operating-system", 'o')], false⟩
  c.reading table 1 fun a => do
    let parts := [('s', "Linux"), ('n', "localhost"), ('r', "6.1.0"), ('v', "#1 SMP"), ('m', "x86_64"), ('o', "GNU/Linux")]
    let asked := parts.filter fun p => a.has 'a' || a.has p.1 || (a.options.isEmpty && p.1 = 's')
    match a.operands with
    | [] =>
      c.put (" ".intercalate (asked.map Prod.snd) ++ "\n")
      return 0
    | extra :: _ => c.misused 1 ("extra operand " ++ Quoted.marked extra)

/-- `tty`: tells that there is no terminal. -/
def terminal (c : Call) : Act Nat :=
  c.reading ⟨"s", "", "", [("silent", 's'), ("quiet", 's')], false⟩ 2 fun a => do
    if !a.has 's' then c.put "not a tty\n"
    return 1

/-- `logname`: tells that nobody logged in. -/
def loginName (c : Call) : Act Nat := c.refuse 1 "no login name"

/-- `sync`: has nothing left to do. -/
def settled (c : Call) : Act Nat :=
  c.reading ⟨"df", "", "", [("data", 'd'), ("file-system", 'f')], false⟩ 1 fun a =>
    each 1 (fun path => do
      match ← Act.files fun t base => t.find base path true with
      | .ok _ => return true
      | .error e =>
        c.complain ("error opening " ++ Quoted.always path ++ ": " ++ e.text)
        return false) a.operands

/-- `printenv`: tells what is in the environment. -/
def environmentValues (c : Call) : Act Nat :=
  c.reading ⟨"0", "", "", [("null", '0')], true⟩ 2 fun a => do
    let ending := if a.has '0' then "\x00" else "\n"
    match a.operands with
    | [] =>
      c.put (String.join (c.environment.entries.map fun (name, value) => name ++ "=" ++ value ++ ending))
      return 0
    | names =>
      c.put (String.join (names.filterMap fun name => (c.environment.get? name).map (· ++ ending)))
      return if names.all fun name => (c.environment.get? name).isSome then 0 else 1

/-- `date`: writes a moment in a format. -/
def date (c : Call) : Act Nat :=
  let table : OptionTable := ⟨"uR", "dfrs", "I", [("date", 'd'), ("file", 'f'), ("reference", 'r'), ("set", 's'),
    ("utc", 'u'), ("universal", 'u'), ("iso-8601", 'I'), ("rfc-email", 'R')], false⟩
  c.reading table 1 fun a => do
    let now ← Act.look fun w => World.birth + Int.ofNat w.clock
    let (formats, others) := (a.operands.filter (·.startsWith "+"), a.operands.filter fun s => !s.startsWith "+")
    match others with
    | s :: _ => c.refuse 1 ("invalid date " ++ Quoted.marked s)
    | [] =>
      let moment : Except String Int ← match a.value? 'r', a.value? 'd' with
        | some path, _ => do
          match ← Act.files fun t base => (t.find base path true).map t.modified with
          | .ok time => pure (.ok time)
          | .error e => pure (.error (Quoted.name path ++ ": " ++ e.text))
        | none, some s => pure (match Date.read? now s with
          | some time => .ok time
          | none => .error ("invalid date " ++ Quoted.marked s))
        | none, none => pure (.ok now)
      match moment with
      | .error text => c.refuse 1 text
      | .ok time =>
        let format := match formats with
          | f :: _ => (f.drop 1).toString
          | [] =>
            if a.has 'R' then "%a, %d %b %Y %H:%M:%S +0000"
            else if a.has 'I' then
              match (a.value? 'I').getD "date" with
              | "date" => "%Y-%m-%d"
              | "hours" | "h" => "%Y-%m-%dT%H+00:00"
              | "minutes" | "m" => "%Y-%m-%dT%H:%M+00:00"
              | "ns" | "n" => "%Y-%m-%dT%H:%M:%S,%N+00:00"
              | _ => "%Y-%m-%dT%H:%M:%S+00:00"
            else "%a %b %e %H:%M:%S %Z %Y"
        c.put (Date.text time format.toList ++ "\n")
        return 0

/-- `which`: tells where programs are. -/
def which (c : Call) : Act Nat :=
  c.reading ⟨"as", "", "", [], false⟩ 2 fun a => do
    let directories := (c.environment.get? "PATH").getD ""
    each 1 (fun name => do
      let found ← Act.files fun t base => (Executable.candidates directories name).filter fun path =>
        match t.find base path true with
        | .ok n => Executable.isAllowed t n
        | .error _ => false
      let shown := if a.has 'a' then found else found.take 1
      if !a.has 's' then c.put (String.join (shown.map (·.push '\n')))
      return !found.isEmpty) a.operands

/-! ## Comparing -/

/-- The first place at which two texts differ, and the line that it is on. -/
def firstDifference? : Nat → Nat → List Char → List Char → Option (Nat × Nat × Char × Char)
  | place, line, a :: as, b :: bs =>
    if a = b then firstDifference? (place + 1) (if a = '\n' then line + 1 else line) as bs
    else some (place, line, a, b)
  | _, _, _, _ => none

/-- `cmp`: tells whether two files are alike. -/
def cmp (c : Call) : Act Nat :=
  let table : OptionTable := ⟨"bls", "in", "", [("print-bytes", 'b'), ("verbose", 'l'), ("quiet", 's'), ("silent", 's'),
    ("ignore-initial", 'i'), ("bytes", 'n')], false⟩
  c.reading table 2 fun a => do
    match a.operands with
    | [] => c.misused 2 ("missing operand after " ++ Quoted.marked c.name)
    | first :: rest =>
      let second := rest.headD "-"
      match ← contents first, ← contents second with
      | .error e, _ => if a.has 's' then return 2 else c.refuse 2 (first ++ ": " ++ e.error.text)
      | _, .error e => if a.has 's' then return 2 else c.refuse 2 (second ++ ": " ++ e.error.text)
      | .ok x, .ok y =>
        let cut := fun (s : String) =>
          let cs := s.toList.drop (((a.value? 'i').bind size?).getD 0)
          ((a.value? 'n').bind size?).elim cs cs.take
        let (x, y) := (cut x, cut y)
        if x = y then return 0
        else if a.has 's' then return 1
        else if a.has 'l' then
          let width := (Text.Decimal.text (max x.length y.length)).length
          let octal := fun (c : Char) => right 3 (String.ofList (Nat.toDigits 8 c.toNat))
          c.put (String.join (((List.range (min x.length y.length)).zip (x.zip y)).filterMap fun (i, p, q) =>
            if p = q then none
            else some (right width (Text.Decimal.text (i + 1)) ++ " " ++ octal p ++ " " ++ octal q ++ "\n")))
          return 1
        else
          match firstDifference? 1 1 x y with
          | some (place, line, _, _) =>
            c.put (first ++ " " ++ second ++ " differ: char " ++ Text.Decimal.text place ++ ", line " ++
              Text.Decimal.text line ++ "\n")
            return 1
          | none =>
            let (shorter, text) := if x.length < y.length then (first, x) else (second, y)
            let lines := (text.filter (· = '\n')).length
            let where_ := if text.isEmpty then " which is empty"
              else " after byte " ++ Text.Decimal.text text.length ++
                (if text.getLast? = some '\n' then ", line " ++ Text.Decimal.text lines
                else ", in line " ++ Text.Decimal.text (lines + 1))
            c.refuse 1 ("EOF on " ++ shorter ++ where_)

/-- Without an option the words stay as they are. -/
theorem unescapedWords_plain (words : List String) : unescapedWords false words = (" ".intercalate words, false) := rfl

end RunLedger.Sandbox.Program
