import RunLedger.Sandbox.Format
import RunLedger.Sandbox.Program.Description

/-!
# What there is to know of a file

`stat` fills a format with what there is to know of an inode.

* `filled_nil`: an empty format stays empty.
-/

namespace RunLedger.Sandbox.Program.Stat

/-- An inode by the path that it is asked for by. -/
structure Subject where
  tree : FileTree
  path : String
  inode : Nat
  kind : String

/-- A moment with all that there is to say of it. -/
def moment (time : Int) : String := Date.text time "%Y-%m-%d %H:%M:%S.%N %z".toList

/-- The path between quotes, with the one that it stands for. -/
def quotedPath (quote : String → String) (s : Subject) : String :=
  match s.tree.content? s.inode with
  | some (.link target) => quote s.path ++ " -> " ++ quote target
  | _ => quote s.path

/-- The digits of a number in base sixteen. -/
def hex (n : Nat) : String := String.ofList (Nat.toDigits 16 n)

/-- The number of the file system. -/
def device : Nat := 2049

/-- What a letter of a format stands for, if it is known, and whether that is a number. -/
def field (s : Subject) (letter : Char) : Option (String × Bool) :=
  let t := s.tree
  let n := s.inode
  let content := t.content? n
  let number := fun (n : Nat) => some (Text.Decimal.text n, true)
  let text := fun (s : String) => some (s, false)
  let modified := t.modified n
  match letter with
  | 'a' => some (Permission.octal (t.mode n), true)
  | 'A' => text (Description.rights t n)
  | 'b' => number (Description.blocks t n)
  | 'B' => number 512
  | 'd' => number device
  | 'D' => text (hex device)
  | 'f' => text (hex (Description.kindBits content + t.mode n))
  | 'F' => text s.kind
  | 'g' | 'u' => number 0
  | 'G' | 'U' => text "root"
  | 'h' => number (t.names n)
  | 'i' => number (Description.number n)
  | 'm' => text "/"
  | 'n' => text s.path
  | 'N' => text (quotedPath Quoted.always s)
  | 'o' => number 4096
  | 's' => number (Description.size t n)
  | 't' => text (hex (Description.deviceNumbers content).1)
  | 'T' => text (hex (Description.deviceNumbers content).2)
  | 'w' | 'x' | 'y' | 'z' => text (moment modified)
  | 'W' | 'X' | 'Y' | 'Z' => some (Date.padded 0 ' ' (modified.fdiv 1000000000), true)
  | '\x01' => text (quotedPath id s)
  | _ => none

/-- A text as flags, a width and a precision ask for it. -/
def padded (flags : List Char) (width : Nat) (precision : Option Nat) (text : String) (isNumber : Bool) : String :=
  let text := match precision with
    | some n => if isNumber then String.ofList (List.replicate (n - text.length) '0') ++ text
      else (text.take n).toString
    | none => text
  let missing := width - text.length
  if flags.contains '-' then text ++ String.ofList (List.replicate missing ' ')
  else if flags.contains '0' && isNumber then String.ofList (List.replicate missing '0') ++ text
  else String.ofList (List.replicate missing ' ') ++ text

/-- A format filled in, at most so many characters of it. -/
def filled (s : Subject) : Nat → List Char → String
  | 0, _ => ""
  | _, [] => ""
  | _, ['%'] => "%"
  | n + 1, '%' :: '%' :: rest => "%" ++ filled s n rest
  | n + 1, '%' :: cs =>
    let flags := cs.takeWhile fun c => ['-', '#', '0', '+', ' ', '\''].contains c
    let cs := cs.drop flags.length
    let width := cs.takeWhile Char.isDigit
    let cs := cs.drop width.length
    let (precision, cs) := match cs with
      | '.' :: rest =>
        let digits := rest.takeWhile Char.isDigit
        (some (Text.Decimal.value digits), rest.drop digits.length)
      | cs => (none, cs)
    let numbers := Description.deviceNumbers (s.tree.content? s.inode)
    let pad := padded flags (Text.Decimal.value width) precision
    match cs with
    | 'H' :: 'r' :: rest => pad (Text.Decimal.text numbers.1) true ++ filled s n rest
    | 'L' :: 'r' :: rest => pad (Text.Decimal.text numbers.2) true ++ filled s n rest
    | 'H' :: 'd' :: rest => pad (Text.Decimal.text (device / 256)) true ++ filled s n rest
    | 'L' :: 'd' :: rest => pad (Text.Decimal.text (device % 256)) true ++ filled s n rest
    | c :: rest =>
      let (text, isNumber) := (field s c).getD ("?", false)
      let text := if c = 'a' && flags.contains '#' then "0" ++ text else text
      pad text isNumber ++ filled s n rest
    | [] => "%"
  | n + 1, c :: rest => c.toString ++ filled s n rest

/-- The format that is used if none is given. -/
def standardFormat (isDevice : Bool) : String :=
  "  File: %\x01\n  Size: %-10s\tBlocks: %-10b IO Block: %-6o %F\nDevice: %Hd,%Ld\tInode: %-10i  Links: " ++
    (if isDevice then "%-5h Device type: %Hr,%Lr" else "%h") ++
    "\nAccess: (%04a/%10.10A)  Uid: (%5u/%8U)   Gid: (%5g/%8G)\nAccess: %x\nModify: %y\nChange: %z\n Birth: %w\n"

/-- The format for programs to read. -/
def terseFormat : String := "%n %s %b %f %u %g %D %i %h %t %T %X %Y %Z %W %o\n"

/-- The escapes of formats. -/
def escapes : Format.Escapes := ⟨true, false, true, true, false⟩

/-- `stat`: tells what there is to know of files. -/
def stat (c : Call) : Act Nat :=
  let table : OptionTable := ⟨"Lft", "c\x02\x03", "", [("dereference", 'L'), ("file-system", 'f'), ("terse", 't'),
    ("format", 'c'), ("printf", '\x02'), ("cached", '\x03')], false⟩
  c.reading table 1 fun a => do
    if a.operands.isEmpty then c.misused 1 "missing operand"
    else
      let last := a.last? ['c', '\x02']
      let given := match last with
        | some 'c' => a.value? 'c'
        | some _ => (a.value? '\x02').map fun s => (Format.unescaped escapes s).1
        | none => if a.has 't' then some terseFormat else none
      each 1 (fun path => do
        let found ← Act.files fun t base =>
          let found := if path = "-" then t.find base "/dev/stdin" true else t.find base path (a.has 'L')
          found.map fun n =>
            let isDevice := t.holds n fun
              | .device _ => true
              | _ => false
            let format := given.getD (standardFormat isDevice)
            filled ⟨t, path, n, Description.kindName t n⟩ (format.length + 1) format.toList ++
              (if last = some 'c' then "\n" else "")
        match found with
        | .ok text =>
          c.put text
          return true
        | .error e =>
          c.complain ("cannot statx " ++ Quoted.always path ++ ": " ++ e.text)
          return false) a.operands

/-- An empty format stays empty. -/
theorem filled_nil (s : Subject) (n : Nat) : filled s n [] = "" := by
  cases n <;> rfl

end RunLedger.Sandbox.Program.Stat
