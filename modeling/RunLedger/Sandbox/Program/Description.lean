import RunLedger.Sandbox.Date
import RunLedger.Sandbox.Permission
import RunLedger.Sandbox.Program.Stream

/-!
# Descriptions

What programs tell of an inode: its kind, its size, the room that it takes, its permissions, its names, and sizes in
units.

* `size_file`: the size of a file is the number of its octets.
-/

namespace RunLedger.Sandbox.Program.Description

/-- The letter of a kind. -/
def letter : Option Content → Char
  | some (.file _) => '-'
  | some (.directory _ _) => 'd'
  | some (.link _) => 'l'
  | some (.pipe _) => 'p'
  | some (.device _) => 'c'
  | none => '?'

/-- What a kind is called. -/
def kindName (t : FileTree) (n : Nat) : String :=
  match t.content? n with
  | some (.file octets) => if octets.size = 0 then "regular empty file" else "regular file"
  | some (.directory _ _) => "directory"
  | some (.link _) => "symbolic link"
  | some (.pipe _) => "fifo"
  | _ => "character special file"

/-- The bits of a kind. -/
def kindBits : Option Content → Nat
  | some (.file _) => 0o100000
  | some (.directory _ _) => 0o040000
  | some (.link _) => 0o120000
  | some (.pipe _) => 0o010000
  | some (.device _) => 0o020000
  | none => 0

/-- The octets that a directory takes. -/
def directorySize : Nat := 4096

/-- The size of what an inode is. -/
def sizeOf : Option Content → Nat
  | some (.file octets) => octets.size
  | some (.directory _ _) => directorySize
  | some (.link target) => target.length
  | _ => 0

/-- The size of an inode. -/
def size (t : FileTree) (n : Nat) : Nat := sizeOf (t.content? n)

/-- The blocks of 512 octets that an inode takes. -/
def blocks (t : FileTree) (n : Nat) : Nat :=
  match t.content? n with
  | some (.file octets) => (octets.size + 4095) / 4096 * 8
  | some (.directory _ _) => 8
  | _ => 0

/-- The kind and the permissions in ten letters. -/
def rights (t : FileTree) (n : Nat) : String := (letter (t.content? n)).toString ++ Permission.text (t.mode n)

/-- The number that an inode is shown with. -/
def number (n : Nat) : Nat := n + 2

/-- The numbers of a device. -/
def deviceNumbers : Option Content → Nat × Nat
  | some (.device .null) => (1, 3)
  | some (.device .zero) => (1, 5)
  | some (.device .full) => (1, 7)
  | some (.device .random) => (1, 8)
  | some (.device .terminal) => (5, 0)
  | _ => (0, 0)

/-- A number of octets in the largest unit that leaves at least one, rounded up, with one place if there is one digit. -/
def scaledFrom (base : Nat) : Nat → Nat → List Char → String
  | whole, _, [] => Text.Decimal.text whole
  | octets, power, c :: cs =>
    let next := power * base
    if next * base ≤ octets && !cs.isEmpty then scaledFrom base octets next cs
    else
      let tenths := (octets * 10 + next - 1) / next
      if tenths < 100 then Text.Decimal.text (tenths / 10) ++ "." ++ Text.Decimal.text (tenths % 10) ++ c.toString
      else
        let whole := (octets + next - 1) / next
        if base ≤ whole && !cs.isEmpty then "1.0" ++ (cs.headD c).toString else Text.Decimal.text whole ++ c.toString

/-- A number of octets in a unit that suits it. -/
def scaled (base octets : Nat) : String :=
  if octets < base then Text.Decimal.text octets
  else scaledFrom base octets 1 (if base = 1000 then 'k' :: units.drop 1 else units)

/-- The seconds of half a year. -/
def halfYear : Int := 15778476

/-- A moment as lists show it: with the time of the day if it is not long ago, otherwise with the year. -/
def momentText (now moment : Int) : String :=
  let isRecent := decide (now - halfYear * 1000000000 < moment) && decide (moment ≤ now)
  Date.text moment (if isRecent then "%b %e %H:%M" else "%b %e  %Y").toList

/-- The size of a file is the number of its octets. -/
theorem size_file {t : FileTree} {n : Nat} {octets : ByteArray} (h : t.content? n = some (.file octets)) :
    size t n = octets.size := by
  rw [size, h, sizeOf]

end RunLedger.Sandbox.Program.Description
