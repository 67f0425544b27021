import RunLedger.Text.Decimal

/-!
# Permissions

The twelve bits of a mode, as programs read and write them: octal digits, letters for what is granted or taken from whom,
and nine letters in a row.

* `text_none`: where nothing is granted there are only dashes.
-/

namespace RunLedger.Sandbox.Permission

/-- The digits of a mode. -/
def octal (mode : Nat) : String := String.ofList (Nat.toDigits 8 mode)

/-- A mode with at least so many digits. -/
def octalOf (width mode : Nat) : String :=
  let digits := octal mode
  String.ofList (List.replicate (width - digits.length) '0') ++ digits

/-- What a mode grants, in nine letters. -/
def text (mode : Nat) : String :=
  let rights := fun (n special : Nat) (marked : Char) =>
    let run := if special ≠ 0 then if n &&& 1 ≠ 0 then marked else marked.toUpper else if n &&& 1 ≠ 0 then 'x' else '-'
    String.ofList [if n &&& 4 ≠ 0 then 'r' else '-', if n &&& 2 ≠ 0 then 'w' else '-', run]
  rights (mode / 64 % 8) (mode &&& 0o4000) 's' ++ rights (mode / 8 % 8) (mode &&& 0o2000) 's' ++
    rights (mode % 8) (mode &&& 0o1000) 't'

/-- What a change is made to. -/
structure Subject where
  isDirectory : Bool
  mode : Nat
  umask : Nat

/-- The bits of a letter for all users, with the bits that are not granted to anyone in particular. -/
def rightOf (s : Subject) (mode : Nat) : Char → Nat
  | 'r' => 0o444
  | 'w' => 0o222
  | 'x' => 0o111
  | 'X' => if s.isDirectory || mode &&& 0o111 ≠ 0 then 0o111 else 0
  | 's' => 0o6000
  | 't' => 0o1000
  | 'u' => mode / 64 % 8 * 0o111
  | 'g' => mode / 8 % 8 * 0o111
  | 'o' => mode % 8 * 0o111
  | _ => 0

/-- The bits that belong to a user. -/
def bitsOf : Char → Nat
  | 'u' => 0o4700
  | 'g' => 0o2070
  | 'o' => 0o1007
  | _ => 0o7777

/-- The bits of a mode without others. -/
def without (mode bits : Nat) : Nat := mode - (mode &&& bits)

/-- A mode after signs with letters, as many as there is fuel for. Nothing if they make no sense. -/
def signed? (s : Subject) (affected : Nat) (isForAll : Bool) : Nat → Nat → List Char → Option Nat
  | 0, _, _ => none
  | n + 1, mode, op :: rest =>
    if !(['+', '-', '='].contains op) then none
    else
      let digits := rest.takeWhile fun c => '0' ≤ c && c ≤ '7'
      let copied := rest.takeWhile ['u', 'g', 'o'].contains
      let letters := if !digits.isEmpty then digits else if copied.length = 1 then copied
        else rest.takeWhile ['r', 'w', 'x', 'X', 's', 't'].contains
      let rights := if digits.isEmpty then letters.foldl (fun m c => m ||| rightOf s mode c) 0
        else digits.foldl (fun m d => m * 8 + (d.toNat - 48)) 0 % 4096
      let masked := if isForAll then without rights s.umask else rights &&& affected
      let kept := if s.isDirectory && digits.isEmpty then 0o6000 else 0
      let mode := match op with
        | '+' => mode ||| masked
        | '-' => without mode masked
        | _ =>
          let cleared := if isForAll then 0o7777 else affected
          without mode (without cleared (if letters.contains 's' then 0 else kept)) ||| masked
      match rest.drop letters.length with
      | [] => some mode
      | more => signed? s affected isForAll n mode more
  | _, _, [] => none

/-- A mode after a clause. -/
def clause? (s : Subject) (mode : Nat) (cs : List Char) : Option Nat :=
  let who := cs.takeWhile ['u', 'g', 'o', 'a'].contains
  signed? s (who.foldl (fun m c => m ||| bitsOf c) 0) who.isEmpty (cs.length + 1) mode (cs.drop who.length)

/-- A mode after a change. Nothing if the change makes no sense. -/
def changed? (s : Subject) (change : String) : Option Nat :=
  let cs := change.toList
  if !cs.isEmpty && cs.all fun c => '0' ≤ c && c ≤ '7' then
    let mode := cs.foldl (fun m d => m * 8 + (d.toNat - 48)) 0
    if 4096 ≤ mode then none
    else if s.isDirectory && cs.length < 5 then some (mode ||| (s.mode &&& 0o6000)) else some mode
  else (change.splitOn ",").foldlM (fun mode part => clause? s mode part.toList) s.mode

/-- Where nothing is granted there are only dashes. -/
theorem text_none : text 0 = "---------" := by rfl

end RunLedger.Sandbox.Permission
