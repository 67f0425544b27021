import RunLedger.Text.Decimal
import RunLedger.Text.Quoted

/-!
# Schema versions

A version is three 64-bit numbers. It is written with dots between them and read from exactly three parts, each an
optional plus sign and decimal digits. A reader of one version can decode what another wrote if the majors agree and,
below 1.0, the minors too.
-/

namespace RunLedger

/-- A semantic version. -/
structure Version where
  major : UInt64
  minor : UInt64
  patch : UInt64
  deriving DecidableEq, Repr, Inhabited

namespace Version

/-- The shown form. -/
def text (v : Version) : String :=
  String.ofList (Text.Decimal.digits v.major.toNat ++ '.' :: Text.Decimal.digits v.minor.toNat ++
    '.' :: Text.Decimal.digits v.patch.toNat)

/-- Why a text is no version. -/
inductive Error where
  /-- The text does not have three parts. -/
  | format (text : String)
  /-- This part is no 64-bit number. -/
  | component (part : String)
  deriving DecidableEq, Repr

/-- The wording of a fault. -/
def Error.message : Error → String
  | .format text => s!"Invalid version format: {text}"
  | .component part => s!"Invalid version component: {part}"

/-- The parts of a text between its dots. -/
def parts : List Char → List (List Char)
  | [] => [[]]
  | '.' :: cs => [] :: parts cs
  | c :: cs =>
    match parts cs with
    | p :: ps => (c :: p) :: ps
    | [] => [[c]]

/-- One part as a number. -/
def component (part : List Char) : Except Error UInt64 :=
  match Text.Decimal.readU64? part with
  | some n => .ok n
  | none => .error (.component (String.ofList part))

/-- The version that a text writes. -/
def ofText (s : String) : Except Error Version :=
  match parts s.toList with
  | [a, b, c] => do
    let major ← component a
    let minor ← component b
    let patch ← component c
    .ok ⟨major, minor, patch⟩
  | _ => .error (.format s)

/-- Whether a reader of version `v` can decode what version `w` wrote. -/
def canRead (v w : Version) : Bool := v.major = w.major && (v.major ≠ 0 || v.minor = w.minor)

/-- Order by major, then minor, then patch. -/
def compare (v w : Version) : Ordering :=
  (Ord.compare v.major w.major).then ((Ord.compare v.minor w.minor).then (Ord.compare v.patch w.patch))

theorem canRead_self (v : Version) : canRead v v := by simp [canRead]

end Version

end RunLedger
