import RunLedger.Text.Hex

/-!
# Universally unique identifiers

Sixteen octets. They are written as 32 lowercase hexadecimal digits in groups of 8, 4, 4, 4 and 12 with hyphens between.
They are read in that form, as 32 bare digits, in braces, or after `urn:uuid:`, with digits and letters of either case.
A text in none of these forms is refused with the first fault that a scan of it shows.
-/

namespace RunLedger

/-- A 128-bit identifier. -/
structure Uuid where
  block : Block 16
  deriving DecidableEq, Repr, Inhabited

namespace Uuid

/-- The octets, most significant first. -/
def bytes (u : Uuid) : Bytes := u.block.bytes

/-- The identifier with a number. -/
def ofNat (n : Nat) : Uuid := ⟨Block.ofNat 16 n⟩

/-- The number of an identifier. -/
def toNat (u : Uuid) : Nat := u.block.toNat

/-- The hyphenated form of 16 octets. -/
def hyphenate (b : Bytes) : List Char :=
  Text.Hex.encodeList (b.take 4) ++ '-' :: Text.Hex.encodeList ((b.drop 4).take 2) ++
    '-' :: Text.Hex.encodeList ((b.drop 6).take 2) ++ '-' :: Text.Hex.encodeList ((b.drop 8).take 2) ++
    '-' :: Text.Hex.encodeList (b.drop 10)

/-- The hyphenated form. -/
def text (u : Uuid) : String := String.ofList (hyphenate u.bytes)

/-- The identifier that 32 digits write. -/
def bare? (octets : Bytes) : Option Uuid :=
  match Text.Hex.decodeBytes octets with
  | .ok bytes => (Block.ofBytes? 16 bytes).map Uuid.mk
  | .error _ => none

/-- The identifier that a hyphenated text of 36 octets writes. -/
def hyphenated? (octets : Bytes) : Option Uuid :=
  let hyphen : Option UInt8 := some 45
  if octets.length = 36 ∧ octets[8]? = hyphen ∧ octets[13]? = hyphen ∧ octets[18]? = hyphen ∧ octets[23]? = hyphen then
    bare? (octets.take 8 ++ (octets.drop 9).take 4 ++ (octets.drop 14).take 4 ++ (octets.drop 19).take 4 ++
      octets.drop 24)
  else none

/-- What stands in front of an identifier written as a name, in lowercase. -/
def urnLabel : List Char := ['u', 'r', 'n', ':', 'u', 'u', 'i', 'd', ':']

/-- The text after the label of a name. -/
def afterLabel? (cs : List Char) : Option (List Char) :=
  if (cs.take 9).map Char.toLower = urnLabel then some (cs.drop 9) else none

/-- The text between braces. -/
def insideBraces? (cs : List Char) : Option (List Char) :=
  match cs with
  | '{' :: rest => if rest.getLast? = some '}' then some rest.dropLast else none
  | _ => none

/-- Why a text writes no identifier. -/
inductive Error where
  /-- No form has this many octets. -/
  | length (found : Nat)
  /-- This character, at this octet, is neither a digit nor a hyphen. -/
  | character (c : Char) (index : Nat)
  /-- There are this many groups of digits, not five. -/
  | groupCount (found : Nat)
  /-- The group with this number has the wrong number of digits. -/
  | groupLength (group expected found : Nat)
  deriving DecidableEq, Repr

/-- The wording of a fault. -/
def Error.message : Error → String
  | .length found => s!"invalid length: found {found}"
  | .character c index => s!"invalid character: found `{c}` at {index}"
  | .groupCount found => s!"invalid group count: expected 5, found {found}"
  | .groupLength group expected found =>
    s!"invalid group length in group {group}: expected {expected}, found {found}"

/-- Octets that a text takes. -/
def octetCount (cs : List Char) : Nat := cs.foldl (fun n c => n + c.utf8Size) 0

/-- The first character that is neither a digit nor a hyphen, with its octet position. -/
def strayFrom (index : Nat) : List Char → Option Error
  | [] => none
  | c :: rest =>
    if c = '-' ∨ (Text.Hex.value? c.toNat).isSome then strayFrom (index + c.utf8Size) rest
    else some (.character c index)

/-- The positions of the hyphens. -/
def hyphens (cs : List Char) : List Nat :=
  (cs.zipIdx.filter fun (c, _) => c = '-').map Prod.snd

/-- The first group whose hyphen is not in its place. Each place is given with the start of its group. -/
def misplaced (group : Nat) : List Nat → List (Nat × Nat) → Option Error
  | position :: positions, (start, place) :: places =>
    if position = place then misplaced (group + 1) positions places
    else some (.groupLength group (place - start) (position - start))
  | _, _ => none

/-- The fault of a text that is in no form. `known` says that the hyphenated form was recognised already. -/
def diagnose (cs : List Char) (known : Bool) : Error :=
  let total := octetCount cs
  if total = 0 ∨ 45 < total then .length total
  else
    let (start, seen, formed) :=
      if known then (0, cs, true)
      else match insideBraces? cs, afterLabel? cs with
        | some inner, _ => (1, inner, true)
        | none, some rest => (9, rest, true)
        | none, none => (0, cs, false)
    match strayFrom start seen with
    | some e => e
    | none =>
      let marks := hyphens seen
      if !formed && marks.isEmpty then .length total
      else if marks.length ≠ 4 then .groupCount (marks.length + 1)
      else (misplaced 0 marks [(0, 8), (9, 13), (14, 18), (19, 23)]).getD (.groupLength 4 12 (total - 24))

/-- The identifier that a text writes. -/
def ofText (s : String) : Except Error Uuid :=
  let cs := s.toList
  let octets := Text.Utf8.encode s
  let (inner, known, found) :=
    match octets.length with
    | 32 => (cs, false, bare? octets)
    | 36 => (cs, true, hyphenated? octets)
    | 38 =>
      match insideBraces? cs with
      | some inner => (inner, true, hyphenated? (octets.drop 1 |>.dropLast))
      | none => (cs, false, none)
    | 45 =>
      match afterLabel? cs with
      | some rest => (rest, true, hyphenated? (octets.drop 9))
      | none => (cs, false, none)
    | _ => (cs, false, none)
  match found with
  | some u => .ok u
  | none => .error (diagnose inner known)

end Uuid

end RunLedger
