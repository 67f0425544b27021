import RunLedger.Identifier.Uuid
import RunLedger.Text.Quoted

/-!
# Identifiers of runs, messages and operations

Runs and messages are named by 128-bit identifiers, shown with a tag in front. An operation has a name of its caller's
choice, unique among its siblings; names are joined with slashes into paths, so a name is not empty and holds no slash.
-/

namespace RunLedger

/-- Names one run of a pipeline and its log. -/
structure RunId where
  uuid : Uuid
  deriving DecidableEq, Repr, Inhabited

/-- Names one message. -/
structure MessageId where
  uuid : Uuid
  deriving DecidableEq, Inhabited

/-- What separates the names in a path. -/
def separator : Char := '/'

/-- A name that can stand in a path. -/
structure OperationId where
  name : String
  ne_empty : name ≠ ""
  separator_notMem : separator ∉ name.toList
  deriving DecidableEq

/-- Why a text names nothing. -/
inductive IdError where
  /-- The text is no run identifier. -/
  | run (text : String) (fault : Uuid.Error)
  /-- The name of an operation is empty. -/
  | emptyOperation
  /-- The name of an operation holds the separator. -/
  | separatorIn (name : String)
  deriving DecidableEq, Repr

/-- The wording of a fault. -/
def IdError.message : IdError → String
  | .run text fault => s!"Invalid ID: run id {Text.Quoted.text text}: {fault.message}"
  | .emptyOperation => "Invalid ID: operation id is empty"
  | .separatorIn name => s!"Invalid ID: operation id {Text.Quoted.text name} contains '/'"

namespace RunId

/-- The tag in front of a run identifier. -/
def tag : List Char := ['r', 'u', 'n', '_']

/-- The shown form. -/
def text (r : RunId) : String := String.ofList (tag ++ r.uuid.text.toList)

/-- A text without the tag, if it has one in front. -/
def untagged (s : String) : String :=
  if tag.isPrefixOf s.toList then String.ofList (s.toList.drop tag.length) else s

/-- The run that a text names, with or without the tag. -/
def ofText (s : String) : Except IdError RunId :=
  match Uuid.ofText (untagged s) with
  | .ok u => .ok ⟨u⟩
  | .error e => .error (.run s e)

/-- Order by number. -/
def le (a b : RunId) : Bool := a.uuid.toNat ≤ b.uuid.toNat

end RunId

namespace MessageId

/-- The shown form. -/
def text (m : MessageId) : String := "msg_" ++ m.uuid.text

/-- The version digit of the identifier. -/
def version (m : MessageId) : Nat := (m.uuid.bytes[6]?.getD 0).toNat / 16

/-- The identifier of the message made at a time in milliseconds as the `serial`-th of its millisecond: version 7, whose
order is the order of making. -/
def made (millis serial : Nat) : MessageId :=
  let high := millis % 0x1000000000000 * 0x10000 + 0x7000 + serial / 0x4000000000000000 % 0x1000
  let low := 0x8000000000000000 + serial % 0x4000000000000000
  ⟨⟨⟨Bytes.ofNatBE 8 high ++ Bytes.ofNatBE 8 low, by simp⟩⟩⟩

end MessageId

namespace OperationId

/-- The operation with a name. -/
def ofText (s : String) : Except IdError OperationId :=
  if he : s = "" then .error .emptyOperation
  else if hs : separator ∈ s.toList then .error (.separatorIn s)
  else .ok ⟨s, he, hs⟩

/-- Names with separators between them. -/
def joinNames : List (List Char) → List Char
  | [] => []
  | [name] => name
  | name :: rest => name ++ separator :: joinNames rest

/-- The path that a list of operations spells. -/
def joinPath (ids : List OperationId) : String := String.ofList (joinNames (ids.map fun id => id.name.toList))

end OperationId

end RunLedger
