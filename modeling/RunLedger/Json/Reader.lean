import RunLedger.Json.Token

/-!
# Reading JSON

A text is read token by token by a machine whose state is what is due next and the containers that are open. The text is
a value exactly when the machine ends with one.
-/

namespace RunLedger.Json

/-- A container that is open, with what it holds so far (latest first). -/
inductive Frame where
  | array (items : List Json)
  | object (members : List (Option String × Json))
  /-- An object whose member with this key is due. -/
  | member (members : List (Option String × Json)) (key : Option String)

/-- What is due next. -/
inductive State where
  /-- A value. -/
  | value (frames : List Frame)
  /-- The first item of the innermost container, or its end. -/
  | first (frames : List Frame)
  /-- The key of a member. -/
  | key (members : List (Option String × Json)) (frames : List Frame)
  /-- The colon after a key. -/
  | colon (frames : List Frame)
  /-- A comma, or the end of the innermost container. -/
  | next (frames : List Frame)
  /-- Nothing: the value is complete. -/
  | done (value : Json)

/-- A complete value inside the open containers. -/
def State.complete (v : Json) : List Frame → State
  | .array items :: frames => .next (.array (v :: items) :: frames)
  | .member members k :: frames => .next (.object ((k, v) :: members) :: frames)
  | .object members :: frames => .next (.object members :: frames)
  | [] => .done v

/-- The value that a token is by itself. -/
def Token.scalar? : Token → Option Json
  | .null => some .null
  | .bool b => some (.bool b)
  | .number n => some (.number n)
  | .string s => some (.string s)
  | _ => none

/-- The state after a token where a value is due. -/
def State.atValue (frames : List Frame) : Token → Option State
  | .leftBracket => some (.first (.array [] :: frames))
  | .leftBrace => some (.first (.object [] :: frames))
  | t => t.scalar?.map fun v => .complete v frames

/-- The state after one token. -/
def State.step : State → Token → Option State
  | .value frames, t => atValue frames t
  | .first (.array _ :: frames), .rightBracket => some (.complete (.array []) frames)
  | .first (.array items :: frames), t => atValue (.array items :: frames) t
  | .first (.object _ :: frames), .rightBrace => some (.complete (.object []) frames)
  | .first (.object members :: frames), .string s => some (.colon (.member members s :: frames))
  | .key members frames, .string s => some (.colon (.member members s :: frames))
  | .colon frames, .colon => some (.value frames)
  | .next (.array items :: frames), .comma => some (.value (.array items :: frames))
  | .next (.array items :: frames), .rightBracket => some (.complete (.array items.reverse) frames)
  | .next (.object members :: frames), .comma => some (.key members frames)
  | .next (.object members :: frames), .rightBrace => some (.complete (.object members.reverse) frames)
  | _, _ => none

/-- The state after a list of tokens. -/
def State.run (s : State) (ts : List Token) : Option State := ts.foldlM State.step s

/-- The value that a text writes. -/
def parse? (s : String) : Option Json := do
  let ts ← tokens? s
  match ← (State.value []).run ts with
  | .done v => some v
  | _ => none

end RunLedger.Json
