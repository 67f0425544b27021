/-!
# Patterns

Patterns of characters as a shell knows them: `*` stands for any characters, `?` for one, and a bracketed list for one
character of a set. A quoted character stands for itself.

* `accepts_many`: `*` accepts every text.
* `accepts_chars`: a pattern of characters that stand for themselves accepts its own text only.
-/

namespace RunLedger.Sandbox

/-- An item of a pattern. -/
inductive PatternItem where
  | char (c : Char)
  | one
  | many
  /-- One character inside, or outside, of a set of ranges. -/
  | set (outside : Bool) (ranges : List (Char × Char))
  deriving DecidableEq, Repr

/-- A character and whether it was quoted. -/
abbrev Marked := Char × Bool

namespace Pattern

/-- The ranges of a named class of characters. -/
def namedClass? (name : String) : Option (List (Char × Char)) :=
  match name with
  | "digit" => some [('0', '9')]
  | "lower" => some [('a', 'z')]
  | "upper" => some [('A', 'Z')]
  | "alpha" => some [('a', 'z'), ('A', 'Z')]
  | "alnum" => some [('a', 'z'), ('A', 'Z'), ('0', '9')]
  | "xdigit" => some [('0', '9'), ('a', 'f'), ('A', 'F')]
  | "space" => some [(' ', ' '), ('\t', '\r')]
  | "blank" => some [(' ', ' '), ('\t', '\t')]
  | "punct" => some [('!', '/'), (':', '@'), ('[', Char.ofNat 96), ('{', '~')]
  | "graph" => some [('!', '~')]
  | "print" => some [(' ', '~')]
  | "cntrl" => some [('\x00', '\x1f'), ('\x7f', '\x7f')]
  | _ => none

/-- Reads the members of a set up to its closing bracket. -/
def members (ranges : List (Char × Char)) (first : Bool) : List Marked → Option (List (Char × Char) × List Marked)
  | [] => none
  | (']', false) :: rest => if first then members ((']', ']') :: ranges) false rest else some (ranges, rest)
  | ('[', false) :: (':', false) :: rest =>
    let name := String.ofList ((rest.map Prod.fst).takeWhile Char.isAlpha)
    match namedClass? name, rest.drop name.length with
    | some rs, (':', _) :: (']', _) :: _ => members (rs ++ ranges) false (rest.drop (name.length + 2))
    | _, _ => members (('[', '[') :: ranges) false ((':', false) :: rest)
  | (low, _) :: ('-', false) :: (high, quoted) :: rest =>
    if high = ']' && !quoted then members ((low, low) :: ranges) false (('-', false) :: (high, quoted) :: rest)
    else members ((low, high) :: ranges) false rest
  | (c, _) :: rest => members ((c, c) :: ranges) false rest
termination_by marked => marked.length
decreasing_by all_goals simp +arith

/-- Reads items, as many as there is fuel for. -/
def itemsOf : Nat → List Marked → List PatternItem
  | 0, _ => []
  | _, [] => []
  | n + 1, ('*', false) :: rest => .many :: itemsOf n rest
  | n + 1, ('?', false) :: rest => .one :: itemsOf n rest
  | n + 1, ('\\', false) :: (c, _) :: rest => .char c :: itemsOf n rest
  | n + 1, ('[', false) :: rest =>
    let outside := match rest with
      | ('!', false) :: _ | ('^', false) :: _ => true
      | _ => false
    match members [] true (if outside then rest.drop 1 else rest) with
    | some (ranges, rest) => .set outside ranges :: itemsOf n rest
    | none => .char '[' :: itemsOf n rest
  | n + 1, (c, _) :: rest => .char c :: itemsOf n rest

/-- The items of a pattern. -/
def ofMarked (marked : List Marked) : List PatternItem := itemsOf marked.length marked

/-- Whether a pattern has an item that stands for more than one text. -/
def isOpen (items : List PatternItem) : Bool :=
  items.any fun
    | .char _ => false
    | _ => true

/-- Whether an item stands for a character. -/
def admits (c : Char) : PatternItem → Bool
  | .char d => c = d
  | .one => true
  | .many => false
  | .set outside ranges => (ranges.any fun (low, high) => low ≤ c && c ≤ high) != outside

/-! ## Accepting -/

/-- The runs of items that stand for one character each, with any characters between them: the first, and the others. -/
def runs (items : List PatternItem) : List PatternItem × List (List PatternItem) :=
  items.foldr (fun item (run, others) => if item = .many then ([], run :: others) else (item :: run, others)) ([], [])

/-- What follows a run at the start of a text. -/
def afterRun : List PatternItem → List Char → Option (List Char)
  | [], cs => some cs
  | _ :: _, [] => none
  | item :: run, c :: cs => if admits c item then afterRun run cs else none

/-- What follows a run at the first place where it is found. -/
def afterFirst (run : List PatternItem) : List Char → Option (List Char)
  | [] => afterRun run []
  | c :: cs =>
    match afterRun run (c :: cs) with
    | some rest => some rest
    | none => afterFirst run cs

/-- What follows a run at the last place where it is found, or else what was found before. -/
def afterLast (run : List PatternItem) (found : Option (List Char)) : List Char → Option (List Char)
  | [] => (afterRun run []).or found
  | c :: cs => afterLast run ((afterRun run (c :: cs)).or found) cs

/-- What follows runs with any characters in front of each. The first place of a run leaves the most room for the others,
so that only the last run need be looked for farther on. -/
def afterRuns (longest : Bool) : List (List PatternItem) → List Char → Option (List Char)
  | [], cs => some cs
  | [run], cs => if longest then afterLast run none cs else afterFirst run cs
  | run :: others, cs => (afterFirst run cs).bind (afterRuns longest others)

/-- A text without the shortest, or the longest, beginning that a pattern accepts. -/
def without (longest : Bool) (items : List PatternItem) (cs : List Char) : Option (List Char) :=
  let (first, others) := runs items
  (afterRun first cs).bind (afterRuns longest others)

/-- Whether a pattern accepts a text: it accepts no shorter beginning only. -/
def accepts (items : List PatternItem) (cs : List Char) : Bool := (without true items cs).any List.isEmpty

theorem afterLast_nil (found : Option (List Char)) (cs : List Char) : afterLast [] found cs = some [] := by
  induction cs generalizing found with
  | nil => rfl
  | cons c cs ih => exact ih _

/-- The empty pattern accepts the empty text only. -/
theorem accepts_nil (cs : List Char) : accepts [] cs = cs.isEmpty := rfl

/-- `*` accepts every text. -/
theorem accepts_many (cs : List Char) : accepts [.many] cs = true := by
  simp [accepts, without, runs, afterRun, afterRuns, afterLast_nil]

theorem runs_chars (ds : List Char) : runs (ds.map .char) = (ds.map .char, []) := by
  induction ds with
  | nil => rfl
  | cons d ds ih =>
    rw [runs] at ih ⊢
    rw [List.map_cons, List.foldr_cons, ih]
    rfl

/-- A pattern of characters that stand for themselves accepts its own text only. -/
theorem accepts_chars (ds cs : List Char) : accepts (ds.map .char) cs = decide (cs = ds) := by
  rw [accepts, without, runs_chars]
  induction ds generalizing cs with
  | nil => cases cs <;> simp [afterRun, afterRuns]
  | cons d ds ih =>
    cases cs with
    | nil => simp [afterRun]
    | cons c cs =>
      by_cases h : c = d
      · simpa [afterRun, admits, h] using ih cs
      · simp [afterRun, admits, h]

end Pattern

end RunLedger.Sandbox
