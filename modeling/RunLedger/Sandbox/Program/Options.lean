import RunLedger.Sandbox.Executable

/-!
# Options

How a program reads its arguments: flags behind one dash, some of them with a value, long names behind two, which may be
cut short as long as they stay distinct, and operands anywhere between or only behind the flags. `--` makes operands of
all that follows.

* `read_operands`: arguments without a dash are operands, in order.
-/

namespace RunLedger.Sandbox

/-- The options of a program. -/
structure OptionTable where
  /-- The flags without a value. -/
  flags : String
  /-- The flags with a value. -/
  valued : String
  /-- The flags with a value that may be left out; it stands behind them if it is there. -/
  optional : String
  /-- Long names and the flags that they stand for. -/
  long : List (String × Char)
  /-- Whether everything behind the first operand is an operand. -/
  isOrdered : Bool

/-- Why arguments make no sense. -/
inductive OptionError where
  | unknown (flag : Char)
  | unknownName (word : String)
  | ambiguous (word : String) (names : List String)
  | valueless (flag : Char)
  | valuelessName (name : String)
  | needless (name : String)
  /-- The program is asked to explain itself, or for its version. -/
  | help
  | version
  deriving DecidableEq, Repr

/-- What is wrong, in words. -/
def OptionError.text : OptionError → String
  | .unknown flag => "invalid option -- '" ++ flag.toString ++ "'"
  | .unknownName word => "unrecognized option '" ++ word ++ "'"
  | .ambiguous word names =>
    "option '" ++ word ++ "' is ambiguous; possibilities:" ++ String.join (names.map fun n => " '--" ++ n ++ "'")
  | .valueless flag => "option requires an argument -- '" ++ flag.toString ++ "'"
  | .valuelessName name => "option '--" ++ name ++ "' requires an argument"
  | .needless name => "option '--" ++ name ++ "' doesn't allow an argument"
  | .help | .version => ""

/-- The arguments of a program, sorted out. -/
structure Arguments where
  /-- The flags in order, each with its value if it has one. -/
  options : List (Char × Option String)
  operands : List String
  deriving DecidableEq, Repr

namespace Arguments

/-- No arguments. -/
def none : Arguments := ⟨[], []⟩

/-- Whether a flag is set. -/
def has (a : Arguments) (flag : Char) : Bool := a.options.any fun o => o.1 = flag

/-- The last value of a flag. -/
def value? (a : Arguments) (flag : Char) : Option String :=
  (a.options.reverse.find? fun o => o.1 = flag).bind Prod.snd

/-- The values of a flag. -/
def values (a : Arguments) (flag : Char) : List String :=
  a.options.filterMap fun o => if o.1 = flag then o.2 else .none

/-- The last one of some flags that is set. -/
def last? (a : Arguments) (flags : List Char) : Option Char :=
  (a.options.reverse.find? fun o => flags.contains o.1).map Prod.fst

/-- The arguments with an option in front. -/
def option (c : Char) (value : Option String) (a : Arguments) : Arguments := { a with options := (c, value) :: a.options }

/-- The flags of one word, and the flag at its end that still needs a value. -/
def cluster (t : OptionTable) : List Char → Except OptionError (List (Char × Option String) × Option Char)
  | [] => .ok ([], .none)
  | c :: cs =>
    if t.flags.contains c then (cluster t cs).map fun (flags, last) => ((c, .none) :: flags, last)
    else if t.valued.contains c then
      .ok (if cs.isEmpty then ([], some c) else ([(c, some (String.ofList cs))], .none))
    else if t.optional.contains c then .ok ([(c, if cs.isEmpty then .none else some (String.ofList cs))], .none)
    else .error (.unknown c)

/-- The long names that a word may mean. -/
def candidates (t : OptionTable) (name : String) : List (String × Char) :=
  let all := t.long ++ [("help", '?'), ("version", '!')]
  match all.filter fun e => e.1 = name with
  | [] => all.filter fun e => e.1.startsWith name
  | exact => exact

/-- What a word with a long name means. -/
def longOption (t : OptionTable) (word : String) : Except OptionError (String × Char × Option String) :=
  let (name, value) := match ((word.drop 2).toString).splitOn "=" with
    | name :: value => (name, if value.isEmpty then Option.none else some ("=".intercalate value))
    | [] => ("", Option.none)
  match candidates t name with
  | [] => .error (.unknownName word)
  | (full, c) :: others =>
    if others.all fun e => e.2 = c then .ok (full, c, value) else .error (.ambiguous word (full :: others.map Prod.fst))

/-- Sorts arguments out. -/
def read (t : OptionTable) : List String → Except OptionError Arguments
  | [] => .ok none
  | word :: rest =>
    if word = "--" then .ok { none with operands := rest }
    else
      match word.toList with
      | '-' :: '-' :: _ =>
        match longOption t word with
        | .error e => .error e
        | .ok (_, '?', _) => .error .help
        | .ok (_, '!', _) => .error .version
        | .ok (name, c, value) =>
          if t.valued.contains c then
            match value, rest with
            | some value, rest => (read t rest).map (option c (some value))
            | .none, value :: rest => (read t rest).map (option c (some value))
            | .none, [] => .error (.valuelessName name)
          else if value.isSome && !t.optional.contains c then .error (.needless name)
          else (read t rest).map (option c value)
      | '-' :: c :: cs =>
        match cluster t (c :: cs), rest with
        | .error e, _ => .error e
        | .ok (flags, .none), rest => (read t rest).map fun a => { a with options := flags ++ a.options }
        | .ok (flags, some c), value :: rest =>
          (read t rest).map fun a => { a with options := flags ++ (c, some value) :: a.options }
        | .ok (_, some c), [] => .error (.valueless c)
      | _ =>
        if t.isOrdered then .ok { none with operands := word :: rest }
        else (read t rest).map fun a => { a with operands := word :: a.operands }

/-- Arguments without a dash are operands, in order. -/
theorem read_operands (t : OptionTable) {words : List String} (h : ∀ w ∈ words, w.toList.head? ≠ some '-') :
    read t words = .ok { none with operands := words } := by
  induction words with
  | nil => rfl
  | cons w ws ih =>
    have hw := h w List.mem_cons_self
    rw [read]
    split
    · rename_i he
      exact absurd (by rw [he]; rfl) hw
    · split
      · rename_i hl
        exact absurd (by rw [hl]; rfl) hw
      · rename_i hl
        exact absurd (by rw [hl]; rfl) hw
      · split
        · rfl
        · rw [ih fun v hv => h v (List.mem_cons_of_mem _ hv)]
          rfl

end Arguments

end RunLedger.Sandbox
