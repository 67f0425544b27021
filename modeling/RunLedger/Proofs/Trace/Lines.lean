import RunLedger.Proofs.Trace.Deeds

/-!
# Lines of work

Lines of work that fork off one another take turns (`Turn`), each with what it does next (`Act`). What becomes of a line
is a matter of what it does itself, and of where the line was that it was forked off: `Stands` says what a line has come
to after some of its acts, and mentions no turns. If no line is forked twice (`ForksOnce`), and with orderly turns none
is (`Turn.Orderly.forksOnce`), that is one thing only (`Stands.unique`).
-/

namespace RunLedger

/-- What a line of work does next. -/
inductive Act (ι : Type) where
  | call (a : SpanCall)
  | fork (child : ι)
  deriving DecidableEq

/-- What happens next. -/
inductive Turn (ι : Type) where
  /-- The clock is at another time. -/
  | wait (time : Timestamp)
  | act (who : ι) (a : Act ι)

namespace Turn

variable {ι : Type} [DecidableEq ι]

/-- The acts of a line of work, in order. -/
def acts (i : ι) : List (Turn ι) → List (Act ι)
  | [] => []
  | .wait _ :: turns => acts i turns
  | .act who a :: turns => if who = i then a :: acts i turns else acts i turns

/-- The lines of work that there are after a turn. -/
def extend (names : List ι) : Turn ι → List ι
  | .act _ (.fork child) => names ++ [child]
  | _ => names

/-- It is the turn of a line of work that there is; what it forks off is new. -/
def Fits (names : List ι) : Turn ι → Prop
  | .wait _ => True
  | .act who (.call _) => who ∈ names
  | .act who (.fork child) => who ∈ names ∧ child ∉ names

/-- All turns fit, one after the other. -/
def Orderly : List ι → List (Turn ι) → Prop
  | _, [] => True
  | names, z :: turns => z.Fits names ∧ Orderly (z.extend names) turns

instance (names : List ι) : (z : Turn ι) → Decidable (z.Fits names)
  | .wait _ => isTrue trivial
  | .act who (.call _) => inferInstanceAs (Decidable (who ∈ names))
  | .act who (.fork child) => inferInstanceAs (Decidable (who ∈ names ∧ child ∉ names))

instance decidableOrderly : (names : List ι) → (turns : List (Turn ι)) → Decidable (Orderly names turns)
  | _, [] => isTrue trivial
  | names, z :: turns =>
    have := decidableOrderly (z.extend names) turns
    inferInstanceAs (Decidable (z.Fits names ∧ Orderly (z.extend names) turns))

omit [DecidableEq ι] in
theorem mem_extend {names : List ι} {i : ι} (h : i ∈ names) (z : Turn ι) : i ∈ z.extend names := by
  cases z with
  | wait time => exact h
  | act who a =>
    cases a with
    | call a => exact h
    | fork child => exact List.mem_append_left _ h

theorem mem_acts_cons {who j : ι} {a b : Act ι} {turns : List (Turn ι)} :
    b ∈ acts j (.act who a :: turns) ↔ who = j ∧ b = a ∨ b ∈ acts j turns := by
  rw [acts]
  split
  · rename_i hwho
    simp [hwho]
  · rename_i hwho
    simp [hwho]

theorem getElem?_acts_cons {who j : ι} {a b : Act ι} {turns : List (Turn ι)} {k : Nat}
    (h : (acts j (.act who a :: turns))[k]? = some b) :
    (who = j ∧ k = 0 ∧ b = a) ∨ ∃ k', (acts j turns)[k']? = some b ∧ k = if who = j then k' + 1 else k' := by
  rw [acts] at h
  split at h
  · rename_i hwho
    cases k with
    | zero => exact .inl ⟨hwho, rfl, (Option.some.inj h).symm⟩
    | succ k => exact .inr ⟨k, h, (if_pos hwho).symm⟩
  · rename_i hwho
    exact .inr ⟨k, h, (if_neg hwho).symm⟩

end Turn

/-- No line of work is forked twice, and the first one never. -/
structure ForksOnce {ι : Type} (origin : ι) (acts : ι → List (Act ι)) : Prop where
  origin : ∀ (j : ι) (k : Nat), (acts j)[k]? ≠ some (.fork origin)
  unique : ∀ (i j : ι) (k : Nat) (j' : ι) (k' : Nat),
    (acts j)[k]? = some (.fork i) → (acts j')[k']? = some (.fork i) → j = j' ∧ k = k'

namespace Turn

variable {ι : Type} [DecidableEq ι]

/-- What there is is not forked in orderly turns, and what is forked is forked once. -/
theorem Orderly.forks {names : List ι} {turns : List (Turn ι)} (h : Orderly names turns) :
    (∀ i ∈ names, ∀ (j : ι) (k : Nat), (acts j turns)[k]? ≠ some (.fork i)) ∧
      ∀ (i j : ι) (k : Nat) (j' : ι) (k' : Nat),
        (acts j turns)[k]? = some (.fork i) → (acts j' turns)[k']? = some (.fork i) → j = j' ∧ k = k' := by
  induction turns generalizing names with
  | nil => exact ⟨nofun, nofun⟩
  | cons z turns ih =>
    obtain ⟨hfits, hturns⟩ := h
    obtain ⟨hnot, hunique⟩ := ih hturns
    cases z with
    | wait time => exact ⟨hnot, hunique⟩
    | act who a =>
      -- what is forked now is not forked again
      have hnow (i : ι) (ha : Act.fork i = a) (j : ι) (k : Nat) : (acts j turns)[k]? ≠ some (.fork i) := by
        subst ha
        exact hnot i (List.mem_append_right _ (List.mem_singleton_self i)) j k
      constructor
      · intro i hi j k hfork
        obtain ⟨-, -, rfl⟩ | ⟨k', hfork, -⟩ := getElem?_acts_cons hfork
        · exact hfits.2 hi
        · exact hnot i (mem_extend hi _) j k' hfork
      · intro i j k j' k' hfork hfork'
        obtain ⟨rfl, rfl, ha⟩ | ⟨l, hlater, rfl⟩ := getElem?_acts_cons hfork
        · obtain ⟨rfl, rfl, -⟩ | ⟨l', hlater', -⟩ := getElem?_acts_cons hfork'
          · exact ⟨rfl, rfl⟩
          · exact absurd hlater' (hnow i ha j' l')
        · obtain ⟨-, -, ha⟩ | ⟨l', hlater', rfl⟩ := getElem?_acts_cons hfork'
          · exact absurd hlater (hnow i ha j l)
          · obtain ⟨rfl, rfl⟩ := hunique i j l j' l' hlater hlater'
            exact ⟨rfl, rfl⟩

theorem Orderly.forksOnce {origin : ι} {turns : List (Turn ι)} (h : Orderly [origin] turns) :
    ForksOnce origin fun i => acts i turns :=
  ⟨h.forks.1 origin (List.mem_singleton_self origin), h.forks.2⟩

end Turn

/-! ## Where lines of work stand -/

/-- What a line of work has come to: its place, the answers to its calls and its deeds, in order. -/
structure Line where
  place : Place
  answers : List (Except TraceError Unit)
  deeds : List Deed

namespace Line

/-- A line of work at its beginning. -/
def begin (base : List OperationId) : Line := ⟨⟨base, []⟩, [], []⟩

/-- The line after one more act. -/
def take {ι : Type} (l : Line) : Act ι → Line
  | .call a =>
    match l.place.answer a with
    | .ok (d, p) => ⟨p, l.answers ++ [.ok ()], l.deeds ++ [d]⟩
    | .error e => { l with answers := l.answers ++ [.error e] }
  | .fork _ => l

end Line

/-- What lines of work have come to after some of their acts. -/
inductive Stands {ι : Type} (origin : ι) (acts : ι → List (Act ι)) : ι → Nat → Line → Prop
  | begin : Stands origin acts origin 0 (.begin [])
  | take {i : ι} {k : Nat} {l : Line} {a : Act ι} (h : Stands origin acts i k l) (ha : (acts i)[k]? = some a) :
      Stands origin acts i (k + 1) (l.take a)
  | fork {j : ι} {k : Nat} {l : Line} {i : ι} (h : Stands origin acts j k l) (ha : (acts j)[k]? = some (.fork i)) :
      Stands origin acts i 0 (.begin l.place.path)

/-- A line of work can come to one thing only. -/
theorem Stands.unique {ι : Type} {origin : ι} {acts : ι → List (Act ι)} (hforks : ForksOnce origin acts) {i : ι}
    {k : Nat} {l l' : Line} (h : Stands origin acts i k l) (h' : Stands origin acts i k l') : l = l' := by
  induction h generalizing l' with
  | begin =>
    cases h' with
    | begin => rfl
    | fork _ ha => exact absurd ha (hforks.origin _ _)
  | take _ ha ih =>
    cases h' with
    | take h' ha' =>
      cases ha.symm.trans ha'
      rw [ih h']
  | fork _ ha ih =>
    cases h' with
    | begin => exact absurd ha (hforks.origin _ _)
    | fork h' ha' =>
      obtain ⟨rfl, rfl⟩ := hforks.unique _ _ _ _ _ ha ha'
      rw [ih h']

end RunLedger
