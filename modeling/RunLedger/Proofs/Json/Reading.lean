import RunLedger.Json.Reader
import RunLedger.Proofs.Json.Literal

/-!
# Values of JSON are read back

The machine that reads a text goes over what is written of a value as over one token: wherever a value is due
(`State.Due`), it comes to the state with the value complete (`WellFormed.readsBack`). The proof is by induction on the
value, and within an array or object along what is in it.

* `parse?_print`: a value is read back from its text, if its numbers are such as JSON knows.
* `WellFormed.plain`: no character of the text is a control character, so it is one line.
-/

namespace RunLedger.Json

/-- A value with numbers as JSON has them. -/
inductive WellFormed : Json → Prop
  | null : WellFormed .null
  | bool (b : Bool) : WellFormed (.bool b)
  | number {n : Number} (h : n.WellFormed) : WellFormed (.number n)
  | string (s : Option String) : WellFormed (.string s)
  | array {items : List Json} (h : ∀ j ∈ items, WellFormed j) : WellFormed (.array items)
  | object {members : List (Option String × Json)} (h : ∀ m ∈ members, WellFormed m.2) : WellFormed (.object members)

/-! ## From token to token -/

/-- Tokens that were read before stay in front. -/
theorem tokensOnto_eq (read : List Token) (cs : List Char) :
    tokensOnto read cs = (tokensOnto [] cs).map (read.reverse ++ ·) := by
  induction hn : cs.length using Nat.strongRecOn generalizing read cs with
  | ind n ih =>
    cases cs with
    | nil => simp [tokensOnto]
    | cons c rest =>
      rw [tokensOnto, tokensOnto]
      split
      · exact ih rest.length (by rw [← hn]; exact Nat.lt_succ_self _) read rest rfl
      · split
        · rfl
        · rename_i t rest' ht
          have hlt : rest'.length < n := by
            have hle := readToken_length ht
            rw [← hn, List.length_cons]
            omega
          rw [ih _ hlt (t :: read) rest' rfl, ih _ hlt [t] rest' rfl, Option.map_map]
          congr 1
          funext ts
          simp

namespace State

/-- The state after a text. -/
def reads (s : State) (cs : List Char) : Option State := (tokensOnto [] cs).bind s.run

variable {s s' : State} {frames : List Frame} {rest : List Char}

theorem run_cons {t : Token} (h : s.step t = some s') (ts : List Token) : s.run (t :: ts) = s'.run ts := by
  simp only [run, List.foldlM_cons, h]
  rfl

/-- One token more is one step more. -/
theorem reads_token {c : Char} {more : List Char} {t : Token} (hc : isSpace c = false)
    (ht : readToken c more = some (t, rest)) (hs : s.step t = some s') : s.reads (c :: more) = s'.reads rest := by
  have htokens : tokensOnto [] (c :: more) = tokensOnto [t] rest := by
    rw [tokensOnto, hc]
    simp only [Bool.false_eq_true, if_false]
    split
    · rename_i hnone
      rw [ht] at hnone
      cases hnone
    · rename_i hsome
      rw [ht] at hsome
      cases hsome
      rfl
  rw [reads, reads, htokens, tokensOnto_eq]
  cases tokensOnto [] rest with
  | none => rfl
  | some ts => exact run_cons hs ts

theorem reads_mark {c : Char} {t : Token} (hc : punctuation? c = some t) (hs : s.step t = some s') :
    s.reads (c :: rest) = s'.reads rest := by
  refine reads_token ?_ ?_ hs
  · unfold punctuation? at hc
    split at hc
    all_goals first | rfl | cases hc
  · simp only [readToken, hc]

theorem reads_literal {k : Option String} (hs : s.step (.string k) = some s') :
    s.reads (literal k ++ rest) = s'.reads rest := by
  obtain ⟨more, htext, ht⟩ := readToken_string k rest
  rw [htext]
  exact reads_token rfl ht hs

/-- A value is due: it may come next, whatever else may. -/
def Due (s : State) (frames : List Frame) : Prop := ∀ t, t ≠ .rightBracket → s.step t = atValue frames t

theorem due_value (frames : List Frame) : (State.value frames).Due frames := by
  intro t _
  rfl

theorem due_first (items : List Json) (frames : List Frame) :
    (State.first (.array items :: frames)).Due (.array items :: frames) := by
  intro t ht
  cases t
  case rightBracket => exact absurd rfl ht
  all_goals rfl

theorem Due.scalar {t : Token} {v : Json} (h : s.Due frames) (ht : t.scalar? = some v) :
    s.step t = some (.complete v frames) := by
  have hne : t ≠ .rightBracket := by
    rintro rfl
    cases ht
  rw [h t hne, atValue, ht, Option.map_some]
  · rintro rfl
    cases ht
  · rintro rfl
    cases ht

theorem Due.leftBracket (h : s.Due frames) : s.step .leftBracket = some (.first (.array [] :: frames)) :=
  h .leftBracket (by decide)

theorem Due.leftBrace (h : s.Due frames) : s.step .leftBrace = some (.first (.object [] :: frames)) :=
  h .leftBrace (by decide)

end State

/-! ## From value to value -/

/-- A value is read back wherever one is due. -/
def ReadsBack (j : Json) : Prop :=
  ∀ (s : State) (frames : List Frame) (rest : List Char), s.Due frames → Ends rest →
    s.reads (j.render ++ rest) = (State.complete j frames).reads rest

section Containers

open State

variable {frames : List Frame} {rest : List Char}

theorem ends_cons {c : Char} (h : c = ',' ∨ c = ']' ∨ c = '}') (rest : List Char) : Ends (c :: rest) := by
  intro c' hc'
  cases hc'
  rcases h with rfl | rfl | rfl <;> decide

/-- Behind an item comes a comma or the end. -/
theorem ends_separated {c : Char} (h : c = ']' ∨ c = '}') (texts : List (List Char)) (rest : List Char) :
    Ends (separated texts ++ c :: rest) := by
  cases texts with
  | nil => exact ends_cons (Or.inr h) rest
  | cons text texts => exact ends_cons (Or.inl rfl) _

theorem reads_items {items : List Json} (h : ∀ j ∈ items, j.ReadsBack) (held : List Json) :
    (State.next (.array held :: frames)).reads (separated (renderItems items) ++ ']' :: rest) =
      (State.complete (.array (held.reverse ++ items)) frames).reads rest := by
  induction items generalizing held with
  | nil =>
    rw [List.append_nil]
    exact reads_mark rfl rfl
  | cons item items ih =>
    have hitems := ih (fun j hj => h j (List.mem_cons_of_mem _ hj)) (item :: held)
    have hcomma (more : List Char) :
        (State.next (.array held :: frames)).reads (',' :: more) = (State.value (.array held :: frames)).reads more :=
      reads_mark rfl rfl
    have hends := ends_separated (c := ']') (Or.inl rfl) (renderItems items) rest
    simp only [renderItems, separated, List.cons_append, List.append_assoc]
    rw [hcomma, h item List.mem_cons_self _ _ _ (due_value _) hends, complete, hitems, List.reverse_cons,
      List.append_assoc]
    rfl

/-- A member is read back where its key may come. -/
theorem reads_member {s : State} {held : List (Option String × Json)} {k : Option String} {v : Json} (hv : v.ReadsBack)
    (hs : s.step (.string k) = some (.colon (.member held k :: frames))) (hr : Ends rest) :
    s.reads (literal k ++ ':' :: (v.render ++ rest)) =
      (State.next (.object ((k, v) :: held) :: frames)).reads rest := by
  have hcolon (more : List Char) : (State.colon (.member held k :: frames)).reads (':' :: more) =
      (State.value (.member held k :: frames)).reads more := reads_mark rfl rfl
  rw [reads_literal hs, hcolon, hv _ _ _ (due_value _) hr]
  rfl

theorem reads_members {members : List (Option String × Json)} (h : ∀ m ∈ members, m.2.ReadsBack)
    (held : List (Option String × Json)) :
    (State.next (.object held :: frames)).reads (separated (renderMembers members) ++ '}' :: rest) =
      (State.complete (.object (held.reverse ++ members)) frames).reads rest := by
  induction members generalizing held with
  | nil =>
    rw [List.append_nil]
    exact reads_mark rfl rfl
  | cons member members ih =>
    have hmembers := ih (fun m hm => h m (List.mem_cons_of_mem _ hm)) (member :: held)
    have hcomma (more : List Char) :
        (State.next (.object held :: frames)).reads (',' :: more) = (State.key held frames).reads more :=
      reads_mark rfl rfl
    have hends := ends_separated (c := '}') (Or.inr rfl) (renderMembers members) rest
    simp only [renderMembers, separated, List.cons_append, List.append_assoc]
    rw [hcomma, reads_member (h member List.mem_cons_self) rfl hends, hmembers, List.reverse_cons, List.append_assoc]
    rfl

end Containers

/-- **Every value is read back wherever one is due.** -/
theorem WellFormed.readsBack {j : Json} (h : j.WellFormed) : j.ReadsBack := by
  induction h with
  | null =>
    intro s frames rest hs _
    exact State.reads_token rfl rfl (hs.scalar rfl)
  | bool b =>
    intro s frames rest hs _
    cases b with
    | false => exact State.reads_token rfl rfl (hs.scalar rfl)
    | true => exact State.reads_token rfl rfl (hs.scalar rfl)
  | @number n hn =>
    intro s frames rest hs hr
    obtain ⟨c, more, htext, hspace, ht⟩ := readToken_number hn hr
    show s.reads (n.text ++ rest) = _
    rw [htext]
    exact State.reads_token hspace ht (hs.scalar rfl)
  | string k =>
    intro s frames rest hs _
    exact State.reads_literal (hs.scalar rfl)
  | @array items _ ih =>
    intro s frames rest hs _
    have hopen (more : List Char) : s.reads ('[' :: more) = (State.first (.array [] :: frames)).reads more :=
      State.reads_mark rfl hs.leftBracket
    simp only [render, List.cons_append, List.append_assoc, List.nil_append]
    rw [hopen]
    cases items with
    | nil => exact State.reads_mark rfl rfl
    | cons item items =>
      have hends := ends_separated (c := ']') (Or.inl rfl) (renderItems items) rest
      simp only [renderItems, commas, List.append_assoc]
      rw [ih item List.mem_cons_self _ _ _ (State.due_first _ _) hends]
      exact reads_items (fun j hj => ih j (List.mem_cons_of_mem _ hj)) [item]
  | @object members _ ih =>
    intro s frames rest hs _
    have hopen (more : List Char) : s.reads ('{' :: more) = (State.first (.object [] :: frames)).reads more :=
      State.reads_mark rfl hs.leftBrace
    simp only [render, List.cons_append, List.append_assoc, List.nil_append]
    rw [hopen]
    cases members with
    | nil => exact State.reads_mark rfl rfl
    | cons member members =>
      have hends := ends_separated (c := '}') (Or.inr rfl) (renderMembers members) rest
      simp only [renderMembers, commas, List.cons_append, List.append_assoc]
      rw [reads_member (ih member List.mem_cons_self) rfl hends]
      exact reads_members (fun m hm => ih m (List.mem_cons_of_mem _ hm)) [member]

/-- **A value is read back from its text.** -/
theorem parse?_print {j : Json} (h : j.WellFormed) : parse? j.print = some j := by
  have hreads : (State.value []).reads j.render = some (.done j) := by
    have hread := h.readsBack _ _ _ (State.due_value []) ends_nil
    rw [List.append_nil] at hread
    rw [hread]
    simp [State.reads, tokensOnto, State.complete, State.run]
  have hrun : (tokens? j.print).bind (State.value []).run = some (.done j) := by
    rw [tokens?, print, String.toList_ofList]
    exact hreads
  obtain ⟨ts, hts, hdone⟩ := Option.bind_eq_some_iff.mp hrun
  simp only [parse?, hts, hdone, Option.bind_eq_bind, Option.bind_some]

/-! ## One line -/

theorem renderItems_eq (items : List Json) : renderItems items = items.map render := by
  induction items with
  | nil => rfl
  | cons item items ih => rw [renderItems, ih, List.map_cons]

theorem renderMembers_eq (members : List (Option String × Json)) :
    renderMembers members = members.map fun m => literal m.1 ++ ':' :: m.2.render := by
  induction members with
  | nil => rfl
  | cons member members ih => rw [renderMembers, ih, List.map_cons]

theorem mem_separated {texts : List (List Char)} {c : Char} (h : c ∈ separated texts) :
    c = ',' ∨ ∃ text ∈ texts, c ∈ text := by
  induction texts with
  | nil => cases h
  | cons text texts ih =>
    rw [separated, List.cons_append] at h
    rcases List.mem_cons.mp h with h | h
    · exact Or.inl h
    rcases List.mem_append.mp h with h | h
    · exact Or.inr ⟨text, List.mem_cons_self, h⟩
    · obtain hc | ⟨t, ht, hc⟩ := ih h
      · exact Or.inl hc
      · exact Or.inr ⟨t, List.mem_cons_of_mem _ ht, hc⟩

theorem mem_commas {texts : List (List Char)} {c : Char} (h : c ∈ commas texts) :
    c = ',' ∨ ∃ text ∈ texts, c ∈ text := by
  cases texts with
  | nil => cases h
  | cons text texts =>
    have hseparated : c ∈ separated (text :: texts) := List.mem_cons_of_mem _ h
    exact mem_separated hseparated

/-- What stands between brackets is plain, if every part is. -/
theorem plain_between {first last c : Char} {texts : List (List Char)} (hfirst : Plain first) (hlast : Plain last)
    (h : ∀ text ∈ texts, ∀ c ∈ text, Plain c) (hc : c ∈ first :: commas texts ++ [last]) : Plain c := by
  rcases List.mem_append.mp hc with hc | hc
  · rcases List.mem_cons.mp hc with rfl | hc
    · exact hfirst
    · obtain rfl | ⟨text, ht, hc⟩ := mem_commas hc
      · decide
      · exact h text ht c hc
  · rw [List.mem_singleton.mp hc]
    exact hlast

/-- **No character of a value's text is a control character.** -/
theorem WellFormed.plain {j : Json} (h : j.WellFormed) : ∀ c ∈ j.render, Plain c := by
  induction h with
  | null => simp [render, Plain]
  | bool b => cases b <;> simp [render, Plain]
  | number h => exact h.plain
  | string k =>
    intro c hc
    exact plain_of_mem_literal hc
  | @array items _ ih =>
    intro c hc
    rw [render, renderItems_eq] at hc
    refine plain_between (by decide) (by decide) (fun text ht => ?_) hc
    obtain ⟨item, hitem, rfl⟩ := List.mem_map.mp ht
    exact ih item hitem
  | @object members _ ih =>
    intro c hc
    rw [render, renderMembers_eq] at hc
    refine plain_between (by decide) (by decide) (fun text ht => ?_) hc
    obtain ⟨member, hmember, rfl⟩ := List.mem_map.mp ht
    intro c hc
    rcases List.mem_append.mp hc with hc | hc
    · exact plain_of_mem_literal hc
    rcases List.mem_cons.mp hc with rfl | hc
    · decide
    · exact ih member hmember c hc

theorem newline_notMem_print {j : Json} (h : j.WellFormed) : '\n' ∉ j.print.toList := by
  intro hc
  rw [print, String.toList_ofList] at hc
  exact absurd (h.plain _ hc) (by decide)

end RunLedger.Json
