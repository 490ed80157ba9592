import Failover.Json.Parser
import Failover.Proofs.Json.Literal

/-!
# JSON — reading what was written

The compact text of a value is read in two steps, and so the proof has two: the text is one of the
value's tokens, and from its tokens the machine makes the value.

* `Writable`: the values whose text has all of them: their numbers are well formed, their strings
  are Unicode text.
* `Writable.spells`: the text of a value spells its tokens.
* `Writable.taken`: the machine takes them for the value.
* `parse_text`: a value is read back from its text.
-/

namespace Failover.Json

/-- The text of the value leaves nothing out. -/
inductive Writable : Json → Prop where
  | null : Writable .null
  | bool (b : Bool) : Writable (.bool b)
  | number {n : Numeral} (wellFormed : n.WellFormed) : Writable (.number n)
  | string (s : String) : Writable (.string (some s))
  | array {vs : List Json} (items : ∀ v ∈ vs, Writable v) : Writable (.array vs)
  | object {ms : List (StringContent × Json)} (names : ∀ m ∈ ms, m.1.isSome = true)
      (values : ∀ m ∈ ms, Writable m.2) : Writable (.object ms)

/-! ### Tokens -/

/-- Joins tokens with a comma between them. -/
def commaTokens : List (List Token) → List Token
  | [] => []
  | [t] => t
  | t :: u :: ts => t ++ .comma :: commaTokens (u :: ts)

mutual

/-- The tokens of a value. -/
def tokens : Json → List Token
  | .null => [.null]
  | .bool b => [.bool b]
  | .number n => [.number n]
  | .string s => [.string s]
  | .array items => .openBracket :: commaTokens (tokensOfItems items) ++ [.closeBracket]
  | .object members => .openBrace :: commaTokens (tokensOfMembers members) ++ [.closeBrace]

/-- The tokens of an array's items. -/
def tokensOfItems : List Json → List (List Token)
  | [] => []
  | v :: vs => tokens v :: tokensOfItems vs

/-- The tokens of an object's members. -/
def tokensOfMembers : List (StringContent × Json) → List (List Token)
  | [] => []
  | (k, v) :: ms => (.string k :: .colon :: tokens v) :: tokensOfMembers ms

end

/-- The tokens of a member. -/
def memberTokens (m : StringContent × Json) : List Token := .string m.1 :: .colon :: m.2.tokens

variable {items vs : List Json} {members ms : List (StringContent × Json)} {j v : Json}
  {cs ds rest : List Char} {ts us : List Token} {t : Token} {c : Char}

theorem charsOfItems_eq : charsOfItems items = items.map chars := by
  induction items with
  | nil => rfl
  | cons v vs ih => rw [charsOfItems, ih, List.map_cons]

theorem charsOfMembers_eq : charsOfMembers members =
    members.map fun m => quote (m.1.getD "").toList ++ ':' :: m.2.chars := by
  induction members with
  | nil => rfl
  | cons m ms ih => rw [charsOfMembers, ih, List.map_cons]

theorem tokensOfItems_eq : tokensOfItems items = items.map tokens := by
  induction items with
  | nil => rfl
  | cons v vs ih => rw [tokensOfItems, ih, List.map_cons]

theorem tokensOfMembers_eq : tokensOfMembers members = members.map memberTokens := by
  induction members with
  | nil => rfl
  | cons m ms ih =>
      rw [tokensOfMembers, ih, List.map_cons]
      rfl

/-! ### From the text to the tokens -/

/-- In front of the given rest a text is read as the given tokens. -/
def Spells (cs : List Char) (ts : List Token) (rest : List Char) : Prop :=
  ∀ read fuel, (cs ++ rest).length ≤ fuel → ∃ left, rest.length ≤ left ∧
    lexFrom read fuel (cs ++ rest) = lexFrom (ts.reverse ++ read) left rest

theorem isBlank_of_number (h : c = '-' ∨ c.isDigit = true) : isBlank c = false := by
  rw [Bool.eq_false_iff]
  intro hb
  simp only [isBlank, Bool.or_eq_true, beq_iff_eq] at hb
  rcases hb with ((rfl | rfl) | rfl) | rfl <;> rcases h with h | h <;> cases h

namespace Spells

theorem token (h : nextToken (c :: cs ++ rest) = some (t, rest)) (hb : isBlank c = false) :
    Spells (c :: cs) [t] rest := by
  intro read fuel hf
  cases fuel with
  | zero => exact absurd hf (Nat.not_succ_le_zero _)
  | succ fuel =>
      refine ⟨fuel, ?_, ?_⟩
      · simp only [List.cons_append, List.length_cons, List.length_append] at hf
        omega
      · rw [List.cons_append] at h ⊢
        rw [lexFrom, if_neg (by simp [hb]), h]
        rfl

/-- Texts one after the other spell their tokens one after the other. -/
theorem append (h : Spells cs ts (ds ++ rest)) (h' : Spells ds us rest) :
    Spells (cs ++ ds) (ts ++ us) rest := by
  intro read fuel hf
  rw [List.append_assoc] at hf ⊢
  obtain ⟨left, hl, first⟩ := h read fuel hf
  obtain ⟨left', hl', second⟩ := h' (ts.reverse ++ read) left hl
  refine ⟨left', hl', ?_⟩
  rw [first, second, List.reverse_append, List.append_assoc]

/-- A mark in front. -/
theorem mark (ht : ∀ cs, nextToken (c :: cs) = some (t, cs)) (hb : isBlank c = false)
    (h : Spells cs ts rest) : Spells (c :: cs) (t :: ts) rest := by
  have first : Spells [c] [t] (cs ++ rest) := token (ht _) hb
  exact first.append h

/-- A mark at the end. -/
theorem close (ht : ∀ cs, nextToken (c :: cs) = some (t, cs)) (hb : isBlank c = false)
    (h : Spells cs ts (c :: rest)) : Spells (cs ++ [c]) (ts ++ [t]) rest := by
  have last : Spells [c] [t] rest := token (ht _) hb
  exact append h last

/-- A quoted string spells one token. -/
theorem quote {s : String} : Spells (quote s.toList) [.string (some s)] rest :=
  token nextToken_quote rfl

/-- So does a numeral that something else ends. -/
theorem number {n : Numeral} (h : n.WellFormed) (hr : Closes rest) :
    Spells n.chars [.number n] rest := by
  obtain ⟨-, c, cs, hc, start⟩ := scanNumber_chars h hr
  have next : nextToken (n.chars ++ rest) = some (.number n, rest) := nextToken_chars h hr
  rw [hc] at next ⊢
  exact token next (isBlank_of_number start)

/-- Values with commas between them, up to a mark behind them. -/
theorem separated {α : Type} {f : α → List Char} {g : α → List Token} {xs : List α}
    (ht : ∀ cs, nextToken (c :: cs) = some (t, cs)) (hb : isBlank c = false)
    (hc : Closes (c :: rest))
    (h : ∀ x ∈ xs, ∀ rest, Closes rest → Spells (f x) (g x) rest) :
    Spells (commaSeparated (xs.map f) ++ [c]) (commaTokens (xs.map g) ++ [t]) rest := by
  refine close ht hb ?_
  induction xs with
  | nil => exact fun read fuel hf => ⟨fuel, hf, rfl⟩
  | cons x xs ih =>
      have hx : ∀ rest, Closes rest → Spells (f x) (g x) rest := h x List.mem_cons_self
      have ih := ih fun y hy => h y (List.mem_cons_of_mem x hy)
      cases xs with
      | nil => exact hx _ hc
      | cons y xs => exact append (hx _ (.inl rfl)) (mark (fun _ => rfl) rfl ih)

end Spells

/-- The text of a value is one of its tokens. -/
theorem Writable.spells (h : j.Writable) : ∀ rest, Closes rest → Spells j.chars j.tokens rest := by
  induction h with
  | null => exact fun rest _ => Spells.token rfl rfl
  | bool b =>
      intro rest _
      cases b with
      | true => exact Spells.token rfl rfl
      | false => exact Spells.token rfl rfl
  | number wellFormed => exact fun rest hr => .number wellFormed hr
  | string s => exact fun rest _ => .quote
  | array items ih =>
      intro rest _
      rw [chars, tokens, charsOfItems_eq, tokensOfItems_eq]
      exact .mark (fun _ => rfl) rfl (.separated (fun _ => rfl) rfl (.inr (.inl rfl)) ih)
  | object names values ih =>
      intro rest _
      rw [chars, tokens, charsOfMembers_eq, tokensOfMembers_eq]
      refine .mark (fun _ => rfl) rfl (.separated (fun _ => rfl) rfl (.inr (.inr rfl)) ?_)
      intro m hm rest hr
      obtain ⟨name, hname⟩ := Option.isSome_iff_exists.mp (names m hm)
      rw [memberTokens, hname]
      exact Spells.append .quote (.mark (fun _ => rfl) rfl (ih m hm rest hr))

/-! ### From the tokens to the value -/

variable {stack : List Frame} {b : Bool} {done : List Json}
  {named : List (StringContent × Json)}

theorem run_cons {a a' : Awaiting} {stack' : List Frame} (h : step t a stack = some (a', stack')) :
    run (t :: ts) a stack = run ts a' stack' := by
  rw [run, h]

/-- The machine takes the tokens of a value for the value. -/
def Taken (v : Json) : Prop :=
  ∀ b us stack, run (v.tokens ++ us) (.value b) stack = run us (.next v) stack

/-- The items that are left are added to those of an open array. -/
theorem run_items (h : ∀ x ∈ v :: vs, Taken x) :
    run (commaTokens ((v :: vs).map tokens) ++ .closeBracket :: us) (.value b)
        (.items done :: stack) =
      run us (.next (.array (done.reverse ++ v :: vs))) stack := by
  induction vs generalizing v b done with
  | nil =>
      have close : step .closeBracket (.next v) (.items done :: stack) =
          some (.next (.array (v :: done).reverse), stack) := rfl
      rw [List.map_singleton, commaTokens, h v List.mem_cons_self, run_cons close,
        List.reverse_cons]
  | cons u vs ih =>
      have comma : step .comma (.next v) (.items done :: stack) =
          some (.value false, .items (v :: done) :: stack) := rfl
      rw [List.map_cons, List.map_cons, commaTokens, List.append_assoc, List.cons_append,
        h v List.mem_cons_self, run_cons comma, ← List.map_cons,
        ih fun x hx => h x (List.mem_cons_of_mem v hx), List.reverse_cons, List.append_assoc,
        List.singleton_append]

/-- The members that are left are added to those of an open object. -/
theorem run_members {m : StringContent × Json} (h : ∀ x ∈ m :: ms, Taken x.2) :
    run (commaTokens ((m :: ms).map memberTokens) ++ .closeBrace :: us) (.name b)
        (.members named :: stack) =
      run us (.next (.object (named.reverse ++ m :: ms))) stack := by
  -- A member is taken in three steps: its name, the colon and its value.
  have member {m : StringContent × Json} {b : Bool} {named : List (StringContent × Json)}
      {us : List Token} (hm : Taken m.2) :
      run (memberTokens m ++ us) (.name b) (.members named :: stack) =
        run us (.next m.2) (.member named m.1 :: stack) := by
    have name : step (.string m.1) (.name b) (.members named :: stack) =
        some (.colon, .member named m.1 :: stack) := rfl
    have colon : step .colon .colon (.member named m.1 :: stack) =
        some (.value false, .member named m.1 :: stack) := rfl
    rw [memberTokens, List.cons_append, List.cons_append, run_cons name, run_cons colon, hm]
  induction ms generalizing m b named with
  | nil =>
      have close : step .closeBrace (.next m.2) (.member named m.1 :: stack) =
          some (.next (.object (m :: named).reverse), stack) := rfl
      rw [List.map_singleton, commaTokens, member (h m List.mem_cons_self), run_cons close,
        List.reverse_cons]
  | cons m' ms ih =>
      have comma : step .comma (.next m.2) (.member named m.1 :: stack) =
          some (.name false, .members (m :: named) :: stack) := rfl
      rw [List.map_cons, List.map_cons, commaTokens, List.append_assoc, List.cons_append,
        member (h m List.mem_cons_self), run_cons comma, ← List.map_cons,
        ih fun x hx => h x (List.mem_cons_of_mem m hx), List.reverse_cons, List.append_assoc,
        List.singleton_append]

/-- From the tokens of a value the machine makes the value. -/
theorem Writable.taken (h : j.Writable) : j.Taken := by
  intro b us stack
  induction h generalizing b us stack with
  | null => rfl
  | bool b => rfl
  | number wellFormed => rfl
  | string s => rfl
  | @array vs items ih =>
      rw [tokens, tokensOfItems_eq]
      cases vs with
      | nil => rfl
      | cons v vs =>
          have all : run (commaTokens ((v :: vs).map tokens) ++ .closeBracket :: us) (.value true)
              (.items [] :: stack) = run us (.next (.array (v :: vs))) stack := run_items ih
          rw [← all, List.cons_append, List.cons_append, List.append_assoc]
          rfl
  | @object ms names values ih =>
      rw [tokens, tokensOfMembers_eq]
      cases ms with
      | nil => rfl
      | cons m ms =>
          have all : run (commaTokens ((m :: ms).map memberTokens) ++ .closeBrace :: us)
              (.name true) (.members [] :: stack) = run us (.next (.object (m :: ms))) stack :=
            run_members ih
          rw [← all, List.cons_append, List.cons_append, List.append_assoc]
          rfl

/-- **A value is read back from its text.** -/
theorem parse_text (h : j.Writable) : parse j.text = some j := by
  obtain ⟨left, -, lexed⟩ := h.spells [] trivial [] j.chars.length (by simp)
  rw [List.append_nil, List.append_nil] at lexed
  have all : lex j.chars = some j.tokens := by
    rw [lex, lexed, lexFrom, List.reverse_reverse]
  rw [parse, text, String.toList_ofList, all]
  have taken := h.taken false [] []
  rw [List.append_nil] at taken
  exact taken

end Failover.Json
