import Failover.Proofs.Decimal.WellFormed
import Failover.Proofs.Lists
import Failover.Uri.Parser
import Mathlib.Data.List.DropRight

/-!
# URIs — the texts that are authorities

An authority is read from left to right by a scan that counts colons and remembers brackets, percent
signs and at signs.  `Authority.Legal` says without the scan which texts it accepts: what characters
they consist of, how brackets stand in them, and how many colons and percent signs stand between a
`]` or an `@` and the next.

* `AuthorityScan.run_eq_ok_iff`: what the scan remembers is a function of what it has read.
* `Authority.legal_iff`: the scan accepts the legal texts and no others.
* `Authority.scan_append`: in a longer text an authority ends at the first `/`, `?` or `#`.
* `Authority.parse_eq_ok_iff`: a text is read as an authority exactly if it is a legal one.
* `Authority.readPort?_toDigits`: a port is read back from its digits.
-/

namespace Failover

namespace Authority

/-! ### Legal texts -/

/-- A row of characters that neither a `]` nor an `@` interrupts. -/
structure Unbroken (row : List Char) : Prop where
  bracket : ']' ∉ row
  sign : '@' ∉ row

/-- A text that names host and port, maybe behind user information. -/
structure Legal (cs : List Char) : Prop where
  nonempty : cs ≠ []
  chars : ∀ c ∈ cs, isAuthorityChar c = true ∨ c = '%'
  /-- There is at most one pair of brackets. -/
  single : cs.count '[' ≤ 1
  paired : cs.count ']' = cs.count '['
  /-- A bracket opens before it closes. -/
  ordered : ∀ front back, cs = front ++ ']' :: back → '[' ∈ front
  /-- No row has more colons than an address in brackets and its port. -/
  colons : ∀ row, row <:+: cs → Unbroken row → row.count ':' ≤ 8
  /-- No `%` stands in the row before the opening bracket. -/
  opening : ∀ row, row ++ ['['] <:+: cs → Unbroken row → '%' ∉ row
  /-- The row at the end has at most the colon of a port, and no `%`. -/
  port : ∀ row, row <:+ cs → Unbroken row → row.count ':' ≤ 1 ∧ '%' ∉ row
  /-- Something follows the last `@`. -/
  host : cs.getLast? ≠ some '@'

variable {cs front back row : List Char} {c : Char}

/-- The longest row at the end of a text. -/
def lastRow (cs : List Char) : List Char := cs.rtakeWhile (fun c => c != ']' && c != '@')

theorem lastRow_suffix (cs : List Char) : lastRow cs <:+ cs := List.rtakeWhile_suffix _ _

/-- Somewhere in a text stands the row that ends there, with the character behind it. -/
theorem lastRow_concat_infix : lastRow front ++ [c] <:+: front ++ c :: back := by
  obtain ⟨before, hbefore⟩ := lastRow_suffix front
  exact ⟨before, back, by rw [← List.append_assoc, hbefore, List.append_assoc]; rfl⟩

theorem lastRow_unbroken : Unbroken (lastRow cs) where
  bracket h := absurd (List.mem_rtakeWhile_imp h) (by decide)
  sign h := absurd (List.mem_rtakeWhile_imp h) (by decide)

theorem lastRow_concat_of_break (h : c = ']' ∨ c = '@') : lastRow (cs ++ [c]) = [] :=
  List.rtakeWhile_concat_neg _ _ c (by rcases h with rfl | rfl <;> decide)

theorem lastRow_concat (hb : c ≠ ']') (hs : c ≠ '@') : lastRow (cs ++ [c]) = lastRow cs ++ [c] :=
  List.rtakeWhile_concat_pos _ _ c (by simp [hb, hs])

/-- A row stays unbroken up to a `]` or an `@`. -/
theorem Unbroken.concat_iff : Unbroken (row ++ [c]) ↔ Unbroken row ∧ c ≠ ']' ∧ c ≠ '@' := by
  constructor
  · rintro ⟨bracket, sign⟩
    simp only [List.mem_append, List.mem_singleton, not_or] at bracket sign
    exact ⟨⟨bracket.1, sign.1⟩, Ne.symm bracket.2, Ne.symm sign.2⟩
  · rintro ⟨⟨bracket, sign⟩, hb, hs⟩
    constructor <;> simp [bracket, sign, Ne.symm hb, Ne.symm hs]

/-- A row at the end of a text is part of the longest one. -/
theorem Unbroken.suffix_lastRow (unbroken : Unbroken row) (h : row <:+ cs) :
    row <:+ lastRow cs := by
  obtain ⟨before, rfl⟩ := h
  induction row using List.reverseRecOn with
  | nil => exact List.nil_suffix
  | append_singleton row c ih =>
      obtain ⟨unbroken, hb, hs⟩ := Unbroken.concat_iff.mp unbroken
      rw [← List.append_assoc, lastRow_concat hb hs]
      obtain ⟨rest, hrest⟩ := ih unbroken
      exact ⟨rest, by rw [← List.append_assoc, hrest]⟩

end Authority

/-! ### The scan -/

namespace AuthorityScan

open Authority

variable {cs front back : List Char} {c : Char} {s s' : AuthorityScan}

/-- What the scan remembers of the characters that it has read. -/
def of (cs : List Char) : AuthorityScan where
  colons := (lastRow cs).count ':'
  opened := decide ('[' ∈ cs)
  closed := decide (']' ∈ cs)
  percent := decide ('%' ∈ lastRow cs)
  afterAt := decide (cs.getLast? = some '@')

/-- A character that an authority may go on with. -/
structure Follows (front : List Char) (c : Char) : Prop where
  char : isAuthorityChar c = true ∨ c = '%'
  colon : c = ':' → (lastRow front).count ':' < 8
  opening : c = '[' → '%' ∉ lastRow front ∧ '[' ∉ front
  closing : c = ']' → '[' ∈ front ∧ ']' ∉ front

/-- A character that interrupts no row. -/
theorem of_concat (hb : c ≠ ']') (hs : c ≠ '@') :
    of (front ++ [c]) =
      { colons := (lastRow front).count ':' + [c].count ':'
        opened := decide ('[' ∈ front ∨ c = '[')
        closed := decide (']' ∈ front)
        percent := decide ('%' ∈ lastRow front ∨ c = '%')
        afterAt := false } := by
  unfold of
  rw [lastRow_concat hb hs]
  simp [hs, Ne.symm hb, eq_comm]

/-- One that does starts a new row. -/
theorem of_concat_of_break (h : c = ']' ∨ c = '@') :
    of (front ++ [c]) =
      { colons := 0
        opened := decide ('[' ∈ front)
        closed := decide (']' ∈ front ∨ c = ']')
        percent := false
        afterAt := decide (c = '@') } := by
  have opening : '[' ≠ c := by rcases h with rfl | rfl <;> decide
  unfold of
  rw [lastRow_concat_of_break h]
  simp [opening, eq_comm]

/-- A character that may follow is read, and the memory is that of the longer text. -/
theorem step_of (h : Follows front c) : (of front).step c = .ok (of (front ++ [c])) := by
  unfold step
  split
  · rename_i colon
    subst colon
    have room : ¬ maxColons ≤ (of front).colons := Nat.not_le.mpr (h.colon rfl)
    rw [if_neg room, of_concat (by decide) (by decide)]
    simp [of]
  split
  · rename_i opening
    subst opening
    obtain ⟨percent, fresh⟩ := h.opening rfl
    rw [of_concat (by decide) (by decide)]
    simp [of, percent, fresh]
  split
  · rename_i closing
    subst closing
    obtain ⟨opened, fresh⟩ := h.closing rfl
    rw [of_concat_of_break (.inl rfl)]
    simp [of, opened, fresh]
  split
  · rename_i sign
    subst sign
    rw [of_concat_of_break (.inr rfl)]
    simp [of]
  rename_i colon opening closing sign
  rw [of_concat closing sign]
  split
  · rename_i percent
    subst percent
    simp [of]
  · rename_i percent
    rw [if_pos (h.char.resolve_right percent)]
    simp [of, colon, opening, percent]

/-- Only a character that may follow is read. -/
theorem follows_of_step (h : (of front).step c = .ok s) : Follows front c := by
  unfold step at h
  split at h
  · rename_i colon
    subst colon
    split at h
    · cases h
    · rename_i room
      exact ⟨.inl (by decide), fun _ => Nat.not_le.mp room, nofun, nofun⟩
  split at h
  · rename_i opening
    subst opening
    split at h
    · cases h
    · rename_i fresh
      refine ⟨.inl (by decide), nofun, fun _ => ?_, nofun⟩
      simpa [of] using fresh
  split at h
  · rename_i closing
    subst closing
    split at h
    · cases h
    · rename_i fresh
      refine ⟨.inl (by decide), nofun, nofun, fun _ => ?_⟩
      simpa [of] using fresh
  rename_i colon opening closing
  refine ⟨?_, fun h => absurd h colon, fun h => absurd h opening, fun h => absurd h closing⟩
  split at h
  · rename_i sign
    exact .inl (sign ▸ by decide)
  split at h
  · rename_i percent
    exact .inr percent
  split at h
  · rename_i char
    exact .inl char
  · cases h

/-- Every character of a text may follow those before it. -/
def Runs (cs : List Char) : Prop := ∀ front c back, cs = front ++ c :: back → Follows front c

/-- A text runs through if it does up to its last character, which may follow. -/
theorem runs_concat_iff : Runs (cs ++ [c]) ↔ Runs cs ∧ Follows cs c := by
  constructor
  · intro h
    refine ⟨fun front d back split => ?_, h cs c [] rfl⟩
    exact h front d (back ++ [c]) (by rw [split, List.append_assoc, List.cons_append])
  · rintro ⟨runs, follows⟩ front d back split
    rcases split_concat split with ⟨rfl, rfl, -⟩ | ⟨between, -, rfl⟩
    · exact follows
    · exact runs _ _ _ rfl

theorem run_concat : s.run (cs ++ [c]) = (s.run cs).bind (fun s => s.step c) := by
  induction cs generalizing s with
  | nil =>
      change s.run [c] = s.step c
      rw [run]
      cases s.step c <;> rfl
  | cons d cs ih =>
      rw [List.cons_append, run, run]
      cases s.step d with
      | error e => rfl
      | ok s' => exact ih

/-- **The scan reads a text to its end exactly if every character may follow those before it**, and
what it remembers then is a function of the text. -/
theorem run_eq_ok_iff : start.run cs = .ok s ↔ Runs cs ∧ s = of cs := by
  induction cs using List.reverseRecOn generalizing s with
  | nil =>
      have runs : Runs [] := fun front c back split => absurd split (by simp)
      rw [run, Except.ok.injEq, eq_comm]
      exact ⟨fun h => ⟨runs, h⟩, fun h => h.2⟩
  | append_singleton cs c ih =>
      rw [run_concat, runs_concat_iff]
      constructor
      · intro h
        cases hrun : start.run cs with
        | error e => rw [hrun] at h; cases h
        | ok s' =>
            obtain ⟨runs, rfl⟩ := ih.mp hrun
            rw [hrun] at h
            have follows : Follows cs c := follows_of_step h
            exact ⟨⟨runs, follows⟩, Except.ok.inj (h.symm.trans (step_of follows))⟩
      · rintro ⟨⟨runs, follows⟩, rfl⟩
        rw [ih.mpr ⟨runs, rfl⟩]
        exact step_of follows

end AuthorityScan

namespace Authority

open AuthorityScan

variable {cs front back row : List Char} {c : Char}

/-! ### What the scan accepts -/

/-- A character that never follows itself stands once at most. -/
theorem count_le_one (h : ∀ front back, cs = front ++ c :: back → c ∉ front) :
    cs.count c ≤ 1 := by
  by_cases mem : c ∈ cs
  · obtain ⟨front, back, rfl⟩ := List.append_of_mem mem
    have before : front.count c = 0 := List.count_eq_zero.mpr (h _ _ rfl)
    have after : back.count c = 0 := by
      refine List.count_eq_zero.mpr fun hc => ?_
      obtain ⟨between, rest, rfl⟩ := List.append_of_mem hc
      exact h (front ++ c :: between) rest (by simp) (by simp)
    rw [List.count_append, List.count_cons_self, before, after]
  · rw [List.count_eq_zero.mpr mem]
    exact Nat.zero_le 1

/-- In front of one of two equal characters stands none if there is only one. -/
theorem notMem_of_count_le_one (h : (front ++ c :: back).count c ≤ 1) : c ∉ front := by
  rw [List.count_append, List.count_cons_self] at h
  exact List.count_eq_zero.mp (by omega)

/-- A legal address is read to its end. -/
theorem Legal.runs (legal : Legal cs) : Runs cs := by
  rintro front c back rfl
  refine ⟨legal.chars c (by simp), ?_, ?_, ?_⟩
  · rintro rfl
    have unbroken : Unbroken (lastRow front ++ [':']) :=
      Unbroken.concat_iff.mpr ⟨lastRow_unbroken, by decide, by decide⟩
    have := legal.colons _ lastRow_concat_infix unbroken
    rw [List.count_append, List.count_singleton_self] at this
    omega
  · rintro rfl
    exact ⟨legal.opening _ lastRow_concat_infix lastRow_unbroken,
      notMem_of_count_le_one legal.single⟩
  · rintro rfl
    exact ⟨legal.ordered _ _ rfl, notMem_of_count_le_one (legal.paired ▸ legal.single)⟩

/-- No unbroken row of a text that is read has more than eight colons. -/
theorem count_colon_le (runs : Runs cs) (inside : row <:+: cs) (unbroken : Unbroken row) :
    row.count ':' ≤ 8 := by
  obtain ⟨before, after, rfl⟩ := inside
  induction row using List.reverseRecOn generalizing after with
  | nil => exact Nat.zero_le 8
  | append_singleton row c ih =>
      obtain ⟨unbroken, -, -⟩ := Unbroken.concat_iff.mp unbroken
      have split : before ++ (row ++ [c]) ++ after = (before ++ row) ++ c :: after := by simp
      have few : row.count ':' ≤ 8 := ih unbroken (c :: after) (by simpa using runs)
      rw [List.count_append]
      by_cases colon : c = ':'
      · have room := (runs _ _ _ split).colon colon
        have part : row <:+ lastRow (before ++ row) :=
          unbroken.suffix_lastRow (List.suffix_append before row)
        have := part.sublist.count_le ':'
        rw [colon, List.count_singleton_self]
        omega
      · rw [List.count_singleton, if_neg (by simpa using colon)]
        exact few

/-- Where an address may end, said of its text. -/
theorem complete_of_iff :
    (AuthorityScan.of cs).complete = true ↔
      ('[' ∈ cs ↔ ']' ∈ cs) ∧ (lastRow cs).count ':' ≤ 1 ∧ cs.getLast? ≠ some '@' ∧
        '%' ∉ lastRow cs := by
  unfold complete
  simp only [Bool.and_eq_true, beq_iff_eq, Bool.not_eq_true', decide_eq_true_eq, and_assoc]
  simp only [AuthorityScan.of, decide_eq_decide, decide_eq_false_iff_not, Ne]

/-- **The scan accepts the legal texts and no others.** -/
theorem legal_iff : Legal cs ↔ cs ≠ [] ∧ Runs cs ∧ (AuthorityScan.of cs).complete = true := by
  rw [complete_of_iff]
  constructor
  · intro legal
    have last := legal.port _ (lastRow_suffix cs) lastRow_unbroken
    refine ⟨legal.nonempty, legal.runs, ?_, last.1, legal.host, last.2⟩
    rw [← List.count_pos_iff, ← List.count_pos_iff, legal.paired]
  · rintro ⟨nonempty, runs, brackets, colons, host, percent⟩
    have opens : cs.count '[' ≤ 1 :=
      count_le_one fun _ _ split => ((runs _ _ _ split).opening rfl).2
    have closes : cs.count ']' ≤ 1 :=
      count_le_one fun _ _ split => ((runs _ _ _ split).closing rfl).2
    rw [← List.count_pos_iff, ← List.count_pos_iff] at brackets
    refine
      { nonempty := nonempty
        chars := fun c hc => ?_
        single := opens
        paired := by omega
        ordered := fun front back split => ((runs _ _ _ split).closing rfl).1
        colons := fun row inside unbroken => count_colon_le runs inside unbroken
        opening := fun row inside unbroken => ?_
        port := fun row suffix unbroken => ?_
        host := host }
    · obtain ⟨front, back, split⟩ := List.append_of_mem hc
      exact (runs _ _ _ split).char
    · obtain ⟨before, after, split⟩ := inside
      have split : cs = (before ++ row) ++ '[' :: after := by rw [← split]; simp
      have part := unbroken.suffix_lastRow (List.suffix_append before row)
      exact fun h => ((runs _ _ _ split).opening rfl).1 (part.mem h)
    · have part := unbroken.suffix_lastRow suffix
      exact ⟨(part.sublist.count_le ':').trans colons, fun h => percent (part.mem h)⟩

/-- An authority goes on with a character that has no meaning of its own there. -/
theorem Legal.concat (legal : Legal cs) (char : isAuthorityChar c = true)
    (plain : c ∉ [':', '[', ']', '@']) : Legal (cs ++ [c]) := by
  simp only [List.mem_cons, List.not_mem_nil, or_false, not_or] at plain
  obtain ⟨colon, opening, closing, sign⟩ := plain
  have percent : c ≠ '%' := by
    rintro rfl
    exact absurd char (by decide)
  obtain ⟨-, runs, complete⟩ := legal_iff.mp legal
  obtain ⟨brackets, few, -, clean⟩ := complete_of_iff.mp complete
  have follows : Follows cs c :=
    ⟨.inl char, fun h => absurd h colon, fun h => absurd h opening, fun h => absurd h closing⟩
  refine legal_iff.mpr ⟨by simp, runs_concat_iff.mpr ⟨runs, follows⟩, complete_of_iff.mpr ?_⟩
  rw [lastRow_concat closing sign]
  refine ⟨?_, ?_, ?_, ?_⟩
  · simpa [Ne.symm opening, Ne.symm closing] using brackets
  · simpa [List.count_append, List.count_singleton, colon] using few
  · simpa using sign
  · simpa [Ne.symm percent] using clean

/-! ### Reading an authority -/

/-- No character of a legal address ends it. -/
theorem Legal.not_endsAuthority (legal : Legal cs) : ∀ c ∈ cs, (!endsAuthority c) = true := by
  intro c hc
  rw [Bool.not_eq_true', Bool.eq_false_iff]
  intro ends
  simp only [endsAuthority, Bool.or_eq_true, beq_iff_eq] at ends
  rcases legal.chars c hc with char | rfl
  · rcases ends with (rfl | rfl) | rfl <;> exact absurd char (by decide)
  · exact absurd ends (by decide)

/-- In a longer text an authority ends at the first `/`, `?` or `#`. -/
theorem scan_append {rest : List Char} (legal : Legal cs)
    (ends : ∀ c ∈ rest.head?, endsAuthority c = true) : scan (cs ++ rest) = .ok (cs, rest) := by
  obtain ⟨nonempty, runs, complete⟩ := legal_iff.mp legal
  obtain ⟨taken, dropped⟩ := span_append (p := fun c => !endsAuthority c) legal.not_endsAuthority
    fun c hc => by rw [ends c hc]; rfl
  have some : (cs ++ rest).isEmpty = false := by simp [nonempty]
  rw [scan, some, if_neg Bool.false_ne_true]
  dsimp only
  rw [taken, dropped, run_eq_ok_iff.mpr ⟨runs, rfl⟩]
  dsimp only
  rw [if_pos complete]

/-- A text is split in two.  What is in front is an authority, unless it is empty. -/
theorem scan_split {chars rest : List Char} (h : scan chars = .ok (cs, rest)) :
    chars ≠ [] ∧ chars = cs ++ rest ∧ (cs ≠ [] → Legal cs) ∧
      ∀ c ∈ rest.head?, endsAuthority c = true := by
  unfold scan at h
  split at h
  · cases h
  rename_i nonempty
  dsimp only at h
  split at h
  · cases h
  rename_i hrun
  split at h
  · rename_i complete
    cases h
    obtain ⟨runs, rfl⟩ := run_eq_ok_iff.mp hrun
    refine ⟨by simpa using nonempty, List.takeWhile_append_dropWhile.symm,
      fun hcs => legal_iff.mpr ⟨hcs, runs, complete⟩, fun c hc => ?_⟩
    have stop := List.head?_dropWhile_not (fun c => !endsAuthority c) chars
    rw [hc] at stop
    simpa using stop
  · cases h

/-- **A text is read as an authority exactly if it is a legal one.** -/
theorem parse_eq_ok_iff {text : String} {a : Authority} :
    parse text = .ok a ↔ Legal text.toList ∧ a = ⟨text⟩ := by
  unfold parse
  constructor
  · intro h
    split at h
    · cases h
    · rename_i name hscan
      cases h
      obtain ⟨nonempty, split, legal, -⟩ := scan_split hscan
      rw [List.append_nil] at split
      subst split
      exact ⟨legal nonempty, rfl⟩
    · cases h
  · rintro ⟨legal, rfl⟩
    have ends : ∀ c ∈ ([] : List Char).head?, endsAuthority c = true := nofun
    have whole := scan_append legal ends
    rw [List.append_nil] at whole
    rw [whole]

/-! ### The port -/

/-- The port is what follows the last colon. -/
theorem port?_of_toList {a : Authority} {last : List Char}
    (h : a.text.toList = front ++ ':' :: last) (hl : ':' ∉ last) : a.port? = readPort? last := by
  have stop : ∀ c ∈ (':' :: front.reverse).head?, (c != ':') = false := by
    rintro _ ⟨⟩
    rfl
  have row : ∀ c ∈ last.reverse, (c != ':') = true := fun c hc =>
    bne_iff_ne.mpr fun colon => hl (colon ▸ List.mem_reverse.mp hc)
  have reversed : a.text.toList.reverse = last.reverse ++ ':' :: front.reverse := by
    rw [h, List.reverse_append, List.reverse_cons, List.append_assoc, List.singleton_append]
  have shorter : last.reverse.length ≠ (last.reverse ++ ':' :: front.reverse).length := by simp
  unfold port?
  dsimp only
  rw [reversed, (span_append row stop).1, if_neg shorter, List.reverse_reverse]

/-- A row without a plus sign in front is all digits. -/
theorem readPort?_of_head {ds : List Char} (h : ds.head? ≠ some '+') :
    readPort? ds =
      if ds.isEmpty || !ds.all Char.isDigit then none
      else if Numeral.natOfDigits ds < UInt16.size then some (Numeral.natOfDigits ds).toUInt16
      else none := by
  unfold readPort?
  split
  · exact absurd rfl h
  · rfl

/-- A port is read back from its digits. -/
theorem readPort?_toDigits {port : UInt16} :
    readPort? (Nat.toDigits 10 port.toNat) = some port := by
  have digits : IsDigits (Nat.toDigits 10 port.toNat) := .toDigits
  have value : Numeral.natOfDigits (Nat.toDigits 10 port.toNat) = port.toNat :=
    Nat.ofDigitChars_ten_toDigits
  have head : (Nat.toDigits 10 port.toNat).head? ≠ some '+' := fun h =>
    absurd (digits.digit _ (List.mem_of_head? h)) (by decide)
  have all : (Nat.toDigits 10 port.toNat).all Char.isDigit = true :=
    List.all_eq_true.mpr digits.digit
  have nonempty : (Nat.toDigits 10 port.toNat).isEmpty = false := by simp [digits.nonempty]
  rw [readPort?_of_head head, value, all, nonempty, if_neg (by decide), if_pos port.toNat_lt]
  simp

end Authority

end Failover
