import Failover.Json.Lexer
import Failover.Json.Printer
import Failover.Proofs.Decimal.WellFormed
import Failover.Proofs.Lists

/-!
# JSON — literals as they are written

The printer writes a string and a number so that the lexer reads back what was written, whatever
text the string is, and whatever follows that cannot belong to the number.

* `scanString_flatMap_escape`: the characters of a string, however they are escaped.
* `nextToken_quote`: a whole string literal.
* `scanNumber_chars`, `nextToken_chars`: a numeral that is well formed.
-/

namespace Failover.Json

variable {c : Char} {cs rest s ds gathered : List Char} {read ps : List Piece}

/-! ### Strings -/

/-- A piece stands for a character: it is the character or its code unit. -/
def Piece.Names : Piece → Char → Prop
  | .char d, c => d = c
  | .unit n, c => n = c.toNat

/-- A character is no surrogate, so its code unit stands for it alone. -/
theorem assemble_of_names {p : Piece} (h : p.Names c) :
    assemble gathered (p :: ps) = assemble (c :: gathered) ps := by
  cases p with
  | char d =>
      obtain rfl : d = c := h
      rfl
  | unit n =>
      obtain rfl : n = c.toNat := h
      have hc : c.toNat < 0xd800 ∨ 0xdfff < c.toNat ∧ c.toNat < 0x110000 := c.valid
      have high : isHighSurrogate c.toNat = false := by
        simp only [isHighSurrogate, Bool.and_eq_false_iff, decide_eq_false_iff_not]
        omega
      have low : isLowSurrogate c.toNat = false := by
        simp only [isLowSurrogate, Bool.and_eq_false_iff, decide_eq_false_iff_not]
        omega
      rw [assemble.eq_def]
      simp only [high, low, Bool.false_eq_true, if_false, Char.ofNat_toNat]

theorem unitOfHex?_hexDigit {n : Nat} (h : n < 256) :
    unitOfHex? '0' '0' (Text.hexDigit (n / 16)) (Text.hexDigit (n % 16)) = some n := by
  have high : Text.hexValue? (Text.hexDigit (n / 16)) = some (n / 16) :=
    Text.hexValue?_hexDigit (by omega)
  have low : Text.hexValue? (Text.hexDigit (n % 16)) = some (n % 16) :=
    Text.hexValue?_hexDigit (by omega)
  have zero : Text.hexValue? '0' = some 0 := rfl
  simp only [unitOfHex?, high, low, zero]
  congr 1
  omega

/-- An escaped character is read as one piece, which stands for it. -/
theorem scanString_escape :
    ∃ p : Piece, p.Names c ∧ ∀ read cs, scanString read (escape c ++ cs) =
      scanString (p :: read) cs := by
  unfold escape
  split
  -- The escapes of one letter.
  iterate 7 exact ⟨.char _, rfl, fun _ _ => rfl⟩
  split
  · rename_i control
    refine ⟨.unit c.toNat, rfl, fun read cs => ?_⟩
    have unit := unitOfHex?_hexDigit (Nat.lt_trans control (by decide : 0x20 < 256))
    simp only [List.cons_append, List.nil_append, scanString, unit]
  · rename_i plain
    refine ⟨.char c, rfl, fun read cs => ?_⟩
    rw [List.singleton_append, scanString.eq_def]
    -- It is neither a quote nor a backslash.
    split
    iterate 4 simp_all
    · rename_i heq
      cases heq
      rw [if_neg plain]

/-- The characters of a literal are read up to its closing quote, and their pieces stand for them.
-/
theorem scanString_flatMap_escape :
    ∃ ps, scanString read (s.flatMap escape ++ '"' :: cs) = some (read.reverse ++ ps, cs) ∧
      ∀ gathered, assemble gathered ps = some (gathered.reverse ++ s) := by
  induction s generalizing read with
  | nil =>
      refine ⟨[], ?_, fun gathered => ?_⟩
      · rw [List.append_nil]
        rfl
      · rw [List.append_nil]
        rfl
  | cons c s ih =>
      obtain ⟨p, names, one⟩ : ∃ p : Piece, p.Names c ∧ ∀ read cs,
        scanString read (escape c ++ cs) = scanString (p :: read) cs := scanString_escape
      obtain ⟨ps, scanned, assembled⟩ : ∃ ps,
          scanString (p :: read) (s.flatMap escape ++ '"' :: cs) =
            some ((p :: read).reverse ++ ps, cs) ∧
          ∀ gathered, assemble gathered ps = some (gathered.reverse ++ s) := ih
      refine ⟨p :: ps, ?_, fun gathered => ?_⟩
      · rw [List.flatMap_cons, List.append_assoc, one, scanned, List.reverse_cons,
          List.append_assoc, List.singleton_append]
      · rw [assemble_of_names names, assembled, List.reverse_cons, List.append_assoc,
          List.singleton_append]

/-- A string that is written is read back. -/
theorem nextToken_quote {s : String} :
    nextToken (quote s.toList ++ cs) = some (.string (some s), cs) := by
  obtain ⟨ps, scanned, assembled⟩ : ∃ ps,
      scanString [] (s.toList.flatMap escape ++ '"' :: cs) = some ([].reverse ++ ps, cs) ∧
      ∀ gathered, assemble gathered ps = some (gathered.reverse ++ s.toList) :=
    scanString_flatMap_escape
  have content : contentOf ps = some s := by
    rw [contentOf, assembled]
    exact congrArg some String.ofList_toList
  have literal : quote s.toList ++ cs = '"' :: (s.toList.flatMap escape ++ '"' :: cs) := by
    simp [quote]
  rw [literal]
  change (scanString [] _).map _ = _
  rw [scanned]
  exact congrArg (fun t => some (Token.string t, cs)) content

/-! ### Numbers -/

/-- What may follow a value: the end of the text, or one of the marks behind the values of a
container. -/
def Closes : List Char → Prop
  | [] => True
  | c :: _ => c = ',' ∨ c = ']' ∨ c = '}'

/-- The digits of a number end here. -/
def NoDigit (cs : List Char) : Prop := ∀ c ∈ cs.head?, c.isDigit = false

theorem NoDigit.of_closes (h : Closes rest) : NoDigit rest := by
  cases rest with
  | nil => exact nofun
  | cons c cs =>
      rintro _ ⟨⟩
      rcases h with rfl | rfl | rfl <;> rfl

/-- A row of digits is read up to its end. -/
theorem scanDigits_append (h : IsDigits ds) (hr : NoDigit rest) :
    scanDigits (ds ++ rest) = some (ds, rest) := by
  obtain ⟨taken, dropped⟩ := span_append h.digit hr
  have nonempty : ds.isEmpty = false := List.isEmpty_eq_false_iff.mpr h.nonempty
  simp [scanDigits, taken, dropped, nonempty]

/-- So are the whole digits of a number without a leading zero. -/
theorem scanWhole_append (h : IsDigits ds) (leading : ds.head? = some '0' → ds = ['0'])
    (hr : NoDigit rest) : scanWhole (ds ++ rest) = some (ds, rest) := by
  rw [scanWhole, scanDigits_append h hr]
  split
  · rename_i heq
    cases heq
    cases leading rfl
  · rfl

/-- A fraction as it is written. -/
def fractionChars : Option (List Char) → List Char
  | none => []
  | some ds => '.' :: ds

/-- An exponent as it is written. -/
def exponentChars : Option Exponent → List Char
  | none => []
  | some e => 'e' :: e.sign.chars ++ e.digits

theorem chars_numeral (n : Numeral) :
    n.chars = (if n.negative then ['-'] else []) ++ n.whole ++ fractionChars n.fraction ++
      exponentChars n.exponent := by
  unfold Numeral.chars
  cases n.fraction <;> cases n.exponent <;> rfl

theorem scanExponentSign_append {sign : ExponentSign} (h : IsDigits ds) :
    scanExponentSign (sign.chars ++ (ds ++ rest)) = (sign, ds ++ rest) := by
  cases sign with
  | minus => rfl
  | plus => rfl
  | absent =>
      obtain ⟨c, ds, rfl⟩ := List.exists_cons_of_ne_nil h.nonempty
      have digit : c.isDigit = true := h.digit c List.mem_cons_self
      change scanExponentSign (c :: (ds ++ rest)) = _
      unfold scanExponentSign
      split
      · rename_i heq
        cases heq
        cases digit
      · rename_i heq
        cases heq
        cases digit
      · rfl

/-- So is an exponent, or the lack of one. -/
theorem scanExponent_append {exponent : Option Exponent}
    (h : ∀ e, exponent = some e → IsDigits e.digits) (hr : Closes rest) :
    scanExponent (exponentChars exponent ++ rest) = some (exponent, rest) := by
  cases exponent with
  | none =>
      cases rest with
      | nil => rfl
      | cons c cs =>
          change scanExponent (c :: cs) = _
          rw [scanExponent, if_neg]
          rcases hr with rfl | rfl | rfl <;> decide
  | some e =>
      have digits : IsDigits e.digits := h e rfl
      rw [exponentChars, List.cons_append, List.cons_append, scanExponent, if_pos (.inl rfl),
        List.append_assoc]
      dsimp only
      rw [scanExponentSign_append digits]
      dsimp only
      rw [scanDigits_append digits (.of_closes hr)]
      rfl

/-- So is a fraction, or the lack of one. -/
theorem scanFraction_append {fraction : Option (List Char)}
    (h : ∀ ds, fraction = some ds → IsDigits ds) (hr : NoDigit rest)
    (point : rest.head? ≠ some '.') :
    scanFraction (fractionChars fraction ++ rest) = some (fraction, rest) := by
  cases fraction with
  | none =>
      change scanFraction rest = _
      unfold scanFraction
      split
      · exact absurd rfl point
      · rfl
  | some ds =>
      change (scanDigits (ds ++ rest)).map _ = _
      rw [scanDigits_append (h ds rfl) hr]
      rfl

/-- A number without its sign is read back. -/
theorem scanUnsigned_append {n : Numeral} (h : n.WellFormed) (hr : Closes rest) :
    scanUnsigned n.negative (n.whole ++ (fractionChars n.fraction ++
      (exponentChars n.exponent ++ rest))) = some (n, rest) := by
  have exponent : scanExponent (exponentChars n.exponent ++ rest) = some (n.exponent, rest) :=
    scanExponent_append h.exponent hr
  have ends : NoDigit (exponentChars n.exponent ++ rest) ∧
      (exponentChars n.exponent ++ rest).head? ≠ some '.' := by
    cases n.exponent with
    | none =>
        refine ⟨.of_closes hr, ?_⟩
        cases rest with
        | nil => exact nofun
        | cons c cs => rcases hr with rfl | rfl | rfl <;> exact nofun
    | some e => exact ⟨fun | _, rfl => rfl, nofun⟩
  have fraction := scanFraction_append h.fraction ends.1 ends.2
  have stops : NoDigit (fractionChars n.fraction ++ (exponentChars n.exponent ++ rest)) := by
    cases n.fraction with
    | none => exact ends.1
    | some ds => exact fun | _, rfl => rfl
  rw [scanUnsigned, scanWhole_append h.whole h.leading stops]
  dsimp only
  rw [fraction]
  dsimp only
  rw [exponent]

/-- A numeral that is well formed is read back, and it starts with its sign or with a digit. -/
theorem scanNumber_chars {n : Numeral} (h : n.WellFormed) (hr : Closes rest) :
    scanNumber (n.chars ++ rest) = some (n, rest) ∧
      ∃ c cs, n.chars = c :: cs ∧ (c = '-' ∨ c.isDigit = true) := by
  have unsigned : scanUnsigned n.negative (n.whole ++ (fractionChars n.fraction ++
      (exponentChars n.exponent ++ rest))) = some (n, rest) := scanUnsigned_append h hr
  rw [chars_numeral]
  cases hn : n.negative with
  | true =>
      rw [hn] at unsigned
      refine ⟨?_, _, _, rfl, .inl rfl⟩
      simp only [if_true, List.append_assoc]
      exact unsigned
  | false =>
      rw [hn] at unsigned
      obtain ⟨c, ds, hw⟩ := List.exists_cons_of_ne_nil h.whole.nonempty
      have digit : c.isDigit = true := h.whole.digit c (hw ▸ List.mem_cons_self)
      rw [hw] at unsigned ⊢
      refine ⟨?_, _, _, rfl, .inr digit⟩
      simp only [Bool.false_eq_true, if_false, List.nil_append, List.append_assoc,
        List.cons_append] at unsigned ⊢
      unfold scanNumber
      split
      · rename_i heq
        cases heq
        cases digit
      · exact unsigned

/-- A text that starts like a number is read as one. -/
theorem nextToken_of_number (h : c = '-' ∨ c.isDigit = true) :
    nextToken (c :: cs) = (scanNumber (c :: cs)).map fun (n, cs) => (.number n, cs) := by
  unfold nextToken
  split
  · rename_i heq
    cases heq
  -- No mark, no quote and no word starts like a number.
  iterate 10
    · rename_i heq
      cases heq
      rcases h with h | h <;> cases h
  · rfl

/-- A number that is written is read back. -/
theorem nextToken_chars {n : Numeral} (h : n.WellFormed) (hr : Closes rest) :
    nextToken (n.chars ++ rest) = some (.number n, rest) := by
  obtain ⟨scanned, c, cs, hc, start⟩ := scanNumber_chars h hr
  rw [hc] at scanned ⊢
  rw [List.cons_append, nextToken_of_number start]
  rw [List.cons_append] at scanned
  rw [scanned]
  rfl

end Failover.Json
