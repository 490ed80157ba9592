import Failover.Http.Method

/-!
# HTTP — headers

A name may carry several values; they stay in the order in which they were added.
-/

namespace Failover

/-- The name of a header, in lower case. -/
structure HeaderName where
  name : String
deriving DecidableEq, Inhabited, Repr

/-- Reads a name: one or more token characters, in any letter case. -/
def HeaderName.parse? (s : String) : Option HeaderName :=
  if s.isEmpty || !s.toList.all isTokenChar then none
  else some ⟨String.ofList (s.toList.map Char.toLower)⟩

/-- Whether a text may be the value of a header: it holds no control characters but tabs. -/
def isHeaderValue (s : String) : Bool :=
  s.toList.all fun c => (0x20 ≤ c.toNat && c != '\x7f') || c == '\t'

/-- Whether the value of a header is plain text: printable ASCII and tabs. -/
def isPlainHeaderValue (s : String) : Bool :=
  s.toList.all fun c => (0x20 ≤ c.toNat && c.toNat < 0x7F) || c == '\t'

/-- The headers of a message, each name with its values, in the order in which the names first
appeared. -/
@[ext]
structure Headers where
  groups : List (HeaderName × List String)
deriving DecidableEq, Inhabited, Repr

namespace Headers

/-- No headers. -/
def empty : Headers := ⟨[]⟩

/-- Adds a value behind those of its name. -/
def appendTo (n : HeaderName) (v : String) :
    List (HeaderName × List String) → List (HeaderName × List String)
  | [] => [(n, [v])]
  | (m, vs) :: gs => if m = n then (m, vs ++ [v]) :: gs else (m, vs) :: appendTo n v gs

/-- The headers with one more value; a name that is new comes last. -/
def append (h : Headers) (n : HeaderName) (v : String) : Headers := ⟨appendTo n v h.groups⟩

/-- The values under a name among the groups. -/
def valuesIn (n : HeaderName) : List (HeaderName × List String) → List String
  | [] => []
  | (m, vs) :: gs => if m = n then vs else valuesIn n gs

/-- The values under a name, in the order in which they were added. -/
def values (h : Headers) (n : HeaderName) : List String := valuesIn n h.groups

@[simp] theorem values_empty (n : HeaderName) : empty.values n = [] := rfl

theorem valuesIn_appendTo {n m : HeaderName} {v : String}
    {gs : List (HeaderName × List String)} :
    valuesIn m (appendTo n v gs) = valuesIn m gs ++ if m = n then [v] else [] := by
  induction gs with
  | nil => by_cases h : n = m <;> simp [appendTo, valuesIn, h, eq_comm]
  | cons g gs ih =>
    obtain ⟨a, vs⟩ := g
    by_cases han : a = n
    · subst han
      by_cases ham : a = m
      · simp [appendTo, valuesIn, ham]
      · simp [appendTo, valuesIn, ham, Ne.symm ham]
    · by_cases ham : a = m
      · subst ham
        simp [appendTo, valuesIn, han]
      · simp [appendTo, valuesIn, han, ham, ih]

/-- Adding a value changes what stands under its own name and under no other. -/
@[simp] theorem values_append {h : Headers} {n m : HeaderName} {v : String} :
    (h.append n v).values m = h.values m ++ if m = n then [v] else [] :=
  valuesIn_appendTo

end Headers

end Failover
