/-!
# Failures — what can go wrong between client and instance

The kinds of transport failure, in the order in which sets of them are listed, and a failure as a
kind with a message.
-/

namespace Failover

/-- The broad classes of transport failure. -/
inductive FailureKind where
  /-- No connection could be established. -/
  | connect
  /-- The transport gave up waiting. -/
  | timeout
  /-- The peer reset or closed the connection in the middle of an exchange. -/
  | reset
  /-- The peer said something that was not understood. -/
  | protocol
  /-- The transport itself observed a cancellation. -/
  | cancelled
  /-- The instance's host and port form no usable address. -/
  | invalidAddress
  | other
deriving DecidableEq, Inhabited, Repr

namespace FailureKind

/-- Every kind, in listing order. -/
def all : List FailureKind :=
  [.connect, .timeout, .reset, .protocol, .cancelled, .invalidAddress, .other]

/-- The place of a kind in the listing order. -/
def rank : FailureKind → Nat
  | .connect => 0
  | .timeout => 1
  | .reset => 2
  | .protocol => 3
  | .cancelled => 4
  | .invalidAddress => 5
  | .other => 6

instance : LE FailureKind := ⟨fun a b => a.rank ≤ b.rank⟩
instance : LT FailureKind := ⟨fun a b => a.rank < b.rank⟩
instance (a b : FailureKind) : Decidable (a < b) :=
  inferInstanceAs (Decidable (a.rank < b.rank))

theorem rank_injective {a b : FailureKind} (h : a.rank = b.rank) : a = b := by
  cases a <;> cases b <;> first | rfl | cases h

instance : Std.IsLinearOrder FailureKind where
  le_refl a := Nat.le_refl a.rank
  le_trans a b c := Nat.le_trans (n := a.rank) (m := b.rank) (k := c.rank)
  le_antisymm _ _ h h' := rank_injective (Nat.le_antisymm h h')
  le_total a b := Nat.le_total a.rank b.rank

instance : Std.LawfulOrderLT FailureKind where
  lt_iff _ _ := Nat.lt_iff_le_and_not_ge

/-- The kind as it is shown in messages. -/
def text : FailureKind → String
  | .connect => "connect"
  | .timeout => "timeout"
  | .reset => "reset"
  | .protocol => "protocol"
  | .cancelled => "cancelled"
  | .invalidAddress => "invalid address"
  | .other => "other"

/-- The kind as it is spelled in configuration files. -/
def keyword : FailureKind → String
  | .connect => "connect"
  | .timeout => "timeout"
  | .reset => "reset"
  | .protocol => "protocol"
  | .cancelled => "cancelled"
  | .invalidAddress => "invalid_address"
  | .other => "other"

/-- The kind with a given spelling. -/
def ofKeyword? (s : String) : Option FailureKind := all.find? (·.keyword == s)

@[simp] theorem ofKeyword?_keyword (k : FailureKind) : ofKeyword? k.keyword = some k := by
  cases k <;> decide

end FailureKind

/-- A transport failure: what class it is of, and what the transport said about it. -/
structure Failure where
  kind : FailureKind
  message : String
deriving DecidableEq, Inhabited, Repr

namespace Failure

/-- The failure as it is quoted in messages. -/
def text (f : Failure) : String := f.kind.text ++ " failure: " ++ f.message

/-- Whether the transport itself reported a cancellation. -/
def isCancelled (f : Failure) : Bool := f.kind = .cancelled

end Failure

end Failover
