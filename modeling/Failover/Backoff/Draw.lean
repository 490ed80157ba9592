/-!
# Backoff — drawing a number from a range

A generator is a stream of 64-bit words.  A number of an inclusive range is drawn by multiplying a
word with the size of the range: the high half of the product is the offset, and one further word
decides whether the low half carries over.
-/

namespace Failover

/-- The words a generator is going to yield. -/
structure Words where
  word : Nat → UInt64

namespace Words

/-- The generator that always yields one word. -/
def constant (w : UInt64) : Words := ⟨fun _ => w⟩

/-- The next word. -/
def head (s : Words) : UInt64 := s.word 0

/-- The generator after one word has been taken. -/
def tail (s : Words) : Words := ⟨fun n => s.word (n + 1)⟩

@[simp] theorem tail_constant (w : UInt64) : (constant w).tail = constant w := rfl

end Words

/-- Draws a number from `low` to `high`, both included.  The low half of the product can only
carry when it exceeds `2 ^ 64 - size`, and only then a second word is taken. -/
def Words.drawBetween (s : Words) (low high : Nat) : Nat × Words :=
  let size := high - low + 1
  let product := s.head.toNat * size
  let offset := product / UInt64.size
  let rest := product % UInt64.size
  if UInt64.size - size < rest then
    let carried := rest + s.tail.head.toNat * size / UInt64.size
    (low + offset + (if UInt64.size ≤ carried then 1 else 0), s.tail.tail)
  else (low + offset, s.tail)

end Failover
