import Failover.Policy.Basic

/-!
# Policies — ready-made classifiers
-/

namespace Failover

/-- Whether a row of characters occurs in another. -/
def occursIn (part : List Char) : List Char → Bool
  | [] => part.isEmpty
  | c :: cs => part.isPrefixOf (c :: cs) || occursIn part cs

/-- Accepts the failures whose message contains a text. -/
def Policy.messageContains (part : String) : Policy.Classifier := fun f =>
  occursIn part.toList f.message.toList

/-- Gives every failure the same answer. -/
def Policy.constantly (answer : Bool) : Policy.Classifier := fun _ => answer

end Failover
