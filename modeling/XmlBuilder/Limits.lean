/-!
How deep elements may nest and how large a document may be. Zero stands for no limit.
-/
namespace XmlBuilder

structure Limits where
  maxDepth : UInt16
  /-- In bytes; a text or an attribute value in which a reference was expanded is held to it too. -/
  maxSize : Nat
  deriving DecidableEq, Repr

namespace Limits

/-- The limits where none are asked for. -/
def standard : Limits := ⟨128, 10 * 1024 * 1024⟩

def unlimited : Limits := ⟨0, 0⟩

/-- Whether a size in bytes is more than the limit. -/
def oversized (limits : Limits) (size : Nat) : Bool :=
  limits.maxSize != 0 && limits.maxSize < size

/-- The most bytes that the references in a text may be expanded to, if there is a limit. -/
def textLimit (limits : Limits) : Option Nat :=
  match limits.maxSize with
  | 0 => none
  | max => some max

/-- Whether an element at this depth is too deep; the root is at depth one. -/
def tooDeep (limits : Limits) (depth : UInt16) : Bool :=
  limits.maxDepth != 0 && limits.maxDepth < depth

theorem oversized_eq_false {limits : Limits} {size : Nat} :
    limits.oversized size = false ↔ limits.maxSize = 0 ∨ size ≤ limits.maxSize := by
  simp only [oversized, Bool.and_eq_false_iff, bne_eq_false_iff_eq, decide_eq_false_iff_not,
    Nat.not_lt]

theorem mem_textLimit_iff {limits : Limits} {max : Nat} :
    max ∈ limits.textLimit ↔ limits.maxSize ≠ 0 ∧ max = limits.maxSize := by
  unfold textLimit
  split
  · next unlimited => simp [unlimited]
  · next limited => rw [Option.mem_def, Option.some.injEq, eq_comm, and_iff_right limited]

end Limits
end XmlBuilder
