import XmlBuilder.Position

/-!
Line ends. A carriage return, with or without a line feed after it, counts as one line feed.
-/
namespace XmlBuilder.Text

/-- Collects in `out`, last first, what the bytes give after a carriage return (`returned`) or
after another byte. -/
def unifyLineEndsAfter (returned : Bool) (out : Bytes) : Bytes → Bytes
  | [] => out.reverse
  | b :: rest =>
    if b == 13 then unifyLineEndsAfter true (10 :: out) rest
    else if b == 10 && returned then unifyLineEndsAfter false out rest
    else unifyLineEndsAfter false (b :: out) rest

def unifyLineEnds (bytes : Bytes) : Bytes :=
  unifyLineEndsAfter false [] bytes

theorem unifyLineEndsAfter_eq (returned : Bool) (out bytes : Bytes) :
    unifyLineEndsAfter returned out bytes =
      out.reverse ++ unifyLineEndsAfter returned [] bytes := by
  induction bytes generalizing returned out with
  | nil => simp [unifyLineEndsAfter]
  | cons b rest ih =>
    simp only [unifyLineEndsAfter]
    split
    · rw [ih, ih true [10]]; simp
    · split
      · exact ih false out
      · rw [ih, ih false [b]]; simp

theorem not_mem_unifyLineEnds (bytes : Bytes) : 13 ∉ unifyLineEnds bytes := by
  suffices ∀ returned out, 13 ∉ out → 13 ∉ unifyLineEndsAfter returned out bytes from
    this false [] (by simp)
  induction bytes with
  | nil => simp [unifyLineEndsAfter]
  | cons b rest ih =>
    intro returned out clean
    simp only [unifyLineEndsAfter]
    split
    · exact ih _ _ (by simpa using clean)
    · split
      · exact ih _ _ clean
      · next other _ =>
        have differs : 13 ≠ b := fun same => other (by simp [same])
        exact ih _ _ (by simp [clean, differs])

theorem unifyLineEnds_eq_self {bytes : Bytes} (clean : 13 ∉ bytes) :
    unifyLineEnds bytes = bytes := by
  unfold unifyLineEnds
  induction bytes with
  | nil => rfl
  | cons b rest ih =>
    rw [List.mem_cons, not_or] at clean
    have other : ¬ b = 13 := fun same => clean.1 same.symm
    simp only [unifyLineEndsAfter, beq_iff_eq, if_neg other, Bool.and_false]
    rw [if_neg Bool.false_ne_true, unifyLineEndsAfter_eq, ih clean.2]
    rfl

end XmlBuilder.Text
