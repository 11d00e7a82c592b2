/-!
White space in the sense of the Unicode property White_Space, and text without it at either end.
-/
namespace XmlBuilder.Text

def isBlank (c : Char) : Bool :=
  let n := c.toNat
  (0x9 ≤ n && n ≤ 0xD) || n == 0x20 || n == 0x85 || n == 0xA0 || n == 0x1680 ||
    (0x2000 ≤ n && n ≤ 0x200A) || n == 0x2028 || n == 0x2029 || n == 0x202F || n == 0x205F ||
    n == 0x3000

/-- The characters without the blank ones at both ends. -/
def trimChars (cs : List Char) : List Char :=
  ((cs.dropWhile isBlank).reverse.dropWhile isBlank).reverse

def trim (text : String) : String :=
  String.ofList (trimChars text.toList)

/-- Nothing but blank characters, or no character at all. -/
def isBlankText (text : String) : Bool :=
  text.toList.all isBlank

theorem trimChars_eq_nil_iff (cs : List Char) : trimChars cs = [] ↔ cs.all isBlank := by
  have dropped (l : List Char) : l.dropWhile isBlank = [] ↔ l.all isBlank := by
    induction l with
    | nil => simp
    | cons c rest ih => by_cases h : isBlank c <;> simp [h, ih]
  rw [trimChars, List.reverse_eq_nil_iff, dropped, List.all_reverse]
  induction cs with
  | nil => rfl
  | cons c rest ih =>
    by_cases h : isBlank c
    · simpa [h] using ih
    · simp [h]

end XmlBuilder.Text
