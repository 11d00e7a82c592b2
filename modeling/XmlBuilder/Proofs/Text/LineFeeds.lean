import Mathlib.Data.List.Basic
import XmlBuilder.Text.LineEnd

/-!
# Line ends as line feeds

`lineFeeds` says what unifying the line ends of bytes gives (`unifyLineEnds_eq`). What does not
look at the bytes of a line end, or does not tell them apart, does the same before and behind it:
a class of bytes cuts off the same run (`takeWhile_lineFeeds`, `dropWhile_lineFeeds`), and a
pattern without line ends stands at the front of the same bytes (`isPrefixOf_lineFeeds`).
-/
namespace XmlBuilder.Text

/-- Every carriage return turned into a line feed, together with the line feed behind it if there
is one. -/
def lineFeeds : Bytes → Bytes
  | [] => []
  | 13 :: 10 :: rest => 10 :: lineFeeds rest
  | b :: rest => (if b = 13 then 10 else b) :: lineFeeds rest

theorem unifyLineEndsAfter_true {bytes : Bytes} (noFeed : bytes.head? ≠ some 10) (out : Bytes) :
    unifyLineEndsAfter true out bytes = unifyLineEndsAfter false out bytes := by
  cases bytes with
  | nil => rfl
  | cons b rest =>
    have other : ¬ b = 10 := fun same => noFeed (by rw [same]; rfl)
    simp [unifyLineEndsAfter, other]

theorem unifyLineEnds_eq (bytes : Bytes) : unifyLineEnds bytes = lineFeeds bytes := by
  unfold unifyLineEnds
  fun_induction lineFeeds bytes with
  | case1 => rfl
  | case2 rest ih =>
    change unifyLineEndsAfter false [10] rest = _
    rw [unifyLineEndsAfter_eq, ih]
    rfl
  | case3 b rest lone ih =>
    by_cases returned : b = 13
    · have noFeed : rest.head? ≠ some 10 := by
        intro feed
        obtain ⟨tail, split⟩ := List.head?_eq_some_iff.1 feed
        exact lone tail returned split
      rw [if_pos returned, returned]
      change unifyLineEndsAfter true [10] rest = _
      rw [unifyLineEndsAfter_true noFeed, unifyLineEndsAfter_eq, ih]
      rfl
    · rw [if_neg returned]
      simp only [unifyLineEndsAfter, beq_iff_eq, if_neg returned, Bool.and_false]
      rw [if_neg Bool.false_ne_true, unifyLineEndsAfter_eq, ih]
      rfl

theorem not_mem_lineFeeds (bytes : Bytes) : 13 ∉ lineFeeds bytes := by
  rw [← unifyLineEnds_eq]
  exact not_mem_unifyLineEnds bytes

theorem lineFeeds_eq_self {bytes : Bytes} (clean : 13 ∉ bytes) : lineFeeds bytes = bytes := by
  rw [← unifyLineEnds_eq]
  exact unifyLineEnds_eq_self clean

theorem lineFeeds_twice (bytes : Bytes) : lineFeeds (lineFeeds bytes) = lineFeeds bytes :=
  lineFeeds_eq_self (not_mem_lineFeeds bytes)

theorem lineFeeds_cons {b : UInt8} (other : b ≠ 13) (rest : Bytes) :
    lineFeeds (b :: rest) = b :: lineFeeds rest := by
  rw [lineFeeds, if_neg other]
  exact fun _ returned => absurd returned other

theorem lineFeeds_return {bytes : Bytes} (noFeed : bytes.head? ≠ some 10) :
    lineFeeds (13 :: bytes) = 10 :: lineFeeds bytes := by
  rw [lineFeeds, if_pos rfl]
  intro tail _ split
  exact noFeed (by rw [split]; rfl)

theorem lineFeeds_append {front : Bytes} (clean : 13 ∉ front) (rest : Bytes) :
    lineFeeds (front ++ rest) = front ++ lineFeeds rest := by
  induction front with
  | nil => rfl
  | cons b tail ih =>
    rw [List.mem_cons, not_or] at clean
    rw [List.cons_append, lineFeeds_cons (Ne.symm clean.1), ih clean.2, List.cons_append]

theorem lineFeeds_begins (b : UInt8) (rest : Bytes) :
    ∃ tail, lineFeeds (b :: rest) = (if b = 13 then 10 else b) :: tail := by
  generalize whole : b :: rest = bytes
  fun_cases lineFeeds bytes with
  | case1 => cases whole
  | case2 tail => cases whole; exact ⟨_, rfl⟩
  | case3 => cases whole; exact ⟨_, rfl⟩

theorem lineFeeds_isEmpty (bytes : Bytes) : (lineFeeds bytes).isEmpty = bytes.isEmpty := by
  fun_cases lineFeeds bytes with
  | case1 => rfl
  | case2 => rfl
  | case3 => rfl

/-! ## Classes of bytes -/

section Classes

variable (inClass : UInt8 → Bool) (alike : inClass 13 = inClass 10)
include alike

theorem class_of_feed (b : UInt8) : inClass (if b = 13 then 10 else b) = inClass b := by
  split
  · next returned => rw [returned, alike]
  · rfl

theorem takeWhile_lineFeeds (bytes : Bytes) :
    (lineFeeds bytes).takeWhile inClass = lineFeeds (bytes.takeWhile inClass) := by
  fun_induction lineFeeds bytes with
  | case1 => rfl
  | case2 rest ih =>
    by_cases inside : inClass 10 = true
    · simp [alike, inside, lineFeeds, ih]
    · simp [alike, inside, lineFeeds]
  | case3 b rest lone ih =>
    by_cases inside : inClass b = true
    · rw [List.takeWhile_cons_of_pos (by rwa [class_of_feed inClass alike]), ih,
        List.takeWhile_cons_of_pos inside, lineFeeds]
      intro tail returned split
      cases rest with
      | nil => cases split
      | cons c more =>
        obtain rfl : c = 10 := by
          by_cases further : inClass c = true
          · rw [List.takeWhile_cons_of_pos further] at split
            cases split
            rfl
          · rw [List.takeWhile_cons_of_neg further] at split
            cases split
        exact lone more returned rfl
    · rw [List.takeWhile_cons_of_neg (by rwa [class_of_feed inClass alike]),
        List.takeWhile_cons_of_neg inside, lineFeeds]

theorem dropWhile_lineFeeds (bytes : Bytes) :
    (lineFeeds bytes).dropWhile inClass = lineFeeds (bytes.dropWhile inClass) := by
  fun_induction lineFeeds bytes with
  | case1 => rfl
  | case2 rest ih =>
    by_cases inside : inClass 10 = true
    · simp [alike, inside, ih]
    · simp [alike, inside, lineFeeds]
  | case3 b rest lone ih =>
    by_cases inside : inClass b = true
    · rw [List.dropWhile_cons_of_pos (by rwa [class_of_feed inClass alike]), ih,
        List.dropWhile_cons_of_pos inside]
    · rw [List.dropWhile_cons_of_neg (by rwa [class_of_feed inClass alike]),
        List.dropWhile_cons_of_neg inside, lineFeeds]
      exact lone

theorem any_head?_lineFeeds (bytes : Bytes) :
    (lineFeeds bytes).head?.any inClass = bytes.head?.any inClass := by
  cases bytes with
  | nil => rfl
  | cons b rest =>
    obtain ⟨tail, begins⟩ := lineFeeds_begins b rest
    rw [begins]
    exact class_of_feed inClass alike b

end Classes

/-! ## Patterns -/

theorem isPrefixOf_lineFeeds {pattern : Bytes} (noReturn : 13 ∉ pattern) (noFeed : 10 ∉ pattern)
    (bytes : Bytes) : pattern.isPrefixOf (lineFeeds bytes) = pattern.isPrefixOf bytes := by
  induction pattern generalizing bytes with
  | nil => simp
  | cons p more ih =>
    rw [List.mem_cons, not_or] at noReturn noFeed
    have notReturn : (p == 13) = false := beq_eq_false_iff_ne.2 (Ne.symm noReturn.1)
    have notFeed : (p == 10) = false := beq_eq_false_iff_ne.2 (Ne.symm noFeed.1)
    fun_cases lineFeeds bytes with
    | case1 => rfl
    | case2 rest => simp [List.isPrefixOf, notReturn, notFeed]
    | case3 b rest lone =>
      by_cases returned : b = 13
      · simp [List.isPrefixOf, returned, notReturn, notFeed]
      · rw [if_neg returned, List.isPrefixOf, List.isPrefixOf, ih noReturn.2 noFeed.2]

theorem infix_of_lineFeeds {pattern : Bytes} (noReturn : 13 ∉ pattern) (noFeed : 10 ∉ pattern)
    {bytes : Bytes} (found : pattern <:+: lineFeeds bytes) : pattern <:+: bytes := by
  have begins (bytes : Bytes) : pattern <+: lineFeeds bytes → pattern <+: bytes := by
    rw [← List.isPrefixOf_iff_prefix, isPrefixOf_lineFeeds noReturn noFeed,
      List.isPrefixOf_iff_prefix]
    exact id
  have here := begins bytes
  fun_induction lineFeeds bytes with
  | case1 => exact found
  | case2 rest ih =>
    rcases List.infix_cons_iff.1 found with first | later
    · exact (here first).isInfix
    · exact (ih later (begins rest)).trans (List.suffix_append [13, 10] rest).isInfix
  | case3 b rest lone ih =>
    rcases List.infix_cons_iff.1 found with first | later
    · exact (here first).isInfix
    · exact (ih later (begins rest)).trans (List.suffix_cons b rest).isInfix

end XmlBuilder.Text
