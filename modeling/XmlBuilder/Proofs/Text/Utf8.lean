import Mathlib.Data.List.Basic
import XmlBuilder.Markup.Scan

/-!
# The bytes of a text

`Text.utf8` lays the characters of a text out in bytes, and a reader's `decode` takes exactly these
bytes back (`decode_ok_iff`). Characters of ASCII are the bytes below `0x80`, one byte each, and
no byte of any other character is among those (`utf8_of_ascii`, `utf8_beyond_ascii`); so an ASCII
pattern is found in the bytes only where the characters have it (`infix_of_utf8`).
-/
namespace XmlBuilder.Text

def utf8 (text : String) : Bytes :=
  text.toUTF8.data.toList

theorem utf8_eq_flatMap (text : String) :
    utf8 text = text.toList.flatMap String.utf8EncodeChar := by
  rw [utf8, String.toUTF8_eq_toByteArray, ← String.utf8Encode_toList, List.utf8Encode]
  simp

@[simp]
theorem utf8_empty : utf8 "" = [] := by
  simp [utf8_eq_flatMap]

theorem utf8_append (first second : String) :
    utf8 (first ++ second) = utf8 first ++ utf8 second := by
  simp [utf8_eq_flatMap]

theorem toByteArray_utf8 (text : String) : (utf8 text).toByteArray = text.toByteArray := by
  apply ByteArray.ext
  apply Array.toList_inj.1
  rw [List.toList_data_toByteArray, utf8, String.toUTF8_eq_toByteArray]

theorem fromUTF8?_eq_some_iff {bytes : Bytes} {text : String} :
    String.fromUTF8? bytes.toByteArray = some text ↔ bytes = utf8 text := by
  unfold String.fromUTF8?
  by_cases valid : bytes.toByteArray.IsValidUTF8
  · rw [dif_pos valid, Option.some.injEq]
    constructor
    · rintro rfl
      simp [utf8, String.fromUTF8]
    · rintro rfl
      apply String.toByteArray_inj.1
      exact toByteArray_utf8 text
  · rw [dif_neg valid]
    constructor
    · nofun
    · rintro rfl
      rw [toByteArray_utf8] at valid
      exact absurd text.isValidUTF8 valid

theorem utf8_injective {first second : String} (same : utf8 first = utf8 second) :
    first = second := by
  apply String.toByteArray_inj.1
  rw [← toByteArray_utf8, same, toByteArray_utf8]

theorem utf8_ne_nil {text : String} (nonempty : text ≠ "") : utf8 text ≠ [] := by
  intro none
  exact nonempty (utf8_injective (none.trans utf8_empty.symm))

theorem utf8_of_ascii {c : Char} (ascii : c.toNat < 0x80) :
    String.utf8EncodeChar c = [c.toUInt8] := by
  have small : c.val.toNat ≤ 0x7f := by
    change c.val.toNat < 0x80 at ascii
    omega
  simp only [String.utf8EncodeChar, if_pos small]
  rfl

/-- The bytes of a character beyond ASCII all lie beyond ASCII, and there is one at least. -/
theorem utf8_beyond_ascii {c : Char} (beyond : 0x80 ≤ c.toNat) :
    ∃ b tail, String.utf8EncodeChar c = b :: tail ∧ ∀ x ∈ b :: tail, 0x80 ≤ x := by
  have large : ¬ c.val.toNat ≤ 0x7f := by
    change 0x80 ≤ c.val.toNat at beyond
    omega
  simp only [String.utf8EncodeChar, if_neg large, UInt8.le_iff_toNat_le]
  split
  · refine ⟨_, _, rfl, ?_⟩
    simp
    omega
  split
  · refine ⟨_, _, rfl, ?_⟩
    simp
    omega
  · refine ⟨_, _, rfl, ?_⟩
    simp
    omega

/-- A class of bytes that takes in all bytes beyond ASCII, seen as a class of characters. -/
theorem all_utf8 {ofByte : UInt8 → Bool} {ofChar : Char → Bool}
    (agree : ∀ c : Char, c.toNat < 0x80 → ofByte c.toUInt8 = ofChar c)
    (bytes : ∀ b, 0x80 ≤ b → ofByte b = true) (chars : ∀ c : Char, 0x80 ≤ c.toNat → ofChar c = true)
    (cs : List Char) : (cs.flatMap String.utf8EncodeChar).all ofByte = cs.all ofChar := by
  induction cs with
  | nil => rfl
  | cons c rest ih =>
    rw [List.flatMap_cons, List.all_append, ih, List.all_cons]
    congr 1
    by_cases ascii : c.toNat < 0x80
    · simp [utf8_of_ascii ascii, agree c ascii]
    · obtain ⟨b, tail, laid, beyond⟩ := utf8_beyond_ascii (Nat.le_of_not_lt ascii)
      rw [laid, chars c (Nat.le_of_not_lt ascii), List.all_eq_true]
      exact fun x member => bytes x (beyond x member)

theorem toUInt8_lt {c : Char} (ascii : c.toNat < 0x80) : c.toUInt8 < 0x80 := by
  change c.val.toNat < 0x80 at ascii
  simp only [Char.toUInt8, UInt8.lt_iff_toNat_lt, UInt32.toNat_toUInt8]
  change _ < 128
  omega

theorem toUInt8_injective {c d : Char} (first : c.toNat < 0x80) (second : d.toNat < 0x80)
    (same : c.toUInt8 = d.toUInt8) : c = d := by
  change c.val.toNat < 0x80 at first
  change d.val.toNat < 0x80 at second
  have values := congrArg UInt8.toNat same
  simp only [Char.toUInt8, UInt32.toNat_toUInt8] at values
  apply Char.ext
  apply UInt32.toNat_inj.1
  omega

section Pattern

variable {pattern : List Char} (ascii : ∀ c ∈ pattern, c.toNat < 0x80)
include ascii

theorem prefix_of_utf8 {cs : List Char}
    (found : pattern.map Char.toUInt8 <+: cs.flatMap String.utf8EncodeChar) : pattern <+: cs := by
  induction pattern generalizing cs with
  | nil => exact List.nil_prefix
  | cons p rest ih =>
    have small := ascii p (by simp)
    cases cs with
    | nil => simp at found
    | cons c tail =>
      rw [List.map_cons, List.flatMap_cons] at found
      by_cases ofAscii : c.toNat < 0x80
      · rw [utf8_of_ascii ofAscii, List.singleton_append, List.cons_prefix_cons] at found
        have later := ih (fun x member => ascii x (by simp [member])) found.2
        exact List.cons_prefix_cons.2 ⟨toUInt8_injective small ofAscii found.1, later⟩
      · obtain ⟨b, more, laid, beyond⟩ := utf8_beyond_ascii (Nat.le_of_not_lt ofAscii)
        rw [laid, List.cons_append, List.cons_prefix_cons] at found
        have high := beyond b (by simp)
        have low := toUInt8_lt small
        rw [found.1, UInt8.lt_iff_toNat_lt] at low
        rw [UInt8.le_iff_toNat_le] at high
        omega

theorem infix_of_beyond {high rest : Bytes} (begun : pattern ≠ []) (beyond : ∀ b ∈ high, 0x80 ≤ b)
    (found : pattern.map Char.toUInt8 <:+: high ++ rest) :
    pattern.map Char.toUInt8 <:+: rest := by
  induction high with
  | nil => exact found
  | cons b more ih =>
    rw [List.cons_append, List.infix_cons_iff] at found
    rcases found with here | later
    · cases pattern with
      | nil => exact absurd rfl begun
      | cons p tail =>
        have low := toUInt8_lt (ascii p (by simp))
        have least := beyond b (by simp)
        rw [List.map_cons, List.cons_prefix_cons] at here
        rw [here.1, UInt8.lt_iff_toNat_lt] at low
        rw [UInt8.le_iff_toNat_le] at least
        omega
    · exact ih (fun x member => beyond x (by simp [member])) later

/-- Where the bytes hold an ASCII pattern, the characters hold it. -/
theorem infix_of_utf8 {cs : List Char}
    (found : pattern.map Char.toUInt8 <:+: cs.flatMap String.utf8EncodeChar) : pattern <:+: cs := by
  by_cases begun : pattern = []
  · rw [begun]
    exact List.nil_infix
  induction cs with
  | nil =>
    rw [List.flatMap_nil, List.infix_nil, List.map_eq_nil_iff] at found
    exact absurd found begun
  | cons c tail ih =>
    by_cases ofAscii : c.toNat < 0x80
    · have split := found
      rw [List.flatMap_cons, utf8_of_ascii ofAscii, List.singleton_append, List.infix_cons_iff]
        at split
      rcases split with here | later
      · have whole : pattern.map Char.toUInt8 <+: (c :: tail).flatMap String.utf8EncodeChar := by
          rw [List.flatMap_cons, utf8_of_ascii ofAscii]
          exact here
        exact (prefix_of_utf8 ascii whole).isInfix
      · exact (ih later).trans (List.suffix_cons c tail).isInfix
    · obtain ⟨b, more, laid, beyond⟩ := utf8_beyond_ascii (Nat.le_of_not_lt ofAscii)
      rw [List.flatMap_cons, laid] at found
      exact (ih (infix_of_beyond ascii begun beyond found)).trans (List.suffix_cons c tail).isInfix

end Pattern

theorem mem_of_utf8 {c : Char} {text : String} (ascii : c.toNat < 0x80)
    (member : c.toUInt8 ∈ utf8 text) : c ∈ text.toList := by
  have each : ∀ d ∈ [c], d.toNat < 0x80 := by simpa using ascii
  rw [utf8_eq_flatMap] at member
  obtain ⟨before, after, split⟩ := List.append_of_mem member
  have found : [c].map Char.toUInt8 <:+: text.toList.flatMap String.utf8EncodeChar :=
    ⟨before, after, by simp [split]⟩
  exact (infix_of_utf8 each found).subset (by simp)

theorem mem_utf8 {c : Char} {text : String} (ascii : c.toNat < 0x80) (member : c ∈ text.toList) :
    c.toUInt8 ∈ utf8 text := by
  rw [utf8_eq_flatMap]
  exact List.mem_flatMap.2 ⟨c, member, by simp [utf8_of_ascii ascii]⟩

theorem utf8_eq_ascii {markup : String} (ascii : ∀ c ∈ markup.toList, c.toNat < 0x80) :
    utf8 markup = Markup.ascii markup := by
  rw [utf8_eq_flatMap, Markup.ascii]
  generalize markup.toList = cs at ascii
  induction cs with
  | nil => rfl
  | cons c rest ih =>
    rw [List.flatMap_cons, utf8_of_ascii (ascii c (by simp)), List.map_cons,
      ih fun d member => ascii d (by simp [member])]
    rfl

end XmlBuilder.Text
