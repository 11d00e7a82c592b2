import XmlBuilder.Proofs.Text.LineFeeds
import XmlBuilder.Proofs.Text.Utf8

/-!
# Where the bytes of a text may be cut

`IsUtf8` bytes are those of some text. Cut before or behind a byte of ASCII, or behind the bytes of
a text, they fall into the bytes of two texts (`isUtf8_cut`, `IsUtf8.behind`), and with their line
ends unified they are those of the text with line feeds (`utf8_withLineFeeds`). Each character has
one byte that continues none (`countP_utf8`), so that the characters of a line can be counted in
its bytes.
-/
namespace XmlBuilder.Text

/-- The bytes are those of a text. -/
def IsUtf8 (bytes : Bytes) : Prop :=
  ∃ text, bytes = utf8 text

theorem isUtf8_utf8 (text : String) : IsUtf8 (utf8 text) :=
  ⟨text, rfl⟩

theorem isUtf8_flatMap (cs : List Char) : IsUtf8 (cs.flatMap String.utf8EncodeChar) :=
  ⟨String.ofList cs, by rw [utf8_eq_flatMap, String.toList_ofList]⟩

theorem isUtf8_iff {bytes : Bytes} :
    IsUtf8 bytes ↔ ∃ cs : List Char, bytes = cs.flatMap String.utf8EncodeChar := by
  constructor
  · intro form
    rcases form with ⟨text, rfl⟩
    exact ⟨text.toList, utf8_eq_flatMap text⟩
  · intro form
    rcases form with ⟨cs, rfl⟩
    exact isUtf8_flatMap cs

theorem isUtf8_nil : IsUtf8 [] :=
  isUtf8_flatMap []

theorem IsUtf8.append {first second : Bytes} (isFirst : IsUtf8 first) (isSecond : IsUtf8 second) :
    IsUtf8 (first ++ second) := by
  obtain ⟨text, rfl⟩ := isFirst
  obtain ⟨more, rfl⟩ := isSecond
  exact ⟨text ++ more, (utf8_append text more).symm⟩

/-! ## Cuts -/

/-- Each byte of ASCII is a character of its own, between those before and behind it. -/
theorem split_at_ascii {cs : List Char} {front rest : Bytes} {b : UInt8} (ascii : b < 0x80)
    (whole : cs.flatMap String.utf8EncodeChar = front ++ b :: rest) :
    ∃ before c after, cs = before ++ c :: after ∧
      front = before.flatMap String.utf8EncodeChar ∧
      b :: rest = (c :: after).flatMap String.utf8EncodeChar ∧
      rest = after.flatMap String.utf8EncodeChar := by
  induction cs generalizing front with
  | nil => simp at whole
  | cons c tail ih =>
    rw [List.flatMap_cons] at whole
    by_cases small : c.toNat < 0x80
    · rw [utf8_of_ascii small] at whole
      cases front with
      | nil =>
        cases whole
        exact ⟨[], c, tail, rfl, rfl, by rw [List.flatMap_cons, utf8_of_ascii small]; rfl, rfl⟩
      | cons x more =>
        obtain ⟨rfl, inner⟩ := List.cons.inj whole
        obtain ⟨before, d, after, rfl, rfl, later⟩ := ih inner
        refine ⟨c :: before, d, after, rfl, ?_, later⟩
        rw [List.flatMap_cons, utf8_of_ascii small]
        rfl
    · obtain ⟨x, more, laid, beyond⟩ := utf8_beyond_ascii (Nat.le_of_not_lt small)
      rw [laid] at whole
      rcases List.append_eq_append_iff.1 whole with ⟨further, rfl, inner⟩ | ⟨further, split, inner⟩
      · obtain ⟨before, d, after, rfl, rfl, later⟩ := ih inner
        exact ⟨c :: before, d, after, rfl, by rw [List.flatMap_cons, laid], later⟩
      · cases further with
        | nil =>
          obtain ⟨before, d, after, rfl, empty, later⟩ := @ih [] inner.symm
          rw [List.append_nil] at split
          refine ⟨c :: before, d, after, rfl, ?_, later⟩
          rw [List.flatMap_cons, ← empty, List.append_nil, laid, split]
        | cons y last =>
          -- The byte of ASCII would be one of a character beyond.
          obtain ⟨rfl, -⟩ := List.cons.inj inner
          have high := beyond b (by rw [split]; simp)
          rw [UInt8.lt_iff_toNat_lt] at ascii
          rw [UInt8.le_iff_toNat_le] at high
          omega

theorem isUtf8_cut {front rest : Bytes} {b : UInt8} (ascii : b < 0x80)
    (whole : IsUtf8 (front ++ b :: rest)) : IsUtf8 front ∧ IsUtf8 (b :: rest) ∧ IsUtf8 rest := by
  obtain ⟨cs, laid⟩ := isUtf8_iff.1 whole
  obtain ⟨before, c, after, rfl, rfl, fromByte, rfl⟩ := split_at_ascii ascii laid.symm
  exact ⟨isUtf8_flatMap before, fromByte ▸ isUtf8_flatMap (c :: after), isUtf8_flatMap after⟩

theorem isUtf8_cons {b : UInt8} {rest : Bytes} (ascii : b < 0x80) (later : IsUtf8 rest) :
    IsUtf8 (b :: rest) := by
  have small : (Char.ofUInt8 b).toNat < 0x80 := by
    rw [UInt8.lt_iff_toNat_lt] at ascii
    exact ascii
  have alone : IsUtf8 [b] := by
    refine ⟨String.singleton (Char.ofUInt8 b), ?_⟩
    rw [utf8_eq_flatMap, String.toList_singleton, List.flatMap_singleton, utf8_of_ascii small]
    change [b] = [b.toUInt32.toUInt8]
    rw [UInt8.toUInt8_toUInt32]
  exact alone.append later

/-- What stands behind the bytes of a text is a text if all is. -/
theorem IsUtf8.behind {front rest : Bytes} (whole : IsUtf8 (front ++ rest))
    (first : IsUtf8 front) : IsUtf8 rest := by
  obtain ⟨cs, rfl⟩ := isUtf8_iff.1 first
  obtain ⟨all, laid⟩ := isUtf8_iff.1 whole
  have encoded : cs.utf8Encode ++ rest.toByteArray = all.utf8Encode := by
    rw [List.utf8Encode, List.utf8Encode, ← laid, List.toByteArray_append]
  obtain ⟨after, rfl⟩ := List.isPrefix_of_utf8Encode_append_eq_utf8Encode _ encoded
  rw [List.flatMap_append, List.append_cancel_left_eq] at laid
  rw [laid]
  exact isUtf8_flatMap after

theorem IsUtf8.map {ofByte : UInt8 → UInt8} (ascii : ∀ b, b < 0x80 → ofByte b < 0x80)
    (beyond : ∀ b, 0x80 ≤ b → ofByte b = b) {bytes : Bytes} (form : IsUtf8 bytes) :
    IsUtf8 (bytes.map ofByte) := by
  obtain ⟨cs, rfl⟩ := isUtf8_iff.1 form
  clear form
  induction cs with
  | nil => exact isUtf8_nil
  | cons c rest ih =>
    rw [List.flatMap_cons, List.map_append]
    refine IsUtf8.append ?_ ih
    by_cases small : c.toNat < 0x80
    · rw [utf8_of_ascii small]
      exact isUtf8_cons (ascii _ (toUInt8_lt small)) isUtf8_nil
    · obtain ⟨b, tail, laid, high⟩ := utf8_beyond_ascii (Nat.le_of_not_lt small)
      have kept : (String.utf8EncodeChar c).map ofByte = String.utf8EncodeChar c := by
        rw [laid, List.map_congr_left fun x member => beyond x (high x member), List.map_id']
      rw [kept]
      exact isUtf8_iff.2 ⟨[c], (List.flatMap_singleton _ _).symm⟩

/-! ## Line ends -/

def feedLines : List Char → List Char
  | [] => []
  | '\r' :: '\n' :: rest => '\n' :: feedLines rest
  | c :: rest => (if c = '\r' then '\n' else c) :: feedLines rest

/-- A text with every carriage return in it turned into a line feed, together with the line feed
behind it if there is one. -/
def withLineFeeds (text : String) : String :=
  String.ofList (feedLines text.toList)

theorem flatMap_feedLines (cs : List Char) :
    (feedLines cs).flatMap String.utf8EncodeChar =
      lineFeeds (cs.flatMap String.utf8EncodeChar) := by
  fun_induction feedLines cs with
  | case1 => rfl
  | case2 rest ih =>
    rw [List.flatMap_cons, ih]
    rfl
  | case3 c rest lone ih =>
    rw [List.flatMap_cons, List.flatMap_cons, ih]
    by_cases returned : c = '\r'
    · have noFeed : (rest.flatMap String.utf8EncodeChar).head? ≠ some 10 := by
        intro feed
        obtain ⟨tail, laid⟩ := List.head?_eq_some_iff.1 feed
        have begins : ['\n'] <+: rest := prefix_of_utf8 (by simp) ⟨tail, laid.symm⟩
        obtain ⟨more, split⟩ := begins
        exact lone more returned split.symm
      rw [if_pos returned, returned]
      exact (lineFeeds_return noFeed).symm
    · have clean : 13 ∉ String.utf8EncodeChar c := by
        intro member
        have alone : '\r'.toUInt8 ∈ utf8 (String.singleton c) := by
          rw [utf8_eq_flatMap, String.toList_singleton, List.flatMap_singleton]
          exact member
        have same := mem_of_utf8 (by decide) alone
        rw [String.toList_singleton, List.mem_singleton] at same
        exact returned same.symm
      rw [if_neg returned, lineFeeds_append clean]

theorem utf8_withLineFeeds (text : String) :
    utf8 (withLineFeeds text) = lineFeeds (utf8 text) := by
  rw [utf8_eq_flatMap, utf8_eq_flatMap, withLineFeeds, String.toList_ofList, flatMap_feedLines]

theorem isUtf8_lineFeeds {bytes : Bytes} (form : IsUtf8 bytes) : IsUtf8 (lineFeeds bytes) := by
  obtain ⟨text, rfl⟩ := form
  exact ⟨withLineFeeds text, (utf8_withLineFeeds text).symm⟩

/-! ## Characters and bytes -/

theorem isContinuation_of_low {n : Nat} (low : n < 0x80) :
    isContinuation (UInt8.ofNat n) = false := by
  have each : ∀ n < 0x80, isContinuation (UInt8.ofNat n) = false := by decide
  exact each n low

theorem isContinuation_of_high {n : Nat} (high : n < 0x40) :
    isContinuation (UInt8.ofNat (n + 0xC0)) = false := by
  have each : ∀ n < 0x40, isContinuation (UInt8.ofNat (n + 0xC0)) = false := by decide
  exact each n high

theorem isContinuation_between {n : Nat} (between : n < 0x40) :
    isContinuation (UInt8.ofNat (n + 0x80)) = true := by
  have each : ∀ n < 0x40, isContinuation (UInt8.ofNat (n + 0x80)) = true := by decide
  exact each n between

theorem countP_char (c : Char) :
    (String.utf8EncodeChar c).countP (fun b => !isContinuation b) = 1 := by
  have tail (n : Nat) : isContinuation (UInt8.ofNat (n % 0x40 + 0x80)) = true :=
    isContinuation_between (Nat.mod_lt n (by decide))
  simp only [String.utf8EncodeChar]
  split
  · next low =>
    have lead := isContinuation_of_low (Nat.lt_succ_of_le low)
    simp only [List.countP_cons, List.countP_nil, lead, Bool.not_false, if_true]
  split
  · have lead := @isContinuation_of_high (c.val.toNat / 64 % 32) (by omega)
    simp [-UInt8.ofNat_add, -Char.toNat_val, lead, tail]
  split
  · have lead := @isContinuation_of_high (c.val.toNat / 4096 % 16 + 32) (by omega)
    simp [-UInt8.ofNat_add, -Char.toNat_val, lead, tail]
  · have lead := @isContinuation_of_high (c.val.toNat / 262144 % 8 + 48) (by omega)
    simp [-UInt8.ofNat_add, -Char.toNat_val, lead, tail]

/-- There are as many bytes that continue no character as there are characters. -/
theorem countP_utf8 (cs : List Char) :
    (cs.flatMap String.utf8EncodeChar).countP (fun b => !isContinuation b) = cs.length := by
  induction cs with
  | nil => rfl
  | cons c rest ih =>
    rw [List.flatMap_cons, List.countP_append, countP_char, ih, List.length_cons, Nat.add_comm]

end XmlBuilder.Text
