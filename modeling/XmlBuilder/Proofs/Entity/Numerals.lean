import Mathlib.Data.Nat.Digits.Lemmas
import XmlBuilder.Entity

/-!
# Numeric references

A numeric reference gives the code of its character in decimal or hexadecimal digits (`Numbers`), and
there is no bound on how many. Reading keeps to 32 bits and refuses what takes more, so it has to be
shown that it finds the value of the digits wherever that fits (`readDigits_eq_some_iff`, by
induction along the digits: once what is read no longer fits, no further digit makes it fit).
-/
namespace XmlBuilder.Entity

/-- A digit and its value. Of digits above nine both cases count. -/
def DigitOf (base : Nat) (c : Char) (digit : Nat) : Prop :=
  digit < base ∧ (c = digit.digitChar ∨ c = digit.digitChar.toUpper)

/-- One digit or more, the highest first, and the number that they stand for. -/
def Numeral (base : Nat) (text : List Char) (value : Nat) : Prop :=
  ∃ digits, List.Forall₂ (DigitOf base) text digits ∧ text ≠ [] ∧
    value = Nat.ofDigits base digits.reverse

/-- A name gives this code, in decimal or in hexadecimal digits. -/
def Numbers (name : List Char) (code : Nat) : Prop :=
  (∃ text, name = '#' :: text ∧ Numeral 10 text code) ∨
    ∃ text, name = '#' :: 'x' :: text ∧ Numeral 16 text code

/-- The codes of the characters that documents may contain. -/
def Permitted (code : Nat) : Prop :=
  code = 0x9 ∨ code = 0xA ∨ code = 0xD ∨ 0x20 ≤ code ∧ code ≤ 0xD7FF ∨
    0xE000 ≤ code ∧ code ≤ 0xFFFD ∨ 0x10000 ≤ code ∧ code ≤ 0x10FFFF

theorem isXmlChar_iff (code : Nat) : isXmlChar code = true ↔ Permitted code := by
  simp [isXmlChar, Permitted, or_assoc]

/-! ## Digits -/

/-- The characters from one to another, by their distance from the first. -/
theorem exists_ofNat_of_between {first last c : Char} (above : first ≤ c) (below : c ≤ last) :
    ∃ distance ≤ last.toNat - first.toNat, c = Char.ofNat (first.toNat + distance) := by
  have above' : first.toNat ≤ c.toNat := above
  have below' : c.toNat ≤ last.toNat := below
  refine ⟨c.toNat - first.toNat, by omega, ?_⟩
  rw [Nat.add_sub_cancel' above', Char.ofNat_toNat]

theorem decimalDigit?_eq_some_iff (c : Char) (digit : Nat) :
    decimalDigit? c = some digit ↔ DigitOf 10 c digit := by
  constructor
  · intro found
    unfold decimalDigit? at found
    split at found
    · next inRange =>
      obtain ⟨distance, small, rfl⟩ := exists_ofNat_of_between inRange.1 inRange.2
      cases found
      change distance ≤ 9 at small
      interval_cases distance <;> exact ⟨by decide, .inl rfl⟩
    · cases found
  · rintro ⟨small, rfl | rfl⟩
    · interval_cases digit <;> rfl
    · interval_cases digit <;> rfl

theorem hexDigit?_eq_some_iff (c : Char) (digit : Nat) :
    hexDigit? c = some digit ↔ DigitOf 16 c digit := by
  constructor
  · intro found
    unfold hexDigit? at found
    split at found
    · next lower =>
      obtain ⟨distance, small, rfl⟩ := exists_ofNat_of_between lower.1 lower.2
      cases found
      change distance ≤ 5 at small
      interval_cases distance <;> exact ⟨by decide, .inl rfl⟩
    split at found
    · next upper =>
      obtain ⟨distance, small, rfl⟩ := exists_ofNat_of_between upper.1 upper.2
      cases found
      change distance ≤ 5 at small
      interval_cases distance <;> exact ⟨by decide, .inr rfl⟩
    · obtain ⟨small, spelled⟩ := (decimalDigit?_eq_some_iff c digit).1 found
      exact ⟨by omega, spelled⟩
  · rintro ⟨small, rfl | rfl⟩
    · interval_cases digit <;> rfl
    · interval_cases digit <;> rfl

/-- What one more digit at the front adds. -/
theorem worth_cons (base value digit : Nat) (digits : List Nat) :
    value * base ^ (digits.length + 1) + Nat.ofDigits base (digit :: digits).reverse =
      (value * base + digit) * base ^ digits.length + Nat.ofDigits base digits.reverse := by
  rw [List.reverse_cons, Nat.ofDigits_append, List.length_reverse, Nat.ofDigits_singleton, pow_succ]
  ring

section Reading

variable {base : Nat} {digit? : Char → Option Nat}

theorem readDigits_eq_some_iff (positive : 0 < base)
    (digits_iff : ∀ c digit, digit? c = some digit ↔ DigitOf base c digit) {value : Nat}
    (fits : value < UInt32.size) {text : List Char} {result : Nat} :
    readDigits base digit? value text = some result ↔
      ∃ digits, List.Forall₂ (DigitOf base) text digits ∧
        result = value * base ^ digits.length + Nat.ofDigits base digits.reverse ∧
        result < UInt32.size := by
  induction text generalizing value with
  | nil =>
    rw [readDigits, Option.some.injEq]
    constructor
    · rintro rfl
      exact ⟨[], .nil, by simp, fits⟩
    · rintro ⟨digits, none, worth, -⟩
      cases none
      simpa using worth.symm
  | cons c rest ih =>
    rw [readDigits]
    cases found : digit? c with
    | none =>
      constructor
      · nofun
      · rintro ⟨_, each, -, -⟩
        cases each with
        | cons first _ =>
          rw [← digits_iff, found] at first
          cases first
    | some digit =>
      have first := (digits_iff c digit).1 found
      dsimp only
      split
      · next longerFits =>
        rw [ih longerFits]
        constructor
        · rintro ⟨digits, each, rfl, resultFits⟩
          exact ⟨digit :: digits, .cons first each, (worth_cons _ _ _ _).symm, resultFits⟩
        · rintro ⟨_, each, worth, resultFits⟩
          cases each with
          | @cons _ other _ digits one later =>
            rw [← digits_iff, found, Option.some.injEq] at one
            subst one
            exact ⟨digits, later, worth.trans (worth_cons _ _ _ _), resultFits⟩
      · next tooLong =>
        constructor
        · nofun
        · rintro ⟨_, each, worth, resultFits⟩
          cases each with
          | @cons _ other _ digits one later =>
            rw [← digits_iff, found, Option.some.injEq] at one
            subst one
            rw [List.length_cons, worth_cons] at worth
            have grows : value * base + digit ≤ (value * base + digit) * base ^ digits.length :=
              Nat.le_mul_of_pos_right _ (Nat.pow_pos positive)
            omega

theorem readDigits_eq_some_iff_numeral (positive : 0 < base)
    (digits_iff : ∀ c digit, digit? c = some digit ↔ DigitOf base c digit) {text : List Char}
    (begun : text ≠ []) {value : Nat} :
    readDigits base digit? 0 text = some value ↔
      Numeral base text value ∧ value < UInt32.size := by
  rw [readDigits_eq_some_iff positive digits_iff (by decide)]
  simp only [Nat.zero_mul, Nat.zero_add]
  constructor
  · rintro ⟨digits, each, worth, fits⟩
    exact ⟨⟨digits, each, begun, worth⟩, fits⟩
  · rintro ⟨⟨digits, each, -, worth⟩, fits⟩
    exact ⟨digits, each, worth, fits⟩

end Reading

theorem DigitOf.unique {base : Nat} {c : Char} {digit other : Nat} (first : DigitOf base c digit)
    (second : DigitOf base c other) (small : base ≤ 16) : digit = other := by
  have read : hexDigit? c = some digit :=
    (hexDigit?_eq_some_iff c digit).2 ⟨first.1.trans_le small, first.2⟩
  have read' : hexDigit? c = some other :=
    (hexDigit?_eq_some_iff c other).2 ⟨second.1.trans_le small, second.2⟩
  exact Option.some.inj (read.symm.trans read')

theorem Numeral.unique {base : Nat} {text : List Char} {value other : Nat}
    (first : Numeral base text value) (second : Numeral base text other) (small : base ≤ 16) :
    value = other := by
  obtain ⟨digits, each, -, rfl⟩ := first
  obtain ⟨digits', each', -, rfl⟩ := second
  have same : digits = digits' := List.right_unique_forall₂'
    (fun one two three digit digit' => digit.unique digit' small) each each'
  rw [same]

/-! ## Names -/

/-- The characters of a numeral are digits. -/
theorem Numeral.digit {base : Nat} {text : List Char} {value : Nat}
    (numeral : Numeral base text value) {c : Char} (member : c ∈ text) :
    ∃ digit, DigitOf base c digit := by
  obtain ⟨digits, each, -⟩ := numeral
  induction each with
  | nil => cases member
  | cons first _ ih =>
    rcases List.mem_cons.1 member with rfl | later
    · exact ⟨_, first⟩
    · exact ih later

theorem not_digitOf_ten {c : Char} (other : decimalDigit? c = none) (digit : Nat) :
    ¬DigitOf 10 c digit := by
  rw [← decimalDigit?_eq_some_iff, other]
  nofun

theorem numbers_hexadecimal {text : List Char} {code : Nat} :
    Numbers ('#' :: 'x' :: text) code ↔ Numeral 16 text code := by
  constructor
  · rintro (⟨_, spelled, numeral⟩ | ⟨_, spelled, numeral⟩)
    · cases spelled
      obtain ⟨digit, marked⟩ := numeral.digit (List.mem_cons_self)
      exact absurd marked (not_digitOf_ten rfl digit)
    · cases spelled
      exact numeral
  · intro numeral
    exact .inr ⟨text, rfl, numeral⟩

theorem numbers_decimal {text : List Char} (other : text.head? ≠ some 'x') {code : Nat} :
    Numbers ('#' :: text) code ↔ Numeral 10 text code := by
  constructor
  · rintro (⟨_, spelled, numeral⟩ | ⟨_, spelled, numeral⟩)
    · cases spelled
      exact numeral
    · cases spelled
      exact absurd rfl other
  · intro numeral
    exact .inl ⟨text, rfl, numeral⟩

theorem Numbers.unique {name : List Char} {code other : Nat} (first : Numbers name code)
    (second : Numbers name other) : code = other := by
  rcases first with ⟨text, rfl, numeral⟩ | ⟨text, rfl, numeral⟩
  · have decimal : text.head? ≠ some 'x' := by
      intro begins
      obtain ⟨digit, marked⟩ := numeral.digit (List.mem_of_mem_head? begins)
      exact not_digitOf_ten rfl digit marked
    exact numeral.unique ((numbers_decimal decimal).1 second) (by decide)
  · exact numeral.unique (numbers_hexadecimal.1 second) (by decide)

theorem codePoint?_eq_some_iff {name : List Char} {code : Nat} :
    codePoint? name = some code ↔ Numbers name code ∧ code < UInt32.size := by
  unfold codePoint?
  split
  · simp [numbers_hexadecimal, Numeral]
  · next text begun =>
    rw [numbers_hexadecimal]
    exact readDigits_eq_some_iff_numeral (by decide) hexDigit?_eq_some_iff begun
  · rw [numbers_decimal (by decide)]
    simp [Numeral]
  · next text _ other begun =>
    have decimal : text.head? ≠ some 'x' := by
      intro begins
      obtain ⟨tail, spelled⟩ := List.head?_eq_some_iff.1 begins
      exact other tail spelled
    rw [numbers_decimal decimal]
    exact readDigits_eq_some_iff_numeral (by decide) decimalDigit?_eq_some_iff begun
  · next other =>
    constructor
    · nofun
    · rintro ⟨⟨text, rfl, -⟩ | ⟨text, rfl, -⟩, -⟩
      · exact (other text rfl).elim
      · exact (other ('x' :: text) rfl).elim

/-- Codes of permitted characters fit into 32 bits and are codes of characters. -/
theorem Permitted.lt {code : Nat} (permitted : Permitted code) : code < UInt32.size := by
  unfold Permitted at permitted
  rw [UInt32.size]
  omega

theorem Permitted.toNat_ofNat {code : Nat} (permitted : Permitted code) :
    (Char.ofNat code).toNat = code := by
  have valid : code.isValidChar := by
    unfold Permitted at permitted
    unfold Nat.isValidChar
    omega
  rw [Char.ofNat, dif_pos valid]
  rfl

theorem numeric?_eq_some_iff {name : String} {c : Char} :
    numeric? name = some c ↔ Numbers name.toList c.toNat ∧ Permitted c.toNat := by
  unfold numeric?
  split
  · next code read =>
    obtain ⟨numbers, fits⟩ := codePoint?_eq_some_iff.1 read
    split
    · next accepted =>
      have permitted := (isXmlChar_iff code).1 accepted
      rw [Option.some.injEq]
      constructor
      · rintro rfl
        rw [permitted.toNat_ofNat]
        exact ⟨numbers, permitted⟩
      · rintro ⟨numbers', -⟩
        rw [numbers.unique numbers', Char.ofNat_toNat]
    · next refused =>
      constructor
      · nofun
      · rintro ⟨numbers', permitted⟩
        rw [numbers'.unique numbers, ← isXmlChar_iff] at permitted
        exact absurd permitted refused
  · next unread =>
    constructor
    · nofun
    · rintro ⟨numbers, permitted⟩
      rw [codePoint?_eq_some_iff.2 ⟨numbers, permitted.lt⟩] at unread
      cases unread

theorem numeric?_eq_none_iff {name : String} :
    numeric? name = none ↔ ∀ code, Numbers name.toList code → ¬Permitted code := by
  constructor
  · intro refused code numbers permitted
    have read : numeric? name = some (Char.ofNat code) := by
      rw [numeric?_eq_some_iff, permitted.toNat_ofNat]
      exact ⟨numbers, permitted⟩
    rw [refused] at read
    cases read
  · intro unpermitted
    cases read : numeric? name with
    | none => rfl
    | some c =>
      obtain ⟨numbers, permitted⟩ := numeric?_eq_some_iff.1 read
      exact absurd permitted (unpermitted _ numbers)

/-- What is no mark in a name that gives a code is a digit. -/
theorem Numbers.mark_or_digit {name : List Char} {code : Nat} (numbers : Numbers name code)
    {c : Char} (member : c ∈ name) : c = '#' ∨ c = 'x' ∨ (hexDigit? c).isSome := by
  have digit {base : Nat} {text : List Char} (small : base ≤ 16) (numeral : Numeral base text code)
      (within : c ∈ text) : (hexDigit? c).isSome := by
    obtain ⟨digit, marked⟩ := numeral.digit within
    rw [(hexDigit?_eq_some_iff c digit).2 ⟨marked.1.trans_le small, marked.2⟩]
    rfl
  rcases numbers with ⟨text, rfl, numeral⟩ | ⟨text, rfl, numeral⟩
  · rcases List.mem_cons.1 member with mark | within
    · exact .inl mark
    · exact .inr (.inr (digit (by decide) numeral within))
  · simp only [List.mem_cons] at member
    rcases member with mark | mark | within
    · exact .inl mark
    · exact .inr (.inl mark)
    · exact .inr (.inr (digit (by decide) numeral within))

/-- A name without digits, or with a sign or a large `X` in it. -/
def Malformed (name : List Char) : Prop :=
  name = ['#'] ∨ name = ['#', 'x'] ∨ '+' ∈ name ∨ '-' ∈ name ∨ 'X' ∈ name

theorem Malformed.not_numbers {name : List Char} (malformed : Malformed name) (code : Nat) :
    ¬Numbers name code := by
  intro numbers
  rcases malformed with rfl | rfl | sign | sign | mark
  · rw [numbers_decimal (by decide)] at numbers
    obtain ⟨_, -, begun, -⟩ := numbers
    exact begun rfl
  · rw [numbers_hexadecimal] at numbers
    obtain ⟨_, -, begun, -⟩ := numbers
    exact begun rfl
  · exact absurd (numbers.mark_or_digit sign) (by decide)
  · exact absurd (numbers.mark_or_digit sign) (by decide)
  · exact absurd (numbers.mark_or_digit mark) (by decide)

/-- A numeric reference stands for a character exactly if its digits, of which there may be any
number, give the code of the character and documents may contain it. It stands for none if what
they give takes more than 32 bits, is a surrogate or may not be in a document, and if they give
nothing, as without digits, behind a sign or with a large `X`. -/
theorem numeric?_reads_numerals (name : String) :
    (∀ c, numeric? name = some c ↔ Numbers name.toList c.toNat ∧ Permitted c.toNat) ∧
    (∀ code, Numbers name.toList code →
      2 ^ 32 ≤ code ∨ 0xD800 ≤ code ∧ code ≤ 0xDFFF ∨ ¬Permitted code → numeric? name = none) ∧
    ((∀ code, ¬Numbers name.toList code) → numeric? name = none) ∧
    (Malformed name.toList → numeric? name = none) := by
  refine ⟨fun c => numeric?_eq_some_iff, ?_, ?_, ?_⟩
  · intro code numbers excluded
    have unpermitted : ¬Permitted code := by
      unfold Permitted at excluded ⊢
      omega
    rw [numeric?_eq_none_iff]
    intro other numbers'
    rwa [numbers'.unique numbers]
  · intro nothing
    rw [numeric?_eq_none_iff]
    exact fun code numbers => absurd numbers (nothing code)
  · intro malformed
    rw [numeric?_eq_none_iff]
    exact fun code numbers => absurd numbers (malformed.not_numbers code)

/-- Leading zeros with the highest code there is, in digits of both cases; one more than 32 bits
hold; and a sign. -/
theorem numeric?_reads_numerals_long :
    numeric? "#x000000000000010fFFf" = some (Char.ofNat 0x10FFFF) ∧
      Numbers "#x000000000000010fFFf".toList 0x10FFFF ∧
      Numbers "#4294967296".toList (2 ^ 32) ∧ numeric? "#4294967296" = none ∧
      (∀ code, ¬Numbers "65".toList code) ∧ numeric? "65" = none ∧
      Malformed "#+65".toList ∧ numeric? "#+65" = none := by
  have large : Numbers "#4294967296".toList (2 ^ 32) := by
    refine .inl ⟨"4294967296".toList, rfl, [4, 2, 9, 4, 9, 6, 7, 2, 9, 6], ?_, by decide, by decide⟩
    repeat' constructor
  have unmarked : ∀ code, ¬Numbers "65".toList code := by
    rintro code (⟨text, spelled, -⟩ | ⟨text, spelled, -⟩)
    · cases spelled
    · cases spelled
  have signed : Malformed "#+65".toList := .inr (.inr (.inl (by decide)))
  have read : numeric? "#x000000000000010fFFf" = some (Char.ofNat 0x10FFFF) := by decide
  exact ⟨read, (((numeric?_reads_numerals _).1 _).1 read).1, large,
    (numeric?_reads_numerals _).2.1 _ large (.inl (Nat.le_refl _)), unmarked,
    (numeric?_reads_numerals _).2.2.1 unmarked, signed, (numeric?_reads_numerals _).2.2.2 signed⟩

end XmlBuilder.Entity
