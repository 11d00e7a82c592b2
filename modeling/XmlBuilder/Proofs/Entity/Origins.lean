import XmlBuilder.Proofs.Entity.Nesting

/-!
# Where the characters of an expansion come from

A text has characters of its own in what an expansion makes of it: those that stand in it outside
its references (`Outside`) and those its references denote (`Denotes`). The characters of an
expansion are those of the text and of all texts it uses, directly or not
(`Expansion.mem_iff_supplied`, by induction along the expansion). An expansion changes none of
them: what is declared arrives as it is declared.
-/
namespace XmlBuilder.Entity

open Relation (ReflTransGen TransGen)

variable {table : Table String} {c : Char}

/-- The character stands in the text, and not within a reference. -/
inductive Outside (c : Char) : String → Prop
  | plain {text : String} : '&' ∉ text.toList → c ∈ text.toList → Outside c text
  | before {before name after : String} :
    '&' ∉ before.toList → ';' ∉ name.toList → c ∈ before.toList →
      Outside c (referring before name after)
  | later {before name after : String} :
    '&' ∉ before.toList → ';' ∉ name.toList → Outside c after →
      Outside c (referring before name after)

/-- The text has a reference that stands for the character. -/
inductive Denotes (c : Char) : String → Prop
  | here {before name after : String} :
    '&' ∉ before.toList → ';' ∉ name.toList → character? name = some c →
      Denotes c (referring before name after)
  | later {before name after : String} :
    '&' ∉ before.toList → ';' ∉ name.toList → Denotes c after →
      Denotes c (referring before name after)

/-- The text or one it uses, directly or not, has the character. -/
def Supplied (table : Table String) (c : Char) (text : String) : Prop :=
  ∃ used, ReflTransGen (Uses table) text used ∧ (Outside c used ∨ Denotes c used)

theorem Outside.mem {text : String} (outside : Outside c text) : c ∈ text.toList := by
  induction outside with
  | plain _ member => exact member
  | before _ _ member => simp [member]
  | later _ _ _ ih => simp [ih]

/-! ## The first reference of a text -/

section FirstReference

variable {before name after : String} (plain : '&' ∉ before.toList) (closed : ';' ∉ name.toList)

include plain closed

theorem outside_referring_iff :
    Outside c (referring before name after) ↔ c ∈ before.toList ∨ Outside c after := by
  constructor
  · generalize whole : referring before name after = text
    intro outside
    cases outside with
    | plain none => exact absurd (whole ▸ amp_mem_referring before name after) none
    | before plain' closed' member =>
      obtain ⟨rfl, -, -⟩ := referring_unique plain plain' closed closed' whole
      exact .inl member
    | later plain' closed' outside =>
      obtain ⟨-, -, rfl⟩ := referring_unique plain plain' closed closed' whole
      exact .inr outside
  · intro given
    rcases given with member | outside
    · exact .before plain closed member
    · exact .later plain closed outside

theorem denotes_referring_iff :
    Denotes c (referring before name after) ↔ character? name = some c ∨ Denotes c after := by
  constructor
  · generalize whole : referring before name after = text
    intro denotes
    cases denotes with
    | here plain' closed' standing =>
      obtain ⟨-, rfl, -⟩ := referring_unique plain plain' closed closed' whole
      exact .inl standing
    | later plain' closed' denotes =>
      obtain ⟨-, -, rfl⟩ := referring_unique plain plain' closed closed' whole
      exact .inr denotes
  · intro given
    rcases given with standing | denotes
    · exact .here plain closed standing
    · exact .later plain closed denotes

theorem uses_referring_iff {declared : String} :
    Uses table (referring before name after) declared ↔
      character? name = none ∧ table.find? name = some declared ∨ Uses table after declared := by
  constructor
  · rintro ⟨other, refers, found⟩
    rcases (refers_referring_iff plain closed).1 refers with ⟨rfl, standing⟩ | refers
    · exact .inl ⟨standing, found⟩
    · exact .inr ⟨other, refers, found⟩
  · rintro (⟨standing, found⟩ | ⟨other, refers, found⟩)
    · exact ⟨name, .here plain closed standing, found⟩
    · exact ⟨other, .later plain closed refers, found⟩

end FirstReference

theorem outside_plain_iff {text : String} (plain : '&' ∉ text.toList) :
    Outside c text ↔ c ∈ text.toList :=
  ⟨Outside.mem, .plain plain⟩

theorem not_denotes_plain {text : String} (plain : '&' ∉ text.toList) : ¬ Denotes c text := by
  intro denotes
  cases denotes <;> exact plain (amp_mem_referring _ _ _)

theorem not_uses_plain {text declared : String} (plain : '&' ∉ text.toList) :
    ¬ Uses table text declared := by
  rintro ⟨name, refers, -⟩
  exact not_refers_plain plain refers

/-! ## What a text supplies -/

theorem supplied_iff {text : String} :
    Supplied table c text ↔
      (Outside c text ∨ Denotes c text) ∨ ∃ declared, Uses table text declared ∧
        Supplied table c declared := by
  constructor
  · rintro ⟨used, reached, has⟩
    rcases reached.cases_head with rfl | ⟨declared, uses, onwards⟩
    · exact .inl has
    · exact .inr ⟨declared, uses, used, onwards, has⟩
  · rintro (has | ⟨declared, uses, used, onwards, has⟩)
    · exact ⟨text, .refl, has⟩
    · exact ⟨used, .head uses onwards, has⟩

theorem supplied_plain_iff {text : String} (plain : '&' ∉ text.toList) :
    Supplied table c text ↔ c ∈ text.toList := by
  rw [supplied_iff, outside_plain_iff plain]
  simp [not_denotes_plain plain, not_uses_plain plain]

theorem supplied_character_iff {before name after : String} {d : Char}
    (plain : '&' ∉ before.toList) (closed : ';' ∉ name.toList)
    (standing : character? name = some d) :
    Supplied table c (referring before name after) ↔
      (c ∈ before.toList ∨ c = d) ∨ Supplied table c after := by
  rw [supplied_iff, outside_referring_iff plain closed, denotes_referring_iff plain closed,
    @supplied_iff table c after]
  simp only [uses_referring_iff plain closed, standing, Option.some.injEq, reduceCtorEq, false_and,
    false_or]
  grind

theorem supplied_declared_iff {before name after text : String} (plain : '&' ∉ before.toList)
    (closed : ';' ∉ name.toList) (standing : character? name = none)
    (found : table.find? name = some text) :
    Supplied table c (referring before name after) ↔
      (c ∈ before.toList ∨ Supplied table c text) ∨ Supplied table c after := by
  rw [supplied_iff, outside_referring_iff plain closed, denotes_referring_iff plain closed,
    @supplied_iff table c after]
  simp only [uses_referring_iff plain closed, standing, found, Option.some.injEq, reduceCtorEq,
    true_and, false_or]
  grind

theorem Expansion.mem_iff_supplied {levels : Nat} {text out : String}
    (form : Expansion table levels text out) : c ∈ out.toList ↔ Supplied table c text := by
  induction form with
  | plain plain => exact (supplied_plain_iff plain).symm
  | character plain closed standing _ ih =>
    rw [supplied_character_iff plain closed standing, ← ih]
    simp [or_assoc]
  | declared plain closed standing found _ _ inner ih =>
    rw [supplied_declared_iff plain closed standing found, ← inner, ← ih]
    simp [or_assoc]

/-- A character that does not stand in the text itself comes from a reference to it or stands in a
declared text. -/
theorem supplied_iff_of_absent {text : String} (absent : c ∉ text.toList) :
    Supplied table c text ↔
      (∃ used, ReflTransGen (Uses table) text used ∧ Denotes c used) ∨
        ∃ declared, TransGen (Uses table) text declared ∧ Outside c declared := by
  constructor
  · rintro ⟨used, reached, outside | denotes⟩
    · rcases Relation.reflTransGen_iff_eq_or_transGen.1 reached with rfl | uses
      · exact absurd outside.mem absent
      · exact .inr ⟨used, uses, outside⟩
    · exact .inl ⟨used, reached, denotes⟩
  · rintro (⟨used, reached, denotes⟩ | ⟨declared, uses, outside⟩)
    · exact ⟨used, reached, .inr denotes⟩
    · exact ⟨declared, uses.to_reflTransGen, .inl outside⟩

end XmlBuilder.Entity
