import Mathlib.Logic.Relation
import XmlBuilder.Proofs.Entity.Expansion

/-!
# How deep references may nest

A text expands exactly if each of its references is closed and declared, if the same holds of all
texts it uses, and if no chain of declared texts that use one another is longer than the levels
allow (`expansion_exists_iff`, by induction on the levels). On a cycle there are chains of every
length (`chain_of_cycle`), and so a text from which a cycle can be reached never expands.
-/
namespace XmlBuilder.Entity

open Relation (ReflTransGen TransGen)

/-- The text has a reference to this name, and the name stands for no character. -/
inductive Refers : String → String → Prop
  | here {before name after : String} :
    '&' ∉ before.toList → ';' ∉ name.toList → character? name = none →
      Refers (referring before name after) name
  | later {before name after other : String} :
    '&' ∉ before.toList → ';' ∉ name.toList → Refers after other →
      Refers (referring before name after) other

/-- Every reference that begins in the text ends in it. -/
inductive Closed : String → Prop
  | plain {text : String} : '&' ∉ text.toList → Closed text
  | reference {before name after : String} :
    '&' ∉ before.toList → ';' ∉ name.toList → Closed after → Closed (referring before name after)

variable {table : Table String}

/-- The text refers to a name for which this other text is declared. -/
def Uses (table : Table String) (text declared : String) : Prop :=
  ∃ name, Refers text name ∧ table.find? name = some declared

/-- Nothing is wrong with the references of a text and of all texts it uses, directly or not. -/
def Resolved (table : Table String) (text : String) : Prop :=
  ∀ used, ReflTransGen (Uses table) text used →
    Closed used ∧ ∀ name, Refers used name → ∃ declared, table.find? name = some declared

/-- From the text on, as many declared texts are nested in one another. -/
inductive Chain (table : Table String) : Nat → String → Prop
  | nil {text : String} : Chain table 0 text
  | cons {length : Nat} {text declared : String} :
    Uses table text declared → Chain table length declared → Chain table (length + 1) text

/-- What is declared for the first name refers to the second one. -/
def Mentions (table : Table String) (name other : String) : Prop :=
  ∃ declared, table.find? name = some declared ∧ Refers declared other

/-! ## The references of a text -/

/-- There is one way only to split a text at the first `c`. -/
theorem first_split_unique {c : Char} {before before' after after' : List Char}
    (free : c ∉ before) (free' : c ∉ before')
    (same : before ++ c :: after = before' ++ c :: after') : before = before' ∧ after = after' := by
  have cut {start rest : List Char} (without : c ∉ start) :
      (start ++ c :: rest).takeWhile (· != c) = start := by
    rw [List.takeWhile_append_of_pos (by
      intro d member
      have other : d ≠ c := fun equal => without (equal ▸ member)
      simpa using other)]
    simp
  have first := congrArg (List.takeWhile (· != c)) same
  rw [cut free, cut free'] at first
  subst first
  simpa using same

theorem amp_mem_referring (before name after : String) :
    '&' ∈ (referring before name after).toList := by
  simp

theorem not_refers_plain {text name : String} (plain : '&' ∉ text.toList) : ¬ Refers text name := by
  intro refers
  cases refers with
  | here => exact plain (amp_mem_referring _ _ _)
  | later => exact plain (amp_mem_referring _ _ _)

/-- There is one way only to split a text at its first reference. -/
theorem referring_unique {before before' name name' after after' : String}
    (plain : '&' ∉ before.toList) (plain' : '&' ∉ before'.toList) (closed : ';' ∉ name.toList)
    (closed' : ';' ∉ name'.toList)
    (same : referring before name after = referring before' name' after') :
    before = before' ∧ name = name' ∧ after = after' := by
  rw [← String.toList_inj, toList_referring, toList_referring] at same
  obtain ⟨sameBefore, same⟩ := first_split_unique plain plain' same
  obtain ⟨sameName, sameRest⟩ := first_split_unique closed closed' same
  exact ⟨String.toList_inj.1 sameBefore, String.toList_inj.1 sameName, String.toList_inj.1 sameRest⟩

theorem refers_referring_iff {before name after other : String} (plain : '&' ∉ before.toList)
    (closed : ';' ∉ name.toList) :
    Refers (referring before name after) other ↔
      other = name ∧ character? name = none ∨ Refers after other := by
  constructor
  · generalize whole : referring before name after = text
    intro refers
    cases refers with
    | here plain' closed' standing =>
      obtain ⟨-, rfl, rfl⟩ := referring_unique plain plain' closed closed' whole
      exact .inl ⟨rfl, standing⟩
    | later plain' closed' refers =>
      obtain ⟨-, rfl, rfl⟩ := referring_unique plain plain' closed closed' whole
      exact .inr refers
  · intro given
    rcases given with ⟨rfl, standing⟩ | refers
    · exact .here plain closed standing
    · exact .later plain closed refers

/-! ## What is needed for an expansion -/

theorem Expansion.needs {levels : Nat} {text out : String}
    (form : Expansion table levels text out) :
    Closed text ∧ ∀ name, Refers text name → ∃ lower declared, levels = lower + 1 ∧
      table.find? name = some declared ∧ ∃ expanded, Expansion table lower declared expanded := by
  induction form with
  | plain plain => exact ⟨.plain plain, fun _ refers => absurd refers (not_refers_plain plain)⟩
  | character plain closes standing _ ih =>
    refine ⟨.reference plain closes ih.1, ?_⟩
    intro other refers
    rcases (refers_referring_iff plain closes).1 refers with ⟨-, none⟩ | later
    · rw [standing] at none
      cases none
    · exact ih.2 other later
  | declared plain closes _ found inner _ _ ih =>
    refine ⟨.reference plain closes ih.1, ?_⟩
    intro other refers
    rcases (refers_referring_iff plain closes).1 refers with ⟨rfl, -⟩ | later
    · exact ⟨_, _, rfl, found, _, inner⟩
    · exact ih.2 other later

theorem Closed.expansion {levels : Nat} {text : String} (closed : Closed text)
    (each : ∀ name, Refers text name → ∃ lower declared, levels = lower + 1 ∧
      table.find? name = some declared ∧ ∃ expanded, Expansion table lower declared expanded) :
    ∃ out, Expansion table levels text out := by
  induction closed with
  | plain plain => exact ⟨_, .plain plain⟩
  | @reference before name after plain closes _ ih =>
    obtain ⟨rest, later⟩ := ih fun other refers => each other (.later plain closes refers)
    cases standing : character? name with
    | some c => exact ⟨_, .character plain closes standing later⟩
    | none =>
      obtain ⟨lower, declared, rfl, found, expanded, inner⟩ :=
        each name (.here plain closes standing)
      exact ⟨_, .declared plain closes standing found inner later⟩

theorem Resolved.of_uses {text declared : String} (resolved : Resolved table text)
    (uses : Uses table text declared) : Resolved table declared := by
  intro used reached
  exact resolved used (.head uses reached)

theorem Expansion.resolved {levels : Nat} {text out : String}
    (form : Expansion table levels text out) :
    Resolved table text ∧ ¬ Chain table (levels + 1) text := by
  induction levels using Nat.strongRecOn generalizing text out with
  | ind levels ih =>
    obtain ⟨closed, each⟩ := form.needs
    have below : ∀ declared, Uses table text declared → ∃ lower, levels = lower + 1 ∧
        Resolved table declared ∧ ¬ Chain table (lower + 1) declared := by
      rintro declared ⟨name, refers, found⟩
      obtain ⟨lower, _, rfl, found', expanded, inner⟩ := each name refers
      cases found.symm.trans found'
      exact ⟨lower, rfl, ih lower (by omega) inner⟩
    constructor
    · intro used reached
      rcases reached.cases_head with rfl | ⟨declared, uses, onwards⟩
      · refine ⟨closed, fun name refers => ?_⟩
        obtain ⟨-, declared, -, found, -⟩ := each name refers
        exact ⟨declared, found⟩
      · obtain ⟨lower, rfl, resolved, -⟩ := below declared uses
        exact resolved used onwards
    · intro chain
      cases chain with
      | cons uses onwards =>
        obtain ⟨lower, rfl, -, short⟩ := below _ uses
        exact short onwards

theorem Resolved.expansion {levels : Nat} {text : String} (resolved : Resolved table text)
    (short : ¬ Chain table (levels + 1) text) : ∃ out, Expansion table levels text out := by
  induction levels generalizing text with
  | zero =>
    obtain ⟨closed, each⟩ := resolved text .refl
    refine closed.expansion fun name refers => ?_
    obtain ⟨declared, found⟩ := each name refers
    exact absurd (.cons ⟨name, refers, found⟩ .nil) short
  | succ lower ih =>
    obtain ⟨closed, each⟩ := resolved text .refl
    refine closed.expansion fun name refers => ?_
    obtain ⟨declared, found⟩ := each name refers
    have uses : Uses table text declared := ⟨name, refers, found⟩
    exact ⟨lower, declared, rfl, found,
      ih (resolved.of_uses uses) fun chain => short (.cons uses chain)⟩

/-- A text expands on so many levels exactly if no reference is at fault and no chain is longer. -/
theorem expansion_exists_iff {levels : Nat} {text : String} :
    (∃ out, Expansion table levels text out) ↔
      Resolved table text ∧ ¬ Chain table (levels + 1) text := by
  constructor
  · intro given
    obtain ⟨out, form⟩ := given
    exact form.resolved
  · intro given
    exact given.1.expansion given.2

/-! ## Cycles -/

/-- Among names each of which mentions another one, chains go on for ever. -/
theorem chain_of_endless {names : String → Prop}
    (endless : ∀ name, names name → ∃ other, Mentions table name other ∧ names other)
    (length : Nat) {text name : String} (refers : Refers text name) (member : names name) :
    Chain table length text := by
  induction length generalizing text name with
  | zero => exact .nil
  | succ length ih =>
    obtain ⟨other, ⟨declared, found, mentioned⟩, member'⟩ := endless name member
    exact .cons ⟨name, refers, found⟩ (ih mentioned member')

theorem chain_of_cycle {text first name : String} (refers : Refers text first)
    (reached : ReflTransGen (Mentions table) first name)
    (cycle : TransGen (Mentions table) name name) (length : Nat) : Chain table length text := by
  have endless : ∀ one, TransGen (Mentions table) one name →
      ∃ other, Mentions table one other ∧ TransGen (Mentions table) other name := by
    intro one towards
    obtain ⟨other, mentions, onwards⟩ := TransGen.head'_iff.1 towards
    exact ⟨other, mentions, .trans_right onwards cycle⟩
  exact chain_of_endless endless length refers (.trans_right reached cycle)

/-! ## The meaning of a run -/

/-- The texts that are given are the expansions on the levels there are, cycles or not: one that
fits the limit is always given, and where there is none an error is, whatever the limit. Chains of
declared texts expand up to the number of levels; longer ones do not, and no text does from which
a cycle of names can be reached. -/
theorem expand_is_expansion (table : Table String) (limit : Option Nat) (text : String) :
    (∀ out, Expansion table 16 text out → (∀ max ∈ limit, out.utf8ByteSize ≤ max) →
      expand table limit maxLevels text = .ok out) ∧
    (∀ out, expand table limit maxLevels text = .ok out → Expansion table 16 text out) ∧
    ((¬ ∃ out, Expansion table 16 text out) →
      ∃ cause, expand table limit maxLevels text = .error cause) ∧
    ((∃ out, Expansion table 16 text out) ↔ Resolved table text ∧ ¬ Chain table 17 text) ∧
    (Chain table 17 text → ∃ cause, expand table limit maxLevels text = .error cause) ∧
    (∀ first name, Refers text first → ReflTransGen (Mentions table) first name →
      TransGen (Mentions table) name name →
        ∃ cause, expand table limit maxLevels text = .error cause) := by
  have refused (none : ¬ ∃ out, Expansion table 16 text out) :
      ∃ cause, expand table limit maxLevels text = .error cause := by
    cases result : expand table limit maxLevels text with
    | error cause => exact ⟨cause, rfl⟩
    | ok out => exact absurd ⟨out, expand_sound result⟩ none
  have long (chain : Chain table 17 text) :
      ∃ cause, expand table limit maxLevels text = .error cause := by
    apply refused
    intro given
    exact (expansion_exists_iff.1 given).2 chain
  refine ⟨fun out form fits => expand_complete form (exceeded?_eq_none_iff.2 fits),
    fun out => expand_sound, refused, expansion_exists_iff, long, ?_⟩
  intro first name refers reached cycle
  exact long (chain_of_cycle refers reached cycle 17)

/-- A text that is nested in another one, and two that refer to each other. -/
def nestedAndCyclic : Table String :=
  [("a", referring "x" "b" ""), ("b", referring "" "lt" ""), ("c", referring "" "d" ""),
    ("d", referring "" "c" "")]

theorem expand_is_expansion_nested_and_cyclic :
    expand nestedAndCyclic (some 4) maxLevels "1&a;2" = .ok "1x<2" ∧
      ∃ cause, expand nestedAndCyclic (some 4) maxLevels "&c;" = .error cause := by
  have last : Expansion nestedAndCyclic 14 (referring "" "lt" "")
      ("" ++ String.singleton '<' ++ "") :=
    .character (by decide) (by decide) (by decide) (.plain (by decide))
  have inner : Expansion nestedAndCyclic 15 (referring "x" "b" "") ("x" ++ _ ++ "") :=
    .declared (by decide) (by decide) (by decide) rfl last (.plain (by decide))
  have whole : Expansion nestedAndCyclic 16 (referring "1" "a" "2") ("1" ++ _ ++ "2") :=
    .declared (by decide) (by decide) (by decide) rfl inner (.plain (by decide))
  have toC : Refers (referring "" "c" "") "c" := .here (by decide) (by decide) (by decide)
  have toD : Refers (referring "" "d" "") "d" := .here (by decide) (by decide) (by decide)
  have cycle : TransGen (Mentions nestedAndCyclic) "c" "c" :=
    .tail (.single ⟨_, rfl, toD⟩) ⟨_, rfl, toC⟩
  constructor
  · exact (expand_is_expansion nestedAndCyclic (some 4) "1&a;2").1 "1x<2" whole (by decide)
  · exact (expand_is_expansion nestedAndCyclic (some 4) "&c;").2.2.2.2.2 "c" "c" toC .refl cycle

end XmlBuilder.Entity
