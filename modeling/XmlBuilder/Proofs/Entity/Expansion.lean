import Mathlib.Data.List.Basic
import XmlBuilder.Entity
import XmlBuilder.Limits

/-!
# What references expand to

`Expansion` says what a text stands for once its references are expanded: what is declared for a
name is expanded too, one level further down, and what has been put in is not looked at again. The
run of `expand` and this relation agree. What is given is an expansion (`expand_sound`, along the
references of the text), and an expansion that fits the limit is given (`expand_complete`, along
the relation): what has been written at any moment of the run, at any level, is part of the result,
so that no size is refused on the way if the whole fits.

The size of what is written is looked at behind each reference and nowhere else. `expand_split`
says what of the result that keeps within the limit, and `expand_refused` what causes there are to
give no result.
-/
namespace XmlBuilder

/-- A text may be as long as a document. -/
theorem Limits.exceeded?_textLimit {limits : Limits} {size : Nat} :
    Entity.exceeded? limits.textLimit size = none ↔ limits.oversized size = false := by
  rw [Entity.exceeded?_eq_none_iff, oversized_eq_false]
  simp only [mem_textLimit_iff]
  by_cases unlimited : limits.maxSize = 0
  · simp [unlimited]
  · simp [unlimited]

namespace Entity

theorem exceeded?_mono {limit : Option Nat} {small large : Nat} (le : small ≤ large)
    (fits : exceeded? limit large = none) : exceeded? limit small = none := by
  rw [exceeded?_eq_none_iff] at fits ⊢
  exact fun max given => Nat.le_trans le (fits max given)

/-- A text with a reference in it. -/
def referring (before name after : String) : String :=
  before ++ "&" ++ name ++ ";" ++ after

/-- What a text stands for, where declared texts may refer to others `levels` deep. -/
inductive Expansion (table : Table String) : Nat → String → String → Prop
  | plain {levels : Nat} {text : String} : '&' ∉ text.toList → Expansion table levels text text
  | character {levels : Nat} {before name after rest : String} {c : Char} :
    '&' ∉ before.toList → ';' ∉ name.toList → character? name = some c →
      Expansion table levels after rest →
      Expansion table levels (referring before name after) (before ++ String.singleton c ++ rest)
  | declared {levels : Nat} {before name after text expanded rest : String} :
    '&' ∉ before.toList → ';' ∉ name.toList → character? name = none →
      table.find? name = some text → Expansion table levels text expanded →
      Expansion table (levels + 1) after rest →
      Expansion table (levels + 1) (referring before name after) (before ++ expanded ++ rest)

/-! ## The references of a text -/

@[simp]
theorem toList_referring (before name after : String) :
    (referring before name after).toList =
      before.toList ++ '&' :: (name.toList ++ ';' :: after.toList) := by
  simp [referring]

theorem append_referring (start before name after : String) :
    start ++ referring before name after = referring (start ++ before) name after := by
  simp [← String.toList_inj]

theorem referring_append (before name after tail : String) :
    referring before name after ++ tail = referring before name (after ++ tail) := by
  simp [← String.toList_inj]

theorem Expansion.eq_of_plain {table : Table String} {levels : Nat} {text out : String}
    (form : Expansion table levels text out) (plain : '&' ∉ text.toList) : out = text := by
  cases form with
  | plain => rfl
  | character | declared => exact absurd plain (by simp)

theorem Expansion.prepend {table : Table String} {levels : Nat} {start text out : String}
    (form : Expansion table levels text out) (plain : '&' ∉ start.toList) :
    Expansion table levels (start ++ text) (start ++ out) := by
  cases form with
  | plain none => exact .plain (by simpa [plain] using none)
  | character first closes standing later =>
    rw [append_referring, ← String.append_assoc, ← String.append_assoc]
    exact .character (by simpa [plain] using first) closes standing later
  | declared first closes other found inner later =>
    rw [append_referring, ← String.append_assoc, ← String.append_assoc]
    exact .declared (by simpa [plain] using first) closes other found inner later

theorem Expansion.append {table : Table String} {levels : Nat} {text out tail : String}
    (form : Expansion table levels text out) (plain : '&' ∉ tail.toList) :
    Expansion table levels (text ++ tail) (out ++ tail) := by
  induction form with
  | plain none => exact .plain (by simpa [plain] using none)
  | character first closes standing _ ih =>
    rw [referring_append, String.append_assoc]
    exact .character first closes standing ih
  | declared first closes other found inner _ _ ih =>
    rw [referring_append, String.append_assoc]
    exact .declared first closes other found inner ih

/-- Every text is made up so: its first reference, if it has one, is closed or is not. -/
inductive Segments : String → Prop
  | plain {text : String} : '&' ∉ text.toList → Segments text
  | unclosed {before name : String} :
    '&' ∉ before.toList → ';' ∉ name.toList → Segments (before ++ "&" ++ name)
  | reference {before name after : String} :
    '&' ∉ before.toList → ';' ∉ name.toList → Segments after →
      Segments (referring before name after)

theorem segments (text : String) : Segments text := by
  by_cases amp : '&' ∈ text.toList
  · obtain ⟨before, tail, split, first⟩ := List.eq_append_cons_of_mem amp
    by_cases semi : ';' ∈ tail
    · obtain ⟨name, after, rfl, closed⟩ := List.eq_append_cons_of_mem semi
      have shorter : after.length < text.toList.length := by
        rw [split]
        simp
        omega
      have whole : text = referring (String.ofList before) (String.ofList name)
          (String.ofList after) := by
        simp [← String.toList_inj, split]
      rw [whole]
      exact .reference (by simpa using first) (by simpa using closed)
        (segments (String.ofList after))
    · have whole : text = String.ofList before ++ "&" ++ String.ofList tail := by
        simp [← String.toList_inj, split]
      rw [whole]
      exact .unclosed (by simpa using first) (by simpa using semi)
  · exact .plain amp
termination_by text.toList.length
decreasing_by simpa using shorter

/-- The last reference of the text, if there is one, ends with `closed`, and `tail` is what stands
behind it. -/
structure BehindReferences (text closed tail : String) : Prop where
  whole : text = closed ++ tail
  noReference : '&' ∉ tail.toList
  ends : closed = "" ∨ ∃ start name, closed = referring start name "" ∧ ';' ∉ name.toList

theorem BehindReferences.extend {before name after closed tail : String}
    (behind : BehindReferences after closed tail) (closes : ';' ∉ name.toList) :
    BehindReferences (referring before name after) (referring before name closed) tail where
  whole := by rw [behind.whole, referring_append]
  noReference := behind.noReference
  ends := by
    rcases behind.ends with rfl | ⟨start, last, rfl, closed⟩
    · exact .inr ⟨before, name, rfl, closes⟩
    · exact .inr ⟨referring before name start, last, append_referring _ start last "", closed⟩

theorem BehindReferences.expansion {table : Table String} {levels : Nat}
    {text closed tail head : String} (behind : BehindReferences text closed tail)
    (form : Expansion table levels closed head) : Expansion table levels text (head ++ tail) := by
  rw [behind.whole]
  exact form.append behind.noReference

/-! ## One reference in a run -/

section Run

variable {replace : String → Except Cause String} {limit : Option Nat}

theorem substitute_before {out : String} {before rest : List Char} (plain : '&' ∉ before) :
    substitute replace limit out none (before ++ rest) =
      substitute replace limit (out ++ String.ofList before) none rest := by
  induction before generalizing out with
  | nil => simp
  | cons c tail ih =>
    rw [List.mem_cons, not_or] at plain
    have other : ¬ c = '&' := fun same => plain.1 same.symm
    have pushed : out.push c ++ String.ofList tail = out ++ String.ofList (c :: tail) := by
      simp [← String.toList_inj]
    rw [List.cons_append, substitute]
    simp only [beq_iff_eq, if_neg other]
    rw [ih plain.2, pushed]

theorem substitute_plain {out text : String} (plain : '&' ∉ text.toList) :
    substitute replace limit out none text.toList = .ok (out ++ text) := by
  rw [← List.append_nil text.toList, substitute_before plain, String.ofList_toList]
  rfl

theorem substitute_name {out : String} {read name rest : List Char} (closed : ';' ∉ name) :
    substitute replace limit out (some read) (name ++ rest) =
      substitute replace limit out (some (name.reverse ++ read)) rest := by
  induction name generalizing read with
  | nil => rfl
  | cons c tail ih =>
    rw [List.mem_cons, not_or] at closed
    have other : ¬ c = ';' := fun same => closed.1 same.symm
    rw [List.cons_append, substitute]
    simp only [beq_iff_eq, if_neg other]
    rw [ih closed.2]
    simp

theorem substitute_unclosed {out before name : String} (plain : '&' ∉ before.toList)
    (unclosed : ';' ∉ name.toList) :
    substitute replace limit out none (before ++ "&" ++ name).toList =
      .error (.invalidEntity name) := by
  have split : (before ++ "&" ++ name).toList = before.toList ++ '&' :: (name.toList ++ []) := by
    simp
  rw [split, substitute_before plain, substitute, if_pos (beq_self_eq_true _),
    substitute_name unclosed]
  simp [substitute]

/-- What a reference is replaced by is written behind what stands before it, if that fits. -/
theorem substitute_referring {out before name after : String} (plain : '&' ∉ before.toList)
    (closed : ';' ∉ name.toList) :
    substitute replace limit out none (referring before name after).toList =
      match replace name with
      | .error cause => .error cause
      | .ok text =>
        match exceeded? limit (out ++ before ++ text).utf8ByteSize with
        | some max => .error (.sizeExceeded max)
        | none => substitute replace limit (out ++ before ++ text) none after.toList := by
  rw [toList_referring, substitute_before plain, substitute]
  simp only [beq_self_eq_true, if_true, String.ofList_toList]
  rw [substitute_name closed, substitute, if_pos (beq_self_eq_true _)]
  have same : replace (String.ofList (name.toList.reverse ++ []).reverse) = replace name := by simp
  cases replaced : replace name with
  | error cause => rw [same, replaced]
  | ok text =>
    cases large : exceeded? limit (out ++ before ++ text).utf8ByteSize with
    | some max => simp only [same, replaced, large]
    | none => simp only [same, replaced, large]

end Run

/-! ## Runs and expansions -/

/-- What is declared for a name, expanded on the levels that are left. -/
def declaredText (table : Table String) (limit : Option Nat) :
    Nat → String → Except Cause String
  | 0, name => .error (.invalidEntity name)
  | levels + 1, name =>
    match table.find? name with
    | some declared => expand table limit levels declared
    | none => .error (.invalidEntity name)

theorem expand_eq (table : Table String) (limit : Option Nat) (levels : Nat) (text : String) :
    expand table limit levels text =
      substitute (replacement (declaredText table limit levels)) limit "" none text.toList := by
  cases levels with
  | zero => rw [expand]; rfl
  | succ levels => rw [expand]; rfl

theorem declaredText_ok {table : Table String} {limit : Option Nat} {levels : Nat}
    {name expanded : String} (h : declaredText table limit levels name = .ok expanded) :
    ∃ below text, levels = below + 1 ∧ table.find? name = some text ∧
      expand table limit below text = .ok expanded := by
  cases levels with
  | zero => cases h
  | succ below =>
    rw [declaredText] at h
    split at h
    · next text found => exact ⟨below, text, rfl, found, h⟩
    · cases h

theorem substitute_sound {table : Table String} {limit : Option Nat} {levels : Nat}
    (below : ∀ lower text expanded, levels = lower + 1 →
      expand table limit lower text = .ok expanded → Expansion table lower text expanded)
    {text out result : String}
    (h : substitute (replacement (declaredText table limit levels)) limit out none text.toList =
      .ok result) :
    ∃ closed tail head, BehindReferences text closed tail ∧ result = out ++ head ++ tail ∧
      Expansion table levels closed head ∧
      (closed = "" ∧ head = "" ∨ exceeded? limit (out ++ head).utf8ByteSize = none) := by
  induction segments text generalizing out with
  | @plain text plain =>
    rw [substitute_plain plain] at h
    cases h
    exact ⟨"", text, "", ⟨by simp, plain, .inl rfl⟩, by simp, .plain (by simp), .inl ⟨rfl, rfl⟩⟩
  | unclosed plain unclosed =>
    rw [substitute_unclosed plain unclosed] at h
    cases h
  | @reference before name after plain closes _ ih =>
    rw [substitute_referring plain closes] at h
    split at h
    · cases h
    · next replaced found =>
      split at h
      · cases h
      · next fits =>
        obtain ⟨closed, tail, head, behind, rfl, later, within⟩ := ih h
        have joined : out ++ before ++ replaced ++ head = out ++ (before ++ replaced ++ head) := by
          simp only [String.append_assoc]
        refine ⟨referring before name closed, tail, before ++ replaced ++ head,
          behind.extend closes, by rw [joined], ?_, .inr ?_⟩
        · unfold replacement at found
          split at found
          · next c standing =>
            cases found
            exact .character plain closes standing later
          · next other =>
            obtain ⟨lower, text, rfl, declared, expanded⟩ := declaredText_ok found
            exact .declared plain closes other declared
              (below lower text replaced rfl expanded) later
        · rw [← joined]
          rcases within with ⟨-, rfl⟩ | within
          · simpa using fits
          · exact within

/-- What is given is an expansion. Behind its last reference the text is left as it is, and the
expansion up to there fits. -/
theorem expand_split {table : Table String} {limit : Option Nat} {levels : Nat} {text out : String}
    (h : expand table limit levels text = .ok out) :
    ∃ closed tail head, BehindReferences text closed tail ∧ out = head ++ tail ∧
      Expansion table levels closed head ∧
      (closed = "" ∧ head = "" ∨ exceeded? limit head.utf8ByteSize = none) := by
  induction levels generalizing text out with
  | zero =>
    rw [expand_eq] at h
    simpa only [String.empty_append] using substitute_sound (by simp) h
  | succ levels ih =>
    have below : ∀ lower text expanded, levels + 1 = lower + 1 →
        expand table limit lower text = .ok expanded → Expansion table lower text expanded := by
      intro lower text expanded same done
      cases same
      obtain ⟨closed, tail, head, behind, rfl, form, -⟩ := ih done
      exact behind.expansion form
    rw [expand_eq] at h
    simpa only [String.empty_append] using substitute_sound below h

theorem expand_sound {table : Table String} {limit : Option Nat} {levels : Nat} {text out : String}
    (h : expand table limit levels text = .ok out) : Expansion table levels text out := by
  obtain ⟨closed, tail, head, behind, rfl, form, -⟩ := expand_split h
  exact behind.expansion form

theorem substitute_complete {table : Table String} {limit : Option Nat} {levels : Nat}
    {text result : String} (form : Expansion table levels text result) {out : String}
    (fits : exceeded? limit (out ++ result).utf8ByteSize = none) :
    substitute (replacement (declaredText table limit levels)) limit out none text.toList =
      .ok (out ++ result) := by
  induction form generalizing out with
  | plain plain => exact substitute_plain plain
  | @character levels before name after rest c plain closed standing _ ih =>
    have joined : out ++ (before ++ String.singleton c ++ rest) =
        out ++ before ++ String.singleton c ++ rest := by
      simp only [String.append_assoc]
    rw [joined] at fits ⊢
    have written : exceeded? limit (out ++ before ++ String.singleton c).utf8ByteSize = none :=
      exceeded?_mono (by simp [String.utf8ByteSize_append]) fits
    rw [substitute_referring plain closed, replacement, standing]
    simp only [written]
    exact ih fits
  | @declared levels before name after text expanded rest plain closed other declared _ _ inner
      later =>
    have joined : out ++ (before ++ expanded ++ rest) = out ++ before ++ expanded ++ rest := by
      simp only [String.append_assoc]
    rw [joined] at fits ⊢
    have written : exceeded? limit (out ++ before ++ expanded).utf8ByteSize = none :=
      exceeded?_mono (by simp [String.utf8ByteSize_append]) fits
    have alone : exceeded? limit ("" ++ expanded).utf8ByteSize = none :=
      exceeded?_mono (by simp [String.utf8ByteSize_append]; omega) fits
    have found : declaredText table limit (levels + 1) name = .ok expanded := by
      rw [declaredText, declared]
      dsimp only
      rw [expand_eq, inner alone, String.empty_append]
    rw [substitute_referring plain closed, replacement, other]
    simp only [found, written]
    exact later fits

theorem expand_complete {table : Table String} {limit : Option Nat} {levels : Nat}
    {text out : String}
    (form : Expansion table levels text out) (fits : exceeded? limit out.utf8ByteSize = none) :
    expand table limit levels text = .ok out := by
  have alone : exceeded? limit ("" ++ out).utf8ByteSize = none := by
    rwa [String.empty_append]
  rw [expand_eq, substitute_complete form alone, String.empty_append]

/-! ## Refusals -/

/-- What a text is refused for: a reference in it, or its size. -/
def RefusedFor (cause : Cause) : Prop :=
  (∃ name, cause = .invalidEntity name) ∨ ∃ max, cause = .sizeExceeded max

theorem substitute_refused {replace : String → Except Cause String} {limit : Option Nat}
    (each : ∀ name cause, replace name = .error cause → RefusedFor cause) {text out : String}
    {cause : Cause} (failed : substitute replace limit out none text.toList = .error cause) :
    RefusedFor cause := by
  induction segments text generalizing out with
  | plain plain =>
    rw [substitute_plain plain] at failed
    cases failed
  | unclosed plain unclosed =>
    rw [substitute_unclosed plain unclosed] at failed
    cases failed
    exact .inl ⟨_, rfl⟩
  | reference plain closes _ ih =>
    rw [substitute_referring plain closes] at failed
    split at failed
    · next refused =>
      cases failed
      exact each _ _ refused
    · split at failed
      · cases failed
        exact .inr ⟨_, rfl⟩
      · exact ih failed

theorem replacement_refused {declared : String → Except Cause String}
    (each : ∀ name cause, declared name = .error cause → RefusedFor cause) (name : String)
    (cause : Cause) (failed : replacement declared name = .error cause) : RefusedFor cause := by
  unfold replacement at failed
  split at failed
  · cases failed
  · exact each name cause failed

theorem expand_refused {table : Table String} {limit : Option Nat} {levels : Nat} {text : String}
    {cause : Cause} (failed : expand table limit levels text = .error cause) :
    RefusedFor cause := by
  induction levels generalizing text cause with
  | zero =>
    rw [expand_eq] at failed
    refine substitute_refused (replacement_refused fun name cause refused => ?_) failed
    cases refused
    exact .inl ⟨name, rfl⟩
  | succ levels ih =>
    rw [expand_eq] at failed
    refine substitute_refused (replacement_refused fun name cause refused => ?_) failed
    rw [declaredText] at refused
    split at refused
    · exact ih refused
    · cases refused
      exact .inl ⟨name, rfl⟩

end Entity
end XmlBuilder
