import XmlBuilder.Proofs.Entity.Expansion
import XmlBuilder.Proofs.Text.Utf8

/-!
# Texts written with references

In texts and attribute values some characters are written as references. A text written so stands
for the text itself (`expansion_escapedWith`), so that expanding it gives the text back
(`expand_escapedWith`), and of the characters that have references none but those of the references
themselves are left (`mem_escapedWith`).
-/
namespace XmlBuilder

/-- The name of the reference for a character of a text, if it is written as one. -/
def textReference? : Char → Option String
  | '&' => some "amp"
  | '<' => some "lt"
  | '\r' => some "#13"
  | _ => none

/-- The same for attribute values, where quotes and white space are not left as they are. -/
def valueReference? : Char → Option String
  | '"' => some "quot"
  | '\t' => some "#9"
  | '\n' => some "#10"
  | c => textReference? c

def referenceTo (name : String) : List Char :=
  '&' :: (name.toList ++ [';'])

def spelledWith (reference? : Char → Option String) (c : Char) : List Char :=
  match reference? c with
  | none => [c]
  | some name => referenceTo name

def escapedWith (reference? : Char → Option String) (text : String) : String :=
  String.ofList (text.toList.flatMap (spelledWith reference?))

/-- References that stand for their characters, of which `&` is one. -/
structure Escapes (reference? : Char → Option String) : Prop where
  ampersand : reference? '&' ≠ none
  closed : ∀ c name, reference? c = some name → ';' ∉ name.toList
  character : ∀ c name, reference? c = some name → Entity.character? name = some c

theorem textReference_escapes : Escapes textReference? where
  ampersand := by decide
  closed := by
    intro c name found
    unfold textReference? at found
    split at found
    · cases found; decide
    · cases found; decide
    · cases found; decide
    · cases found
  character := by
    intro c name found
    unfold textReference? at found
    split at found
    · cases found; decide
    · cases found; decide
    · cases found; decide
    · cases found

theorem valueReference_escapes : Escapes valueReference? where
  ampersand := by decide
  closed := by
    intro c name found
    unfold valueReference? at found
    split at found
    · cases found; decide
    · cases found; decide
    · cases found; decide
    · exact textReference_escapes.closed c name found
  character := by
    intro c name found
    unfold valueReference? at found
    split at found
    · cases found; decide
    · cases found; decide
    · cases found; decide
    · exact textReference_escapes.character c name found

theorem expansion_escapedWith {reference? : Char → Option String} (escapes : Escapes reference?)
    (table : Table String) (levels : Nat) (text : String) :
    Entity.Expansion table levels (escapedWith reference? text) text := by
  have ofChars (cs : List Char) : Entity.Expansion table levels
      (String.ofList (cs.flatMap (spelledWith reference?))) (String.ofList cs) := by
    induction cs with
    | nil => exact .plain (by simp)
    | cons c rest ih =>
      have joined : String.ofList (c :: rest) = String.singleton c ++ String.ofList rest := by
        simp
      rw [List.flatMap_cons, String.ofList_append, spelledWith, joined]
      cases found : reference? c with
      | none =>
        have plain : '&' ∉ (String.singleton c).toList := by
          intro member
          have same : '&' = c := by simpa using member
          exact escapes.ampersand (same ▸ found)
        exact ih.prepend plain
      | some name =>
        have closed := escapes.closed c name found
        have whole : Entity.Expansion table levels (Entity.referring "" name _)
            ("" ++ String.singleton c ++ _) :=
          .character (by simp) closed (escapes.character c name found) ih
        rw [String.empty_append] at whole
        have referred (after : String) :
            String.ofList (referenceTo name) ++ after = Entity.referring "" name after := by
          simp [← String.toList_inj, referenceTo]
        rwa [referred]
  simpa [escapedWith] using ofChars text.toList

/-- Whatever is declared, and however deep. -/
theorem expand_escapedWith {reference? : Char → Option String} (escapes : Escapes reference?)
    {limit : Option Nat} {text : String} (fits : Entity.exceeded? limit text.utf8ByteSize = none)
    (table : Table String) (levels : Nat) :
    Entity.expand table limit levels (escapedWith reference? text) = .ok text :=
  Entity.expand_complete (expansion_escapedWith escapes table levels text) fits

theorem escapedWith_ne_empty {reference? : Char → Option String} (escapes : Escapes reference?)
    {text : String} (nonempty : text ≠ "") : escapedWith reference? text ≠ "" := by
  intro empty
  have back : Entity.expand [] none 0 (escapedWith reference? text) = .ok text :=
    expand_escapedWith escapes rfl [] 0
  rw [empty] at back
  exact nonempty (Except.ok.inj back).symm

theorem mem_escapedWith {reference? : Char → Option String} {text : String} {c : Char}
    (member : c ∈ (escapedWith reference? text).toList) :
    reference? c = none ∨ ∃ d name, reference? d = some name ∧ c ∈ referenceTo name := by
  rw [escapedWith, String.toList_ofList, List.mem_flatMap] at member
  obtain ⟨d, -, spelled⟩ := member
  unfold spelledWith at spelled
  split at spelled
  · next plain =>
    rw [List.mem_singleton.1 spelled]
    exact .inl plain
  · next name found => exact .inr ⟨d, name, found, spelled⟩

end XmlBuilder
