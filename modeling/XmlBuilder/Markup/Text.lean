import XmlBuilder.Entity
import XmlBuilder.Limits
import XmlBuilder.Markup.Scan

/-!
The two places where references are expanded: text between tags and attribute values.
-/
namespace XmlBuilder.Markup

/-- What the reading of elements depends on besides the bytes. -/
structure Context where
  limits : Limits
  entities : Table String
  deriving DecidableEq, Repr

/-- Expands the references in a text. The limit on the size of a document holds for it too. -/
def Context.decode (context : Context) (text : String) : Except Cause String :=
  Entity.expand context.entities context.limits.textLimit Entity.maxLevels text

/-- Expands the references in a text that begins at `site` and was read up to `left`. -/
def Context.expand (context : Context) (text : String) (site left : Bytes) :
    Except Stop String :=
  match context.decode text with
  | .ok expanded => .ok expanded
  | .error cause => .error ⟨cause, site, left⟩

/-- A line end or tab written in an attribute value counts as a space. -/
def flattenSpace (b : UInt8) : UInt8 :=
  if b == 9 || b == 10 then 32 else b

/-- Reads the text up to the next tag or the end. -/
def readText (context : Context) (bytes : Bytes) : Except Stop (String × Bytes) := do
  let inText (b : UInt8) := b != '<'.toUInt8
  let left := bytes.dropWhile inText
  let text ← decode (Text.unifyLineEnds (bytes.takeWhile inText)) bytes left
  let expanded ← context.expand text bytes left
  .ok (expanded, left)

/-- Reads a quoted attribute value, in which no tag may begin. -/
def readValue (context : Context) : Bytes → Except Stop (String × Bytes)
  | [] => .error .atEnd
  | quote :: bytes =>
    if isQuote quote then
      let inValue (b : UInt8) := b != quote && b != '<'.toUInt8
      match bytes.dropWhile inValue with
      | [] => .error .atEnd
      | b :: left =>
        if b == quote then do
          let slice := (Text.unifyLineEnds (bytes.takeWhile inValue)).map flattenSpace
          let text ← decode slice bytes left
          let expanded ← context.expand text bytes left
          .ok (expanded, left)
        else .error (.here .invalidToken (b :: left))
    else .error (.here .invalidToken (quote :: bytes))

theorem readText_shorter {context : Context} {b : UInt8} {bytes rest : Bytes} {text : String}
    (begun : b ≠ '<'.toUInt8) (h : readText context (b :: bytes) = .ok (text, rest)) :
    rest.length < (b :: bytes).length := by
  obtain ⟨_, _, h⟩ := bind_success h
  obtain ⟨_, _, done⟩ := bind_success h
  cases done
  rw [List.dropWhile_cons_of_pos (by simpa using begun)]
  exact Nat.lt_succ_of_le (List.dropWhile_suffix _).length_le

theorem readValue_shorter {context : Context} {bytes rest : Bytes} {value : String}
    (h : readValue context bytes = .ok (value, rest)) : rest.length < bytes.length := by
  cases bytes with
  | nil => cases h
  | cons quote bytes =>
    simp only [readValue] at h
    split at h
    · split at h
      · cases h
      · next b left found =>
        have within : (b :: left).length ≤ bytes.length :=
          found ▸ (List.dropWhile_suffix _).length_le
        split at h
        · obtain ⟨_, _, h⟩ := bind_success h
          obtain ⟨_, _, done⟩ := bind_success h
          cases done
          simp at within ⊢
          omega
        · cases h
    · cases h

end XmlBuilder.Markup
