import XmlBuilder.Markup.Text
import XmlBuilder.Tree

/-!
Start tags with their attributes, and end tags. White space must stand before an attribute, and no
name may come twice.
-/
namespace XmlBuilder.Markup

/-- Reads one attribute, the name first. -/
def readAttribute (context : Context) (bytes : Bytes) : Except Stop (Attribute × Bytes) := do
  let (name, rest) ← readName bytes
  let rest ← expect '=' (skipSpace rest)
  let (value, rest) ← readValue context (skipSpace rest)
  .ok (⟨name, value⟩, rest)

theorem readAttribute_shorter {context : Context} {bytes rest : Bytes} {attr : Attribute}
    (h : readAttribute context bytes = .ok (attr, rest)) : rest.length < bytes.length := by
  obtain ⟨⟨name, afterName⟩, named, h⟩ := bind_success h
  obtain ⟨afterSign, signed, h⟩ := bind_success h
  obtain ⟨⟨value, last⟩, valued, done⟩ := bind_success h
  cases done
  have first := readName_shorter named
  have second := length_skipSpace_le afterName
  have third := congrArg List.length (expect_eq signed)
  have fourth := length_skipSpace_le afterSign
  have fifth := readValue_shorter valued
  simp at third
  omega

private theorem afterAttribute_shorter {context : Context} {bytes next rest : Bytes} {b : UInt8}
    {attr : Attribute} (spaced : skipSpace bytes = b :: next)
    (found : readAttribute context (b :: next) = .ok (attr, rest)) :
    rest.length < bytes.length :=
  Nat.lt_of_lt_of_le (spaced ▸ readAttribute_shorter found) (length_skipSpace_le bytes)

/-- Reads attributes up to the end of the tag. Those in `read` came before, the last first. -/
def readAttributes (context : Context) (read : List Attribute) (bytes : Bytes) :
    Except Stop (List Attribute × Bytes) :=
  match _ : skipSpace bytes with
  | [] => .error .atEnd
  | b :: next =>
    if b == '/'.toUInt8 || b == '>'.toUInt8 then .ok (read.reverse, b :: next)
    else if bytes.head?.any isSpace then
      match _ : readAttribute context (b :: next) with
      | .error stop => .error stop
      | .ok (attr, rest) =>
        if read.any (·.name == attr.name) then
          .error ⟨.duplicateAttribute attr.name, b :: next, rest⟩
        else readAttributes context (attr :: read) rest
    else .error (.here .invalidToken (b :: next))
termination_by bytes.length
decreasing_by exact afterAttribute_shorter ‹_› ‹_›

/-- One step of a list of attributes, without what its termination needs. -/
theorem readAttributes_eq (context : Context) (read : List Attribute) (bytes : Bytes) :
    readAttributes context read bytes =
      match skipSpace bytes with
      | [] => .error .atEnd
      | b :: next =>
        if b == '/'.toUInt8 || b == '>'.toUInt8 then .ok (read.reverse, b :: next)
        else if bytes.head?.any isSpace then
          match readAttribute context (b :: next) with
          | .error stop => .error stop
          | .ok (attr, rest) =>
            if read.any (·.name == attr.name) then
              .error ⟨.duplicateAttribute attr.name, b :: next, rest⟩
            else readAttributes context (attr :: read) rest
        else .error (.here .invalidToken (b :: next)) := by
  rw [readAttributes]
  split
  · next found => rw [found]
  · next b next found =>
    rw [found]
    dsimp only
    split
    · rfl
    split
    · split
      · next failed => rw [failed]
      · next one => rw [one]
    · rfl

theorem readAttributes_le {context : Context} {read attrs : List Attribute} {bytes rest : Bytes}
    (h : readAttributes context read bytes = .ok (attrs, rest)) :
    rest.length ≤ bytes.length := by
  have spaced := length_skipSpace_le bytes
  fun_induction readAttributes context read bytes with
  | case1 => cases h
  | case2 read bytes b next at_end ended =>
    cases h
    exact at_end ▸ spaced
  | case3 => cases h
  | case4 => cases h
  | case5 read bytes b next found _ _ attr after one _ ih =>
    have later := ih h (length_skipSpace_le after)
    have shorter := afterAttribute_shorter found one
    omega
  | case6 => cases h

/-- Reads a start tag, and whether it closes its element itself. -/
def readStartTag (context : Context) (bytes : Bytes) : Except Stop ((Tag × Bool) × Bytes) := do
  let rest ← expect '<' bytes
  let (name, rest) ← readName rest
  let (attributes, rest) ← readAttributes context [] rest
  if startsWith "/" rest then
    let rest ← expect '>' (rest.drop 1)
    .ok ((⟨name, attributes⟩, true), rest)
  else
    let rest ← expect '>' rest
    .ok ((⟨name, attributes⟩, false), rest)

theorem readStartTag_shorter {context : Context} {bytes rest : Bytes} {tag : Tag × Bool}
    (h : readStartTag context bytes = .ok (tag, rest)) : rest.length < bytes.length := by
  obtain ⟨afterOpener, opened, h⟩ := bind_success h
  obtain ⟨⟨name, afterName⟩, named, h⟩ := bind_success h
  obtain ⟨⟨attributes, afterAttributes⟩, listed, h⟩ := bind_success h
  have first := congrArg List.length (expect_eq opened)
  have second := readName_shorter named
  have third := readAttributes_le listed
  simp only [List.length_cons] at first
  dsimp only at h
  split at h
  · obtain ⟨last, closed, done⟩ := bind_success h
    cases done
    have fourth := congrArg List.length (expect_eq closed)
    simp at fourth
    omega
  · obtain ⟨last, closed, done⟩ := bind_success h
    cases done
    have fourth := congrArg List.length (expect_eq closed)
    simp at fourth
    omega

/-- Reads the end tag of the element called `name`, its opener included. -/
def readEndTag (name : String) (bytes : Bytes) : Except Stop Bytes := do
  let (found, rest) ← readName (bytes.drop "</".length)
  if found = name then expect '>' (skipSpace rest)
  else .error ⟨.mismatchedTag name found, bytes, rest⟩

theorem readEndTag_shorter {name : String} {bytes rest : Bytes}
    (h : readEndTag name bytes = .ok rest) : rest.length < bytes.length := by
  obtain ⟨⟨found, after⟩, named, h⟩ := bind_success h
  have first := readName_shorter named
  have second := length_skipSpace_le after
  dsimp only at h
  split at h
  · have third := congrArg List.length (expect_eq h)
    simp at first third
    omega
  · cases h

end XmlBuilder.Markup
