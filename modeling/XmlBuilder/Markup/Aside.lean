import XmlBuilder.Markup.Scan

/-!
Comments, CDATA sections and processing instructions. Their text is taken as it stands, up to the
first closer. Each reader expects its opener at the front.
-/
namespace XmlBuilder.Markup

def readComment (bytes : Bytes) : Except Stop (String × Bytes) :=
  readUntil "-->" (bytes.drop "<!--".length)

def readCdata (bytes : Bytes) : Except Stop (String × Bytes) :=
  readUntil "]]>" (bytes.drop "<![CDATA[".length)

/-- Reads the target and the data of a processing instruction. -/
def readInstruction (bytes : Bytes) : Except Stop ((String × String) × Bytes) := do
  let (target, rest) ← readName (bytes.drop "<?".length)
  let (data, rest) ← readUntil "?>" (skipSpace rest)
  .ok ((target, data), rest)

theorem readComment_shorter {bytes rest : Bytes} {text : String} (begun : bytes ≠ [])
    (h : readComment bytes = .ok (text, rest)) : rest.length < bytes.length := by
  have within := readUntil_le h
  have := List.length_pos_iff.2 begun
  simp [String.length] at within
  omega

theorem readCdata_shorter {bytes rest : Bytes} {text : String} (begun : bytes ≠ [])
    (h : readCdata bytes = .ok (text, rest)) : rest.length < bytes.length := by
  have within := readUntil_le h
  have := List.length_pos_iff.2 begun
  simp [String.length] at within
  omega

theorem readInstruction_shorter {bytes rest : Bytes} {read : String × String}
    (h : readInstruction bytes = .ok (read, rest)) : rest.length < bytes.length := by
  obtain ⟨⟨target, after⟩, named, h⟩ := bind_success h
  obtain ⟨⟨data, last⟩, ended, done⟩ := bind_success h
  cases done
  have first := readName_shorter named
  have second := readUntil_le ended
  have spaced := length_skipSpace_le after
  simp at first
  omega

end XmlBuilder.Markup
