import XmlBuilder.Markup.Doctype

/-!
What may stand before and after the root element: white space, comments and processing
instructions, and before it document type declarations.
-/
namespace XmlBuilder.Markup

/-- Reads a comment or processing instruction, if one begins here. -/
def readMisc? (bytes : Bytes) : Option (Except Stop Bytes) :=
  if startsWith "<?" bytes then some (Prod.snd <$> readInstruction bytes)
  else if startsWith "<!--" bytes then some (Prod.snd <$> readComment bytes)
  else none

theorem readMisc?_shorter {bytes rest : Bytes} (h : readMisc? bytes = some (.ok rest)) :
    rest.length < bytes.length := by
  have begun : bytes ≠ [] := by
    rintro rfl
    cases h
  simp only [readMisc?] at h
  split at h
  · cases read : readInstruction bytes with
    | error stop => rw [read] at h; cases h
    | ok pair => rw [read] at h; cases h; exact readInstruction_shorter read
  · split at h
    · cases read : readComment bytes with
      | error stop => rw [read] at h; cases h
      | ok pair => rw [read] at h; cases h; exact readComment_shorter begun read
    · cases h

/-- Reads up to the root element and gives the entities declared on the way, in failure too. -/
def readProlog (table : Table String) (bytes : Bytes) : Table String × Except Stop Bytes :=
  match _ : readMisc? (skipSpace bytes) with
  | some (.error stop) => (table, .error stop)
  | some (.ok rest) => readProlog table rest
  | none =>
    if startsWith "<!DOCTYPE" (skipSpace bytes) then
      match _ : readDoctype table (skipSpace bytes) with
      | (after, .error stop) => (after, .error stop)
      | (after, .ok rest) => readProlog after rest
    else (table, .ok (skipSpace bytes))
termination_by bytes.length
decreasing_by
  · exact Nat.lt_of_lt_of_le (readMisc?_shorter ‹_›) (length_skipSpace_le bytes)
  · exact Nat.lt_of_lt_of_le (readDoctype_shorter ‹_›) (length_skipSpace_le bytes)

/-- Reads what follows the root element, as far as it may stand there. -/
def readEpilog (bytes : Bytes) : Except Stop Bytes :=
  match _ : readMisc? (skipSpace bytes) with
  | some (.error stop) => .error stop
  | some (.ok rest) => readEpilog rest
  | none => .ok (skipSpace bytes)
termination_by bytes.length
decreasing_by exact Nat.lt_of_lt_of_le (readMisc?_shorter ‹_›) (length_skipSpace_le bytes)

/-- One step of a prolog, without what its termination needs. -/
theorem readProlog_eq (table : Table String) (bytes : Bytes) :
    readProlog table bytes =
      match readMisc? (skipSpace bytes) with
      | some (.error stop) => (table, .error stop)
      | some (.ok rest) => readProlog table rest
      | none =>
        if startsWith "<!DOCTYPE" (skipSpace bytes) then
          match readDoctype table (skipSpace bytes) with
          | (after, .error stop) => (after, .error stop)
          | (after, .ok rest) => readProlog after rest
        else (table, .ok (skipSpace bytes)) := by
  rw [readProlog]
  split
  · next found => rw [found]
  · next found => rw [found]
  · next none =>
    rw [none]
    dsimp only
    split
    · split
      · next found => rw [found]
      · next found => rw [found]
    · rfl

theorem readEpilog_eq (bytes : Bytes) :
    readEpilog bytes =
      match readMisc? (skipSpace bytes) with
      | some (.error stop) => .error stop
      | some (.ok rest) => readEpilog rest
      | none => .ok (skipSpace bytes) := by
  rw [readEpilog]
  split
  · next found => rw [found]
  · next found => rw [found]
  · next found => rw [found]

end XmlBuilder.Markup
