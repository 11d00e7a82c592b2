import XmlBuilder.Entity
import XmlBuilder.Markup.Aside

/-!
Document type declarations. Of their internal subset only the general entities with a text of
their own are kept, and of two declarations of a name the first; all else is skipped.
-/
namespace XmlBuilder.Markup

/-- Skips past the first byte that `stops` accepts outside quotes and gives it with what follows.
An open quotation ends at the next `quote`. -/
def skipUnquoted (stops : UInt8 → Bool) (quote : Option UInt8) : Bytes → Option (UInt8 × Bytes)
  | [] => none
  | b :: rest =>
    match quote with
    | some q => skipUnquoted stops (if b == q then none else some q) rest
    | none =>
      if isQuote b then skipUnquoted stops (some b) rest
      else if stops b then some (b, rest)
      else skipUnquoted stops none rest

/-- Skips past the `>` that closes a declaration. -/
def skipDeclaration (bytes : Bytes) : Except Stop Bytes :=
  match skipUnquoted (· == '>'.toUInt8) none bytes with
  | none => .error .atEnd
  | some (_, rest) => .ok rest

/-- Reads the quoted text of an entity and the end of its declaration. -/
def readEntityText (quote : UInt8) (bytes : Bytes) : Except Stop (String × Bytes) :=
  match bytes.dropWhile (· != quote) with
  | [] => .error .atEnd
  | b :: left => do
    let text ← decode (Text.unifyLineEnds (bytes.takeWhile (· != quote))) bytes (b :: left)
    let rest ← expect '>' (skipSpace left)
    .ok (text, rest)

/-- Reads an entity declaration into the table. Parameter entities and external entities leave no
trace in it. -/
def readEntity (table : Table String) (bytes : Bytes) : Except Stop (Table String × Bytes) :=
  let bytes := skipSpace (bytes.drop "<!ENTITY".length)
  if startsWith "%" bytes then do
    let rest ← skipDeclaration (bytes.drop 1)
    .ok (table, rest)
  else do
    let (name, rest) ← readName bytes
    match skipSpace rest with
    | [] => .error .atEnd
    | b :: rest =>
      if isQuote b then
        let (text, rest) ← readEntityText b rest
        .ok (Table.insertIfNew name text table, rest)
      else
        let rest ← skipDeclaration (b :: rest)
        .ok (table, rest)

/-- Reads one item of an internal subset. -/
def readDeclaration (table : Table String) (bytes : Bytes) : Except Stop (Table String × Bytes) :=
  if startsWith "<!ENTITY" bytes then readEntity table bytes
  else if startsWith "<!--" bytes then do
    let (_, rest) ← readComment bytes
    .ok (table, rest)
  else if startsWith "<?" bytes then do
    let (_, rest) ← readInstruction bytes
    .ok (table, rest)
  else if startsWith "<!" bytes then do
    let rest ← skipDeclaration bytes
    .ok (table, rest)
  else if startsWith "%" bytes then do
    let (_, rest) ← readUntil ";" (bytes.drop 1)
    .ok (table, rest)
  else if bytes.isEmpty then .error .atEnd
  else .error (.here .invalidToken bytes)

theorem skipUnquoted_shorter {stops : UInt8 → Bool} {quote : Option UInt8} {bytes rest : Bytes}
    {b : UInt8} (h : skipUnquoted stops quote bytes = some (b, rest)) :
    rest.length < bytes.length := by
  induction bytes generalizing quote with
  | nil => cases h
  | cons c tail ih =>
    simp only [skipUnquoted] at h
    split at h
    · exact Nat.lt_succ_of_lt (ih h)
    · split at h
      · exact Nat.lt_succ_of_lt (ih h)
      · split at h
        · cases h
          exact Nat.lt_succ_self _
        · exact Nat.lt_succ_of_lt (ih h)

theorem skipDeclaration_shorter {bytes rest : Bytes} (h : skipDeclaration bytes = .ok rest) :
    rest.length < bytes.length := by
  simp only [skipDeclaration] at h
  split at h
  · cases h
  · next found =>
    cases h
    exact skipUnquoted_shorter found

theorem readEntityText_shorter {quote : UInt8} {bytes rest : Bytes} {text : String}
    (h : readEntityText quote bytes = .ok (text, rest)) : rest.length < bytes.length := by
  simp only [readEntityText] at h
  split at h
  · cases h
  · next b left found =>
    obtain ⟨_, _, h⟩ := bind_success h
    obtain ⟨last, closed, done⟩ := bind_success h
    cases done
    have within : (b :: left).length ≤ bytes.length :=
      found ▸ (List.dropWhile_suffix _).length_le
    have spaced := length_skipSpace_le left
    have ended := congrArg List.length (expect_eq closed)
    simp at within ended
    omega

theorem readEntity_shorter {table after : Table String} {bytes rest : Bytes}
    (h : readEntity table bytes = .ok (after, rest)) : rest.length < bytes.length := by
  have opened := length_skipSpace_le (bytes.drop "<!ENTITY".length)
  simp only [List.length_drop] at opened
  simp only [readEntity] at h
  split at h
  · obtain ⟨last, skipped, done⟩ := bind_success h
    cases done
    have shorter := skipDeclaration_shorter skipped
    simp at shorter
    omega
  · obtain ⟨⟨name, afterName⟩, named, h⟩ := bind_success h
    have first := readName_shorter named
    have second := length_skipSpace_le afterName
    dsimp only at h
    split at h
    · cases h
    · next b tail found =>
      rw [found] at second
      split at h
      · obtain ⟨⟨text, last⟩, quoted, done⟩ := bind_success h
        cases done
        have third := readEntityText_shorter quoted
        simp only [List.length_cons] at second
        exact Nat.lt_of_lt_of_le third (by omega)
      · obtain ⟨last, skipped, done⟩ := bind_success h
        cases done
        have third := skipDeclaration_shorter skipped
        omega

theorem readDeclaration_shorter {table after : Table String} {bytes rest : Bytes}
    (h : readDeclaration table bytes = .ok (after, rest)) : rest.length < bytes.length := by
  have begun : bytes ≠ [] := by
    rintro rfl
    cases h
  simp only [readDeclaration] at h
  split at h
  · exact readEntity_shorter h
  split at h
  · obtain ⟨_, read, done⟩ := bind_success h
    cases done
    exact readComment_shorter begun read
  split at h
  · obtain ⟨_, read, done⟩ := bind_success h
    cases done
    exact readInstruction_shorter read
  split at h
  · obtain ⟨_, read, done⟩ := bind_success h
    cases done
    exact skipDeclaration_shorter read
  split at h
  · obtain ⟨_, read, done⟩ := bind_success h
    cases done
    have within := readUntil_le read
    have := List.length_pos_iff.2 begun
    simp at within
    omega
  split at h <;> cases h

/-- Reads an internal subset up to and including its `]`. The table holds what was declared before
reading ended, in failure too. -/
def readSubset (table : Table String) (bytes : Bytes) : Table String × Except Stop Bytes :=
  if startsWith "]" (skipSpace bytes) then (table, .ok ((skipSpace bytes).drop 1))
  else
    match _ : readDeclaration table (skipSpace bytes) with
    | .error stop => (table, .error stop)
    | .ok (after, rest) => readSubset after rest
termination_by bytes.length
decreasing_by exact Nat.lt_of_lt_of_le (readDeclaration_shorter ‹_›) (length_skipSpace_le bytes)

/-- One step of a subset, without what its termination needs. -/
theorem readSubset_eq (table : Table String) (bytes : Bytes) :
    readSubset table bytes =
      if startsWith "]" (skipSpace bytes) then (table, .ok ((skipSpace bytes).drop 1))
      else
        match readDeclaration table (skipSpace bytes) with
        | .error stop => (table, .error stop)
        | .ok (after, rest) => readSubset after rest := by
  rw [readSubset]
  split
  · rfl
  split
  · next found => rw [found]
  · next found => rw [found]

/-- Reads a document type declaration, its opener included. -/
def readDoctype (table : Table String) (bytes : Bytes) : Table String × Except Stop Bytes :=
  let inHead (b : UInt8) := b == '['.toUInt8 || b == '>'.toUInt8
  match skipUnquoted inHead none (bytes.drop "<!DOCTYPE".length) with
  | none => (table, .error .atEnd)
  | some (b, rest) =>
    if b == '>'.toUInt8 then (table, .ok rest)
    else
      let (after, subset) := readSubset table rest
      (after, subset >>= fun rest => expect '>' (skipSpace rest))

theorem readSubset_le {table after : Table String} {bytes rest : Bytes}
    (h : readSubset table bytes = (after, .ok rest)) : rest.length ≤ bytes.length := by
  have spaced := length_skipSpace_le bytes
  fun_induction readSubset table bytes with
  | case1 table bytes closed =>
    cases h
    simp
    omega
  | case2 => cases h
  | case3 table bytes _ later tail one ih =>
    have shorter := readDeclaration_shorter one
    have := ih h (length_skipSpace_le tail)
    omega

theorem readDoctype_shorter {table after : Table String} {bytes rest : Bytes}
    (h : readDoctype table bytes = (after, .ok rest)) : rest.length < bytes.length := by
  simp only [readDoctype] at h
  split at h
  · cases h
  · next b tail found =>
    have first := skipUnquoted_shorter found
    simp only [List.length_drop] at first
    split at h
    · cases h
      omega
    · obtain ⟨last, succeeded, closed⟩ := bind_success (congrArg Prod.snd h)
      have second := readSubset_le (Prod.ext rfl succeeded)
      have third := length_skipSpace_le last
      have fourth := congrArg List.length (expect_eq closed)
      simp at fourth
      omega

end XmlBuilder.Markup
