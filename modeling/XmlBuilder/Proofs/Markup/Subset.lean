import XmlBuilder.Proofs.Markup.Scanning

/-!
# Document type declarations are read as their forms

The grammar of a declaration with its internal subset: `Balanced` stretches in which quotes hide
what would end them, the items of a subset with what each does to the table of entities
(`ItemText`), and their runs (`SubsetText`, `DoctypeText`). Each reader of `Markup.Doctype` takes
exactly its form (`readDeclaration_ok_iff`; `readSubset_sound` and `readSubset_complete`;
`readDoctype_ok_iff`), so that how a declaration is read does not depend on what follows it
(`readDoctype_local`).
-/
namespace XmlBuilder.Markup

open Text (utf8)

/-- Quotations that are closed, and between them no byte that stops. -/
inductive Balanced (stops : UInt8 → Bool) : Bytes → Prop
  | nil : Balanced stops []
  | plain {b : UInt8} {rest : Bytes} :
    isQuote b = false → stops b = false → Balanced stops rest → Balanced stops (b :: rest)
  | quoted {quote : UInt8} {inside rest : Bytes} :
    isQuote quote = true → quote ∉ inside → Balanced stops rest →
      Balanced stops (quote :: (inside ++ quote :: rest))

/-- What is skipped of a declaration, up to and including its `>`. -/
def DeclarationText (bytes : Bytes) : Prop :=
  ∃ body, bytes = body ++ ['>'.toUInt8] ∧ Balanced (· == '>'.toUInt8) body

/-- The quoted text of an entity behind its first quote, and the end of the declaration. -/
def EntityText (quote : UInt8) (bytes : Bytes) (text : String) : Prop :=
  ∃ raw space, bytes = raw ++ quote :: (space ++ ['>'.toUInt8]) ∧ quote ∉ raw ∧ Spaces space ∧
    Text.unifyLineEnds raw = utf8 text

/-- An item of an internal subset, with the entities known before and after it. -/
inductive ItemText (table : Table String) : Bytes → Table String → Prop
  | internal {opening between body : Bytes} {quote : UInt8} {name text : String} :
    Spaces opening → isName name = true → Spaces between → isQuote quote = true →
      EntityText quote body text →
      ItemText table (ascii "<!ENTITY" ++ (opening ++ (utf8 name ++ (between ++ quote :: body))))
        (Table.insertIfNew name text table)
  | parameter {opening body : Bytes} :
    Spaces opening → DeclarationText body →
      ItemText table (ascii "<!ENTITY" ++ (opening ++ '%'.toUInt8 :: body)) table
  | external {opening between body : Bytes} {name : String} :
    Spaces opening → isName name = true → Spaces between → Stops isNameByte (between ++ body) →
      Stops isSpace body → Stops isQuote body → DeclarationText body →
      ItemText table (ascii "<!ENTITY" ++ (opening ++ (utf8 name ++ (between ++ body)))) table
  | comment {bytes : Bytes} {text : String} : CommentText bytes text → ItemText table bytes table
  | instruction {bytes : Bytes} {target data : String} :
    InstructionText bytes target data → ItemText table bytes table
  | other {bytes : Bytes} :
    startsWith "<!" bytes = true → startsWith "<!ENTITY" bytes = false →
      startsWith "<!--" bytes = false → DeclarationText bytes → ItemText table bytes table
  | reference {body : Bytes} {name : String} :
    EndedText ";" body name → ItemText table ('%'.toUInt8 :: body) table

/-- An internal subset, its `]` included. -/
inductive SubsetText : Table String → Bytes → Table String → Prop
  | close {table : Table String} {space : Bytes} :
    Spaces space → SubsetText table (space ++ [']'.toUInt8]) table
  | item {before between after : Table String} {space one more : Bytes} :
    Spaces space → ItemText before one between → SubsetText between more after →
      SubsetText before (space ++ (one ++ more)) after

def endsHead (b : UInt8) : Bool :=
  b == '['.toUInt8 || b == '>'.toUInt8

inductive DoctypeText (table : Table String) : Bytes → Table String → Prop
  | plain {head : Bytes} :
    Balanced endsHead head →
      DoctypeText table (ascii "<!DOCTYPE" ++ (head ++ ['>'.toUInt8])) table
  | subset {head body space : Bytes} {after : Table String} :
    Balanced endsHead head → SubsetText table body after → Spaces space →
      DoctypeText table
        (ascii "<!DOCTYPE" ++ (head ++ '['.toUInt8 :: (body ++ (space ++ ['>'.toUInt8])))) after

/-! ## Stretches with quotations -/

section Balanced

variable {stops : UInt8 → Bool}

theorem skipUnquoted_quotation {quote : UInt8} {inside rest : Bytes} (free : quote ∉ inside) :
    skipUnquoted stops (some quote) (inside ++ quote :: rest) = skipUnquoted stops none rest := by
  induction inside with
  | nil => simp [skipUnquoted]
  | cons b tail ih =>
    rw [List.mem_cons, not_or] at free
    have other : ¬ b = quote := fun same => free.1 same.symm
    simp only [List.cons_append, skipUnquoted, beq_iff_eq, if_neg other]
    exact ih free.2

theorem skipUnquoted_balanced {body rest : Bytes} {b : UInt8} (balanced : Balanced stops body)
    (visible : isQuote b = false) (last : stops b = true) :
    skipUnquoted stops none (body ++ b :: rest) = some (b, rest) := by
  induction balanced with
  | nil => simp [skipUnquoted, visible, last]
  | plain unquoted passes _ ih =>
    simp only [List.cons_append, skipUnquoted]
    rw [if_neg (by simp [unquoted]), if_neg (by simp [passes]), ih]
  | quoted opens free _ ih =>
    simp only [List.cons_append, List.append_assoc, skipUnquoted]
    rw [if_pos opens, skipUnquoted_quotation free, ih]

/-- The end of a quotation, if one is open. -/
def Closing : Option UInt8 → Bytes → Prop
  | none, bytes => bytes = []
  | some quote, bytes => ∃ inside, bytes = inside ++ [quote] ∧ quote ∉ inside

theorem skipUnquoted_sound {quote : Option UInt8} {bytes rest : Bytes} {b : UInt8}
    (h : skipUnquoted stops quote bytes = some (b, rest)) :
    ∃ closing body, bytes = closing ++ (body ++ b :: rest) ∧ Closing quote closing ∧
      Balanced stops body ∧ isQuote b = false ∧ stops b = true := by
  induction bytes generalizing quote with
  | nil => cases h
  | cons c tail ih =>
    cases quote with
    | some q =>
      simp only [skipUnquoted] at h
      split at h
      · next closed =>
        obtain ⟨closing, body, split, none, ends⟩ := ih h
        rw [split, show closing = [] from none]
        exact ⟨[c], body, rfl, ⟨[], by simp [beq_iff_eq.1 closed], by simp⟩, ends⟩
      · next other =>
        obtain ⟨closing, body, split, ⟨inside, rfl, free⟩, ends⟩ := ih h
        have differs : q ≠ c := fun same => other (by simp [same])
        rw [split]
        exact ⟨c :: (inside ++ [q]), body, rfl, ⟨c :: inside, rfl, by simp [differs, free]⟩, ends⟩
    | none =>
      simp only [skipUnquoted] at h
      split at h
      · next opens =>
        obtain ⟨closing, body, split, ⟨inside, rfl, free⟩, balanced, ends⟩ := ih h
        rw [split]
        exact ⟨[], c :: (inside ++ c :: body), by simp, rfl, .quoted opens free balanced, ends⟩
      · next unquoted =>
        have visible : isQuote c = false := by simpa using unquoted
        split at h
        · next stopped =>
          cases h
          exact ⟨[], [], rfl, rfl, .nil, visible, stopped⟩
        · next passes =>
          obtain ⟨closing, body, split, none, balanced, ends⟩ := ih h
          rw [split, show closing = [] from none]
          exact ⟨[], c :: body, rfl, rfl, .plain visible (by simpa using passes) balanced, ends⟩

theorem skipUnquoted_eq_some_iff {bytes rest : Bytes} {b : UInt8} :
    skipUnquoted stops none bytes = some (b, rest) ↔
      ∃ body, bytes = body ++ b :: rest ∧ Balanced stops body ∧ isQuote b = false ∧
        stops b = true := by
  constructor
  · intro h
    obtain ⟨closing, body, split, none, ends⟩ := skipUnquoted_sound h
    rw [show closing = [] from none] at split
    exact ⟨body, split, ends⟩
  · intro form
    rcases form with ⟨body, rfl, balanced, visible, last⟩
    exact skipUnquoted_balanced balanced visible last

theorem balanced_iff {body : Bytes} {b : UInt8} (visible : isQuote b = false)
    (last : stops b = true) :
    Balanced stops body ↔ skipUnquoted stops none (body ++ [b]) = some (b, []) := by
  constructor
  · intro balanced
    exact skipUnquoted_balanced balanced visible last
  · intro found
    obtain ⟨before, split, balanced, -⟩ := skipUnquoted_eq_some_iff.1 found
    rwa [List.append_cancel_right split]

end Balanced

theorem skipDeclaration_ok_iff {bytes rest : Bytes} :
    skipDeclaration bytes = .ok rest ↔ ∃ taken, bytes = taken ++ rest ∧ DeclarationText taken := by
  unfold skipDeclaration
  constructor
  · intro h
    split at h
    · cases h
    · next b last found =>
      cases h
      obtain ⟨body, rfl, balanced, -, closes⟩ := skipUnquoted_eq_some_iff.1 found
      rw [beq_iff_eq.1 closes]
      exact ⟨body ++ ['>'.toUInt8], by simp, body, rfl, balanced⟩
  · intro form
    rcases form with ⟨_, rfl, body, rfl, balanced⟩
    have found : skipUnquoted (· == '>'.toUInt8) none (body ++ '>'.toUInt8 :: rest) =
        some ('>'.toUInt8, rest) :=
      skipUnquoted_balanced balanced (by decide) (by decide)
    rw [List.append_assoc, List.singleton_append, found]

/-! ## Items -/

theorem stops_closer {rest : Bytes} : Stops isSpace ('>'.toUInt8 :: rest) :=
  stops_cons.2 (by decide)

theorem readEntityText_ok_iff {quote : UInt8} {bytes rest : Bytes} {text : String} :
    readEntityText quote bytes = .ok (text, rest) ↔
      ∃ taken, bytes = taken ++ rest ∧ EntityText quote taken text := by
  unfold readEntityText
  constructor
  · intro h
    have whole := List.takeWhile_append_dropWhile (p := (· != quote)) (l := bytes)
    have ends : Stops (· != quote) (bytes.dropWhile (· != quote)) := stops_dropWhile bytes
    split at h
    · cases h
    · next b left found =>
      obtain ⟨source, decoded, closing⟩ := bind_success h
      obtain ⟨last, closed, done⟩ := bind_success closing
      cases done
      rw [found] at whole ends
      have same : b = quote := by simpa [stops_cons] using ends
      obtain ⟨space, rfl, spaces, -⟩ := skipSpace_eq_iff.1 (expect_ok_iff.1 closed)
      refine ⟨bytes.takeWhile (· != quote) ++ quote :: (space ++ ['>'.toUInt8]), ?_, _, space, rfl,
        ?_, spaces, decode_ok_iff.1 decoded⟩
      · rw [same] at whole
        simpa using whole.symm
      · intro member
        simpa using takeWhile_inside bytes quote member
  · intro form
    rcases form with ⟨_, rfl, raw, space, rfl, free, spaces, unified⟩
    have inside : ∀ b ∈ raw, (b != quote) = true := by
      intro b member
      simp only [bne_iff_ne]
      rintro rfl
      exact free member
    have ends : Stops (· != quote) (quote :: (space ++ '>'.toUInt8 :: rest)) := by
      simp [stops_cons]
    simp only [List.append_assoc, List.cons_append, List.nil_append]
    rw [dropWhile_run inside ends, takeWhile_run inside ends]
    refine bind_ok_iff.2 ⟨text, decode_ok_iff.2 unified, bind_ok_iff.2 ⟨rest, ?_, rfl⟩⟩
    rw [skipSpace_run spaces stops_closer]
    exact expect_ok_iff.2 rfl

/-- Whether bytes start with a pattern is settled before a byte that the pattern lacks. -/
theorem startsWith_before {pattern : String} {b : UInt8} (lacks : b ∉ ascii pattern)
    (body rest : Bytes) : startsWith pattern (body ++ b :: rest) = startsWith pattern body := by
  unfold startsWith
  generalize ascii pattern = markup at lacks
  induction markup generalizing body with
  | nil => simp
  | cons p more ih =>
    rw [List.mem_cons, not_or] at lacks
    cases body with
    | nil =>
      have other : ¬ p = b := fun same => lacks.1 same.symm
      simp [List.isPrefixOf, other]
    | cons c tail =>
      rw [List.cons_append, List.isPrefixOf, List.isPrefixOf, ih _ lacks.2]

theorem DeclarationText.startsWith_eq {pattern : String} {bytes : Bytes}
    (form : DeclarationText bytes) (lacks : '>'.toUInt8 ∉ ascii pattern) (rest : Bytes) :
    startsWith pattern (bytes ++ rest) = startsWith pattern bytes := by
  obtain ⟨body, rfl, -⟩ := form
  rw [List.append_assoc, List.singleton_append, startsWith_before lacks, startsWith_before lacks]

theorem readEntity_sound {table after : Table String} {bytes rest : Bytes}
    (begun : startsWith "<!ENTITY" bytes = true)
    (h : readEntity table bytes = .ok (after, rest)) :
    ∃ taken, bytes = taken ++ rest ∧ ItemText table taken after := by
  obtain ⟨tail, rfl⟩ := startsWith_iff.1 begun
  unfold readEntity at h
  rw [drop_ascii] at h
  obtain ⟨opening, split, spaces⟩ := skipSpace_split tail
  dsimp only at h
  split at h
  · next percent =>
    obtain ⟨last, skipped, done⟩ := bind_success h
    cases done
    obtain ⟨more, found⟩ := startsWith_iff.1 percent
    rw [found] at split skipped
    obtain ⟨body, same, form⟩ := skipDeclaration_ok_iff.1 skipped
    have exposed : more = body ++ rest := same
    rw [split, exposed]
    exact ⟨_, by simp [ascii], .parameter spaces form⟩
  · obtain ⟨⟨name, afterName⟩, named, further⟩ := bind_success h
    obtain ⟨laid, valid, boundary⟩ := readName_ok_iff.1 named
    obtain ⟨between, splitName, spacesBetween⟩ := skipSpace_split afterName
    have visible := skipSpace_stops afterName
    rw [laid] at split
    dsimp only at further
    split at further
    · cases further
    · next b more found =>
      rw [found] at splitName visible
      rw [splitName] at split boundary
      split at further
      · next quoted =>
        obtain ⟨⟨text, last⟩, read, done⟩ := bind_success further
        cases done
        obtain ⟨body, rfl, form⟩ := readEntityText_ok_iff.1 read
        rw [split]
        exact ⟨_, by simp, .internal spaces valid spacesBetween quoted form⟩
      · next unquoted =>
        obtain ⟨last, skipped, done⟩ := bind_success further
        cases done
        obtain ⟨body, same, form⟩ := skipDeclaration_ok_iff.1 skipped
        have begins : Stops isQuote (b :: more) := stops_cons.2 (by simpa using unquoted)
        have nonempty : body ≠ [] := by
          obtain ⟨inside, rfl, -⟩ := form
          simp
        rw [same, stops_append nonempty] at begins visible
        rw [same, ← List.append_assoc, stops_append (by simp [nonempty])] at boundary
        rw [split, same]
        exact ⟨_, by simp, .external spaces valid spacesBetween boundary visible begins form⟩

/-- A name is no reference to a parameter entity. -/
theorem name_begins {name : String} (valid : isName name = true) (rest : Bytes) :
    startsWith "%" (utf8 name ++ rest) = false ∧ Stops isSpace (utf8 name ++ rest) := by
  obtain ⟨b, tail, laid, starts, -⟩ := isName_iff.1 valid
  rw [laid, List.cons_append, stops_cons]
  constructor
  · by_contra percent
    obtain ⟨more, same⟩ := startsWith_iff.1 (by simpa using percent)
    cases same
    exact absurd starts (by decide)
  · exact (isNameStart_visible starts).1

section Entities

variable {table : Table String} {opening between body rest : Bytes}

theorem readEntity_parameter (spaces : Spaces opening) (form : DeclarationText body) :
    readEntity table (ascii "<!ENTITY" ++ (opening ++ '%'.toUInt8 :: (body ++ rest))) =
      .ok (table, rest) := by
  have visible : Stops isSpace ('%'.toUInt8 :: (body ++ rest)) := stops_cons.2 (by decide)
  have percent : startsWith "%" ('%'.toUInt8 :: (body ++ rest)) = true := rfl
  unfold readEntity
  rw [drop_ascii, skipSpace_run spaces visible]
  dsimp only
  rw [if_pos percent]
  exact bind_ok_iff.2 ⟨rest, skipDeclaration_ok_iff.2 ⟨body, rfl, form⟩, rfl⟩

/-- The name of a general entity, and what decides how its declaration goes on. -/
theorem readEntity_general {name : String} {b : UInt8} {after : Bytes} (spaces : Spaces opening)
    (valid : isName name = true) (spacesBetween : Spaces between)
    (boundary : Stops isNameByte (between ++ b :: after)) (visible : isSpace b = false) :
    readEntity table (ascii "<!ENTITY" ++ (opening ++ (utf8 name ++ (between ++ b :: after)))) =
      if isQuote b then
        readEntityText b after >>= fun read => .ok (Table.insertIfNew name read.1 table, read.2)
      else skipDeclaration (b :: after) >>= fun rest => .ok (table, rest) := by
  obtain ⟨noPercent, begins⟩ := name_begins valid (between ++ b :: after)
  have named : readName (utf8 name ++ (between ++ b :: after)) =
      .ok (name, between ++ b :: after) :=
    readName_ok_iff.2 ⟨rfl, valid, boundary⟩
  unfold readEntity
  rw [drop_ascii, skipSpace_run spaces begins]
  dsimp only
  rw [if_neg (by rw [noPercent]; decide), named]
  dsimp only [bind, Except.bind]
  rw [skipSpace_run spacesBetween (stops_cons.2 visible)]

end Entities

theorem readDeclaration_sound {table after : Table String} {bytes rest : Bytes}
    (h : readDeclaration table bytes = .ok (after, rest)) :
    ∃ taken, bytes = taken ++ rest ∧ ItemText table taken after := by
  unfold readDeclaration at h
  split at h
  · next begun => exact readEntity_sound begun h
  split at h
  · next begun =>
    obtain ⟨⟨text, last⟩, read, done⟩ := bind_success h
    cases done
    obtain ⟨taken, split, form⟩ := (readComment_ok_iff begun).1 read
    exact ⟨taken, split, .comment form⟩
  split at h
  · next begun =>
    obtain ⟨⟨⟨target, data⟩, last⟩, read, done⟩ := bind_success h
    cases done
    obtain ⟨taken, split, form⟩ := (readInstruction_ok_iff begun).1 read
    exact ⟨taken, split, .instruction form⟩
  split at h
  · next noEntity noComment _ begun =>
    obtain ⟨last, skipped, done⟩ := bind_success h
    cases done
    obtain ⟨taken, rfl, form⟩ := skipDeclaration_ok_iff.1 skipped
    rw [form.startsWith_eq (by decide)] at noEntity noComment begun
    exact ⟨taken, rfl, .other begun (by simpa using noEntity) (by simpa using noComment) form⟩
  split at h
  · next begun =>
    obtain ⟨⟨name, last⟩, read, done⟩ := bind_success h
    cases done
    obtain ⟨tail, rfl⟩ := startsWith_iff.1 begun
    obtain ⟨body, same, form⟩ := (readUntil_ok_iff (by decide)).1 read
    have split : tail = body ++ rest := same
    rw [split]
    exact ⟨'%'.toUInt8 :: body, rfl, .reference form⟩
  split at h
  · cases h
  · cases h

theorem readDeclaration_complete {table after : Table String} {one rest : Bytes}
    (form : ItemText table one after) :
    readDeclaration table (one ++ rest) = .ok (after, rest) := by
  unfold readDeclaration
  cases form with
  | @internal opening between body quote name text spaces valid spacesBetween quoted form =>
    obtain ⟨visible, outside⟩ := isQuote_visible quoted
    have boundary : Stops isNameByte (between ++ quote :: (body ++ rest)) :=
      stops_spaces spacesBetween (stops_cons.2 outside)
    simp only [List.append_assoc, List.cons_append]
    rw [if_pos (startsWith_ascii _ _),
      readEntity_general spaces valid spacesBetween boundary visible, if_pos quoted]
    exact bind_ok_iff.2 ⟨_, readEntityText_ok_iff.2 ⟨body, rfl, form⟩, rfl⟩
  | @parameter opening body spaces form =>
    simp only [List.append_assoc, List.cons_append]
    rw [if_pos (startsWith_ascii _ _), readEntity_parameter spaces form]
  | @external opening between body name spaces valid spacesBetween boundary visible unquoted
      form =>
    obtain ⟨inside, rfl, balanced⟩ := form
    have skipped : skipDeclaration (inside ++ ['>'.toUInt8] ++ rest) = .ok rest :=
      skipDeclaration_ok_iff.2 ⟨_, rfl, inside, rfl, balanced⟩
    obtain ⟨b, more, split⟩ : ∃ b more, inside ++ ['>'.toUInt8] = b :: more :=
      List.exists_cons_of_ne_nil (by simp)
    rw [split] at boundary visible unquoted skipped ⊢
    rw [stops_cons] at visible unquoted
    have boundary' : Stops isNameByte (between ++ b :: (more ++ rest)) := by
      rw [← List.cons_append, ← List.append_assoc, stops_append (by simp)]
      exact boundary
    simp only [List.append_assoc, List.cons_append]
    rw [if_pos (startsWith_ascii _ _),
      readEntity_general spaces valid spacesBetween boundary' visible,
      if_neg (by simp [unquoted])]
    exact bind_ok_iff.2 ⟨rest, skipped, rfl⟩
  | comment form =>
    have begun : startsWith "<!--" (one ++ rest) = true ∧
        startsWith "<!ENTITY" (one ++ rest) = false := by
      obtain ⟨body, rfl, -⟩ := form
      exact ⟨rfl, rfl⟩
    rw [if_neg (by simp [begun]), if_pos begun.1]
    exact bind_ok_iff.2 ⟨_, (readComment_ok_iff begun.1).2 ⟨one, rfl, form⟩, rfl⟩
  | instruction form =>
    have begun : startsWith "<?" (one ++ rest) = true ∧
        startsWith "<!ENTITY" (one ++ rest) = false ∧ startsWith "<!--" (one ++ rest) = false := by
      obtain ⟨space, body, rfl, -⟩ := form
      exact ⟨rfl, rfl, rfl⟩
    rw [if_neg (by simp [begun]), if_neg (by simp [begun]), if_pos begun.1]
    exact bind_ok_iff.2 ⟨_, (readInstruction_ok_iff begun.1).2 ⟨one, rfl, form⟩, rfl⟩
  | other begun noEntity noComment form =>
    have noInstruction : startsWith "<?" (one ++ rest) = false := by
      obtain ⟨tail, rfl⟩ := startsWith_iff.1 begun
      rfl
    rw [← form.startsWith_eq (by decide) rest] at begun noEntity noComment
    rw [if_neg (by simp [noEntity]), if_neg (by simp [noComment]), if_neg (by simp [noInstruction]),
      if_pos begun]
    exact bind_ok_iff.2 ⟨rest, skipDeclaration_ok_iff.2 ⟨one, rfl, form⟩, rfl⟩
  | @reference body name form =>
    have read : readUntil ";" (body ++ rest) = .ok (name, rest) :=
      (readUntil_ok_iff (by decide)).2 ⟨body, rfl, form⟩
    have other := @not_startsWith '%'.toUInt8 (by decide) (body ++ rest)
    have percent : startsWith "%" ('%'.toUInt8 :: (body ++ rest)) = true := rfl
    rw [List.cons_append, if_neg (other ⟨_, rfl⟩), if_neg (other ⟨_, rfl⟩),
      if_neg (other ⟨_, rfl⟩), if_neg (other ⟨_, rfl⟩), if_pos percent]
    exact bind_ok_iff.2 ⟨_, read, rfl⟩

theorem readDeclaration_ok_iff {table after : Table String} {bytes rest : Bytes} :
    readDeclaration table bytes = .ok (after, rest) ↔
      ∃ taken, bytes = taken ++ rest ∧ ItemText table taken after := by
  constructor
  · exact readDeclaration_sound
  · intro form
    rcases form with ⟨taken, rfl, form⟩
    exact readDeclaration_complete form

/-! ## Subsets and whole declarations -/

/-- Items begin visibly, and otherwise than the end of a subset. -/
theorem ItemText.begins {table after : Table String} {bytes : Bytes}
    (form : ItemText table bytes after) :
    ∃ b tail, bytes = b :: tail ∧ (b = '<'.toUInt8 ∨ b = '%'.toUInt8) := by
  cases form with
  | internal => exact ⟨_, _, rfl, .inl rfl⟩
  | parameter => exact ⟨_, _, rfl, .inl rfl⟩
  | external => exact ⟨_, _, rfl, .inl rfl⟩
  | comment form =>
    obtain ⟨body, rfl, -⟩ := form
    exact ⟨_, _, rfl, .inl rfl⟩
  | instruction form =>
    obtain ⟨space, body, rfl, -⟩ := form
    exact ⟨_, _, rfl, .inl rfl⟩
  | other begun =>
    obtain ⟨tail, rfl⟩ := startsWith_iff.1 begun
    exact ⟨_, _, rfl, .inl rfl⟩
  | reference => exact ⟨_, _, rfl, .inr rfl⟩

theorem readSubset_sound {table after : Table String} {bytes rest : Bytes}
    (h : readSubset table bytes = (after, .ok rest)) :
    ∃ taken, bytes = taken ++ rest ∧ SubsetText table taken after := by
  fun_induction readSubset table bytes with
  | case1 table bytes closed =>
    cases h
    obtain ⟨space, split, spaces⟩ := skipSpace_split bytes
    obtain ⟨more, found⟩ := startsWith_iff.1 closed
    rw [found] at split ⊢
    exact ⟨space ++ [']'.toUInt8], by rw [split]; simp [ascii], .close spaces⟩
  | case2 => cases h
  | case3 table bytes _ between tail read ih =>
    obtain ⟨space, split, spaces⟩ := skipSpace_split bytes
    obtain ⟨one, found, item⟩ := readDeclaration_ok_iff.1 read
    obtain ⟨more, rfl, form⟩ := ih h
    rw [split, found]
    exact ⟨_, by simp, .item spaces item form⟩

theorem readSubset_complete {table after : Table String} {bytes : Bytes}
    (form : SubsetText table bytes after) (rest : Bytes) :
    readSubset table (bytes ++ rest) = (after, .ok rest) := by
  induction form with
  | @close table space spaces =>
    have skipped : skipSpace (space ++ ']'.toUInt8 :: rest) = ']'.toUInt8 :: rest :=
      skipSpace_run spaces (stops_cons.2 (by decide))
    have closed : startsWith "]" (']'.toUInt8 :: rest) = true := rfl
    rw [List.append_assoc, List.singleton_append, readSubset, skipped, if_pos closed]
    rfl
  | @item before between after space one more spaces item _ ih =>
    obtain ⟨b, tail, begins, opener⟩ := item.begins
    have skipped : skipSpace (space ++ (one ++ (more ++ rest))) = one ++ (more ++ rest) := by
      refine skipSpace_run spaces ?_
      rw [begins, List.cons_append, stops_cons]
      rcases opener with rfl | rfl
      · decide
      · decide
    have goesOn : ¬ startsWith "]" (one ++ (more ++ rest)) = true := by
      rw [begins]
      rcases opener with rfl | rfl
      · exact Bool.false_ne_true
      · exact Bool.false_ne_true
    have read : readDeclaration before (one ++ (more ++ rest)) = .ok (between, more ++ rest) :=
      readDeclaration_complete item
    simp only [List.append_assoc]
    rw [readSubset, skipped, if_neg goesOn]
    split
    · next failed => cases read.symm.trans failed
    · next found =>
      cases read.symm.trans found
      exact ih

theorem readDoctype_eq (table : Table String) (tail : Bytes) :
    readDoctype table (ascii "<!DOCTYPE" ++ tail) =
      match skipUnquoted endsHead none tail with
      | none => (table, .error .atEnd)
      | some (b, rest) =>
        if b == '>'.toUInt8 then (table, .ok rest)
        else ((readSubset table rest).1,
          (readSubset table rest).2 >>= fun rest => expect '>' (skipSpace rest)) := by
  rw [readDoctype, drop_ascii]
  rfl

theorem readDoctype_ok_iff {table after : Table String} {bytes rest : Bytes}
    (begun : startsWith "<!DOCTYPE" bytes = true) :
    readDoctype table bytes = (after, .ok rest) ↔
      ∃ taken, bytes = taken ++ rest ∧ DoctypeText table taken after := by
  obtain ⟨tail, rfl⟩ := startsWith_iff.1 begun
  rw [readDoctype_eq]
  constructor
  · intro h
    split at h
    · cases h
    · next b more found =>
      obtain ⟨head, rfl, balanced, -, ends⟩ := skipUnquoted_eq_some_iff.1 found
      split at h
      · next closes =>
        cases h
        rw [beq_iff_eq.1 closes]
        exact ⟨_, by simp, .plain balanced⟩
      · next other =>
        have opens : b = '['.toUInt8 := by
          simpa [endsHead, show ¬ b = '>'.toUInt8 by simpa using other] using ends
        obtain ⟨last, succeeded, closed⟩ := bind_success (congrArg Prod.snd h)
        have kept : (readSubset table more).1 = after := congrArg Prod.fst h
        have read : readSubset table more = (after, .ok last) := Prod.ext kept succeeded
        obtain ⟨body, rfl, form⟩ := readSubset_sound read
        obtain ⟨space, rfl, spaces, -⟩ := skipSpace_eq_iff.1 (expect_ok_iff.1 closed)
        rw [opens]
        exact ⟨_, by simp, .subset balanced form spaces⟩
  · intro form
    rcases form with ⟨_, split, form⟩
    cases form with
    | @plain head balanced =>
      simp only [List.append_assoc, List.append_cancel_left_eq, List.singleton_append] at split
      have found : skipUnquoted endsHead none tail = some ('>'.toUInt8, rest) := by
        rw [split]
        exact skipUnquoted_balanced balanced (by decide) (by decide)
      rw [found]
      rfl
    | @subset head body space after balanced form spaces =>
      simp only [List.append_assoc, List.append_cancel_left_eq, List.cons_append,
        List.nil_append] at split
      have found : skipUnquoted endsHead none tail =
          some ('['.toUInt8, body ++ (space ++ '>'.toUInt8 :: rest)) := by
        rw [split]
        exact skipUnquoted_balanced balanced (by decide) (by decide)
      have read := readSubset_complete form (space ++ '>'.toUInt8 :: rest)
      have closed : expect '>' (skipSpace (space ++ '>'.toUInt8 :: rest)) = .ok rest := by
        rw [skipSpace_run spaces stops_closer]
        exact expect_ok_iff.2 rfl
      rw [found]
      dsimp only
      rw [if_neg (by decide), read]
      exact Prod.ext rfl closed

theorem DoctypeText.begins {table after : Table String} {bytes : Bytes}
    (form : DoctypeText table bytes after) : startsWith "<!DOCTYPE" bytes = true := by
  cases form with
  | plain => exact startsWith_ascii _ _
  | subset => exact startsWith_ascii _ _

/-- A declaration read whole is read from any bytes that begin with it, and the other way round. -/
theorem readDoctype_local {table after : Table String} {bytes rest : Bytes}
    (begun : startsWith "<!DOCTYPE" bytes = true) :
    readDoctype table bytes = (after, .ok rest) ↔
      ∃ taken, bytes = taken ++ rest ∧ startsWith "<!DOCTYPE" taken = true ∧
        readDoctype table taken = (after, .ok []) := by
  rw [readDoctype_ok_iff begun]
  constructor
  · intro form
    rcases form with ⟨taken, split, form⟩
    exact ⟨taken, split, form.begins,
      (readDoctype_ok_iff form.begins).2 ⟨taken, (List.append_nil _).symm, form⟩⟩
  · intro form
    rcases form with ⟨taken, split, starts, read⟩
    obtain ⟨whole, same, form⟩ := (readDoctype_ok_iff starts).1 read
    rw [List.append_nil] at same
    rw [split, same]
    exact ⟨whole, rfl, form⟩

end XmlBuilder.Markup
