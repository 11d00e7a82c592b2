import XmlBuilder.Proofs.Markup.Grammar

/-!
# The smallest readers read their forms

For each reader of `Markup.Scan` and `Markup.Aside`, what it takes and what it leaves: it succeeds
exactly where the bytes begin with its form (`readName_ok_iff`, `readUntil_ok_iff`,
`readComment_ok_iff`, `readCdata_ok_iff`, `readInstruction_ok_iff`).
-/
namespace XmlBuilder.Markup

open Text (utf8)

theorem bind_ok_iff {ε α β : Type} {step : Except ε α} {next : α → Except ε β} {value : β} :
    (step >>= next) = .ok value ↔ ∃ x, step = .ok x ∧ next x = .ok value := by
  constructor
  · exact bind_success
  · intro form
    rcases form with ⟨x, taken, done⟩
    rw [taken]
    exact done

section Stops

variable {inClass : UInt8 → Bool}

theorem stops_nil : Stops inClass [] := by
  simp [Stops]

theorem stops_cons {b : UInt8} {rest : Bytes} :
    Stops inClass (b :: rest) ↔ inClass b = false := by
  simp [Stops]

theorem stops_append {run rest : Bytes} (begun : run ≠ []) :
    Stops inClass (run ++ rest) ↔ Stops inClass run := by
  cases run with
  | nil => exact absurd rfl begun
  | cons b tail => simp [Stops]

theorem stops_dropWhile (bytes : Bytes) : Stops inClass (bytes.dropWhile inClass) := by
  induction bytes with
  | nil => exact stops_nil
  | cons b rest ih =>
    by_cases member : inClass b
    · rwa [List.dropWhile_cons_of_pos member]
    · rw [List.dropWhile_cons_of_neg member, stops_cons]
      simpa using member

theorem takeWhile_run {run rest : Bytes} (inside : ∀ b ∈ run, inClass b = true)
    (outside : Stops inClass rest) : (run ++ rest).takeWhile inClass = run := by
  rw [List.takeWhile_append_of_pos inside]
  cases rest with
  | nil => simp
  | cons b tail => simp [stops_cons.1 outside]

theorem dropWhile_run {run rest : Bytes} (inside : ∀ b ∈ run, inClass b = true)
    (outside : Stops inClass rest) : (run ++ rest).dropWhile inClass = rest := by
  rw [List.dropWhile_append_of_pos inside]
  cases rest with
  | nil => simp
  | cons b tail => simp [stops_cons.1 outside]

theorem takeWhile_inside (bytes : Bytes) : ∀ b ∈ bytes.takeWhile inClass, inClass b = true := by
  exact List.all_eq_true.1 List.all_takeWhile

end Stops

theorem decode_ok_iff {slice site left : Bytes} {text : String} :
    decode slice site left = .ok text ↔ slice = utf8 text := by
  rw [← Text.fromUTF8?_eq_some_iff, decode]
  cases String.fromUTF8? slice.toByteArray with
  | none => simp
  | some read => simp

theorem expect_ok_iff {wanted : Char} {bytes rest : Bytes} :
    expect wanted bytes = .ok rest ↔ bytes = wanted.toUInt8 :: rest := by
  constructor
  · exact expect_eq
  · rintro rfl
    simp [expect]

theorem skipSpace_stops (bytes : Bytes) : Stops isSpace (skipSpace bytes) :=
  stops_dropWhile bytes

/-- White space that is skipped, put back. -/
theorem skipSpace_split (bytes : Bytes) :
    ∃ space, bytes = space ++ skipSpace bytes ∧ Spaces space :=
  ⟨bytes.takeWhile isSpace, (List.takeWhile_append_dropWhile).symm, takeWhile_inside bytes⟩

theorem skipSpace_run {space rest : Bytes} (spaces : Spaces space) (ends : Stops isSpace rest) :
    skipSpace (space ++ rest) = rest :=
  dropWhile_run spaces ends

theorem skipSpace_eq_iff {bytes rest : Bytes} :
    skipSpace bytes = rest ↔
      ∃ space, bytes = space ++ rest ∧ Spaces space ∧ Stops isSpace rest := by
  constructor
  · rintro rfl
    obtain ⟨space, split, spaces⟩ := skipSpace_split bytes
    exact ⟨space, split, spaces, skipSpace_stops bytes⟩
  · intro form
    rcases form with ⟨space, rfl, spaces, ends⟩
    exact skipSpace_run spaces ends

/-! ## Names -/

theorem isNameStart_of_ascii {c : Char} (ascii : c.toNat < 0x80) :
    isNameStart c.toUInt8 = startsName c := by
  have each : ∀ n < 0x80, isNameStart (Char.ofNat n).toUInt8 = startsName (Char.ofNat n) := by
    decide
  simpa using each c.toNat ascii

theorem isNameByte_of_ascii {c : Char} (ascii : c.toNat < 0x80) :
    isNameByte c.toUInt8 = continuesName c := by
  have each : ∀ n < 0x80, isNameByte (Char.ofNat n).toUInt8 = continuesName (Char.ofNat n) := by
    decide
  simpa using each c.toNat ascii

theorem isNameStart_beyond {b : UInt8} (beyond : 0x80 ≤ b) : isNameStart b = true := by
  simp [isNameStart, beyond]

theorem isNameByte_beyond {b : UInt8} (beyond : 0x80 ≤ b) : isNameByte b = true := by
  simp [isNameByte, isNameStart_beyond beyond]

theorem all_isNameByte (cs : List Char) :
    (cs.flatMap String.utf8EncodeChar).all isNameByte = cs.all continuesName := by
  apply Text.all_utf8
  · exact fun c => isNameByte_of_ascii
  · exact fun b => isNameByte_beyond
  · intro c beyond
    simp [continuesName, startsName, beyond]

/-- A name, seen in its bytes. -/
theorem isName_iff {name : String} :
    isName name = true ↔
      ∃ b tail, utf8 name = b :: tail ∧ isNameStart b = true ∧ ∀ x ∈ tail, isNameByte x = true := by
  rw [Text.utf8_eq_flatMap]
  unfold isName
  cases name.toList with
  | nil => simp
  | cons c rest =>
    have later := all_isNameByte rest
    dsimp only
    rw [List.flatMap_cons, Bool.and_eq_true, ← later, List.all_eq_true]
    by_cases ascii : c.toNat < 0x80
    · rw [Text.utf8_of_ascii ascii, ← isNameStart_of_ascii ascii, List.singleton_append]
      constructor
      · intro form
        rcases form with ⟨starts, continues⟩
        exact ⟨_, _, rfl, starts, continues⟩
      · intro form
        rcases form with ⟨b, tail, laid, starts, continues⟩
        cases laid
        exact ⟨starts, continues⟩
    · have beyond := Nat.le_of_not_lt ascii
      obtain ⟨b, tail, laid, high⟩ := Text.utf8_beyond_ascii beyond
      rw [laid, List.cons_append]
      constructor
      · intro form
        rcases form with ⟨-, continues⟩
        refine ⟨_, _, rfl, isNameStart_beyond (high b (by simp)), ?_⟩
        intro x member
        rcases List.mem_append.1 member with inside | after
        · exact isNameByte_beyond (high x (by simp [inside]))
        · exact continues x after
      · intro form
        rcases form with ⟨b', tail', split, -, continues⟩
        cases split
        refine ⟨by simp [startsName, beyond], ?_⟩
        exact fun x member => continues x (by simp [member])

theorem readName_ok_iff {bytes rest : Bytes} {name : String} :
    readName bytes = .ok (name, rest) ↔
      bytes = utf8 name ++ rest ∧ isName name = true ∧ Stops isNameByte rest := by
  constructor
  · intro h
    cases bytes with
    | nil => cases h
    | cons b tail =>
      simp only [readName] at h
      split at h
      · next starts =>
        obtain ⟨text, decoded, done⟩ := bind_success h
        cases done
        have laid := decode_ok_iff.1 decoded
        refine ⟨?_, isName_iff.2 ⟨b, _, laid.symm, starts, takeWhile_inside tail⟩,
          stops_dropWhile tail⟩
        rw [← laid, List.cons_append, List.takeWhile_append_dropWhile]
      · cases h
  · intro form
    rcases form with ⟨rfl, named, ends⟩
    obtain ⟨b, tail, laid, starts, continues⟩ := isName_iff.1 named
    rw [laid, List.cons_append]
    simp only [readName, if_pos starts]
    rw [takeWhile_run continues ends, dropWhile_run continues ends, ← laid]
    exact bind_ok_iff.2 ⟨name, decode_ok_iff.2 rfl, rfl⟩

/-! ## What ends a name -/

theorem not_isNameByte_of_isSpace {b : UInt8} (space : isSpace b = true) :
    isNameByte b = false := by
  simp only [isSpace, Bool.or_eq_true, beq_iff_eq] at space
  rcases space with ((rfl | rfl) | rfl) | rfl <;> decide

theorem isNameStart_visible {b : UInt8} (starts : isNameStart b = true) :
    isSpace b = false ∧ (b == '/'.toUInt8 || b == '>'.toUInt8) = false := by
  constructor
  · by_contra space
    have continues : isNameByte b = true := by simp [isNameByte, starts]
    rw [not_isNameByte_of_isSpace (by simpa using space)] at continues
    cases continues
  · by_contra closer
    simp only [Bool.not_eq_false, Bool.or_eq_true, beq_iff_eq] at closer
    rcases closer with rfl | rfl
    · exact absurd starts (by decide)
    · exact absurd starts (by decide)

theorem isQuote_visible {b : UInt8} (quoted : isQuote b = true) :
    isSpace b = false ∧ isNameByte b = false := by
  simp only [isQuote, Bool.or_eq_true, beq_iff_eq] at quoted
  rcases quoted with rfl | rfl
  · decide
  · decide

theorem stops_spaces {space rest : Bytes} (spaces : Spaces space) (ends : Stops isNameByte rest) :
    Stops isNameByte (space ++ rest) := by
  cases space with
  | nil => exact ends
  | cons b tail =>
    rw [List.cons_append, stops_cons]
    exact not_isNameByte_of_isSpace (spaces b (by simp))

/-! ## Text up to a closer -/

theorem splitAtFirst_eq_some_iff {pattern read bytes body left : Bytes} (begun : pattern ≠ []) :
    splitAtFirst pattern read bytes = some (body, left) ↔
      ∃ taken, body = read.reverse ++ taken ∧ bytes = taken ++ left ∧ pattern <+: left ∧
        ∀ back, back <:+ taken → back ≠ [] → ¬ pattern <+: back ++ left := by
  induction bytes generalizing read with
  | nil =>
    constructor
    · intro h
      cases h
    · intro form
      rcases form with ⟨taken, -, split, here, -⟩
      obtain ⟨-, rfl⟩ := List.append_eq_nil_iff.1 split.symm
      exact absurd (List.prefix_nil.1 here) begun
  | cons b rest ih =>
    unfold splitAtFirst
    by_cases here : pattern <+: b :: rest
    · rw [if_pos (List.isPrefixOf_iff_prefix.2 here)]
      constructor
      · intro h
        cases h
        refine ⟨[], by simp, rfl, here, ?_⟩
        intro back suffix nonempty
        exact absurd (List.suffix_nil.1 suffix) nonempty
      · intro form
        rcases form with ⟨taken, rfl, split, -, earlier⟩
        by_cases empty : taken = []
        · simp [empty, split]
        · rw [split] at here
          exact absurd here (earlier taken List.suffix_rfl empty)
    · rw [if_neg (mt List.isPrefixOf_iff_prefix.1 here), ih]
      constructor
      · intro form
        rcases form with ⟨taken, rfl, rfl, found, earlier⟩
        refine ⟨b :: taken, by simp, rfl, found, ?_⟩
        intro back suffix nonempty
        rcases List.suffix_cons_iff.1 suffix with rfl | inner
        · exact here
        · exact earlier back inner nonempty
      · intro form
        rcases form with ⟨taken, rfl, split, found, earlier⟩
        cases taken with
        | nil =>
          rw [split] at here
          exact absurd found here
        | cons c tail =>
          cases split
          refine ⟨tail, by simp, rfl, found, ?_⟩
          exact fun back suffix => earlier back (suffix.trans (List.suffix_cons _ _))

@[simp]
theorem length_ascii (markup : String) : (ascii markup).length = markup.length := by
  rw [ascii, List.length_map, String.length_toList]

@[simp]
theorem drop_ascii (markup : String) (rest : Bytes) :
    (ascii markup ++ rest).drop markup.length = rest :=
  List.drop_left' (length_ascii markup)

theorem prefix_of_append {pattern back rest : Bytes} :
    pattern <+: back ++ (pattern ++ rest) ↔ pattern <+: back ++ pattern := by
  rw [← List.append_assoc]
  constructor
  · intro found
    exact List.prefix_of_prefix_length_le found (List.prefix_append _ _) (by simp)
  · exact fun found => found.trans (List.prefix_append _ _)

theorem readUntil_ok_iff {closer : String} {bytes rest : Bytes} {text : String}
    (begun : ascii closer ≠ []) :
    readUntil closer bytes = .ok (text, rest) ↔
      ∃ taken, bytes = taken ++ rest ∧ EndedText closer taken text := by
  unfold readUntil
  constructor
  · intro h
    split at h
    · cases h
    · next body left found =>
      obtain ⟨text', decoded, done⟩ := bind_success h
      cases done
      obtain ⟨taken, rfl, rfl, ⟨tail, rfl⟩, earlier⟩ := (splitAtFirst_eq_some_iff begun).1 found
      rw [drop_ascii]
      refine ⟨body ++ ascii closer, by simp, body, rfl, ?_, decode_ok_iff.1 decoded⟩
      exact fun back suffix nonempty => mt prefix_of_append.2 (earlier back suffix nonempty)
  · intro form
    rcases form with ⟨taken, rfl, body, rfl, first, unified⟩
    have found : splitAtFirst (ascii closer) [] (body ++ (ascii closer ++ rest)) =
        some (body, ascii closer ++ rest) := by
      refine (splitAtFirst_eq_some_iff begun).2 ⟨body, rfl, rfl, List.prefix_append _ _, ?_⟩
      exact fun back suffix nonempty => mt prefix_of_append.1 (first back suffix nonempty)
    rw [List.append_assoc, found]
    refine bind_ok_iff.2 ⟨text, decode_ok_iff.2 unified, ?_⟩
    rw [drop_ascii]

theorem EndedText.ne_nil {closer : String} {bytes : Bytes} {text : String}
    (begun : ascii closer ≠ []) (ended : EndedText closer bytes text) : bytes ≠ [] := by
  obtain ⟨body, rfl, -, -⟩ := ended
  simp [begun]

/-! ## Comments, CDATA sections and processing instructions -/

theorem startsWith_iff {pattern : String} {bytes : Bytes} :
    startsWith pattern bytes = true ↔ ∃ rest, bytes = ascii pattern ++ rest := by
  rw [startsWith, List.isPrefixOf_iff_prefix]
  constructor
  · intro form
    rcases form with ⟨rest, split⟩
    exact ⟨rest, split.symm⟩
  · intro form
    rcases form with ⟨rest, rfl⟩
    exact List.prefix_append _ _

theorem startsWith_ascii (pattern : String) (rest : Bytes) :
    startsWith pattern (ascii pattern ++ rest) = true :=
  startsWith_iff.2 ⟨rest, rfl⟩

/-- Bytes that begin otherwise than a tag start with no markup of tags. -/
theorem not_startsWith {b : UInt8} (plain : b ≠ '<'.toUInt8) (tail : Bytes) {pattern : String}
    (tagged : ∃ more, ascii pattern = '<'.toUInt8 :: more) :
    ¬ startsWith pattern (b :: tail) = true := by
  intro starts
  obtain ⟨more, spelled⟩ := tagged
  obtain ⟨after, same⟩ := startsWith_iff.1 starts
  rw [spelled] at same
  cases same
  exact plain rfl

theorem readEnclosed_ok_iff {opener closer text : String} {tail rest : Bytes}
    (begun : ascii closer ≠ []) :
    readUntil closer ((ascii opener ++ tail).drop opener.length) = .ok (text, rest) ↔
      ∃ taken, ascii opener ++ tail = taken ++ rest ∧ EnclosedText opener closer taken text := by
  rw [drop_ascii, readUntil_ok_iff begun]
  constructor
  · intro form
    rcases form with ⟨body, rfl, ended⟩
    exact ⟨_, (List.append_assoc _ _ _).symm, body, rfl, ended⟩
  · intro form
    rcases form with ⟨_, split, body, rfl, ended⟩
    rw [List.append_assoc] at split
    exact ⟨body, List.append_cancel_left split, ended⟩

theorem readComment_ok_iff {bytes rest : Bytes} {text : String}
    (begun : startsWith "<!--" bytes = true) :
    readComment bytes = .ok (text, rest) ↔
      ∃ taken, bytes = taken ++ rest ∧ CommentText taken text := by
  obtain ⟨tail, rfl⟩ := startsWith_iff.1 begun
  exact readEnclosed_ok_iff (by decide)

theorem readCdata_ok_iff {bytes rest : Bytes} {text : String}
    (begun : startsWith "<![CDATA[" bytes = true) :
    readCdata bytes = .ok (text, rest) ↔
      ∃ taken, bytes = taken ++ rest ∧ CdataText taken text := by
  obtain ⟨tail, rfl⟩ := startsWith_iff.1 begun
  exact readEnclosed_ok_iff (by decide)

theorem readInstruction_ok_iff {bytes rest : Bytes} {target data : String}
    (begun : startsWith "<?" bytes = true) :
    readInstruction bytes = .ok ((target, data), rest) ↔
      ∃ taken, bytes = taken ++ rest ∧ InstructionText taken target data := by
  obtain ⟨tail, rfl⟩ := startsWith_iff.1 begun
  unfold readInstruction
  rw [drop_ascii]
  constructor
  · intro h
    obtain ⟨⟨name, after⟩, read, h⟩ := bind_success h
    obtain ⟨⟨text, last⟩, reached, done⟩ := bind_success h
    cases done
    obtain ⟨rfl, named, boundary⟩ := readName_ok_iff.1 read
    obtain ⟨body, split, ended⟩ := (readUntil_ok_iff (by decide)).1 reached
    obtain ⟨space, rfl, spaces, ends⟩ := skipSpace_eq_iff.1 split
    have nonempty := ended.ne_nil (by decide)
    rw [← List.append_assoc, stops_append (by simp [nonempty])] at boundary
    rw [stops_append nonempty] at ends
    exact ⟨_, by simp, space, body, rfl, named, spaces, boundary, ends, ended⟩
  · intro form
    rcases form with ⟨_, split, space, body, rfl, named, spaces, boundary, ends, ended⟩
    have nonempty := ended.ne_nil (by decide)
    simp only [List.append_assoc, List.append_cancel_left_eq] at split
    rw [split]
    have read : readName (utf8 target ++ (space ++ (body ++ rest))) =
        .ok (target, space ++ (body ++ rest)) := by
      refine readName_ok_iff.2 ⟨rfl, named, ?_⟩
      rwa [← List.append_assoc, stops_append (by simp [nonempty])]
    refine bind_ok_iff.2 ⟨_, read, bind_ok_iff.2 ⟨(data, rest), ?_, rfl⟩⟩
    rw [skipSpace_run spaces ((stops_append nonempty).2 ends)]
    exact (readUntil_ok_iff (by decide)).2 ⟨body, rfl, ended⟩

end XmlBuilder.Markup
