import Mathlib.Data.List.Nodup
import XmlBuilder.Proofs.Markup.Scanning

/-!
# Texts and tags are read as their forms

The readers of `Markup.Text` and `Markup.Tag` against the grammar: `readText_ok_iff`,
`readValue_ok_iff`, `readAttribute_ok_iff`, then `readAttributes_ok_iff` by induction along the
run in one direction and along the form in the other, and with it `readStartTag_ok_iff` and
`readEndTag_ok_iff`.
-/
namespace XmlBuilder.Markup

open Text (utf8)

variable {context : Context}

/-! ## Texts and values -/

theorem expand_ok_iff {source expanded : String} {site left : Bytes} :
    context.expand source site left = .ok expanded ↔
      Entity.expand context.entities context.limits.textLimit Entity.maxLevels source =
        .ok expanded := by
  unfold Context.expand Context.decode
  cases Entity.expand context.entities context.limits.textLimit Entity.maxLevels source with
  | error cause => simp
  | ok text => simp

/-- Decoding and expanding, the common end of both readers. -/
theorem decode_expand_ok_iff {slice site left : Bytes} {text : String} :
    (∃ source, decode slice site left = .ok source ∧
        context.expand source site left = .ok text) ↔ Expands context slice text := by
  simp only [decode_ok_iff, expand_ok_iff, Expands]

theorem readText_ok_iff {bytes rest : Bytes} {text : String} :
    readText context bytes = .ok (text, rest) ↔
      ∃ run, bytes = run ++ rest ∧ RunText context run text ∧ Stops (· != '<'.toUInt8) rest := by
  unfold readText
  constructor
  · intro h
    obtain ⟨source, decoded, h⟩ := bind_success h
    obtain ⟨expanded, done, h⟩ := bind_success h
    cases h
    refine ⟨_, (List.takeWhile_append_dropWhile).symm, ⟨?_, ?_⟩, stops_dropWhile bytes⟩
    · intro b member
      simpa using takeWhile_inside bytes b member
    · exact decode_expand_ok_iff.1 ⟨source, decoded, done⟩
  · intro form
    rcases form with ⟨run, rfl, ⟨inside, expands⟩, ends⟩
    have each : ∀ b ∈ run, (b != '<'.toUInt8) = true := by
      intro b member
      simpa using inside b member
    obtain ⟨source, decoded, expanded⟩ := decode_expand_ok_iff.2 expands
    dsimp only
    rw [takeWhile_run each ends, dropWhile_run each ends]
    exact bind_ok_iff.2 ⟨source, decoded, bind_ok_iff.2 ⟨text, expanded, rfl⟩⟩

theorem readValue_ok_iff {bytes rest : Bytes} {value : String} :
    readValue context bytes = .ok (value, rest) ↔
      ∃ taken, bytes = taken ++ rest ∧ ValueText context taken value := by
  constructor
  · intro h
    cases bytes with
    | nil => cases h
    | cons quote bytes =>
      simp only [readValue] at h
      split at h
      · next quoted =>
        split at h
        · cases h
        · next b left found =>
          split at h
          · next closed =>
            obtain ⟨source, decoded, h⟩ := bind_success h
            obtain ⟨expanded, done, h⟩ := bind_success h
            cases h
            have same := beq_iff_eq.1 closed
            have split := List.takeWhile_append_dropWhile
              (p := fun b => b != quote && b != '<'.toUInt8) (l := bytes)
            refine ⟨quote :: (_ ++ [quote]), ?_, quote, _, rfl, quoted, ?_,
              decode_expand_ok_iff.1 ⟨source, decoded, done⟩⟩
            · rw [found, same] at split
              simpa using split.symm
            · intro b member
              simpa using takeWhile_inside bytes b member
          · cases h
      · cases h
  · intro form
    rcases form with ⟨_, rfl, quote, raw, rfl, quoted, inside, expands⟩
    have each : ∀ b ∈ raw, (b != quote && b != '<'.toUInt8) = true := by
      intro b member
      simpa using inside b member
    have ends : Stops (fun b => b != quote && b != '<'.toUInt8) (quote :: rest) := by
      simp [stops_cons]
    obtain ⟨source, decoded, expanded⟩ := decode_expand_ok_iff.2 expands
    simp only [List.cons_append, List.append_assoc, List.nil_append, readValue, if_pos quoted]
    rw [dropWhile_run each ends, takeWhile_run each ends]
    simp only [beq_self_eq_true, if_true]
    exact bind_ok_iff.2 ⟨source, decoded, bind_ok_iff.2 ⟨value, expanded, rfl⟩⟩

theorem ValueText.begins {bytes : Bytes} {value : String} (form : ValueText context bytes value) :
    ∃ quote tail, bytes = quote :: tail ∧ isQuote quote = true := by
  obtain ⟨quote, raw, rfl, quoted, -⟩ := form
  exact ⟨quote, _, rfl, quoted⟩

/-! ## Attributes -/

theorem readAttribute_ok_iff {bytes rest : Bytes} {attr : Attribute} :
    readAttribute context bytes = .ok (attr, rest) ↔
      ∃ taken, bytes = taken ++ rest ∧ AttributeText context taken attr := by
  constructor
  · intro h
    obtain ⟨⟨name, afterName⟩, named, h⟩ := bind_success h
    obtain ⟨afterSign, signed, h⟩ := bind_success h
    obtain ⟨⟨value, last⟩, valued, done⟩ := bind_success h
    cases done
    obtain ⟨rfl, valid, -⟩ := readName_ok_iff.1 named
    obtain ⟨before, rfl, spacesBefore, -⟩ := skipSpace_eq_iff.1 (expect_ok_iff.1 signed)
    obtain ⟨taken, split, form⟩ := readValue_ok_iff.1 valued
    obtain ⟨after, rfl, spacesAfter, -⟩ := skipSpace_eq_iff.1 split
    exact ⟨_, by simp, before, after, taken, rfl, valid, spacesBefore, spacesAfter, form⟩
  · intro form
    rcases form with ⟨_, rfl, before, after, taken, rfl, valid, spacesBefore, spacesAfter, form⟩
    obtain ⟨quote, tail, begins, quoted⟩ := form.begins
    have sign : Stops isNameByte ('='.toUInt8 :: (after ++ (taken ++ rest))) :=
      stops_cons.2 (by decide)
    have visible : Stops isSpace ('='.toUInt8 :: (after ++ (taken ++ rest))) :=
      stops_cons.2 (by decide)
    have opens : Stops isSpace (taken ++ rest) := by
      rw [begins, List.cons_append, stops_cons]
      exact (isQuote_visible quoted).1
    have named : readName (utf8 attr.name ++
        (before ++ '='.toUInt8 :: (after ++ (taken ++ rest)))) = .ok (attr.name, _) :=
      readName_ok_iff.2 ⟨rfl, valid, stops_spaces spacesBefore sign⟩
    simp only [List.append_assoc, List.cons_append]
    refine bind_ok_iff.2 ⟨_, named, bind_ok_iff.2 ⟨after ++ (taken ++ rest), ?_,
      bind_ok_iff.2 ⟨(attr.value, rest), ?_, rfl⟩⟩⟩
    · rw [skipSpace_run spacesBefore visible]
      exact expect_ok_iff.2 rfl
    · rw [skipSpace_run spacesAfter opens]
      exact readValue_ok_iff.2 ⟨taken, rfl, form⟩

/-- The attributes of a tag end here. -/
def EndsTag (bytes : Bytes) : Prop :=
  ∃ b tail, bytes = b :: tail ∧ (b == '/'.toUInt8 || b == '>'.toUInt8) = true

theorem EndsTag.stops_isSpace {bytes : Bytes} (ends : EndsTag bytes) : Stops isSpace bytes := by
  obtain ⟨b, tail, rfl, closer⟩ := ends
  simp only [Bool.or_eq_true, beq_iff_eq] at closer
  rw [stops_cons]
  rcases closer with rfl | rfl <;> decide

theorem EndsTag.stops_isNameByte {bytes : Bytes} (ends : EndsTag bytes) :
    Stops isNameByte bytes := by
  obtain ⟨b, tail, rfl, closer⟩ := ends
  simp only [Bool.or_eq_true, beq_iff_eq] at closer
  rw [stops_cons]
  rcases closer with rfl | rfl <;> decide

theorem AttributeText.begins {bytes : Bytes} {attr : Attribute}
    (form : AttributeText context bytes attr) :
    ∃ b tail, bytes = b :: tail ∧ isNameStart b = true := by
  obtain ⟨before, after, value, rfl, named, -⟩ := form
  obtain ⟨b, tail, laid, starts, -⟩ := isName_iff.1 named
  exact ⟨b, _, by rw [laid, List.cons_append], starts⟩

theorem readAttributes_done {read : List Attribute} {space rest : Bytes} (spaces : Spaces space)
    (ends : EndsTag rest) :
    readAttributes context read (space ++ rest) = .ok (read.reverse, rest) := by
  have skipped := skipSpace_run spaces ends.stops_isSpace
  obtain ⟨b, tail, rfl, closer⟩ := ends
  rw [readAttributes]
  split
  · next none => cases skipped.symm.trans none
  · next c next found =>
    cases skipped.symm.trans found
    rw [if_pos closer]

theorem readAttributes_more {read : List Attribute} {attr : Attribute} {space one rest : Bytes}
    (begun : space ≠ []) (spaces : Spaces space) (form : AttributeText context one attr)
    (fresh : read.any (·.name == attr.name) = false) :
    readAttributes context read (space ++ (one ++ rest)) =
      readAttributes context (attr :: read) rest := by
  obtain ⟨b, tail, rfl, starts⟩ := form.begins
  obtain ⟨visible, further⟩ := isNameStart_visible starts
  have skipped : skipSpace (space ++ (b :: tail ++ rest)) = b :: (tail ++ rest) :=
    skipSpace_run spaces (stops_cons.2 visible)
  have taken : readAttribute context (b :: (tail ++ rest)) = .ok (attr, rest) :=
    readAttribute_ok_iff.2 ⟨_, rfl, form⟩
  have spaced : (space ++ (b :: tail ++ rest)).head?.any isSpace = true := by
    cases space with
    | nil => exact absurd rfl begun
    | cons c more => simpa using spaces c (by simp)
  rw [readAttributes]
  split
  · next none => cases skipped.symm.trans none
  · next c next found =>
    cases skipped.symm.trans found
    rw [if_neg (by simp [further]), if_pos spaced]
    split
    · next stop failed =>
      rw [taken] at failed
      cases failed
    · next found after one =>
      cases taken.symm.trans one
      rw [if_neg (by simp [fresh])]

/-- The look for an earlier attribute of the name keeps the names distinct. -/
theorem distinct_cons {read : List Attribute} {attr : Attribute} :
    ((attr :: read).map (·.name)).Nodup ↔
      read.any (·.name == attr.name) = false ∧ (read.map (·.name)).Nodup := by
  simp [List.nodup_cons]

theorem readAttributes_ok_iff {read attrs : List Attribute} {bytes rest : Bytes}
    (distinct : (read.map (·.name)).Nodup) :
    readAttributes context read bytes = .ok (attrs, rest) ↔
      ∃ taken space more, bytes = taken ++ (space ++ rest) ∧ AttributesText context taken more ∧
        attrs = read.reverse ++ more ∧ (attrs.map (·.name)).Nodup ∧ Spaces space ∧
        EndsTag rest := by
  constructor
  · intro h
    fun_induction readAttributes context read bytes with
    | case1 => cases h
    | case2 read bytes b next found closer =>
      cases h
      obtain ⟨space, split, spaces, -⟩ := skipSpace_eq_iff.1 found
      have names : (read.reverse.map (·.name)).Nodup := by
        rwa [List.map_reverse, List.nodup_reverse]
      exact ⟨[], space, [], split, .nil, by simp, names, spaces, b, next, rfl, closer⟩
    | case3 => cases h
    | case4 => cases h
    | case5 read bytes b next found _ spaced attr after one fresh ih =>
      have later := distinct_cons.2 ⟨by simpa using fresh, distinct⟩
      obtain ⟨taken, space, more, rfl, forms, rfl, names, spaces, ends⟩ := ih later h
      obtain ⟨before, rfl, spacesBefore, visible⟩ := skipSpace_eq_iff.1 found
      obtain ⟨first, split, form⟩ := readAttribute_ok_iff.1 one
      have begun : before ≠ [] := by
        intro empty
        rw [empty] at spaced
        rw [stops_cons] at visible
        simp [visible] at spaced
      refine ⟨_, space, _, ?_, .cons begun spacesBefore form forms, by simp, names, spaces, ends⟩
      rw [split]
      simp
    | case6 => cases h
  · intro form
    rcases form with ⟨taken, space, more, rfl, forms, rfl, names, spaces, ends⟩
    induction forms generalizing read with
    | nil =>
      rw [List.nil_append, readAttributes_done spaces ends, List.append_nil]
    | @cons before one later attr attrs begun spacesBefore form forms ih =>
      have earlier : (((attr :: read).reverse ++ attrs).map (·.name)).Nodup := by
        simpa using names
      have distinct' : ((attr :: read).map (·.name)).Nodup := by
        rw [List.map_append, List.nodup_append, List.map_reverse, List.nodup_reverse] at earlier
        exact earlier.1
      have fresh := (distinct_cons.1 distinct').1
      simp only [List.append_assoc]
      rw [readAttributes_more begun spacesBefore form fresh, ih distinct' earlier]
      simp

/-! ## Tags -/

theorem AttributesText.stops_isNameByte {bytes rest : Bytes} {attrs : List Attribute}
    (forms : AttributesText context bytes attrs) (ends : Stops isNameByte rest) :
    Stops isNameByte (bytes ++ rest) := by
  cases forms with
  | nil => exact ends
  | @cons space one more attr attrs begun spaces form forms =>
    rw [List.append_assoc, stops_append begun]
    have boundary : Stops isNameByte (space ++ []) := stops_spaces spaces stops_nil
    rwa [List.append_nil] at boundary

theorem readStartTag_ok_iff {bytes rest : Bytes} {tag : Tag} {empty : Bool} :
    readStartTag context bytes = .ok ((tag, empty), rest) ↔
      ∃ taken, bytes = taken ++ rest ∧
        StartTagText context (if empty then "/>" else ">") taken tag := by
  constructor
  · intro h
    obtain ⟨afterOpener, opened, inTag⟩ := bind_success h
    obtain ⟨⟨name, afterName⟩, named, afterwards⟩ := bind_success inTag
    obtain ⟨⟨attributes, afterAttributes⟩, listed, closing⟩ := bind_success afterwards
    obtain rfl := expect_ok_iff.1 opened
    obtain ⟨rfl, valid, -⟩ := readName_ok_iff.1 named
    obtain ⟨attrs, space, more, rfl, forms, rfl, names, spaces, ends⟩ :=
      (readAttributes_ok_iff (by simp)).1 listed
    dsimp only at closing
    split at closing
    · next slash =>
      obtain ⟨last, closed, done⟩ := bind_success closing
      cases done
      obtain ⟨tail, rfl⟩ := startsWith_iff.1 slash
      obtain rfl := expect_ok_iff.1 closed
      exact ⟨_, by simp [ascii], attrs, space, rfl, valid, forms, names, spaces⟩
    · obtain ⟨last, closed, done⟩ := bind_success closing
      cases done
      obtain rfl := expect_ok_iff.1 closed
      exact ⟨_, by simp [ascii], attrs, space, rfl, valid, forms, names, spaces⟩
  · intro form
    rcases form with ⟨_, rfl, attrs, space, rfl, valid, forms, names, spaces⟩
    have closes : EndsTag (ascii (if empty then "/>" else ">") ++ rest) := by
      cases empty
      · exact ⟨'>'.toUInt8, rest, by simp [ascii], by decide⟩
      · exact ⟨'/'.toUInt8, '>'.toUInt8 :: rest, by simp [ascii], by decide⟩
    have named : readName (utf8 tag.name ++
        (attrs ++ (space ++ (ascii (if empty then "/>" else ">") ++ rest)))) = .ok (tag.name, _) :=
      readName_ok_iff.2 ⟨rfl, valid,
        forms.stops_isNameByte (stops_spaces spaces closes.stops_isNameByte)⟩
    have listed : readAttributes context []
        (attrs ++ (space ++ (ascii (if empty then "/>" else ">") ++ rest))) =
          .ok (tag.attributes, _) :=
      (readAttributes_ok_iff (by simp)).2
        ⟨attrs, space, tag.attributes, rfl, forms, by simp, names, spaces, closes⟩
    simp only [List.append_assoc, List.cons_append]
    refine bind_ok_iff.2 ⟨_, expect_ok_iff.2 rfl, bind_ok_iff.2 ⟨_, named, bind_ok_iff.2
      ⟨_, listed, ?_⟩⟩⟩
    cases empty
    · rfl
    · rfl

theorem readEndTag_ok_iff {name : String} {bytes rest : Bytes}
    (begun : startsWith "</" bytes = true) :
    readEndTag name bytes = .ok rest ↔ ∃ taken, bytes = taken ++ rest ∧ EndTagText name taken := by
  obtain ⟨tail, rfl⟩ := startsWith_iff.1 begun
  unfold readEndTag
  rw [drop_ascii]
  constructor
  · intro h
    obtain ⟨⟨found, after⟩, named, closing⟩ := bind_success h
    obtain ⟨rfl, valid, -⟩ := readName_ok_iff.1 named
    dsimp only at closing
    split at closing
    · next same =>
      obtain ⟨space, rfl, spaces, -⟩ := skipSpace_eq_iff.1 (expect_ok_iff.1 closing)
      subst same
      exact ⟨_, by simp, space, rfl, valid, spaces⟩
    · cases closing
  · intro form
    rcases form with ⟨_, split, space, rfl, valid, spaces⟩
    simp only [List.append_assoc, List.append_cancel_left_eq] at split
    have closer : Stops isNameByte ('>'.toUInt8 :: rest) := stops_cons.2 (by decide)
    have visible : Stops isSpace ('>'.toUInt8 :: rest) := stops_cons.2 (by decide)
    rw [split]
    refine bind_ok_iff.2 ⟨_, readName_ok_iff.2 ⟨rfl, valid, stops_spaces spaces closer⟩, ?_⟩
    simp only [List.singleton_append, if_true, skipSpace_run spaces visible]
    exact expect_ok_iff.2 rfl

end XmlBuilder.Markup
