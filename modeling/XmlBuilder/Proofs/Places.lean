import Mathlib.Data.List.DropRight
import XmlBuilder.Generate
import XmlBuilder.Proofs.Markup.Entities
import XmlBuilder.Proofs.Markup.Stops
import XmlBuilder.Proofs.Reading

/-!
# Places in a document

The place that a cursor keeps count of is the one found by counting in the bytes before it
(`advance_origin`). A reader's cursor stands at such a place however often reading was asked for,
and between two characters of a text (`standsIn_after`); an error is placed there too, at the end of
the bytes for two causes only (`errors_placed`), and none says that a text is no text
(`text_decodable`).
-/
namespace XmlBuilder

open Text (utf8 IsUtf8)

/-! ## Counting -/

/-- The place behind these bytes, found by counting: all of them, the line feeds among them, and
in their last line those that begin a character. -/
def placeBehind (before : Bytes) : Position where
  offset := before.length
  line := before.count 10 + 1
  column := (before.rtakeWhile (· != 10)).countP (fun b => !isContinuation b) + 1

theorem placeBehind_concat (before : Bytes) (b : UInt8) :
    placeBehind (before ++ [b]) = (placeBehind before).step b := by
  rw [placeBehind, List.rtakeWhile_concat]
  by_cases feed : b = 10
  · subst feed
    simp [placeBehind, Position.step]
  · rw [if_pos (bne_iff_ne.2 feed)]
    cases continued : isContinuation b with
    | true => simp [placeBehind, Position.step, feed, continued]
    | false => simp [placeBehind, Position.step, feed, continued]

theorem advance_origin (before : Bytes) : Position.origin.advance before = placeBehind before := by
  induction before using List.reverseRecOn with
  | nil => rfl
  | append_singleton before b ih =>
    rw [placeBehind_concat, ← ih, Position.advance, List.foldl_concat]
    rfl

theorem placeBehind_append (before more : Bytes) :
    placeBehind (before ++ more) = (placeBehind before).advance more := by
  rw [← advance_origin, ← advance_origin]
  exact List.foldl_append

theorem line_le (before : Bytes) : (placeBehind before).line ≤ before.length + 1 :=
  Nat.succ_le_succ List.count_le_length

theorem column_le (before : Bytes) : (placeBehind before).column ≤ before.length + 1 :=
  Nat.succ_le_succ (List.countP_le_length.trans (List.rtakeWhile_suffix _ _).length_le)

/-- The last line of a text, in bytes. -/
theorem rtakeWhile_utf8 (cs : List Char) :
    (cs.flatMap String.utf8EncodeChar).rtakeWhile (· != 10) =
      (cs.rtakeWhile (· != '\n')).flatMap String.utf8EncodeChar := by
  induction cs using List.reverseRecOn with
  | nil => rfl
  | append_singleton cs c ih =>
    rw [List.flatMap_append, List.flatMap_singleton, List.rtakeWhile_concat]
    by_cases small : c.toNat < 0x80
    · rw [Text.utf8_of_ascii small, List.rtakeWhile_concat]
      by_cases feed : c = '\n'
      · subst feed
        rfl
      · have other : c.toUInt8 ≠ 10 := fun same =>
          feed (Text.toUInt8_injective small (d := '\n') (by decide) same)
        rw [if_pos (bne_iff_ne.2 other), if_pos (bne_iff_ne.2 feed), ih, List.flatMap_append,
          List.flatMap_singleton, Text.utf8_of_ascii small]
    · obtain ⟨b, tail, laid, beyond⟩ := Text.utf8_beyond_ascii (Nat.le_of_not_lt small)
      have inLine : ∀ x ∈ (String.utf8EncodeChar c).reverse, (x != 10) = true := by
        intro x member
        rw [List.mem_reverse, laid] at member
        exact Markup.beyond_ne (by decide) (beyond x member)
      have feed : c ≠ '\n' := by
        rintro rfl
        exact small (by decide)
      rw [if_pos (bne_iff_ne.2 feed), List.flatMap_append, List.flatMap_singleton, ← ih,
        List.rtakeWhile, List.reverse_append, List.takeWhile_append_of_pos inLine,
        List.reverse_append, List.reverse_reverse]
      rfl

/-- In a text, a column counts characters. -/
theorem column_utf8 (text : String) :
    (placeBehind (utf8 text)).column = (text.toList.rtakeWhile (· != '\n')).length + 1 := by
  rw [placeBehind, Text.utf8_eq_flatMap, rtakeWhile_utf8, Text.countP_utf8]

/-! ## Cursors -/

/-- The cursor is over these bytes, knows its place among them, and stands between two characters
if they are those of a text. -/
structure Cursor.StandsIn (cursor : Cursor) (bytes : Bytes) : Prop where
  whole : bytes = cursor.before ++ cursor.unread
  place : cursor.position = placeBehind cursor.before
  between : IsUtf8 bytes → IsUtf8 cursor.before ∧ IsUtf8 cursor.unread

theorem Cursor.ofBytes_standsIn (bytes : Bytes) : (ofBytes bytes).StandsIn bytes where
  whole := ((ofBytes bytes).before_append_unread).symm
  place := rfl
  between form := by
    rw [unread_ofBytes]
    exact ⟨Text.isUtf8_nil, form⟩

namespace Reader

variable {reader : Reader} {bytes : Bytes}

theorem cursorAt_standsIn {left : Bytes} (stands : reader.cursor.StandsIn bytes)
    (ahead : Markup.Ahead reader.cursor.unread left) : (reader.cursorAt left).StandsIn bytes := by
  obtain ⟨more, split, isMore⟩ := ahead
  rw [cursorAt_append split]
  have before := Cursor.before_ahead split
  have unread := Cursor.unread_ahead split
  refine ⟨?_, ?_, fun form => ?_⟩
  · rw [stands.whole, split, before, unread, List.append_assoc]
  · rw [before, placeBehind_append, ← stands.place]
    rfl
  · obtain ⟨isBefore, isUnread⟩ := stands.between form
    obtain ⟨ofMore, ofLeft⟩ := isMore isUnread
    rw [before, unread]
    exact ⟨isBefore.append ofMore, ofLeft⟩

theorem read_reader (reader : Reader) :
    reader.read.2 =
      ⟨reader.cursorAt (Markup.reached (fun _ => [])
          (Markup.readDocument reader.limits reader.entities reader.cursor.unread).2),
        reader.limits,
        (Markup.readDocument reader.limits reader.entities reader.cursor.unread).1⟩ := by
  rw [read_eq]
  split
  · next found => rw [found]; rfl
  · next found => rw [found]; rfl

theorem read_ofBytes (limits : Limits) (bytes : Bytes) :
    (ofBytes limits bytes).read.2 =
      ⟨⟨bytes.toArray,
          placeOf bytes (Markup.reached (fun _ => []) (Markup.readDocument limits [] bytes).2)⟩,
        limits, (Markup.readDocument limits [] bytes).1⟩ := by
  have unread : (ofBytes limits bytes).cursor.unread = bytes := Cursor.unread_ofBytes bytes
  rw [read_reader, cursorAt_ofBytes, unread]
  rfl

/-- Reading leaves the cursor at a place ahead. -/
theorem read_standsIn (stands : reader.cursor.StandsIn bytes) :
    reader.read.2.cursor.StandsIn bytes := by
  have traced := Markup.readDocument_traced reader.limits reader.entities reader.cursor.unread
  rw [read_eq]
  split
  · exact cursorAt_standsIn stands (.nil _)
  · next failed =>
    have within := traced.within (congrArg Prod.snd failed)
    exact cursorAt_standsIn stands within.left

/-- An error is placed ahead too, and says what its place and the bytes allow. -/
theorem read_refused {error : Error} (stands : reader.cursor.StandsIn bytes)
    (failed : reader.read.1 = .error error) :
    ∃ more rest, reader.cursor.unread = more ++ rest ∧
      (reader.cursorAt rest).StandsIn bytes ∧
      error.span = .single (reader.cursorAt rest).position ∧
      (error.cause.OfEnd ↔ rest = []) ∧ (IsUtf8 bytes → error.cause ≠ .invalidUtf8) := by
  have traced := Markup.readDocument_traced reader.limits reader.entities reader.cursor.unread
  rw [read_eq] at failed
  split at failed
  · cases failed
  · next stop stopped =>
    cases failed
    have within := traced.within (congrArg Prod.snd stopped)
    obtain ⟨more, split, -⟩ := within.site
    exact ⟨more, stop.site, split, cursorAt_standsIn stands within.site, rfl, within.atEnd,
      fun form => within.decodable (stands.between form).2⟩

theorem read_decodable (stands : reader.cursor.StandsIn bytes) (form : IsUtf8 bytes) :
    reader.read.1.mapError (·.cause) ≠ .error .invalidUtf8 := by
  cases read : reader.read.1 with
  | ok root => nofun
  | error error =>
    obtain ⟨_, _, -, -, -, -, decodable⟩ := read_refused stands read
    exact fun same => decodable form (Except.error.inj same)

/-- The reader after it was asked for a document so many times. -/
def after (reader : Reader) : Nat → Reader
  | 0 => reader
  | calls + 1 => (reader.after calls).read.2

theorem standsIn_after (limits : Limits) (bytes : Bytes) (calls : Nat) :
    ((ofBytes limits bytes).after calls).cursor.StandsIn bytes := by
  induction calls with
  | zero => exact Cursor.ofBytes_standsIn bytes
  | succ calls ih => exact read_standsIn ih

end Reader

/-! ## Errors -/

/-- Whenever a document is asked for, an error is placed at or behind the place where reading was
taken up, and both are places found by counting in the bytes before them. It is placed at the end
of the bytes if the document ends too early or has no root, and for no other cause. In a text it
is placed between two characters, and its column counts characters. Lines and columns fit into 32
bits if the number of bytes plus one does. -/
theorem errors_placed {limits : Limits} {bytes : Bytes} {calls : Nat} {error : Error}
    (failed : ((Reader.ofBytes limits bytes).after calls).read.1 = .error error) :
    ∃ read before rest, bytes = before ++ rest ∧ read <+: before ∧
      ((Reader.ofBytes limits bytes).after calls).cursor.position = placeBehind read ∧
      error.span = .single (placeBehind before) ∧
      (error.cause = .unexpectedEnd ∨ error.cause = .missingRoot ↔ rest = []) ∧
      (∀ document, bytes = utf8 document → ∃ text, before = utf8 text ∧
        (placeBehind before).column = (text.toList.rtakeWhile (· != '\n')).length + 1) ∧
      (bytes.length < UInt32.size - 1 →
        (placeBehind before).line < UInt32.size ∧ (placeBehind before).column < UInt32.size) := by
  have stands := Reader.standsIn_after limits bytes calls
  generalize (Reader.ofBytes limits bytes).after calls = reader at stands failed
  obtain ⟨more, rest, split, reached, placed, atEnd, -⟩ := Reader.read_refused stands failed
  -- The error lies where a cursor would stand that has read `more` too.
  obtain ⟨whole, place, between⟩ := reached
  rw [Reader.cursorAt_append split] at whole place between placed
  rw [Cursor.before_ahead split, Cursor.unread_ahead split] at whole between
  rw [Cursor.before_ahead split] at place
  refine ⟨reader.cursor.before, _, rest, whole, List.prefix_append _ _, stands.place,
    placed.trans (congrArg Span.single place), atEnd, ?_, ?_⟩
  · intro document same
    obtain ⟨text, laid⟩ := (between ⟨document, same⟩).1
    exact ⟨text, laid, by rw [laid, column_utf8]⟩
  · intro small
    rw [whole, List.length_append, UInt32.size] at small
    rw [UInt32.size]
    have line := line_le (reader.cursor.before ++ more)
    have column := column_le (reader.cursor.before ++ more)
    omega

/-- Reading is taken up behind the name of an end tag that does not match, in the second line. -/
theorem errors_placed_taken_up :
    ((Reader.ofBytes .standard (utf8 "<a>\né</b>")).after 1).read.1 =
        .error (.atPosition .invalidToken ⟨9, 2, 5⟩) ∧
      ∃ read before rest, utf8 "<a>\né</b>" = before ++ rest ∧ read <+: before ∧
        Span.single ⟨9, 2, 5⟩ = .single (placeBehind before) ∧ rest ≠ [] ∧
        ∃ text, before = utf8 text ∧
          (placeBehind before).column = (text.toList.rtakeWhile (· != '\n')).length + 1 := by
  have failed : ((Reader.ofBytes .standard (utf8 "<a>\né</b>")).after 1).read.1 =
      .error (.atPosition .invalidToken ⟨9, 2, 5⟩) := by
    have takenUp : (Reader.ofBytes .standard (utf8 "<a>\né</b>")).after 1 =
        ⟨⟨(utf8 "<a>\né</b>").toArray, ⟨9, 2, 5⟩⟩, .standard, []⟩ :=
      (Reader.read_ofBytes _ _).trans (by decide +kernel)
    have unread : Cursor.unread ⟨(utf8 "<a>\né</b>").toArray, ⟨9, 2, 5⟩⟩ = utf8 ">" := by
      decide +kernel
    rw [takenUp, Reader.read_result]
    dsimp only
    rw [unread]
    with_unfolding_all rfl
  obtain ⟨read, before, rest, whole, within, -, placed, atEnd, counted, -⟩ := errors_placed failed
  refine ⟨failed, read, before, rest, whole, within, placed, fun none => ?_, counted _ rfl⟩
  have cause := atEnd.2 none
  simp [Error.atPosition, Error.ofCause] at cause

theorem readString_decodable (limits : Limits) (document : String) :
    (readString limits document).mapError (·.cause) ≠ .error .invalidUtf8 :=
  Reader.read_decodable (Reader.standsIn_after limits (utf8 document) 0) (Text.isUtf8_utf8 document)

theorem generate_decodable (options : Options) (className document : String) :
    (generate options className document).mapError (·.cause) ≠ .error .invalidUtf8 := by
  have decodable := readString_decodable options.limits document
  unfold readString Text.utf8 at decodable
  unfold generate generateLogged ClassName.check
  split
  · next refused unmet =>
    split at unmet
    · cases unmet
    · cases unmet
      nofun
  · cases read : readBytes options.limits document.toUTF8.data.toList with
    | ok root => nofun
    | error error =>
      rw [read] at decodable
      exact fun same => decodable (congrArg Except.error (Except.error.inj same))

/-- However often a document is asked for in a text, what is read and what is unread are texts, and
no error says that there is none. Nor does one when the text is read as one document or a class is
generated for it. -/
theorem text_decodable (limits : Limits) (document : String) (calls : Nat) :
    (∃ read unread, document = read ++ unread ∧
      ((Reader.ofBytes limits (utf8 document)).after calls).cursor.before = utf8 read ∧
      ((Reader.ofBytes limits (utf8 document)).after calls).cursor.unread = utf8 unread) ∧
    ((Reader.ofBytes limits (utf8 document)).after calls).read.1.mapError (·.cause) ≠
      .error .invalidUtf8 ∧
    (readString limits document).mapError (·.cause) ≠ .error .invalidUtf8 ∧
    ∀ options className,
      (generate options className document).mapError (·.cause) ≠ .error .invalidUtf8 := by
  have stands := Reader.standsIn_after limits (utf8 document) calls
  have form := Text.isUtf8_utf8 document
  refine ⟨?_, Reader.read_decodable stands form, readString_decodable limits document,
    fun options className => generate_decodable options className document⟩
  obtain ⟨⟨read, before⟩, ⟨unread, after⟩⟩ := stands.between form
  refine ⟨read, unread, Text.utf8_injective ?_, before, after⟩
  rw [Text.utf8_append, ← before, ← after]
  exact stands.whole

end XmlBuilder
