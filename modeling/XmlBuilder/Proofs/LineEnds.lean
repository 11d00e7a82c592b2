import XmlBuilder.Proofs.Markup.Refusal
import XmlBuilder.Proofs.Reading
import XmlBuilder.Proofs.Text.LineFeeds

/-!
# Line ends make no difference

A document with its line ends unified is read as the document itself, but for the places of errors
(`readBytes_lineFeeds`). Every reader gives the same for both, with the line ends unified in the
bytes that are left (`unified`); `readName_unified` to `readDocument_unified` say so of one after
the other. It is so because what ends a name, a text or a quotation is no part of a line end,
because white space is skipped to its end, and because texts have their line ends unified before
they are decoded.
-/
namespace XmlBuilder
namespace Markup

open Text (lineFeeds)

/-- The reading stopped for the same reason, at the places where the line ends are unified. -/
def Stop.unified (stop : Stop) : Stop :=
  ⟨stop.cause, lineFeeds stop.site, lineFeeds stop.left⟩

/-- A result with the line ends unified in what is left; in a value `onValue` does it. -/
def unified {α : Type} (onValue : α → α) : Except Stop α → Except Stop α
  | .ok value => .ok (onValue value)
  | .error stop => .error stop.unified

/-- What is read, with the line ends unified in the bytes behind it. -/
def restUnified {α : Type} (read : α × Bytes) : α × Bytes :=
  (read.1, lineFeeds read.2)

/-- One step after another: if each does so, their sequence does. -/
theorem bind_unified {α β : Type} {first first' : Except Stop α} {next next' : α → Except Stop β}
    {onFirst : α → α} {onLast : β → β} (same : first' = unified onFirst first)
    (later : ∀ x, next' (onFirst x) = unified onLast (next x)) :
    (first' >>= next') = unified onLast (first >>= next) := by
  rw [same]
  cases first with
  | error stop => rfl
  | ok x => exact later x

/-! ## The smallest parts -/

theorem decode_unified (slice site left : Bytes) :
    decode slice (lineFeeds site) (lineFeeds left) = unified id (decode slice site left) := by
  unfold decode
  cases String.fromUTF8? slice.toByteArray with
  | some text => rfl
  | none => rfl

theorem skipSpace_unified (bytes : Bytes) :
    skipSpace (lineFeeds bytes) = lineFeeds (skipSpace bytes) :=
  Text.dropWhile_lineFeeds isSpace (by decide) bytes

theorem startsWith_unified {pattern : String} (noReturn : 13 ∉ ascii pattern)
    (noFeed : 10 ∉ ascii pattern) (bytes : Bytes) :
    startsWith pattern (lineFeeds bytes) = startsWith pattern bytes :=
  Text.isPrefixOf_lineFeeds noReturn noFeed bytes

theorem drop_unified {pattern : String} {bytes : Bytes} (noReturn : 13 ∉ ascii pattern)
    (begun : startsWith pattern bytes = true) :
    (lineFeeds bytes).drop pattern.length = lineFeeds (bytes.drop pattern.length) := by
  obtain ⟨rest, rfl⟩ := startsWith_iff.1 begun
  rw [Text.lineFeeds_append noReturn, drop_ascii, drop_ascii]

theorem expect_unified {wanted : Char} (noReturn : wanted.toUInt8 ≠ 13)
    (noFeed : wanted.toUInt8 ≠ 10) (bytes : Bytes) :
    expect wanted (lineFeeds bytes) = unified lineFeeds (expect wanted bytes) := by
  cases bytes with
  | nil => rfl
  | cons b rest =>
    obtain ⟨tail, begins⟩ := Text.lineFeeds_begins b rest
    have alike := Text.class_of_feed (· == wanted.toUInt8)
      (by simp [noReturn.symm, noFeed.symm]) b
    by_cases found : b = wanted.toUInt8
    · rw [Text.lineFeeds_cons (found ▸ noReturn), found]
      simp [expect, unified]
    · have other : ¬ (b == wanted.toUInt8) = true := by simpa using found
      rw [expect, if_neg other, begins, expect, if_neg (by rwa [alike]), ← begins]
      rfl

theorem readName_unified (bytes : Bytes) :
    readName (lineFeeds bytes) = unified restUnified (readName bytes) := by
  cases bytes with
  | nil => rfl
  | cons b rest =>
    obtain ⟨tail, begins⟩ := Text.lineFeeds_begins b rest
    have alike := Text.class_of_feed isNameStart (by decide) b
    by_cases starts : isNameStart b = true
    · have other : b ≠ 13 := by
        rintro rfl
        exact absurd starts (by decide)
      have clean : 13 ∉ rest.takeWhile isNameByte := fun member =>
        absurd (takeWhile_inside rest 13 member) (by decide)
      have left := Text.dropWhile_lineFeeds isNameByte (by decide) rest
      have taken := Text.takeWhile_lineFeeds isNameByte (by decide) rest
      rw [Text.lineFeeds_eq_self clean] at taken
      rw [Text.lineFeeds_cons other, readName, readName, if_pos starts, if_pos starts]
      dsimp only
      rw [left, taken, ← Text.lineFeeds_cons other]
      exact bind_unified (decode_unified _ _ _) fun name => rfl
    · rw [readName, if_neg starts, begins, readName, if_neg (by rwa [alike]), ← begins]
      rfl

theorem splitAtFirst_eq_map (pattern read bytes : Bytes) :
    splitAtFirst pattern read bytes =
      (splitAtFirst pattern [] bytes).map fun parts => (read.reverse ++ parts.1, parts.2) := by
  induction bytes generalizing read with
  | nil => rfl
  | cons b rest ih =>
    simp only [splitAtFirst]
    split
    · simp
    · rw [ih (b :: read), ih [b], Option.map_map]
      congr 1
      funext parts
      simp

theorem splitAtFirst_cons {pattern rest : Bytes} {b : UInt8}
    (later : ¬ pattern.isPrefixOf (b :: rest) = true) :
    splitAtFirst pattern [] (b :: rest) =
      (splitAtFirst pattern [] rest).map (Prod.map (b :: ·) id) := by
  rw [splitAtFirst, if_neg later, splitAtFirst_eq_map]
  rfl

/-- A pattern without line ends does not begin with one. -/
theorem not_isPrefixOf_lineEnd {pattern : Bytes} (begun : pattern ≠ []) {b : UInt8}
    (lacks : b ∉ pattern) (rest : Bytes) : ¬ pattern.isPrefixOf (b :: rest) = true := by
  cases pattern with
  | nil => exact absurd rfl begun
  | cons p more =>
    rw [List.isPrefixOf_iff_prefix, List.cons_prefix_cons]
    rintro ⟨rfl, -⟩
    exact lacks (by simp)

/-- Before the first pattern and from it on, the line ends are unified each for itself. -/
theorem splitAtFirst_unified {pattern : Bytes} (begun : pattern ≠ []) (noReturn : 13 ∉ pattern)
    (noFeed : 10 ∉ pattern) (bytes : Bytes) :
    splitAtFirst pattern [] (lineFeeds bytes) =
      (splitAtFirst pattern [] bytes).map (Prod.map lineFeeds lineFeeds) := by
  have notReturn := not_isPrefixOf_lineEnd begun noReturn
  have notFeed := not_isPrefixOf_lineEnd begun noFeed
  fun_induction lineFeeds bytes with
  | case1 => rfl
  | case2 rest ih =>
    rw [splitAtFirst_cons (notFeed _), ih, splitAtFirst_cons (notReturn _),
      splitAtFirst_cons (notFeed _), Option.map_map, Option.map_map, Option.map_map]
    rfl
  | case3 b rest lone ih =>
    by_cases returned : b = 13
    · rw [if_pos returned, returned, splitAtFirst_cons (notFeed _), ih,
        splitAtFirst_cons (notReturn _)]
      cases found : splitAtFirst pattern [] rest with
      | none => rfl
      | some parts =>
        obtain ⟨body, left⟩ := parts
        -- No line feed follows, so none follows within the body either.
        have noFeed : body.head? ≠ some 10 := by
          intro feed
          obtain ⟨tail, split⟩ := List.head?_eq_some_iff.1 feed
          have whole := splitAtFirst_eq found
          rw [split] at whole
          exact lone (tail ++ left) returned whole
        simp [Text.lineFeeds_return noFeed]
    · have here : pattern.isPrefixOf (b :: lineFeeds rest) = pattern.isPrefixOf (b :: rest) := by
        rw [← Text.lineFeeds_cons returned]
        exact Text.isPrefixOf_lineFeeds noReturn noFeed _
      rw [if_neg returned]
      by_cases first : pattern.isPrefixOf (b :: rest) = true
      · rw [splitAtFirst, if_pos (here.trans first), splitAtFirst, if_pos first]
        simp [lineFeeds, Text.lineFeeds_cons returned]
      · rw [splitAtFirst_cons (by rwa [here]), ih, splitAtFirst_cons first]
        cases splitAtFirst pattern [] rest with
        | none => rfl
        | some parts => simp [Prod.map, Text.lineFeeds_cons returned]

theorem readUntil_unified {closer : String} (begun : ascii closer ≠ [])
    (noReturn : 13 ∉ ascii closer) (noFeed : 10 ∉ ascii closer) (bytes : Bytes) :
    readUntil closer (lineFeeds bytes) = unified restUnified (readUntil closer bytes) := by
  unfold readUntil
  rw [splitAtFirst_unified begun noReturn noFeed]
  cases found : splitAtFirst (ascii closer) [] bytes with
  | none => rfl
  | some parts =>
    obtain ⟨body, left⟩ := parts
    obtain ⟨_, _, _, ⟨tail, rfl⟩, -⟩ := (splitAtFirst_eq_some_iff begun).1 found
    simp only [Option.map_some, Prod.map, Text.unifyLineEnds_eq, Text.lineFeeds_twice]
    refine bind_unified (decode_unified _ _ _) fun text => ?_
    rw [Text.lineFeeds_append noReturn, drop_ascii, drop_ascii]
    rfl

/-! ## Comments, CDATA sections and processing instructions -/

theorem readComment_unified {bytes : Bytes} (begun : startsWith "<!--" bytes = true) :
    readComment (lineFeeds bytes) = unified restUnified (readComment bytes) := by
  rw [readComment, drop_unified (by decide) begun]
  exact readUntil_unified (by decide) (by decide) (by decide) _

theorem readCdata_unified {bytes : Bytes} (begun : startsWith "<![CDATA[" bytes = true) :
    readCdata (lineFeeds bytes) = unified restUnified (readCdata bytes) := by
  rw [readCdata, drop_unified (by decide) begun]
  exact readUntil_unified (by decide) (by decide) (by decide) _

theorem readInstruction_unified {bytes : Bytes} (begun : startsWith "<?" bytes = true) :
    readInstruction (lineFeeds bytes) = unified restUnified (readInstruction bytes) := by
  rw [readInstruction, drop_unified (by decide) begun]
  refine bind_unified (readName_unified _) fun named => ?_
  dsimp only [restUnified]
  rw [skipSpace_unified]
  exact bind_unified (readUntil_unified (by decide) (by decide) (by decide) _) fun read => rfl

/-! ## Document type declarations -/

/-- Neither byte of a line end stops the skipping or ends a quotation. -/
theorem skipUnquoted_lineEnd {stops : UInt8 → Bool} {quote : Option UInt8}
    (quoted : ∀ q ∈ quote, isQuote q = true) {b : UInt8} (lineEnd : isQuote b = false)
    (passes : stops b = false) (rest : Bytes) :
    skipUnquoted stops quote (b :: rest) = skipUnquoted stops quote rest := by
  cases quote with
  | none => simp [skipUnquoted, lineEnd, passes]
  | some q =>
    have inside : ¬ b = q := by
      rintro rfl
      rw [quoted b rfl] at lineEnd
      cases lineEnd
    simp [skipUnquoted, inside]

theorem skipUnquoted_unified {stops : UInt8 → Bool} (noReturn : stops 13 = false)
    (noFeed : stops 10 = false) {quote : Option UInt8} (quoted : ∀ q ∈ quote, isQuote q = true)
    (bytes : Bytes) :
    skipUnquoted stops quote (lineFeeds bytes) =
      (skipUnquoted stops quote bytes).map restUnified := by
  have unquoted : ∀ q ∈ (none : Option UInt8), isQuote q = true := by simp
  fun_induction lineFeeds bytes generalizing quote with
  | case1 => rfl
  | case2 rest ih =>
    rw [skipUnquoted_lineEnd quoted (by decide) noFeed, ih quoted,
      skipUnquoted_lineEnd quoted (by decide) noReturn,
      skipUnquoted_lineEnd quoted (by decide) noFeed]
  | case3 b rest lone ih =>
    by_cases returned : b = 13
    · rw [if_pos returned, returned, skipUnquoted_lineEnd quoted (by decide) noFeed, ih quoted,
        skipUnquoted_lineEnd quoted (by decide) noReturn]
    · rw [if_neg returned]
      cases quote with
      | some q =>
        simp only [skipUnquoted]
        by_cases closed : b == q
        · rw [if_pos closed, ih unquoted]
        · rw [if_neg closed, ih quoted]
      | none =>
        simp only [skipUnquoted]
        by_cases opens : isQuote b = true
        · rw [if_pos opens, if_pos opens, ih (by simpa using opens)]
        · rw [if_neg opens, if_neg opens, ih unquoted]
          split
          · rfl
          · rfl

theorem skipDeclaration_unified (bytes : Bytes) :
    skipDeclaration (lineFeeds bytes) = unified lineFeeds (skipDeclaration bytes) := by
  unfold skipDeclaration
  rw [skipUnquoted_unified (by decide) (by decide) (by simp)]
  cases skipUnquoted (· == '>'.toUInt8) none bytes with
  | none => rfl
  | some found => rfl

/-- A quote is no part of a line end. -/
theorem isQuote_ne {quote : UInt8} (quoted : isQuote quote = true) : quote ≠ 13 ∧ quote ≠ 10 := by
  constructor
  · rintro rfl
    cases quoted
  · rintro rfl
    cases quoted

theorem readEntityText_unified {quote : UInt8} (quoted : isQuote quote = true) (bytes : Bytes) :
    readEntityText quote (lineFeeds bytes) = unified restUnified (readEntityText quote bytes) := by
  obtain ⟨notReturn, notFeed⟩ := isQuote_ne quoted
  have alike : (13 != quote) = (10 != quote) := by
    rw [bne_iff_ne.2 notReturn.symm, bne_iff_ne.2 notFeed.symm]
  have taken := Text.takeWhile_lineFeeds (· != quote) alike bytes
  have left := Text.dropWhile_lineFeeds (· != quote) alike bytes
  unfold readEntityText
  rw [taken, left]
  have ends : Stops (· != quote) (bytes.dropWhile (· != quote)) := stops_dropWhile bytes
  cases found : bytes.dropWhile (· != quote) with
  | nil => rfl
  | cons b rest =>
    rw [found, stops_cons] at ends
    obtain rfl : b = quote := by simpa using ends
    rw [Text.lineFeeds_cons notReturn]
    simp only [Text.unifyLineEnds_eq, Text.lineFeeds_twice]
    rw [← Text.lineFeeds_cons notReturn]
    refine bind_unified (decode_unified _ _ _) fun text => ?_
    dsimp only [id]
    rw [skipSpace_unified]
    exact bind_unified (expect_unified (by decide) (by decide) _) fun last => rfl

theorem readEntity_unified (table : Table String) {bytes : Bytes}
    (begun : startsWith "<!ENTITY" bytes = true) :
    readEntity table (lineFeeds bytes) = unified restUnified (readEntity table bytes) := by
  unfold readEntity
  rw [drop_unified (by decide) begun, skipSpace_unified]
  dsimp only
  generalize skipSpace (bytes.drop "<!ENTITY".length) = inner
  rw [startsWith_unified (by decide) (by decide)]
  split
  · next percent =>
    have dropped := drop_unified (by decide) percent
    rw [show "%".length = 1 from rfl] at dropped
    rw [dropped]
    exact bind_unified (skipDeclaration_unified _) fun last => rfl
  · refine bind_unified (readName_unified _) fun named => ?_
    obtain ⟨name, afterName⟩ := named
    dsimp only [restUnified]
    rw [skipSpace_unified]
    cases found : skipSpace afterName with
    | nil => rfl
    | cons b rest =>
      obtain ⟨tail, begins⟩ := Text.lineFeeds_begins b rest
      have alike := Text.class_of_feed isQuote (by decide) b
      by_cases quoted : isQuote b = true
      · rw [Text.lineFeeds_cons (isQuote_ne quoted).1]
        dsimp only
        rw [if_pos quoted, if_pos quoted]
        exact bind_unified (readEntityText_unified quoted _) fun read => rfl
      · rw [begins]
        dsimp only
        rw [if_neg (by rwa [alike]), if_neg quoted, ← begins]
        exact bind_unified (skipDeclaration_unified _) fun last => rfl

theorem readDeclaration_unified (table : Table String) (bytes : Bytes) :
    readDeclaration table (lineFeeds bytes) =
      unified restUnified (readDeclaration table bytes) := by
  have same {pattern : String} (noReturn : 13 ∉ ascii pattern) (noFeed : 10 ∉ ascii pattern) :=
    startsWith_unified noReturn noFeed bytes
  unfold readDeclaration
  rw [same (by decide) (by decide), same (by decide) (by decide), same (by decide) (by decide),
    same (by decide) (by decide), same (by decide) (by decide), Text.lineFeeds_isEmpty]
  split
  · next begun => exact readEntity_unified table begun
  split
  · next begun => exact bind_unified (readComment_unified begun) fun read => rfl
  split
  · next begun => exact bind_unified (readInstruction_unified begun) fun read => rfl
  split
  · exact bind_unified (skipDeclaration_unified bytes) fun last => rfl
  split
  · next begun =>
    have dropped := drop_unified (by decide) begun
    rw [show "%".length = 1 from rfl] at dropped
    rw [dropped]
    exact bind_unified (readUntil_unified (by decide) (by decide) (by decide) _) fun read => rfl
  split
  · rfl
  · rfl

theorem readSubset_unified (table : Table String) (bytes : Bytes) :
    readSubset table (lineFeeds bytes) =
      ((readSubset table bytes).1, unified lineFeeds (readSubset table bytes).2) := by
  fun_induction readSubset table bytes with
  | case1 table bytes closed =>
    have dropped := drop_unified (by decide) closed
    rw [show "]".length = 1 from rfl] at dropped
    rw [readSubset_eq, skipSpace_unified, startsWith_unified (by decide) (by decide), if_pos closed,
      dropped]
    rfl
  | case2 table bytes goesOn stop failed =>
    rw [readSubset_eq, skipSpace_unified, startsWith_unified (by decide) (by decide),
      if_neg goesOn, readDeclaration_unified, failed]
    rfl
  | case3 table bytes goesOn after rest read ih =>
    rw [readSubset_eq, skipSpace_unified, startsWith_unified (by decide) (by decide),
      if_neg goesOn, readDeclaration_unified, read]
    exact ih

theorem readDoctype_unified (table : Table String) {bytes : Bytes}
    (begun : startsWith "<!DOCTYPE" bytes = true) :
    readDoctype table (lineFeeds bytes) =
      ((readDoctype table bytes).1, unified lineFeeds (readDoctype table bytes).2) := by
  obtain ⟨tail, rfl⟩ := startsWith_iff.1 begun
  rw [Text.lineFeeds_append (by decide), readDoctype_eq, readDoctype_eq,
    skipUnquoted_unified (by decide) (by decide) (by simp)]
  cases skipUnquoted endsHead none tail with
  | none => rfl
  | some found =>
    obtain ⟨b, rest⟩ := found
    simp only [Option.map_some, restUnified]
    split
    · rfl
    · rw [readSubset_unified]
      refine Prod.ext rfl (bind_unified rfl fun last => ?_)
      rw [skipSpace_unified]
      exact expect_unified (by decide) (by decide) _

/-! ## Texts and tags -/

section Context

variable (context : Context)

theorem expand_unified (text : String) (site left : Bytes) :
    context.expand text (lineFeeds site) (lineFeeds left) =
      unified id (context.expand text site left) := by
  unfold Context.expand Context.decode
  cases Entity.expand context.entities context.limits.textLimit Entity.maxLevels text with
  | ok expanded => rfl
  | error cause => rfl

theorem readText_unified (bytes : Bytes) :
    readText context (lineFeeds bytes) = unified restUnified (readText context bytes) := by
  have alike : ((13 : UInt8) != '<'.toUInt8) = (10 != '<'.toUInt8) := by decide
  have taken := Text.takeWhile_lineFeeds (· != '<'.toUInt8) alike bytes
  have left := Text.dropWhile_lineFeeds (· != '<'.toUInt8) alike bytes
  unfold readText
  dsimp only
  rw [taken, left, Text.unifyLineEnds_eq, Text.unifyLineEnds_eq, Text.lineFeeds_twice]
  refine bind_unified (decode_unified _ _ _) fun text => ?_
  exact bind_unified (expand_unified context text _ _) fun expanded => rfl

theorem readValue_unified (bytes : Bytes) :
    readValue context (lineFeeds bytes) = unified restUnified (readValue context bytes) := by
  cases bytes with
  | nil => rfl
  | cons quote bytes =>
    obtain ⟨tail, begins⟩ := Text.lineFeeds_begins quote bytes
    have alike := Text.class_of_feed isQuote (by decide) quote
    by_cases quoted : isQuote quote = true
    · obtain ⟨notReturn, notFeed⟩ := isQuote_ne quoted
      have inside : ((13 : UInt8) != quote && (13 : UInt8) != '<'.toUInt8) =
          ((10 : UInt8) != quote && (10 : UInt8) != '<'.toUInt8) := by
        rw [bne_iff_ne.2 notReturn.symm, bne_iff_ne.2 notFeed.symm]
        decide
      have taken := Text.takeWhile_lineFeeds
        (fun b => b != quote && b != '<'.toUInt8) inside bytes
      have left := Text.dropWhile_lineFeeds
        (fun b => b != quote && b != '<'.toUInt8) inside bytes
      have ends : Stops (fun b => b != quote && b != '<'.toUInt8)
          (bytes.dropWhile fun b => b != quote && b != '<'.toUInt8) := stops_dropWhile bytes
      rw [Text.lineFeeds_cons notReturn, readValue, readValue, if_pos quoted, if_pos quoted]
      dsimp only
      rw [taken, left]
      cases found : bytes.dropWhile fun b => b != quote && b != '<'.toUInt8 with
      | nil => rfl
      | cons b rest =>
        have other : b ≠ 13 := by
          rintro rfl
          rw [found, stops_cons, bne_iff_ne.2 notReturn.symm] at ends
          exact absurd ends (by decide)
        rw [Text.lineFeeds_cons other]
        dsimp only
        split
        · simp only [Text.unifyLineEnds_eq, Text.lineFeeds_twice]
          refine bind_unified (decode_unified _ _ _) fun text => ?_
          exact bind_unified (expand_unified context text _ _) fun expanded => rfl
        · rw [← Text.lineFeeds_cons other]
          rfl
    · rw [readValue, if_neg quoted, begins, readValue, if_neg (by rwa [alike]), ← begins]
      rfl

theorem readAttribute_unified (bytes : Bytes) :
    readAttribute context (lineFeeds bytes) =
      unified restUnified (readAttribute context bytes) := by
  refine bind_unified (readName_unified _) fun named => ?_
  dsimp only [restUnified]
  rw [skipSpace_unified]
  refine bind_unified (expect_unified (by decide) (by decide) _) fun afterSign => ?_
  rw [skipSpace_unified]
  exact bind_unified (readValue_unified context _) fun valued => rfl

/-- Where the tag does not end, unified line ends do not end it either. -/
theorem readAttributes_lineFeeds {read : List Attribute} {bytes next : Bytes} {b : UInt8}
    (found : skipSpace bytes = b :: next)
    (further : ¬ (b == '/'.toUInt8 || b == '>'.toUInt8) = true) :
    readAttributes context read (lineFeeds bytes) =
      if bytes.head?.any isSpace then
        unified restUnified (readAttribute context (b :: next)) >>= fun (attr, rest) =>
          if read.any (·.name == attr.name) then
            .error ⟨.duplicateAttribute attr.name, lineFeeds (b :: next), rest⟩
          else readAttributes context (attr :: read) rest
      else .error (.here .invalidToken (lineFeeds (b :: next))) := by
  obtain ⟨tail, begins⟩ := Text.lineFeeds_begins b next
  have alike := Text.class_of_feed (fun c => c == '/'.toUInt8 || c == '>'.toUInt8)
    (by decide) b
  have spaced := Text.any_head?_lineFeeds isSpace (by decide) bytes
  rw [readAttributes_eq, skipSpace_unified, found, ← readAttribute_unified, spaced, begins]
  dsimp only
  rw [if_neg (by rwa [alike])]
  split
  · split
    · next failed =>
      rw [failed]
      rfl
    · next one =>
      rw [one]
      rfl
  · rfl

theorem readAttributes_unified (read : List Attribute) (bytes : Bytes) :
    readAttributes context read (lineFeeds bytes) =
      unified restUnified (readAttributes context read bytes) := by
  fun_induction readAttributes context read bytes with
  | case1 read bytes none =>
    rw [readAttributes_eq, skipSpace_unified, none]
    rfl
  | case2 read bytes b next found closer =>
    have other : b ≠ 13 := by
      rintro rfl
      exact absurd closer (by decide)
    rw [readAttributes_eq, skipSpace_unified, found, Text.lineFeeds_cons other]
    dsimp only
    rw [if_pos closer, ← Text.lineFeeds_cons other]
    rfl
  | case3 read bytes b next found further here stop failed =>
    rw [readAttributes_lineFeeds context found further, if_pos here, failed]
    rfl
  | case4 read bytes b next found further here attr rest taken twice =>
    rw [readAttributes_lineFeeds context found further, if_pos here, taken]
    exact if_pos twice
  | case5 read bytes b next found further here attr rest taken fresh ih =>
    rw [readAttributes_lineFeeds context found further, if_pos here, taken, ← ih]
    exact if_neg fresh
  | case6 read bytes b next found further unspaced =>
    rw [readAttributes_lineFeeds context found further, if_neg unspaced]
    rfl

theorem readStartTag_unified (bytes : Bytes) :
    readStartTag context (lineFeeds bytes) = unified restUnified (readStartTag context bytes) := by
  refine bind_unified (expect_unified (by decide) (by decide) _) fun afterOpener => ?_
  refine bind_unified (readName_unified _) fun named => ?_
  refine bind_unified (readAttributes_unified context _ _) fun listed => ?_
  obtain ⟨attributes, rest⟩ := listed
  dsimp only [restUnified]
  rw [startsWith_unified (by decide) (by decide)]
  split
  · next slash =>
    have dropped := drop_unified (by decide) slash
    rw [show "/".length = 1 from rfl] at dropped
    rw [dropped]
    exact bind_unified (expect_unified (by decide) (by decide) _) fun last => rfl
  · exact bind_unified (expect_unified (by decide) (by decide) _) fun last => rfl

theorem readEndTag_unified (name : String) {bytes : Bytes} (begun : startsWith "</" bytes = true) :
    readEndTag name (lineFeeds bytes) = unified lineFeeds (readEndTag name bytes) := by
  rw [readEndTag, drop_unified (by decide) begun]
  refine bind_unified (readName_unified _) fun named => ?_
  obtain ⟨found, rest⟩ := named
  dsimp only [restUnified]
  split
  · rw [skipSpace_unified]
    exact expect_unified (by decide) (by decide) _
  · rfl

/-! ## Elements -/

theorem openElement_unified (depth : UInt16) (bytes : Bytes) :
    openElement context depth (lineFeeds bytes) =
      unified restUnified (openElement context depth bytes) := by
  unfold openElement
  split
  · rfl
  · exact readStartTag_unified context bytes

theorem readPiece_unified (name : String) (depth : UInt16) (bytes : Bytes) :
    readPiece context name depth (lineFeeds bytes) =
      unified restUnified (readPiece context name depth bytes) := by
  have same {pattern : String} (noReturn : 13 ∉ ascii pattern) (noFeed : 10 ∉ ascii pattern) :=
    startsWith_unified noReturn noFeed bytes
  unfold readPiece
  rw [same (by decide) (by decide), same (by decide) (by decide), same (by decide) (by decide),
    same (by decide) (by decide), same (by decide) (by decide), Text.lineFeeds_isEmpty]
  split
  · next begun => exact bind_unified (readEndTag_unified name begun) fun rest => rfl
  split
  · next begun => exact bind_unified (readComment_unified begun) fun read => rfl
  split
  · next begun => exact bind_unified (readCdata_unified begun) fun read => rfl
  split
  · next begun => exact bind_unified (readInstruction_unified begun) fun read => rfl
  split
  · exact bind_unified (openElement_unified context _ bytes) fun read => rfl
  split
  · rfl
  · exact bind_unified (readText_unified context bytes) fun read => rfl

theorem readContent_unified (element : OpenElement) (outer : List OpenElement) (bytes : Bytes) :
    readContent context element outer (lineFeeds bytes) =
      unified restUnified (readContent context element outer bytes) := by
  fun_induction readContent context element outer bytes with
  | case1 element outer bytes stop failed =>
    rw [readContent_eq, readPiece_unified, failed]
    rfl
  | case2 element outer bytes node rest read ih =>
    rw [readContent_eq, readPiece_unified, read]
    exact ih
  | case3 element outer bytes tag rest read ih =>
    rw [readContent_eq, readPiece_unified, read]
    exact ih
  | case4 element bytes rest read =>
    rw [readContent_eq, readPiece_unified, read]
    rfl
  | case5 element bytes rest read parent above ih =>
    rw [readContent_eq, readPiece_unified, read]
    exact ih

theorem readElement_unified (bytes : Bytes) :
    readElement context (lineFeeds bytes) = unified restUnified (readElement context bytes) := by
  refine bind_unified (openElement_unified context 1 bytes) fun opened => ?_
  obtain ⟨⟨tag, empty⟩, rest⟩ := opened
  cases empty with
  | true => rfl
  | false => exact readContent_unified context _ _ _

end Context

/-! ## Documents -/

theorem readMisc?_unified (bytes : Bytes) :
    readMisc? (lineFeeds bytes) = (readMisc? bytes).map (unified lineFeeds) := by
  unfold readMisc?
  rw [startsWith_unified (by decide) (by decide), startsWith_unified (by decide) (by decide)]
  split
  · next begun =>
    rw [readInstruction_unified begun]
    cases readInstruction bytes with
    | error stop => rfl
    | ok read => rfl
  split
  · next begun =>
    rw [readComment_unified begun]
    cases readComment bytes with
    | error stop => rfl
    | ok read => rfl
  · rfl

theorem readProlog_unified (table : Table String) (bytes : Bytes) :
    readProlog table (lineFeeds bytes) =
      ((readProlog table bytes).1, unified lineFeeds (readProlog table bytes).2) := by
  fun_induction readProlog table bytes with
  | case1 table bytes stop failed =>
    rw [readProlog_eq, skipSpace_unified, readMisc?_unified, failed]
    rfl
  | case2 table bytes rest read ih =>
    rw [readProlog_eq, skipSpace_unified, readMisc?_unified, read]
    exact ih
  | case3 table bytes none begun after stop failed =>
    rw [readProlog_eq, skipSpace_unified, readMisc?_unified, none]
    dsimp only [Option.map_none]
    rw [startsWith_unified (by decide) (by decide), if_pos begun, readDoctype_unified table begun,
      failed]
    rfl
  | case4 table bytes none begun after rest read ih =>
    rw [readProlog_eq, skipSpace_unified, readMisc?_unified, none]
    dsimp only [Option.map_none]
    rw [startsWith_unified (by decide) (by decide), if_pos begun, readDoctype_unified table begun,
      read]
    exact ih
  | case5 table bytes none other =>
    rw [readProlog_eq, skipSpace_unified, readMisc?_unified, none]
    dsimp only [Option.map_none]
    rw [startsWith_unified (by decide) (by decide), if_neg other]
    rfl

theorem readEpilog_unified (bytes : Bytes) :
    readEpilog (lineFeeds bytes) = unified lineFeeds (readEpilog bytes) := by
  fun_induction readEpilog bytes with
  | case1 bytes stop failed =>
    rw [readEpilog_eq, skipSpace_unified, readMisc?_unified, failed]
    rfl
  | case2 bytes rest read ih =>
    rw [readEpilog_eq, skipSpace_unified, readMisc?_unified, read]
    exact ih
  | case3 bytes none =>
    rw [readEpilog_eq, skipSpace_unified, readMisc?_unified, none]
    rfl

theorem readBody_unified (context : Context) (bytes : Bytes) :
    readBody context (lineFeeds bytes) = unified id (readBody context bytes) := by
  have same := Text.lineFeeds_isEmpty bytes
  cases begun : bytes.isEmpty with
  | true =>
    obtain rfl := List.isEmpty_iff.1 begun
    rfl
  | false =>
    rw [readBody_eq context (same.trans begun), readBody_eq context begun]
    refine bind_unified (readElement_unified context bytes) fun read => ?_
    refine bind_unified (readEpilog_unified _) fun rest => ?_
    rw [Text.lineFeeds_isEmpty]
    split
    · rfl
    · rfl

theorem skipMark_unified (bytes : Bytes) :
    skipMark (lineFeeds bytes) = lineFeeds (skipMark bytes) := by
  unfold skipMark
  dsimp only
  rw [Text.isPrefixOf_lineFeeds (by decide) (by decide)]
  split
  · next marked =>
    obtain ⟨rest, rfl⟩ := List.isPrefixOf_iff_prefix.1 marked
    rfl
  · rfl

theorem readDocument_unified (limits : Limits) (unlimited : limits.maxSize = 0)
    (table : Table String) (bytes : Bytes) :
    readDocument limits table (lineFeeds bytes) =
      ((readDocument limits table bytes).1, unified id (readDocument limits table bytes).2) := by
  have fits (size : Nat) : limits.oversized size = false := by simp [Limits.oversized, unlimited]
  unfold readDocument
  rw [fits, fits, skipMark_unified, readProlog_unified]
  exact Prod.ext rfl (bind_unified rfl fun rest => readBody_unified _ rest)

end Markup

/-- A document is read in the same way whatever line ends it has: as the same tree, or with an
error of the same cause. -/
theorem readBytes_lineFeeds (depth : UInt16) (bytes : Bytes) :
    (readBytes ⟨depth, 0⟩ (Text.lineFeeds bytes)).mapError (·.cause) =
      (readBytes ⟨depth, 0⟩ bytes).mapError (·.cause) := by
  have same := Markup.readDocument_unified ⟨depth, 0⟩ rfl [] bytes
  rw [readBytes_eq, readBytes_eq, same]
  cases (Markup.readDocument ⟨depth, 0⟩ [] bytes).2 with
  | ok root => rfl
  | error stop => rfl

end XmlBuilder
