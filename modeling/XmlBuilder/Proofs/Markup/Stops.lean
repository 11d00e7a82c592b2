import XmlBuilder.Proofs.Entity.Expansion
import XmlBuilder.Proofs.Markup.Document
import XmlBuilder.Proofs.Text.Boundaries

/-!
# Where reading goes on and where it stops

Reading goes on, and stops, at places ahead in the bytes that lie between two characters, if the
bytes are those of a text (`Ahead`). It stops at their end for one of two causes and for no others,
and because of bytes that are no text only if the bytes are none (`Stop.Within`). A reader is
`Traced` if both hold of what it gives; steps after one another are traced if each is
(`Traced.bind`), so that `readName_traced` to `readDocument_traced` follow the readers.
-/
namespace XmlBuilder

/-- The document ended where more was needed. -/
def Cause.OfEnd (cause : Cause) : Prop :=
  cause = .unexpectedEnd ∨ cause = .missingRoot

namespace Markup

open Text (IsUtf8)

/-- A place that reading can reach: a cut of the bytes, between two characters if they have any. -/
def Ahead (bytes place : Bytes) : Prop :=
  ∃ read, bytes = read ++ place ∧ (IsUtf8 bytes → IsUtf8 read ∧ IsUtf8 place)

/-- Reading the bytes can have stopped so. -/
structure Stop.Within (bytes : Bytes) (stop : Stop) : Prop where
  site : Ahead bytes stop.site
  left : Ahead bytes stop.left
  atEnd : stop.cause.OfEnd ↔ stop.site = []
  decodable : IsUtf8 bytes → stop.cause ≠ .invalidUtf8

/-- What a reader gave for the bytes: a value, behind which `rest` is left, or where it stopped. -/
def Traced {α : Type} (bytes : Bytes) (rest : α → Bytes) : Except Stop α → Prop
  | .ok value => Ahead bytes (rest value)
  | .error stop => stop.Within bytes

/-! ## Places -/

namespace Ahead

theorem refl (bytes : Bytes) : Ahead bytes bytes :=
  ⟨[], rfl, fun form => ⟨Text.isUtf8_nil, form⟩⟩

theorem trans {bytes between place : Bytes} (first : Ahead bytes between)
    (later : Ahead between place) : Ahead bytes place := by
  obtain ⟨read, rfl, isRead⟩ := first
  obtain ⟨more, rfl, isMore⟩ := later
  refine ⟨read ++ more, (List.append_assoc _ _ _).symm, fun form => ?_⟩
  obtain ⟨ofRead, ofRest⟩ := isRead form
  obtain ⟨ofMore, ofPlace⟩ := isMore ofRest
  exact ⟨ofRead.append ofMore, ofPlace⟩

theorem nil (bytes : Bytes) : Ahead bytes [] :=
  ⟨bytes, (List.append_nil _).symm, fun form => ⟨form, Text.isUtf8_nil⟩⟩

theorem isUtf8 {bytes place : Bytes} (ahead : Ahead bytes place) (form : IsUtf8 bytes) :
    IsUtf8 place := by
  obtain ⟨read, -, isRead⟩ := ahead
  exact (isRead form).2

/-- Right before a byte of ASCII. -/
theorem before {b : UInt8} (ascii : b < 0x80) (front rest : Bytes) :
    Ahead (front ++ b :: rest) (b :: rest) :=
  ⟨front, rfl, fun form =>
    have cut := Text.isUtf8_cut ascii form
    ⟨cut.1, cut.2.1⟩⟩

/-- Right behind a byte of ASCII. -/
theorem behind {b : UInt8} (ascii : b < 0x80) (front rest : Bytes) :
    Ahead (front ++ b :: rest) rest := by
  refine ⟨front ++ [b], by simp, fun form => ?_⟩
  obtain ⟨isFront, -, isRest⟩ := Text.isUtf8_cut ascii form
  exact ⟨isFront.append (Text.isUtf8_cons ascii Text.isUtf8_nil), isRest⟩

theorem tail {b : UInt8} (ascii : b < 0x80) (rest : Bytes) : Ahead (b :: rest) rest :=
  behind ascii [] rest

theorem pattern {markup bytes : Bytes} (ascii : ∀ b ∈ markup, b < 0x80) :
    Ahead (markup ++ bytes) bytes := by
  induction markup with
  | nil => exact refl bytes
  | cons b more ih =>
    exact (tail (ascii b (by simp)) (more ++ bytes)).trans
      (ih fun c member => ascii c (by simp [member]))

theorem drop (pattern : String) {bytes : Bytes} (small : (ascii pattern).all (· < 0x80) = true)
    (begun : startsWith pattern bytes = true) : Ahead bytes (bytes.drop pattern.length) := by
  obtain ⟨rest, rfl⟩ := startsWith_iff.1 begun
  rw [drop_ascii]
  exact Ahead.pattern fun b member => of_decide_eq_true (List.all_eq_true.1 small b member)

/-- Where a class ends that has all bytes beyond ASCII. -/
theorem dropWhile {inClass : UInt8 → Bool} (beyond : ∀ b, 0x80 ≤ b → inClass b = true)
    (bytes : Bytes) : Ahead bytes (bytes.dropWhile inClass) := by
  have whole := List.takeWhile_append_dropWhile (p := inClass) (l := bytes)
  have ends : Stops inClass (bytes.dropWhile inClass) := stops_dropWhile bytes
  cases found : bytes.dropWhile inClass with
  | nil => exact nil bytes
  | cons b rest =>
    rw [found] at whole ends
    -- A byte of a character beyond ASCII would not end the class.
    have ascii : b < 0x80 := by
      by_contra high
      rw [stops_cons, beyond b (UInt8.not_lt.1 high)] at ends
      cases ends
    rw [← whole]
    exact before ascii _ rest

theorem skipSpace (bytes : Bytes) : Ahead bytes (skipSpace bytes) := by
  obtain ⟨space, split, spaces⟩ := skipSpace_split bytes
  have ascii : ∀ b ∈ space, b < 0x80 := by
    intro b member
    have blank := spaces b member
    simp only [isSpace, Bool.or_eq_true, beq_iff_eq] at blank
    rcases blank with ((rfl | rfl) | rfl) | rfl <;> decide
  have ahead : Ahead (space ++ Markup.skipSpace bytes) (Markup.skipSpace bytes) := pattern ascii
  rwa [← split] at ahead

end Ahead

theorem isUtf8_takeWhile {inClass : UInt8 → Bool} (beyond : ∀ b, 0x80 ≤ b → inClass b = true)
    {bytes : Bytes} (form : IsUtf8 bytes) : IsUtf8 (bytes.takeWhile inClass) := by
  obtain ⟨read, split, isRead⟩ := Ahead.dropWhile beyond bytes
  have whole := List.takeWhile_append_dropWhile (p := inClass) (l := bytes)
  rw [List.append_cancel_right (whole.trans split)]
  exact (isRead form).1

/-! ## Results -/

theorem Stop.Within.of_ahead {bytes place : Bytes} {stop : Stop} (ahead : Ahead bytes place)
    (within : stop.Within place) : stop.Within bytes where
  site := ahead.trans within.site
  left := ahead.trans within.left
  atEnd := within.atEnd
  decodable form := within.decodable (ahead.isUtf8 form)

/-- Reading stopped right here, and not at the end. -/
theorem Stop.Within.here {bytes : Bytes} {cause : Cause} (begun : bytes ≠ [])
    (other : ¬ cause.OfEnd) (decoded : cause ≠ .invalidUtf8) :
    (Stop.here cause bytes).Within bytes where
  site := .refl bytes
  left := .refl bytes
  atEnd := iff_of_false other begun
  decodable _ := decoded

theorem Stop.Within.ended (bytes : Bytes) : Stop.atEnd.Within bytes where
  site := .nil bytes
  left := .nil bytes
  atEnd := iff_of_true (.inl rfl) rfl
  decodable _ := nofun

namespace Traced

variable {α β : Type} {bytes : Bytes} {rest : α → Bytes} {restLast : β → Bytes}

theorem ahead {result : Except Stop α} {value : α} (traced : Traced bytes rest result)
    (read : result = .ok value) : Ahead bytes (rest value) := by
  subst read
  exact traced

theorem within {result : Except Stop α} {stop : Stop} (traced : Traced bytes rest result)
    (failed : result = .error stop) : stop.Within bytes := by
  subst failed
  exact traced

theorem of_ahead {place : Bytes} {result : Except Stop α} (ahead : Ahead bytes place)
    (traced : Traced place rest result) : Traced bytes rest result := by
  cases result with
  | ok value => exact ahead.trans traced
  | error stop => exact Stop.Within.of_ahead ahead traced

theorem bind {first : Except Stop α} {next : α → Except Stop β}
    (traced : Traced bytes rest first) (later : ∀ x, Traced (rest x) restLast (next x)) :
    Traced bytes restLast (first >>= next) := by
  cases first with
  | error stop => exact traced
  | ok x => exact .of_ahead traced (later x)

theorem snd {result : Except Stop (α × Bytes)} (traced : Traced bytes Prod.snd result) :
    Traced bytes id (Prod.snd <$> result) := by
  cases result with
  | error stop => exact traced
  | ok read => exact traced

end Traced

theorem invalidToken_traced {α : Type} {bytes : Bytes} (rest : α → Bytes) (begun : bytes ≠ []) :
    Traced bytes rest (.error (.here .invalidToken bytes)) :=
  Stop.Within.here begun (by simp [Cause.OfEnd]) nofun

theorem atEnd_traced {α : Type} (bytes : Bytes) (rest : α → Bytes) :
    Traced bytes rest (.error .atEnd) :=
  .ended bytes

/-! ## The smallest parts -/

theorem decode_traced {slice site left : Bytes} (begun : site ≠ []) (ahead : Ahead site left)
    (valid : IsUtf8 site → IsUtf8 slice) :
    Traced site (fun _ => site) (decode slice site left) := by
  cases decoded : decode slice site left with
  | ok text => exact .refl site
  | error stop =>
    have same : stop = ⟨.invalidUtf8, site, left⟩ := by
      unfold decode at decoded
      split at decoded
      · cases decoded
      · cases decoded
        rfl
    refine ⟨same ▸ .refl site, same ▸ ahead, ?_, ?_⟩
    · rw [same]
      exact iff_of_false (by simp [Cause.OfEnd]) begun
    · intro form
      obtain ⟨text, laid⟩ := valid form
      rw [decode_ok_iff.2 laid] at decoded
      cases decoded

theorem expect_traced {wanted : Char} (small : wanted.toUInt8 < 0x80) (bytes : Bytes) :
    Traced bytes id (expect wanted bytes) := by
  cases bytes with
  | nil => exact atEnd_traced [] id
  | cons b rest =>
    rw [expect]
    split
    · next found =>
      rw [beq_iff_eq.1 found]
      exact Ahead.tail small rest
    · exact invalidToken_traced id (by simp)

theorem readName_traced (bytes : Bytes) : Traced bytes Prod.snd (readName bytes) := by
  cases bytes with
  | nil => exact atEnd_traced [] Prod.snd
  | cons b rest =>
    rw [readName]
    split
    · next starts =>
      have continues : isNameByte b = true := by simp [isNameByte, starts]
      have left := Ahead.dropWhile (fun _ => isNameByte_beyond) (b :: rest)
      have name := @isUtf8_takeWhile _ (fun _ => isNameByte_beyond) (b :: rest)
      rw [List.dropWhile_cons_of_pos continues] at left
      rw [List.takeWhile_cons_of_pos continues] at name
      exact .bind (decode_traced (by simp) left name) fun text => left
    · exact invalidToken_traced Prod.snd (by simp)

theorem readUntil_traced {closer : String} (begun : ascii closer ≠ [])
    (allSmall : (ascii closer).all (· < 0x80) = true) (bytes : Bytes) :
    Traced bytes Prod.snd (readUntil closer bytes) := by
  have small : ∀ b ∈ ascii closer, b < 0x80 :=
    fun b member => of_decide_eq_true (List.all_eq_true.1 allSmall b member)
  unfold readUntil
  split
  · exact atEnd_traced bytes Prod.snd
  · next body left found =>
    obtain ⟨body, rfl, rfl, ⟨tail, rfl⟩, -⟩ := (splitAtFirst_eq_some_iff begun).1 found
    obtain ⟨b, more, spelled⟩ := List.exists_cons_of_ne_nil begun
    -- The closer begins with a byte of ASCII, which stands between two characters.
    have first : b < 0x80 := small b (by rw [spelled]; simp)
    have here : Ahead (body ++ (ascii closer ++ tail)) (ascii closer ++ tail) := by
      rw [spelled, List.cons_append]
      exact .before first body _
    refine .bind (decode_traced (by simp [begun]) here ?_) fun text => ?_
    · intro form
      rw [spelled, List.cons_append] at form
      rw [Text.unifyLineEnds_eq]
      exact Text.isUtf8_lineFeeds (Text.isUtf8_cut first form).1
    · rw [drop_ascii]
      exact here.trans (.pattern small)

/-! ## Comments, CDATA sections and processing instructions -/

theorem readComment_traced {bytes : Bytes} (begun : startsWith "<!--" bytes = true) :
    Traced bytes Prod.snd (readComment bytes) :=
  .of_ahead (.drop "<!--" (by decide) begun) (readUntil_traced (by decide) (by decide) _)

theorem readCdata_traced {bytes : Bytes} (begun : startsWith "<![CDATA[" bytes = true) :
    Traced bytes Prod.snd (readCdata bytes) :=
  .of_ahead (.drop "<![CDATA[" (by decide) begun) (readUntil_traced (by decide) (by decide) _)

theorem readInstruction_traced {bytes : Bytes} (begun : startsWith "<?" bytes = true) :
    Traced bytes Prod.snd (readInstruction bytes) := by
  refine .of_ahead (.drop "<?" (by decide) begun) (.bind (readName_traced _) fun named => ?_)
  refine .of_ahead (.skipSpace _) ?_
  exact .bind (readUntil_traced (by decide) (by decide) _) fun read => .refl _

/-! ## Document type declarations -/

theorem skipUnquoted_ahead {stops : UInt8 → Bool} (small : ∀ b, stops b = true → b < 0x80)
    {bytes rest : Bytes} {b : UInt8} (found : skipUnquoted stops none bytes = some (b, rest)) :
    Ahead bytes rest := by
  obtain ⟨body, rfl, -, -, stopped⟩ := skipUnquoted_eq_some_iff.1 found
  exact .behind (small b stopped) body rest

theorem skipDeclaration_traced (bytes : Bytes) : Traced bytes id (skipDeclaration bytes) := by
  unfold skipDeclaration
  split
  · exact atEnd_traced bytes id
  · next found =>
    refine skipUnquoted_ahead (fun b stopped => ?_) found
    rw [beq_iff_eq.1 stopped]
    decide

theorem isQuote_small {quote : UInt8} (quoted : isQuote quote = true) : quote < 0x80 := by
  simp only [isQuote, Bool.or_eq_true, beq_iff_eq] at quoted
  rcases quoted with rfl | rfl
  · decide
  · decide

theorem beyond_ne {b c : UInt8} (small : c < 0x80) (beyond : 0x80 ≤ b) : (b != c) = true := by
  rw [bne_iff_ne]
  rintro rfl
  exact UInt8.not_lt.2 beyond small

theorem readEntityText_traced {quote : UInt8} (quoted : isQuote quote = true) (bytes : Bytes) :
    Traced bytes Prod.snd (readEntityText quote bytes) := by
  have small := isQuote_small quoted
  have beyond : ∀ b, 0x80 ≤ b → (b != quote) = true := fun b => beyond_ne small
  have closes := Ahead.dropWhile beyond bytes
  have ends : Stops (· != quote) (bytes.dropWhile (· != quote)) := stops_dropWhile bytes
  unfold readEntityText
  split
  · exact atEnd_traced bytes Prod.snd
  · next b left found =>
    rw [found] at closes ends
    obtain rfl : b = quote := by simpa [stops_cons] using ends
    have begun : bytes ≠ [] := by
      rintro rfl
      cases found
    refine .bind (decode_traced begun closes ?_) fun text => ?_
    · intro form
      rw [Text.unifyLineEnds_eq]
      exact Text.isUtf8_lineFeeds (isUtf8_takeWhile beyond form)
    · have further := closes.trans ((Ahead.tail small left).trans (.skipSpace left))
      exact .of_ahead further (.bind (expect_traced (by decide) _) fun last => .refl _)

theorem readEntity_traced (table : Table String) {bytes : Bytes}
    (begun : startsWith "<!ENTITY" bytes = true) :
    Traced bytes Prod.snd (readEntity table bytes) := by
  have opened := (Ahead.drop "<!ENTITY" (by decide) begun).trans (.skipSpace _)
  unfold readEntity
  refine .of_ahead opened ?_
  dsimp only
  split
  · next percent =>
    exact .of_ahead (.drop "%" (by decide) percent)
      (.bind (skipDeclaration_traced _) fun last => .refl _)
  · refine .bind (readName_traced _) fun named => .of_ahead (.skipSpace _) ?_
    obtain ⟨name, afterName⟩ := named
    dsimp only
    split
    · exact atEnd_traced _ Prod.snd
    · next b rest found =>
      rw [found]
      split
      · next quoted =>
        exact .of_ahead (.tail (isQuote_small quoted) rest)
          (.bind (readEntityText_traced quoted rest) fun read => .refl _)
      · exact .bind (skipDeclaration_traced _) fun last => .refl _

theorem readDeclaration_traced (table : Table String) (bytes : Bytes) :
    Traced bytes Prod.snd (readDeclaration table bytes) := by
  unfold readDeclaration
  split
  · next begun => exact readEntity_traced table begun
  split
  · next begun => exact .bind (readComment_traced begun) fun read => .refl _
  split
  · next begun => exact .bind (readInstruction_traced begun) fun read => .refl _
  split
  · exact .bind (skipDeclaration_traced bytes) fun last => .refl _
  split
  · next begun =>
    exact .of_ahead (.drop "%" (by decide) begun)
      (.bind (readUntil_traced (by decide) (by decide) _) fun read => .refl _)
  split
  · exact atEnd_traced bytes Prod.snd
  · next nonempty => exact invalidToken_traced Prod.snd (by simpa using nonempty)

theorem readSubset_traced (table : Table String) (bytes : Bytes) :
    Traced bytes id (readSubset table bytes).2 := by
  have spaced := Ahead.skipSpace bytes
  fun_induction readSubset table bytes with
  | case1 table bytes closed => exact spaced.trans (.drop "]" (by decide) closed)
  | case2 table bytes goesOn stop failed =>
    exact Stop.Within.of_ahead spaced ((readDeclaration_traced table _).within failed)
  | case3 table bytes goesOn after rest read ih =>
    have further : Ahead (skipSpace bytes) rest := (readDeclaration_traced table _).ahead read
    exact .of_ahead (spaced.trans further) (ih (.skipSpace rest))

theorem endsHead_small {b : UInt8} (ends : endsHead b = true) : b < 0x80 := by
  simp only [endsHead, Bool.or_eq_true, beq_iff_eq] at ends
  rcases ends with rfl | rfl
  · decide
  · decide

theorem readDoctype_traced (table : Table String) {bytes : Bytes}
    (begun : startsWith "<!DOCTYPE" bytes = true) :
    Traced bytes id (readDoctype table bytes).2 := by
  have opened := Ahead.drop "<!DOCTYPE" (by decide) begun
  obtain ⟨tail, rfl⟩ := startsWith_iff.1 begun
  rw [drop_ascii] at opened
  rw [readDoctype_eq]
  refine .of_ahead opened ?_
  split
  · exact atEnd_traced tail id
  · next b rest found =>
    have ahead := skipUnquoted_ahead (fun _ => endsHead_small) found
    split
    · exact ahead
    · refine .of_ahead ahead (.bind (readSubset_traced table rest) fun last => ?_)
      exact .of_ahead (.skipSpace last) (expect_traced (by decide) _)

/-! ## Texts and tags -/

theorem inside_of_refused {cause : Cause} (refused : Entity.RefusedFor cause) :
    ¬ cause.OfEnd ∧ cause ≠ .invalidUtf8 := by
  rcases refused with ⟨name, rfl⟩ | ⟨max, rfl⟩
  · exact ⟨by simp [Cause.OfEnd], nofun⟩
  · exact ⟨by simp [Cause.OfEnd], nofun⟩

section Context

variable (context : Context)

theorem expand_traced {site left : Bytes} (begun : site ≠ []) (ahead : Ahead site left)
    (text : String) : Traced site (fun _ => site) (context.expand text site left) := by
  unfold Context.expand
  split
  · exact .refl site
  · next cause failed =>
    obtain ⟨notEnd, decoded⟩ := inside_of_refused (Entity.expand_refused failed)
    exact ⟨.refl site, ahead, iff_of_false notEnd begun, fun _ => decoded⟩

theorem readText_traced {bytes : Bytes} (begun : bytes ≠ []) :
    Traced bytes Prod.snd (readText context bytes) := by
  have beyond : ∀ b, 0x80 ≤ b → (b != '<'.toUInt8) = true := fun b => beyond_ne (by decide)
  have left := Ahead.dropWhile beyond bytes
  refine .bind (decode_traced begun left ?_) fun text => ?_
  · intro form
    rw [Text.unifyLineEnds_eq]
    exact Text.isUtf8_lineFeeds (isUtf8_takeWhile beyond form)
  · exact .bind (expand_traced context begun left text) fun expanded => left

theorem flattenSpace_isUtf8 {bytes : Bytes} (form : IsUtf8 bytes) :
    IsUtf8 (bytes.map flattenSpace) := by
  refine form.map ?_ ?_
  · intro b small
    unfold flattenSpace
    split
    · decide
    · exact small
  · intro b beyond
    have tab : ¬ b = 9 := by
      rintro rfl
      exact absurd beyond (by decide)
    have feed : ¬ b = 10 := by
      rintro rfl
      exact absurd beyond (by decide)
    simp [flattenSpace, tab, feed]

theorem readValue_traced (bytes : Bytes) : Traced bytes Prod.snd (readValue context bytes) := by
  cases bytes with
  | nil => exact atEnd_traced [] Prod.snd
  | cons quote bytes =>
    rw [readValue]
    split
    · next quoted =>
      have small := isQuote_small quoted
      have beyond : ∀ b, 0x80 ≤ b → (b != quote && b != '<'.toUInt8) = true := by
        intro b high
        rw [beyond_ne small high, beyond_ne (by decide) high]
        rfl
      have closes := Ahead.dropWhile beyond bytes
      refine .of_ahead (.tail small bytes) ?_
      dsimp only
      split
      · exact atEnd_traced bytes Prod.snd
      · next b left found =>
        rw [found] at closes
        have begun : bytes ≠ [] := by
          rintro rfl
          cases found
        split
        · next closed =>
          rw [beq_iff_eq.1 closed] at closes
          have last := closes.trans (.tail small left)
          refine .bind (decode_traced begun last ?_) fun text => ?_
          · intro form
            rw [Text.unifyLineEnds_eq]
            exact flattenSpace_isUtf8 (Text.isUtf8_lineFeeds (isUtf8_takeWhile beyond form))
          · exact .bind (expand_traced context begun last text) fun expanded => last
        · exact .of_ahead closes (invalidToken_traced Prod.snd (by simp))
    · exact invalidToken_traced Prod.snd (by simp)

theorem readAttribute_traced (bytes : Bytes) :
    Traced bytes Prod.snd (readAttribute context bytes) := by
  refine .bind (readName_traced bytes) fun named => .of_ahead (.skipSpace _) ?_
  refine .bind (expect_traced (by decide) _) fun afterSign => .of_ahead (.skipSpace _) ?_
  exact .bind (readValue_traced context _) fun valued => .refl _

theorem readAttributes_traced (read : List Attribute) (bytes : Bytes) :
    Traced bytes Prod.snd (readAttributes context read bytes) := by
  fun_induction readAttributes context read bytes with
  | case1 read bytes none => exact atEnd_traced bytes Prod.snd
  | case2 read bytes b next found closer => exact found ▸ Ahead.skipSpace bytes
  | case3 read bytes b next found further here stop failed =>
    have spaced : Ahead bytes (b :: next) := found ▸ .skipSpace bytes
    exact Stop.Within.of_ahead spaced ((readAttribute_traced context _).within failed)
  | case4 read bytes b next found further here attr rest taken twice =>
    have spaced : Ahead bytes (b :: next) := found ▸ .skipSpace bytes
    have after : Ahead (b :: next) rest := (readAttribute_traced context _).ahead taken
    refine Stop.Within.of_ahead spaced ⟨.refl _, after, ?_, fun _ => by simp⟩
    exact iff_of_false (by simp [Cause.OfEnd]) (by simp)
  | case5 read bytes b next found further here attr rest taken fresh ih =>
    have spaced : Ahead bytes (b :: next) := found ▸ .skipSpace bytes
    have after : Ahead (b :: next) rest := (readAttribute_traced context _).ahead taken
    exact .of_ahead (spaced.trans after) ih
  | case6 read bytes b next found further unspaced =>
    have spaced : Ahead bytes (b :: next) := found ▸ .skipSpace bytes
    exact .of_ahead spaced (invalidToken_traced Prod.snd (by simp))

theorem readStartTag_traced (bytes : Bytes) :
    Traced bytes Prod.snd (readStartTag context bytes) := by
  refine .bind (expect_traced (by decide) bytes) fun afterOpener => ?_
  refine .bind (readName_traced _) fun named => ?_
  refine .bind (readAttributes_traced context _ _) fun listed => ?_
  obtain ⟨attributes, rest⟩ := listed
  dsimp only
  split
  · next slash =>
    refine .of_ahead (.drop "/" (by decide) slash) ?_
    exact .bind (expect_traced (by decide) _) fun last => .refl _
  · exact .bind (expect_traced (by decide) _) fun last => .refl _

theorem readEndTag_traced (name : String) {bytes : Bytes} (begun : startsWith "</" bytes = true) :
    Traced bytes id (readEndTag name bytes) := by
  have opened := Ahead.drop "</" (by decide) begun
  have named := readName_traced (bytes.drop "</".length)
  rw [readEndTag]
  cases read : readName (bytes.drop "</".length) with
  | error stop => exact Stop.Within.of_ahead opened (named.within read)
  | ok given =>
    have reached := opened.trans (named.ahead read)
    change Traced bytes id (if given.1 = name then _ else _)
    split
    · exact .of_ahead (reached.trans (.skipSpace _)) (expect_traced (by decide) _)
    · refine ⟨.refl bytes, reached, iff_of_false (by simp [Cause.OfEnd]) ?_, nofun⟩
      rintro rfl
      cases begun

/-! ## Elements -/

theorem openElement_traced (depth : UInt16) {bytes : Bytes} (begun : bytes ≠ []) :
    Traced bytes Prod.snd (openElement context depth bytes) := by
  unfold openElement
  split
  · exact Stop.Within.here begun (by simp [Cause.OfEnd]) nofun
  · exact readStartTag_traced context bytes

theorem readPiece_traced (name : String) (depth : UInt16) (bytes : Bytes) :
    Traced bytes Prod.snd (readPiece context name depth bytes) := by
  unfold readPiece
  split
  · next begun => exact .bind (readEndTag_traced name begun) fun rest => .refl _
  split
  · next begun => exact .bind (readComment_traced begun) fun read => .refl _
  split
  · next begun => exact .bind (readCdata_traced begun) fun read => .refl _
  split
  · next begun => exact .bind (readInstruction_traced begun) fun read => .refl _
  split
  · next begun =>
    have nonempty : bytes ≠ [] := by
      rintro rfl
      cases begun
    exact .bind (openElement_traced context _ nonempty) fun read => .refl _
  split
  · exact atEnd_traced bytes Prod.snd
  · next nonempty =>
    exact .bind (readText_traced context (by simpa using nonempty)) fun read => .refl _

theorem readContent_traced (element : OpenElement) (outer : List OpenElement) (bytes : Bytes) :
    Traced bytes Prod.snd (readContent context element outer bytes) := by
  -- Along the run: each piece goes on ahead of the one before.
  have piece := readPiece_traced context element.tag.name element.depth bytes
  fun_induction readContent context element outer bytes with
  | case1 element outer bytes stop failed => exact piece.within failed
  | case2 element outer bytes node rest read ih =>
    exact .of_ahead (piece.ahead read) (ih (readPiece_traced context _ _ _))
  | case3 element outer bytes tag rest read ih =>
    exact .of_ahead (piece.ahead read) (ih (readPiece_traced context _ _ _))
  | case4 element bytes rest read => exact piece.ahead read
  | case5 element bytes rest read parent above ih =>
    exact .of_ahead (piece.ahead read) (ih (readPiece_traced context _ _ _))

theorem readElement_traced {bytes : Bytes} (begun : bytes ≠ []) :
    Traced bytes Prod.snd (readElement context bytes) := by
  refine .bind (openElement_traced context 1 begun) fun opened => ?_
  obtain ⟨⟨tag, empty⟩, rest⟩ := opened
  cases empty with
  | true => exact .refl rest
  | false => exact readContent_traced context _ _ rest

end Context

/-! ## Documents -/

theorem readMisc?_traced {bytes : Bytes} {result : Except Stop Bytes}
    (found : readMisc? bytes = some result) : Traced bytes id result := by
  unfold readMisc? at found
  split at found
  · next begun =>
    cases found
    exact .snd (readInstruction_traced begun)
  split at found
  · next begun =>
    cases found
    exact .snd (readComment_traced begun)
  · cases found

theorem readProlog_traced (table : Table String) (bytes : Bytes) :
    Traced bytes id (readProlog table bytes).2 := by
  have spaced := Ahead.skipSpace bytes
  fun_induction readProlog table bytes with
  | case1 table bytes stop failed => exact .of_ahead spaced (readMisc?_traced failed)
  | case2 table bytes rest read ih =>
    have reached : Ahead (skipSpace bytes) rest := readMisc?_traced read
    exact .of_ahead (spaced.trans reached) (ih (.skipSpace rest))
  | case3 table bytes none begun after stop failed =>
    have within := (readDoctype_traced table begun).within (congrArg Prod.snd failed)
    exact Stop.Within.of_ahead spaced within
  | case4 table bytes none begun after rest read ih =>
    have reached : Ahead (skipSpace bytes) rest :=
      (readDoctype_traced table begun).ahead (congrArg Prod.snd read)
    exact .of_ahead (spaced.trans reached) (ih (.skipSpace rest))
  | case5 table bytes none other => exact spaced

theorem readEpilog_traced (bytes : Bytes) : Traced bytes id (readEpilog bytes) := by
  have spaced := Ahead.skipSpace bytes
  fun_induction readEpilog bytes with
  | case1 bytes stop failed => exact .of_ahead spaced (readMisc?_traced failed)
  | case2 bytes rest read ih =>
    have reached : Ahead (skipSpace bytes) rest := readMisc?_traced read
    exact .of_ahead (spaced.trans reached) (ih (.skipSpace rest))
  | case3 bytes none => exact spaced

theorem readBody_traced (context : Context) (bytes : Bytes) :
    Traced bytes (fun _ => []) (readBody context bytes) := by
  cases bytes with
  | nil => exact ⟨.refl [], .refl [], iff_of_true (.inr rfl) rfl, nofun⟩
  | cons b tail =>
    refine .bind (readElement_traced context (by simp)) fun read => ?_
    refine .bind (readEpilog_traced _) fun rest => ?_
    split
    · exact .nil rest
    · next nonempty =>
      exact Stop.Within.here (by simpa using nonempty) (by simp [Cause.OfEnd]) nofun

theorem skipMark_ahead (bytes : Bytes) : Ahead bytes (skipMark bytes) := by
  obtain ⟨mark, split, marked⟩ := skipMark_split bytes
  have form : IsUtf8 mark := by
    rcases marked with rfl | rfl
    · exact Text.isUtf8_nil
    · exact ⟨"\uFEFF", rfl⟩
  refine ⟨mark, split, fun whole => ⟨form, ?_⟩⟩
  rw [split] at whole
  exact whole.behind form

theorem readDocument_traced (limits : Limits) (table : Table String) (bytes : Bytes) :
    Traced bytes (fun _ => []) (readDocument limits table bytes).2 := by
  unfold readDocument
  split
  · next large =>
    refine Stop.Within.here ?_ (by simp [Cause.OfEnd]) nofun
    rintro rfl
    simp [Limits.oversized] at large
  · refine .of_ahead (skipMark_ahead bytes) ?_
    exact .bind (readProlog_traced table _) fun rest => readBody_traced _ rest

end Markup
end XmlBuilder
