import XmlBuilder.Markup.Tag
import XmlBuilder.Scan.Basic

/-!
Scanning texts, attribute values and tags.
-/
namespace XmlBuilder.Scan

open Markup (Context)

/-- The text with its references expanded, which begins at `start`. -/
def expand (context : Context) (text : String) (start : Position) : Scan String := fun cursor =>
  match context.decode text with
  | .ok expanded => .ok expanded cursor
  | .error cause => failAt cause start cursor

theorem expand_agrees (context : Context) (text : String) {origin site cursor : Cursor}
    (there : origin.Reaches site) (reached : origin.Reaches cursor) :
    Agrees Prod.mk origin (expand context text site.position cursor)
      (context.expand text site.unread cursor.unread >>= fun text =>
        .ok (text, cursor.unread)) := by
  unfold expand Context.expand
  cases context.decode text with
  | error cause => exact .error there reached
  | ok expanded => exact .ok reached

/-- The text of a slice that begins at `start`, with its references expanded. -/
def decodeAndExpand (context : Context) (slice : Bytes) (start : Position) : Scan String := do
  let text ← decode slice start
  expand context text start

theorem decodeAndExpand_agrees (context : Context) (slice : Bytes) {origin site cursor : Cursor}
    (there : origin.Reaches site) (reached : origin.Reaches cursor) :
    Agrees Prod.mk origin (decodeAndExpand context slice site.position cursor)
      (do
        let text ← Markup.decode slice site.unread cursor.unread
        let expanded ← context.expand text site.unread cursor.unread
        .ok (expanded, cursor.unread)) := by
  unfold decodeAndExpand
  change Agrees Prod.mk origin
    (EStateM.bind (decode slice site.position) (expand context · site.position) cursor) _
  unfold EStateM.bind decode Markup.decode
  cases String.fromUTF8? slice.toByteArray with
  | none => exact .error there reached
  | some text => exact expand_agrees context text there reached

/-- Reads the text up to the next tag or the end. -/
def readText (context : Context) : Scan String := fun start =>
  let cursor := start.advanceWhile (· != '<'.toUInt8)
  decodeAndExpand context (Text.unifyLineEnds (cursor.sliceFrom start.position.offset))
    start.position cursor

theorem readText_agrees (context : Context) (start : Cursor) :
    Agrees Prod.mk start (readText context start) (Markup.readText context start.unread) := by
  unfold readText Markup.readText
  dsimp only
  rw [Cursor.sliceFrom_advanceWhile, ← Cursor.unread_advanceWhile]
  exact decodeAndExpand_agrees context _ (.refl start) (.advanceWhile _ start)

/-- Reads a quoted attribute value, in which no tag may begin. -/
def readValue (context : Context) : Scan String := fun opening =>
  match opening.current with
  | none => fail .unexpectedEnd opening
  | some quote =>
    if Markup.isQuote quote then
      let start := opening.advance
      let cursor := start.advanceWhile fun b => b != quote && b != '<'.toUInt8
      match cursor.current with
      | none => fail .unexpectedEnd cursor
      | some b =>
        if b == quote then
          let slice := Text.unifyLineEnds (cursor.sliceFrom start.position.offset)
          decodeAndExpand context (slice.map Markup.flattenSpace) start.position cursor.advance
        else fail .invalidToken cursor
    else fail .invalidToken opening

theorem readValue_agrees (context : Context) (opening : Cursor) :
    Agrees Prod.mk opening (readValue context opening)
      (Markup.readValue context opening.unread) := by
  unfold readValue
  cases opened : opening.unread with
  | nil =>
    rw [Cursor.current_nil opened]
    exact fail_atEnd opened
  | cons quote bytes =>
    rw [Cursor.current_cons opened, Markup.readValue]
    dsimp only
    refine .choose (fun _ => ?_) fun _ => ?_
    · -- The value begins behind the quote, and reading goes on to the byte that ends it.
      have begun : opening.advance.unread = bytes := Cursor.unread_advance opened
      have reached := Cursor.Reaches.advanceWhile (fun b => b != quote && b != '<'.toUInt8)
        opening.advance
      rw [Cursor.sliceFrom_advanceWhile]
      have ends := Cursor.unread_advanceWhile (fun b => b != quote && b != '<'.toUInt8)
        opening.advance
      rw [begun] at ends ⊢
      refine .behind (.advance opening) ?_
      generalize opening.advance.advanceWhile _ = cursor at ends reached ⊢
      rw [← ends]
      cases next : cursor.unread with
      | nil =>
        rw [Cursor.current_nil next]
        exact (fail_atEnd next).behind reached
      | cons b left =>
        rw [Cursor.current_cons next]
        dsimp only
        refine .choose (fun _ => ?_) fun _ => ?_
        · rw [← Cursor.unread_advance next, ← begun]
          exact decodeAndExpand_agrees context _ (.refl _) (reached.trans (.advance cursor))
        · rw [← next]
          exact (fail_agrees _ cursor).behind reached
    · rw [← opened]
      exact fail_agrees _ opening

/-- Reads one attribute, the name first. -/
def readAttribute (context : Context) : Scan Attribute := do
  let name ← readName
  move (·.skipSpace)
  expect '='
  move (·.skipSpace)
  let value ← readValue context
  return ⟨name, value⟩

theorem readAttribute_agrees (context : Context) (cursor : Cursor) :
    Agrees Prod.mk cursor (readAttribute context cursor)
      (Markup.readAttribute context cursor.unread) := by
  unfold readAttribute Markup.readAttribute
  refine (readName_agrees cursor).bind fun name afterName => ?_
  dsimp only
  rw [move_bind, ← unread_skipSpace]
  refine .behind (skipSpace_reaches afterName) ((expect_agrees '=' _).bind fun _ afterSign => ?_)
  rw [move_bind, ← unread_skipSpace]
  refine .behind (skipSpace_reaches afterSign) ?_
  exact (readValue_agrees context _).bind fun value last => .ok (.refl last)

theorem afterAttribute_left {context : Context} {cursor next : Cursor} {attr : Attribute}
    (found : readAttribute context cursor.skipSpace = .ok attr next) :
    next.left < cursor.left :=
  left_lt (Markup.readAttribute_shorter ((readAttribute_agrees context _).reaches found).2)

/-- Reads attributes up to the end of the tag. Those in `read` came before, the last first. -/
def readAttributes (context : Context) (read : List Attribute) (cursor : Cursor) :
    Scanned (List Attribute) :=
  match cursor.skipSpace.current with
  | none => fail .unexpectedEnd cursor.skipSpace
  | some b =>
    if b == '/'.toUInt8 || b == '>'.toUInt8 then .ok read.reverse cursor.skipSpace
    else if cursor.current.any isSpace then
      match _ : readAttribute context cursor.skipSpace with
      | .error error next => .error error next
      | .ok attr next =>
        if read.any (·.name == attr.name) then
          failAt (.duplicateAttribute attr.name) cursor.skipSpace.position next
        else readAttributes context (attr :: read) next
    else fail .invalidToken cursor.skipSpace
termination_by cursor.left
decreasing_by exact afterAttribute_left ‹_›

/-- One step of reading attributes, where white space has been skipped up to the byte `b`. -/
theorem readAttributes_step (context : Context) (read : List Attribute) {cursor : Cursor}
    {b : UInt8} (found : cursor.skipSpace.current = some b) :
    Markup.readAttributes context read cursor.unread =
      if b == '/'.toUInt8 || b == '>'.toUInt8 then .ok (read.reverse, cursor.skipSpace.unread)
      else if cursor.current.any isSpace then
        match Markup.readAttribute context cursor.skipSpace.unread with
        | .error stop => .error stop
        | .ok (attr, rest) =>
          if read.any (·.name == attr.name) then
            .error ⟨.duplicateAttribute attr.name, cursor.skipSpace.unread, rest⟩
          else Markup.readAttributes context (attr :: read) rest
      else .error (.here .invalidToken cursor.skipSpace.unread) := by
  obtain ⟨tail, next⟩ := Cursor.current_eq_some found
  have step := Markup.readAttributes_eq context read cursor.unread
  rw [← unread_skipSpace, next] at step
  rw [Cursor.current_eq, next]
  exact step

theorem readAttributes_agrees (context : Context) (read : List Attribute) (cursor : Cursor) :
    Agrees Prod.mk cursor (readAttributes context read cursor)
      (Markup.readAttributes context read cursor.unread) := by
  fun_induction readAttributes context read cursor with
  | case1 read cursor ended =>
    have none := Cursor.current_eq_none ended
    rw [Markup.readAttributes_eq, ← unread_skipSpace, none]
    exact (fail_atEnd none).behind (skipSpace_reaches cursor)
  | case2 read cursor b found closes =>
    rw [readAttributes_step context read found, if_pos closes]
    exact .ok (skipSpace_reaches cursor)
  | case3 read cursor b found goesOn spaced error last failed =>
    obtain ⟨stop, stopped, fails⟩ := (readAttribute_agrees context cursor.skipSpace).stops failed
    rw [readAttributes_step context read found, if_neg goesOn, if_pos spaced, stopped]
    exact (fails Prod.mk).behind (skipSpace_reaches cursor)
  | case4 read cursor b found goesOn spaced attr after one twice =>
    obtain ⟨reached, same⟩ := (readAttribute_agrees context cursor.skipSpace).reaches one
    have spaces := skipSpace_reaches cursor
    rw [readAttributes_step context read found, if_neg goesOn, if_pos spaced, same]
    dsimp only
    rw [if_pos twice]
    exact .error spaces (spaces.trans reached)
  | case5 read cursor b found goesOn spaced attr after one new ih =>
    obtain ⟨reached, same⟩ := (readAttribute_agrees context cursor.skipSpace).reaches one
    rw [readAttributes_step context read found, if_neg goesOn, if_pos spaced, same]
    dsimp only
    rw [if_neg new]
    exact ih.behind ((skipSpace_reaches cursor).trans reached)
  | case6 read cursor b found goesOn apart =>
    rw [readAttributes_step context read found, if_neg goesOn, if_neg apart]
    exact (fail_agrees _ _).behind (skipSpace_reaches cursor)

/-- Reads a start tag, and whether it closes its element itself. -/
def readStartTag (context : Context) : Scan (Tag × Bool) := do
  expect '<'
  let name ← readName
  let attributes ← readAttributes context []
  let empty ← consume '/'.toUInt8
  expect '>'
  return (⟨name, attributes⟩, empty)

theorem readStartTag_agrees (context : Context) (cursor : Cursor) :
    Agrees Prod.mk cursor (readStartTag context cursor)
      (Markup.readStartTag context cursor.unread) := by
  unfold readStartTag Markup.readStartTag
  refine (expect_agrees '<' cursor).bind fun _ opened => ?_
  refine (readName_agrees opened).bind fun name named => ?_
  refine (readAttributes_agrees context [] named).bind fun attributes last => ?_
  refine consume_bind '/' ?_ ?_
  · rw [← Cursor.unread_advanceBy]
    exact (expect_agrees '>' _).bind fun _ after => .ok (.refl after)
  · exact (expect_agrees '>' last).bind fun _ after => .ok (.refl after)

/-- Reads the end tag of the element called `name`, its opener included. -/
def readEndTag (name : String) : Scan Unit := fun start => (do
  move (·.advanceBy "</".length)
  let found ← readName
  if found = name then
    move (·.skipSpace)
    expect '>'
  else failAt (.mismatchedTag name found) start.position) start

theorem readEndTag_agrees (name : String) (start : Cursor) :
    Agrees rest start (readEndTag name start) (Markup.readEndTag name start.unread) := by
  unfold readEndTag Markup.readEndTag
  rw [move_bind, ← Cursor.unread_advanceBy]
  have named := (readName_agrees _).behind (.advanceBy start "</".length)
  refine named.bind_within fun found after reached => ?_
  dsimp only
  by_cases same : found = name
  · rw [if_pos same, if_pos same, move_bind, ← unread_skipSpace]
    exact (expect_agrees '>' _).behind (reached.trans (skipSpace_reaches after))
  · rw [if_neg same, if_neg same]
    exact .error (.refl start) reached

end XmlBuilder.Scan
