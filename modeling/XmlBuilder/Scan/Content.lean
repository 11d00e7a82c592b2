import XmlBuilder.Markup.Content
import XmlBuilder.Scan.Aside
import XmlBuilder.Scan.Tag

/-!
Scanning elements with their content.
-/
namespace XmlBuilder.Scan

open Markup (Context OpenElement Piece deeper)

/-- Reads an element's start tag, if the element is not too deep. -/
def openElement (context : Context) (depth : UInt16) : Scan (Tag × Bool) := fun cursor =>
  if context.limits.tooDeep depth then fail (.depthExceeded context.limits.maxDepth) cursor
  else readStartTag context cursor

theorem openElement_agrees (context : Context) (depth : UInt16) (cursor : Cursor) :
    Agrees Prod.mk cursor (openElement context depth cursor)
      (Markup.openElement context depth cursor.unread) :=
  .choose (fun _ => fail_agrees _ cursor) fun _ => readStartTag_agrees context cursor

/-- Reads the next piece of the content of an element of this name and depth. -/
def readPiece (context : Context) (name : String) (depth : UInt16) : Scan Piece := fun cursor =>
  if cursor.startsWith (Markup.ascii "</") then (do
    readEndTag name
    return Piece.closed) cursor
  else if cursor.startsWith (Markup.ascii "<!--") then (do
    let text ← readComment
    return Piece.node (.comment text)) cursor
  else if cursor.startsWith (Markup.ascii "<![CDATA[") then (do
    let text ← readCdata
    return Piece.node (.cdata text)) cursor
  else if cursor.startsWith (Markup.ascii "<?") then (do
    let (target, data) ← readInstruction
    return Piece.node (.instruction target data)) cursor
  else if cursor.current = some '<'.toUInt8 then (do
    let (tag, empty) ← openElement context (deeper depth)
    return if empty then Piece.node (.element tag []) else .opened tag) cursor
  else if cursor.atEnd then fail .unexpectedEnd cursor
  else (do
    let text ← readText context
    return Piece.node (.text text)) cursor

theorem readPiece_agrees (context : Context) (name : String) (depth : UInt16) (cursor : Cursor) :
    Agrees Prod.mk cursor (readPiece context name depth cursor)
      (Markup.readPiece context name depth cursor.unread) := by
  unfold readPiece Markup.readPiece
  rw [startsWith_eq, startsWith_eq, startsWith_eq, startsWith_eq]
  refine .choose (fun _ => ?_) fun _ => ?_
  · exact (readEndTag_agrees name cursor).bind fun _ after => .ok (.refl after)
  refine .choose (fun _ => ?_) fun _ => ?_
  · exact (readComment_agrees cursor).bind fun _ after => .ok (.refl after)
  refine .choose (fun _ => ?_) fun _ => ?_
  · exact (readCdata_agrees cursor).bind fun _ after => .ok (.refl after)
  refine .choose (fun _ => ?_) fun _ => ?_
  · exact (readInstruction_agrees cursor).bind fun _ after => .ok (.refl after)
  simp only [current_eq_some_iff]
  refine .choose (fun _ => ?_) fun _ => ?_
  · exact (openElement_agrees context (deeper depth) cursor).bind fun _ after => .ok (.refl after)
  rw [Cursor.atEnd_eq]
  refine .choose (fun ended => fail_atEnd (List.isEmpty_iff.1 ended)) fun _ => ?_
  exact (readText_agrees context cursor).bind fun _ after => .ok (.refl after)

theorem readPiece_left {context : Context} {name : String} {depth : UInt16}
    {cursor next : Cursor} {piece : Piece}
    (found : readPiece context name depth cursor = .ok piece next) : next.left < cursor.left := by
  rw [Cursor.left_eq, Cursor.left_eq]
  exact Markup.readPiece_shorter ((readPiece_agrees context name depth cursor).reaches found).2

/-- Reads the content of `element`, which lies in the elements of `outer`, and goes on to the end
of the outermost one. -/
def readContent (context : Context) (element : OpenElement) (outer : List OpenElement)
    (cursor : Cursor) : Scanned Element :=
  match _ : readPiece context element.tag.name element.depth cursor with
  | .error error next => .error error next
  | .ok (.node node) next => readContent context (element.add node) outer next
  | .ok (.opened tag) next =>
    readContent context ⟨tag, [], deeper element.depth⟩ (element :: outer) next
  | .ok .closed next =>
    match outer with
    | [] => .ok element.close next
    | parent :: above => readContent context (parent.add element.close.toNode) above next
termination_by cursor.left
decreasing_by all_goals exact readPiece_left ‹_›

theorem readContent_agrees (context : Context) (element : OpenElement) (outer : List OpenElement)
    (cursor : Cursor) :
    Agrees Prod.mk cursor (readContent context element outer cursor)
      (Markup.readContent context element outer cursor.unread) := by
  fun_induction readContent context element outer cursor with
  | case1 element outer cursor error next failed =>
    obtain ⟨stop, stopped, fails⟩ := (readPiece_agrees ..).stops failed
    rw [Markup.readContent_eq, stopped]
    exact fails Prod.mk
  | case2 element outer cursor node next found ih =>
    obtain ⟨reached, same⟩ := (readPiece_agrees ..).reaches found
    rw [Markup.readContent_eq, same]
    exact ih.behind reached
  | case3 element outer cursor tag next found ih =>
    obtain ⟨reached, same⟩ := (readPiece_agrees ..).reaches found
    rw [Markup.readContent_eq, same]
    exact ih.behind reached
  | case4 element cursor next found =>
    obtain ⟨reached, same⟩ := (readPiece_agrees ..).reaches found
    rw [Markup.readContent_eq, same]
    exact .ok reached
  | case5 element cursor next found parent above ih =>
    obtain ⟨reached, same⟩ := (readPiece_agrees ..).reaches found
    rw [Markup.readContent_eq, same]
    exact ih.behind reached

/-- Reads the root element. -/
def readElement (context : Context) : Scan Element := do
  let (tag, empty) ← openElement context 1
  if empty then return ⟨tag, []⟩
  else readContent context ⟨tag, [], 1⟩ []

theorem readElement_agrees (context : Context) (cursor : Cursor) :
    Agrees Prod.mk cursor (readElement context cursor)
      (Markup.readElement context cursor.unread) := by
  unfold readElement Markup.readElement
  refine (openElement_agrees context 1 cursor).bind fun opened after => ?_
  obtain ⟨tag, empty⟩ := opened
  cases empty with
  | true => exact .ok (.refl after)
  | false => exact readContent_agrees context ⟨tag, [], 1⟩ [] after

end XmlBuilder.Scan
