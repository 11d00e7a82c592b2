import XmlBuilder.Markup.Aside
import XmlBuilder.Markup.Tag

/-!
Elements with their content. The elements that are still open are kept in a list, the innermost
first, so that nesting is bounded by the limits alone.
-/
namespace XmlBuilder.Markup

/-- An element whose end tag has not come yet. -/
structure OpenElement where
  tag : Tag
  /-- The children so far, the last first. -/
  children : List Node
  depth : UInt16

namespace OpenElement

def add (element : OpenElement) (node : Node) : OpenElement :=
  { element with children := node :: element.children }

def close (element : OpenElement) : Element :=
  ⟨element.tag, element.children.reverse⟩

end OpenElement

/-- The depth of a child. The count stays at its highest value once it is there. -/
def deeper (depth : UInt16) : UInt16 :=
  if depth == 0xFFFF then depth else depth + 1

/-- What can come next in the content of an element. -/
inductive Piece
  | node (node : Node)
  | opened (tag : Tag)
  | closed

/-- Reads an element's start tag, if the element is not too deep. -/
def openElement (context : Context) (depth : UInt16) (bytes : Bytes) :
    Except Stop ((Tag × Bool) × Bytes) :=
  if context.limits.tooDeep depth then
    .error (.here (.depthExceeded context.limits.maxDepth) bytes)
  else readStartTag context bytes

/-- Reads the next piece of the content of an element of this name and depth. -/
def readPiece (context : Context) (name : String) (depth : UInt16) (bytes : Bytes) :
    Except Stop (Piece × Bytes) :=
  if startsWith "</" bytes then do
    let rest ← readEndTag name bytes
    .ok (.closed, rest)
  else if startsWith "<!--" bytes then do
    let (text, rest) ← readComment bytes
    .ok (.node (.comment text), rest)
  else if startsWith "<![CDATA[" bytes then do
    let (text, rest) ← readCdata bytes
    .ok (.node (.cdata text), rest)
  else if startsWith "<?" bytes then do
    let ((target, data), rest) ← readInstruction bytes
    .ok (.node (.instruction target data), rest)
  else if startsWith "<" bytes then do
    let ((tag, empty), rest) ← openElement context (deeper depth) bytes
    .ok (if empty then .node (.element tag []) else .opened tag, rest)
  else if bytes.isEmpty then .error .atEnd
  else do
    let (text, rest) ← readText context bytes
    .ok (.node (.text text), rest)

theorem readPiece_shorter {context : Context} {name : String} {depth : UInt16}
    {bytes rest : Bytes} {piece : Piece}
    (h : readPiece context name depth bytes = .ok (piece, rest)) :
    rest.length < bytes.length := by
  cases bytes with
  | nil => cases h
  | cons b tail =>
    simp only [readPiece] at h
    split at h
    · obtain ⟨_, read, done⟩ := bind_success h
      cases done
      exact readEndTag_shorter read
    split at h
    · obtain ⟨_, read, done⟩ := bind_success h
      cases done
      exact readComment_shorter (by simp) read
    split at h
    · obtain ⟨_, read, done⟩ := bind_success h
      cases done
      exact readCdata_shorter (by simp) read
    split at h
    · obtain ⟨_, read, done⟩ := bind_success h
      cases done
      exact readInstruction_shorter read
    split at h
    · obtain ⟨_, read, done⟩ := bind_success h
      cases done
      simp only [openElement] at read
      split at read
      · cases read
      · exact readStartTag_shorter read
    split at h
    · cases h
    · next other _ =>
      obtain ⟨_, read, done⟩ := bind_success h
      cases done
      refine readText_shorter (fun same => other ?_) read
      simp [startsWith, ascii, List.isPrefixOf, same]

/-- Reads the content of `element`, which lies in the elements of `outer`, and goes on to the end
of the outermost one. -/
def readContent (context : Context) (element : OpenElement) (outer : List OpenElement)
    (bytes : Bytes) : Except Stop (Element × Bytes) :=
  match _ : readPiece context element.tag.name element.depth bytes with
  | .error stop => .error stop
  | .ok (.node node, rest) => readContent context (element.add node) outer rest
  | .ok (.opened tag, rest) =>
    readContent context ⟨tag, [], deeper element.depth⟩ (element :: outer) rest
  | .ok (.closed, rest) =>
    match outer with
    | [] => .ok (element.close, rest)
    | parent :: above => readContent context (parent.add element.close.toNode) above rest
termination_by bytes.length
decreasing_by all_goals exact readPiece_shorter ‹_›

/-- One step of a run, without what its termination needs. -/
theorem readContent_eq (context : Context) (element : OpenElement) (outer : List OpenElement)
    (bytes : Bytes) :
    readContent context element outer bytes =
      match readPiece context element.tag.name element.depth bytes with
      | .error stop => .error stop
      | .ok (.node node, rest) => readContent context (element.add node) outer rest
      | .ok (.opened tag, rest) =>
        readContent context ⟨tag, [], deeper element.depth⟩ (element :: outer) rest
      | .ok (.closed, rest) =>
        match outer with
        | [] => .ok (element.close, rest)
        | parent :: above => readContent context (parent.add element.close.toNode) above rest := by
  rw [readContent]
  split
  · next found => rw [found]
  · next found => rw [found]
  · next found => rw [found]
  · next found =>
    cases outer with
    | nil => rw [found]
    | cons parent above => rw [found]

/-- Reads the root element. -/
def readElement (context : Context) (bytes : Bytes) : Except Stop (Element × Bytes) := do
  let ((tag, empty), rest) ← openElement context 1 bytes
  if empty then .ok (⟨tag, []⟩, rest) else readContent context ⟨tag, [], 1⟩ [] rest

end XmlBuilder.Markup
