import Mathlib.Data.List.Chain
import XmlBuilder.Proofs.Markup.Tags
import XmlBuilder.Proofs.Measures

/-!
# Elements are read as their forms

One step reads one piece (`readPiece_sound`, and `readPiece_comment` to `readPiece_closed` the
other way). In a run, `StackText` says what the bytes read so far are for the elements that are
open; each step keeps it, and when the last element closes its bytes are a `NodeText`
(`readContent_sound`). Conversely the bytes of a node in front of any others add just this node to
the innermost element, if the limits admit the elements in it where they lie (`readContent_node`),
by induction along the form. `readElement_sound` and `readElement_complete` state both for the
root.
-/
namespace XmlBuilder.Markup

open Text (utf8)

variable {context : Context}

/-- A text ends here: at a tag, or with the document. -/
def TextEnds (bytes : Bytes) : Prop :=
  Stops (· != '<'.toUInt8) bytes

/-- What the bytes of a piece say inside the element called `name`. -/
inductive PieceText (context : Context) (name : String) : Bytes → Piece → Prop
  | node {bytes : Bytes} {node : Node} :
    NodeText context bytes node → PieceText context name bytes (.node node)
  | opened {bytes : Bytes} {tag : Tag} :
    StartTagText context ">" bytes tag → PieceText context name bytes (.opened tag)
  | closed {bytes : Bytes} : EndTagText name bytes → PieceText context name bytes .closed

/-! ## Pieces that are read -/

theorem textEnds_of_begins {b : UInt8} {tail : Bytes} (opener : b = '<'.toUInt8) :
    TextEnds (b :: tail) := by
  simp [TextEnds, stops_cons, opener]

theorem readPiece_sound {name : String} {depth : UInt16} {bytes rest : Bytes} {piece : Piece}
    (h : readPiece context name depth bytes = .ok (piece, rest)) :
    ∃ taken, bytes = taken ++ rest ∧ PieceText context name taken piece ∧
      ∀ value, piece = .node (.text value) → ¬ TextEnds bytes ∧ TextEnds rest := by
  unfold readPiece at h
  split at h
  · next begun =>
    obtain ⟨last, read, done⟩ := bind_success h
    cases done
    obtain ⟨taken, split, form⟩ := (readEndTag_ok_iff begun).1 read
    exact ⟨taken, split, .closed form, by simp⟩
  split at h
  · next begun =>
    obtain ⟨⟨text, last⟩, read, done⟩ := bind_success h
    cases done
    obtain ⟨taken, split, form⟩ := (readComment_ok_iff begun).1 read
    exact ⟨taken, split, .node (.comment form), by simp⟩
  split at h
  · next begun =>
    obtain ⟨⟨text, last⟩, read, done⟩ := bind_success h
    cases done
    obtain ⟨taken, split, form⟩ := (readCdata_ok_iff begun).1 read
    exact ⟨taken, split, .node (.cdata form), by simp⟩
  split at h
  · next begun =>
    obtain ⟨⟨⟨target, data⟩, last⟩, read, done⟩ := bind_success h
    cases done
    obtain ⟨taken, split, form⟩ := (readInstruction_ok_iff begun).1 read
    exact ⟨taken, split, .node (.instruction form), by simp⟩
  split at h
  · obtain ⟨⟨⟨tag, empty⟩, last⟩, read, done⟩ := bind_success h
    cases done
    unfold openElement at read
    split at read
    · cases read
    · obtain ⟨taken, split, form⟩ := readStartTag_ok_iff.1 read
      cases empty
      · exact ⟨taken, split, .opened form, by simp⟩
      · exact ⟨taken, split, .node (.empty form), by simp⟩
  split at h
  · cases h
  · next other nonempty =>
    obtain ⟨⟨text, last⟩, read, done⟩ := bind_success h
    cases done
    obtain ⟨run, split, form, ends⟩ := readText_ok_iff.1 read
    have inText : ¬ TextEnds bytes := by
      intro stops
      cases bytes with
      | nil => simp at nonempty
      | cons b tail =>
        have opener : b = '<'.toUInt8 := by simpa [TextEnds, stops_cons] using stops
        exact other (startsWith_iff.2 ⟨tail, by simp [ascii, opener]⟩)
    have begun : run ≠ [] := by
      intro none
      rw [split, none] at inText
      exact inText ends
    exact ⟨run, split, .node (.text begun form), fun _ _ => ⟨inText, ends⟩⟩

/-! ## Reading pieces -/

section Pieces

variable {name : String} {depth : UInt16} {one rest : Bytes}

theorem readPiece_closed (form : EndTagText name one) :
    readPiece context name depth (one ++ rest) = .ok (.closed, rest) := by
  have begun : startsWith "</" (one ++ rest) = true := by
    obtain ⟨space, rfl, -⟩ := form
    exact startsWith_iff.2 ⟨_, List.append_assoc _ _ _⟩
  rw [readPiece, if_pos begun]
  exact bind_ok_iff.2 ⟨rest, (readEndTag_ok_iff begun).2 ⟨one, rfl, form⟩, rfl⟩

theorem readPiece_comment {text : String} (form : CommentText one text) :
    readPiece context name depth (one ++ rest) = .ok (.node (.comment text), rest) := by
  have begun : startsWith "<!--" (one ++ rest) = true ∧ startsWith "</" (one ++ rest) = false := by
    obtain ⟨body, rfl, -⟩ := form
    exact ⟨rfl, rfl⟩
  rw [readPiece, if_neg (by simp [begun]), if_pos begun.1]
  exact bind_ok_iff.2 ⟨_, (readComment_ok_iff begun.1).2 ⟨one, rfl, form⟩, rfl⟩

theorem readPiece_cdata {text : String} (form : CdataText one text) :
    readPiece context name depth (one ++ rest) = .ok (.node (.cdata text), rest) := by
  have begun : startsWith "<![CDATA[" (one ++ rest) = true ∧
      startsWith "</" (one ++ rest) = false ∧ startsWith "<!--" (one ++ rest) = false := by
    obtain ⟨body, rfl, -⟩ := form
    exact ⟨rfl, rfl, rfl⟩
  rw [readPiece, if_neg (by simp [begun]), if_neg (by simp [begun]), if_pos begun.1]
  exact bind_ok_iff.2 ⟨_, (readCdata_ok_iff begun.1).2 ⟨one, rfl, form⟩, rfl⟩

theorem readPiece_instruction {target data : String} (form : InstructionText one target data) :
    readPiece context name depth (one ++ rest) = .ok (.node (.instruction target data), rest) := by
  have begun : startsWith "<?" (one ++ rest) = true ∧ startsWith "</" (one ++ rest) = false ∧
      startsWith "<!--" (one ++ rest) = false ∧ startsWith "<![CDATA[" (one ++ rest) = false := by
    obtain ⟨space, body, rfl, -⟩ := form
    exact ⟨rfl, rfl, rfl, rfl⟩
  rw [readPiece, if_neg (by simp [begun]), if_neg (by simp [begun]), if_neg (by simp [begun]),
    if_pos begun.1]
  exact bind_ok_iff.2 ⟨_, (readInstruction_ok_iff begun.1).2 ⟨one, rfl, form⟩, rfl⟩

theorem readPiece_text {text : String} (begun : one ≠ []) (form : RunText context one text)
    (ends : TextEnds rest) :
    readPiece context name depth (one ++ rest) = .ok (.node (.text text), rest) := by
  have first : ∃ b tail, one ++ rest = b :: tail ∧ b ≠ '<'.toUInt8 := by
    cases one with
    | nil => exact absurd rfl begun
    | cons b tail => exact ⟨b, tail ++ rest, rfl, form.1 b (by simp)⟩
  have read := readText_ok_iff.2 ⟨one, rfl, form, ends⟩
  obtain ⟨b, tail, split, plain⟩ := first
  have noTag := @not_startsWith b plain tail
  rw [split] at read ⊢
  rw [readPiece, if_neg (noTag ⟨_, rfl⟩), if_neg (noTag ⟨_, rfl⟩), if_neg (noTag ⟨_, rfl⟩),
    if_neg (noTag ⟨_, rfl⟩), if_neg (noTag ⟨_, rfl⟩), if_neg (by simp)]
  exact bind_ok_iff.2 ⟨_, read, rfl⟩

theorem StartTagText.begins {closer : String} {tag : Tag}
    (form : StartTagText context closer one tag) :
    ∃ b tail, one = '<'.toUInt8 :: b :: tail ∧ isNameStart b = true := by
  obtain ⟨attrs, space, rfl, named, -⟩ := form
  obtain ⟨b, tail, laid, starts, -⟩ := isName_iff.1 named
  exact ⟨b, _, by rw [laid, List.cons_append], starts⟩

/-- A start tag is mistaken for no other markup: what that has after `<` begins no name. -/
theorem starts_tag {b : UInt8} (starts : isNameStart b = true) (tail : Bytes) :
    startsWith "</" ('<'.toUInt8 :: b :: tail) = false ∧
      startsWith "<!--" ('<'.toUInt8 :: b :: tail) = false ∧
      startsWith "<![CDATA[" ('<'.toUInt8 :: b :: tail) = false ∧
      startsWith "<?" ('<'.toUInt8 :: b :: tail) = false ∧
      startsWith "<!DOCTYPE" ('<'.toUInt8 :: b :: tail) = false ∧
      startsWith "<" ('<'.toUInt8 :: b :: tail) = true := by
  have other : ∀ c : Char, isNameStart c.toUInt8 = false → ¬ c.toUInt8 = b := by
    intro c plain same
    rw [same, starts] at plain
    cases plain
  simp [startsWith, ascii, List.isPrefixOf, other '/' rfl, other '!' rfl, other '?' rfl]

/-- A start tag is read as one, if the element is not too deep. -/
theorem readPiece_open {closer : String} {tag : Tag} (form : StartTagText context closer one tag) :
    readPiece context name depth (one ++ rest) =
      (openElement context (deeper depth) (one ++ rest) >>= fun ((tag, empty), rest) =>
        .ok (if empty then .node (.element tag []) else .opened tag, rest)) := by
  obtain ⟨b, tail, rfl, starts⟩ := form.begins
  obtain ⟨ending, comment, cdata, instruction, -, tagged⟩ := starts_tag starts (tail ++ rest)
  simp only [List.cons_append]
  rw [readPiece, if_neg (by simp [ending]), if_neg (by simp [comment]), if_neg (by simp [cdata]),
    if_neg (by simp [instruction]), if_pos tagged]

theorem readPiece_tag {tag : Tag} (empty : Bool)
    (shallow : context.limits.tooDeep (deeper depth) = false)
    (form : StartTagText context (if empty then "/>" else ">") one tag) :
    readPiece context name depth (one ++ rest) =
      .ok (if empty then .node (.element tag []) else .opened tag, rest) := by
  have read : readStartTag context (one ++ rest) = .ok ((tag, empty), rest) :=
    readStartTag_ok_iff.2 ⟨one, rfl, form⟩
  rw [readPiece_open form, openElement, if_neg (by simp [shallow]), read]
  rfl

theorem readPiece_tooDeep {closer : String} {tag : Tag}
    (deep : context.limits.tooDeep (deeper depth) = true)
    (form : StartTagText context closer one tag) :
    readPiece context name depth (one ++ rest) =
      .error (.here (.depthExceeded context.limits.maxDepth) (one ++ rest)) := by
  rw [readPiece_open form, openElement, if_pos deep]
  rfl

end Pieces

/-! ## What a run keeps -/

/-- The bytes of an open element so far. -/
def OpenText (context : Context) (bytes : Bytes) (element : OpenElement) : Prop :=
  ∃ (start : Bytes) (items : List (Bytes × Node)), bytes = start ++ items.flatMap (·.1) ∧
    StartTagText context ">" start element.tag ∧
    (∀ item ∈ items, NodeText context item.1 item.2) ∧ Node.Separated (items.map (·.2)) ∧
    element.children.reverse = items.map (·.2)

/-- The bytes of all open elements so far, the innermost last. -/
inductive StackText (context : Context) : Bytes → OpenElement → List OpenElement → Prop
  | root {bytes : Bytes} {element : OpenElement} :
    OpenText context bytes element → StackText context bytes element []
  | inner {bytes more : Bytes} {element parent : OpenElement} {above : List OpenElement} :
    StackText context bytes parent above → OpenText context more element →
      StackText context (bytes ++ more) element (parent :: above)

def OpenElement.EndsInText (element : OpenElement) : Prop :=
  ∃ value, element.children.head? = some (.text value)

theorem OpenText.start {bytes : Bytes} {tag : Tag} (depth : UInt16)
    (form : StartTagText context ">" bytes tag) : OpenText context bytes ⟨tag, [], depth⟩ :=
  ⟨bytes, [], by simp, form, by simp, by simp [Node.Separated], rfl⟩

theorem OpenText.add {bytes one : Bytes} {element : OpenElement} {node : Node}
    (opened : OpenText context bytes element) (form : NodeText context one node)
    (apart : node.isText = true → ¬ element.EndsInText) :
    OpenText context (bytes ++ one) (element.add node) := by
  obtain ⟨start, items, rfl, tag, forms, separated, children⟩ := opened
  refine ⟨start, items ++ [(one, node)], by simp, tag, ?_, ?_, by simp [OpenElement.add, children]⟩
  · intro item member
    rcases List.mem_append.1 member with earlier | last
    · exact forms item earlier
    · rw [List.mem_singleton.1 last]
      exact form
  · rw [List.map_append, Node.Separated, List.map_singleton, List.isChain_append]
    refine ⟨separated, by simp, ?_⟩
    rw [← children, List.getLast?_reverse]
    intro last member other same given
    rcases given with ⟨ofLast, ofNode⟩
    cases Option.some.inj same
    cases last with
    | text value => exact apart ofNode ⟨value, member⟩
    | _ => cases ofLast

theorem StackText.add {bytes one : Bytes} {element : OpenElement} {outer : List OpenElement}
    {node : Node} (stack : StackText context bytes element outer) (form : NodeText context one node)
    (apart : node.isText = true → ¬ element.EndsInText) :
    StackText context (bytes ++ one) (element.add node) outer := by
  cases stack with
  | root opened => exact .root (opened.add form apart)
  | inner stack opened =>
    rw [List.append_assoc]
    exact .inner stack (opened.add form apart)

/-- An element that is closed is a node of its own. -/
theorem OpenText.close {bytes ending : Bytes} {element : OpenElement}
    (opened : OpenText context bytes element) (form : EndTagText element.tag.name ending) :
    NodeText context (bytes ++ ending) element.close.toNode := by
  obtain ⟨start, items, rfl, tag, forms, separated, children⟩ := opened
  rw [OpenElement.close, Element.toNode, children, List.append_assoc]
  exact .element tag forms separated form

theorem add_endsInText {element : OpenElement} {node : Node}
    (ends : (element.add node).EndsInText) : ∃ value, node = .text value := by
  obtain ⟨value, last⟩ := ends
  exact ⟨value, Option.some.inj last⟩

theorem readContent_sound {element : OpenElement} {outer : List OpenElement}
    {before bytes rest : Bytes} {root : Element}
    (h : readContent context element outer bytes = .ok (root, rest))
    (stack : StackText context before element outer)
    (between : element.EndsInText → TextEnds bytes) :
    ∃ taken, bytes = taken ++ rest ∧ NodeText context (before ++ taken) root.toNode := by
  fun_induction readContent context element outer bytes generalizing before with
  | case1 => cases h
  | case2 element outer bytes node next read ih =>
    obtain ⟨one, rfl, piece, inText⟩ := readPiece_sound read
    cases piece with
    | node form =>
      have apart : node.isText = true → ¬ element.EndsInText := by
        intro ofText adjacent
        cases node with
        | text value => exact (inText value rfl).1 (between adjacent)
        | _ => cases ofText
      have later : (element.add node).EndsInText → TextEnds next := by
        intro ends
        obtain ⟨value, rfl⟩ := add_endsInText ends
        exact (inText value rfl).2
      obtain ⟨taken, rfl, whole⟩ := ih h (stack.add form apart) later
      rw [List.append_assoc] at whole
      exact ⟨one ++ taken, (List.append_assoc _ _ _).symm, whole⟩
  | case3 element outer bytes tag next read ih =>
    obtain ⟨one, rfl, piece, -⟩ := readPiece_sound read
    cases piece with
    | opened form =>
      have later : (OpenElement.mk tag [] (deeper element.depth)).EndsInText → TextEnds next := by
        intro given
        rcases given with ⟨value, none⟩
        cases none
      obtain ⟨taken, rfl, whole⟩ := ih h (stack.inner (.start _ form)) later
      rw [List.append_assoc] at whole
      exact ⟨one ++ taken, (List.append_assoc _ _ _).symm, whole⟩
  | case4 element bytes next read =>
    cases h
    obtain ⟨one, rfl, piece, -⟩ := readPiece_sound read
    cases piece with
    | closed form =>
      cases stack with
      | root opened => exact ⟨one, rfl, opened.close form⟩
  | case5 element bytes next read parent above ih =>
    obtain ⟨one, rfl, piece, -⟩ := readPiece_sound read
    cases piece with
    | closed form =>
      cases stack with
      | inner stack opened =>
        have apart : element.close.toNode.isText = true → ¬ parent.EndsInText := by
          intro ofText
          cases ofText
        have later : (parent.add element.close.toNode).EndsInText → TextEnds next := by
          intro ends
          obtain ⟨value, same⟩ := add_endsInText ends
          cases same
        obtain ⟨taken, rfl, whole⟩ := ih h (stack.add (opened.close form) apart) later
        simp only [List.append_assoc] at whole ⊢
        exact ⟨one ++ taken, (List.append_assoc _ _ _).symm, whole⟩

/-! ## Reading a node -/

/-- Only a text begins with something else than a tag. -/
theorem NodeText.begins {bytes : Bytes} {node : Node} (form : NodeText context bytes node)
    (other : node.isText = false) : ∃ tail, bytes = '<'.toUInt8 :: tail := by
  cases form with
  | comment form =>
    obtain ⟨body, rfl, -⟩ := form
    exact ⟨_, rfl⟩
  | cdata form =>
    obtain ⟨body, rfl, -⟩ := form
    exact ⟨_, rfl⟩
  | instruction form =>
    obtain ⟨space, body, rfl, -⟩ := form
    exact ⟨_, rfl⟩
  | text => cases other
  | empty form =>
    obtain ⟨attrs, space, rfl, -⟩ := form
    exact ⟨_, rfl⟩
  | element form =>
    obtain ⟨attrs, space, rfl, -⟩ := form
    exact ⟨_, rfl⟩

/-- An element begins with a start tag. -/
theorem NodeText.startTag {bytes : Bytes} {tag : Tag} {children : List Node}
    (form : NodeText context bytes (.element tag children)) :
    ∃ closer start more, bytes = start ++ more ∧ StartTagText context closer start tag := by
  cases form with
  | empty form => exact ⟨_, bytes, [], by simp, form⟩
  | element form => exact ⟨_, _, _, rfl, form⟩

theorem EndTagText.textEnds {name : String} {bytes : Bytes} (form : EndTagText name bytes)
    (rest : Bytes) : TextEnds (bytes ++ rest) := by
  obtain ⟨space, rfl, -⟩ := form
  exact textEnds_of_begins rfl

/-- In front of bytes that do not carry its text on, a node is added to the innermost element,
which lies at this depth. -/
def AddsNode (context : Context) (depth : Nat) (one : Bytes) (node : Node) : Prop :=
  ∀ (element : OpenElement) (outer : List OpenElement) (rest : Bytes),
    element.depth = depthCount depth → (node.isText = true → TextEnds rest) →
      readContent context element outer (one ++ rest) =
        readContent context (element.add node) outer rest

theorem readContent_items {items : List (Bytes × Node)} {element : OpenElement}
    {outer : List OpenElement} {depth : Nat} {rest : Bytes}
    (counted : element.depth = depthCount depth)
    (adds : ∀ item ∈ items, AddsNode context depth item.1 item.2)
    (forms : ∀ item ∈ items, NodeText context item.1 item.2)
    (separated : Node.Separated (items.map (·.2))) (ends : TextEnds rest) :
    readContent context element outer (items.flatMap (·.1) ++ rest) =
      readContent context
        ⟨element.tag, (items.map (·.2)).reverse ++ element.children, element.depth⟩
        outer rest := by
  induction items generalizing element with
  | nil => simp
  | cons item later ih =>
    have split : (item :: later).flatMap (·.1) ++ rest =
        item.1 ++ (later.flatMap (·.1) ++ rest) := by
      simp
    have boundary : item.2.isText = true → TextEnds (later.flatMap (·.1) ++ rest) := by
      intro ofText
      cases later with
      | nil => simpa using ends
      | cons next more =>
        rw [List.map_cons, List.map_cons, Node.Separated, List.isChain_cons_cons] at separated
        have other : next.2.isText = false := by simpa [ofText] using separated.1
        obtain ⟨tail, begins⟩ := (forms next (by simp)).begins other
        rw [List.flatMap_cons, begins, List.cons_append, List.cons_append]
        exact textEnds_of_begins rfl
    have apart : Node.Separated (later.map (·.2)) := by
      rw [List.map_cons, Node.Separated] at separated
      exact separated.tail
    have counted' : (element.add item.2).depth = depthCount depth := counted
    rw [split, adds item (by simp) element outer _ counted boundary,
      ih counted' (fun one member => adds one (by simp [member]))
        (fun one member => forms one (by simp [member])) apart]
    simp [OpenElement.add]

theorem height_lt_of_item (tag : Tag) {items : List (Bytes × Node)} {item : Bytes × Node}
    (member : item ∈ items) :
    item.2.height < (Node.element tag (items.map (·.2))).height :=
  Node.height_lt_of_mem tag (List.mem_map.2 ⟨item, member, rfl⟩)

theorem readContent_node {depth : Nat} {one : Bytes} {node : Node}
    (admitted : context.limits.Admits (depth + node.height)) (form : NodeText context one node) :
    AddsNode context depth one node := by
  induction form generalizing depth with
  | comment form =>
    intro element outer rest _ _
    rw [readContent_eq, readPiece_comment form]
  | cdata form =>
    intro element outer rest _ _
    rw [readContent_eq, readPiece_cdata form]
  | instruction form =>
    intro element outer rest _ _
    rw [readContent_eq, readPiece_instruction form]
  | text begun form =>
    intro element outer rest _ ends
    rw [readContent_eq, readPiece_text begun form (ends rfl)]
  | empty form =>
    intro element outer rest counted _
    have shallow : context.limits.tooDeep (deeper element.depth) = false := by
      rw [counted, deeper_depthCount, tooDeep_depthCount]
      exact admitted
    rw [readContent_eq, readPiece_tag true shallow form]
    rfl
  | @element start ending tag items opened forms separated closed ih =>
    intro element outer rest counted _
    have counted' : deeper element.depth = depthCount (depth + 1) := by
      rw [counted, deeper_depthCount]
    have shallow : context.limits.tooDeep (deeper element.depth) = false := by
      rw [counted', tooDeep_depthCount]
      exact admitted.mono (by simp [Node.height])
    have adds : ∀ item ∈ items, AddsNode context (depth + 1) item.1 item.2 := by
      intro item member
      have low := height_lt_of_item tag member
      exact ih item member (admitted.mono (by omega))
    simp only [List.append_assoc]
    rw [readContent_eq, readPiece_tag false shallow opened]
    simp only [Bool.false_eq_true, if_false]
    rw [readContent_items counted' adds forms separated (closed.textEnds rest), readContent_eq,
      readPiece_closed closed]
    simp [OpenElement.close, Element.toNode]

/-! ## The root -/

theorem readElement_sound {bytes rest : Bytes} {root : Element}
    (h : readElement context bytes = .ok (root, rest)) :
    ∃ taken, bytes = taken ++ rest ∧ NodeText context taken root.toNode := by
  obtain ⟨⟨⟨tag, empty⟩, last⟩, opened, h⟩ := bind_success h
  unfold openElement at opened
  split at opened
  · cases opened
  · obtain ⟨start, rfl, form⟩ := readStartTag_ok_iff.1 opened
    cases empty
    · have later : (OpenElement.mk tag [] 1).EndsInText → TextEnds last := by
        intro given
        rcases given with ⟨value, none⟩
        cases none
      obtain ⟨taken, rfl, whole⟩ := readContent_sound h (.root (.start 1 form)) later
      exact ⟨start ++ taken, (List.append_assoc _ _ _).symm, whole⟩
    · cases h
      exact ⟨start, rfl, .empty form⟩

theorem readElement_complete {one rest : Bytes} {root : Element}
    (admitted : context.limits.Admits root.height) (form : NodeText context one root.toNode) :
    readElement context (one ++ rest) = .ok (root, rest) := by
  obtain ⟨tag, children⟩ := root
  change NodeText context one (.element tag children) at form
  change context.limits.Admits (Node.element tag children).height at admitted
  have shallow : ¬ context.limits.tooDeep 1 = true := by
    have first : context.limits.tooDeep (depthCount 1) = false :=
      tooDeep_depthCount.2 (admitted.mono (by simp [Node.height]))
    have counted : depthCount 1 = 1 := rfl
    simp [counted ▸ first]
  cases form with
  | empty form =>
    have opened : readStartTag context (one ++ rest) = .ok ((tag, true), rest) :=
      readStartTag_ok_iff.2 ⟨one, rfl, form⟩
    rw [readElement, openElement, if_neg shallow, opened]
    rfl
  | @element start ending _ items form forms separated closed =>
    have opened : ∀ more, readStartTag context (start ++ more) = .ok ((tag, false), more) :=
      fun more => readStartTag_ok_iff.2 ⟨start, rfl, form⟩
    have adds : ∀ item ∈ items, AddsNode context 1 item.1 item.2 := by
      intro item member
      have low := height_lt_of_item tag member
      exact readContent_node (admitted.mono (by omega)) (forms item member)
    have whole : readContent context ⟨tag, [], 1⟩ [] (items.flatMap (·.1) ++ (ending ++ rest)) =
        .ok (⟨tag, items.map (·.2)⟩, rest) := by
      rw [readContent_items rfl adds forms separated (closed.textEnds rest), readContent_eq,
        readPiece_closed closed]
      simp [OpenElement.close]
    rw [readElement, openElement, if_neg shallow, List.append_assoc, List.append_assoc, opened]
    exact whole

end XmlBuilder.Markup
