import XmlBuilder.Proofs.Escaping
import XmlBuilder.Proofs.Reading

/-!
# Reading undoes serialisation

A serialiser for trees: `Element.serialised` writes texts and attribute values with references,
everything else as it stands. `Node.Serialisable` says which trees it can write at all. What it
writes for one is a form of the grammar for this tree (`nodeText_serialised`, by induction along
the tree), and so it is read back as the tree.
-/
namespace XmlBuilder

/-! ## The serialiser -/

def Attribute.serialised (attr : Attribute) : String :=
  " " ++ attr.name ++ "=\"" ++ escapedWith valueReference? attr.value ++ "\""

def attributesSerialised : List Attribute → String
  | [] => ""
  | attr :: rest => attr.serialised ++ attributesSerialised rest

/-- The start of a tag, up to what closes it. -/
def Tag.serialised (tag : Tag) : String :=
  "<" ++ tag.name ++ attributesSerialised tag.attributes

namespace Node

mutual

def serialised : Node → String
  | .element tag children =>
    if children.isEmpty then tag.serialised ++ "/>"
    else tag.serialised ++ ">" ++ allSerialised children ++ "</" ++ tag.name ++ ">"
  | .text value => escapedWith textReference? value
  | .attr _ => ""
  | .comment value => "<!--" ++ value ++ "-->"
  | .instruction target data =>
    "<?" ++ target ++ (if data = "" then "" else " " ++ data) ++ "?>"
  | .cdata value => "<![CDATA[" ++ value ++ "]]>"

def allSerialised : List Node → String
  | [] => ""
  | node :: rest => node.serialised ++ allSerialised rest

end

end Node

def Element.serialised (element : Element) : String :=
  element.toNode.serialised

/-! ## What can be serialised -/

structure Tag.Serialisable (tag : Tag) : Prop where
  named : Markup.isName tag.name = true
  attributesNamed : ∀ attr ∈ tag.attributes, Markup.isName attr.name = true
  distinct : (tag.attributes.map (·.name)).Nodup

/-- A text that can stand as it is in front of its closer: it does not contain the closer, nor a
carriage return, which would be read as a line feed. -/
structure Literal (closer text : String) : Prop where
  unclosed : ¬ closer.toList <:+: text.toList
  noReturn : '\r' ∉ text.toList

inductive Node.Serialisable : Node → Prop
  | element {tag : Tag} {children : List Node} :
    tag.Serialisable → Node.Separated children → (∀ child ∈ children, Node.Serialisable child) →
      Node.Serialisable (.element tag children)
  | text {value : String} : value ≠ "" → Node.Serialisable (.text value)
  | comment {value : String} : Literal "-->" value → Node.Serialisable (.comment value)
  | instruction {target data : String} :
    Markup.isName target = true → Literal "?>" data →
      (∀ c ∈ data.toList.head?, c ≠ ' ' ∧ c ≠ '\t' ∧ c ≠ '\n') →
      Node.Serialisable (.instruction target data)
  | cdata {value : String} : Literal "]]>" value → Node.Serialisable (.cdata value)

namespace Markup

open Text (utf8)

/-! ## Literal texts -/

/-- A closer that has its last byte nowhere else does not overlap itself. -/
theorem endsFirst_of_free {closer : String} {front body : Bytes} {last : UInt8}
    (split : ascii closer = front ++ [last]) (single : last ∉ front)
    (free : ¬ ascii closer <:+: body) : EndsFirst closer body := by
  intro back suffix nonempty found
  have longer : back.length < (ascii closer).length := by
    by_contra fits
    have within : ascii closer <+: back :=
      List.prefix_of_prefix_length_le found (List.prefix_append _ _) (by omega)
    exact free (within.isInfix.trans suffix.isInfix)
  -- The last byte of the one found lies in the other before its last byte.
  obtain ⟨more, whole⟩ := found
  rw [split] at whole longer
  have size : 0 < back.length := List.length_pos_iff.2 nonempty
  rw [List.length_append, List.length_singleton] at longer
  have first : (front ++ [last] ++ more)[front.length]? = some last := by
    simp
  have second : (back ++ (front ++ [last]))[front.length]? =
      front[front.length - back.length]? := by
    rw [List.getElem?_append_right (by omega), List.getElem?_append_left (by omega)]
  rw [whole, second] at first
  exact single (List.mem_of_getElem? first)

theorem endedText_literal {closer text : String} (small : ∀ c ∈ closer.toList, c.toNat < 0x80)
    (begun : ascii closer ≠ []) (single : (ascii closer).getLast begun ∉ (ascii closer).dropLast)
    (literal : Literal closer text) : EndedText closer (utf8 text ++ ascii closer) text := by
  have free : ¬ ascii closer <:+: utf8 text := by
    rw [Text.utf8_eq_flatMap]
    exact fun found => literal.unclosed (Text.infix_of_utf8 small found)
  have clean : 13 ∉ utf8 text := fun member =>
    literal.noReturn (Text.mem_of_utf8 (c := '\r') (by decide) member)
  have split := List.dropLast_append_getLast begun
  exact ⟨utf8 text, rfl, endsFirst_of_free split.symm single free, Text.unifyLineEnds_eq_self clean⟩

theorem stops_isSpace_utf8 {text : String}
    (visible : ∀ c ∈ text.toList.head?, c ≠ ' ' ∧ c ≠ '\t' ∧ c ≠ '\n' ∧ c ≠ '\r') :
    Stops isSpace (utf8 text) := by
  rw [Text.utf8_eq_flatMap]
  cases found : text.toList with
  | nil => exact stops_nil
  | cons c rest =>
    obtain ⟨space, tab, feed, ret⟩ := visible c (by rw [found]; rfl)
    rw [List.flatMap_cons]
    by_cases small : c.toNat < 0x80
    · have other : ∀ d : Char, d.toNat < 0x80 → c ≠ d → ¬ c.toUInt8 = d.toUInt8 :=
        fun d ofAscii differs same => differs (Text.toUInt8_injective small ofAscii same)
      rw [Text.utf8_of_ascii small, List.singleton_append, stops_cons]
      by_contra blank
      simp only [isSpace, Bool.not_eq_false, Bool.or_eq_true, beq_iff_eq] at blank
      rcases blank with ((same | same) | same) | same
      · exact other ' ' (by decide) space same
      · exact other '\t' (by decide) tab same
      · exact other '\r' (by decide) ret same
      · exact other '\n' (by decide) feed same
    · obtain ⟨b, tail, laid, beyond⟩ := Text.utf8_beyond_ascii (Nat.le_of_not_lt small)
      rw [laid, List.cons_append, stops_cons]
      by_contra space
      have continues := isNameByte_beyond (beyond b (by simp))
      rw [not_isNameByte_of_isSpace (by simpa using space)] at continues
      cases continues

/-! ## Texts and values -/

/-- What would be read as something else in an attribute value; of it, texts only need the first
two to be written as references. -/
def misread : List Char :=
  ['<', '\r', '"', '\t', '\n']

theorem textReference_plain {c : Char} {name : String} (found : textReference? c = some name) :
    ∀ d ∈ misread, d ∉ referenceTo name := by
  unfold textReference? at found
  split at found
  · cases found; simp [misread, referenceTo]
  · cases found; simp [misread, referenceTo]
  · cases found; simp [misread, referenceTo]
  · cases found

theorem valueReference_plain {c : Char} {name : String} (found : valueReference? c = some name) :
    ∀ d ∈ misread, d ∉ referenceTo name := by
  unfold valueReference? at found
  split at found
  · cases found; simp [misread, referenceTo]
  · cases found; simp [misread, referenceTo]
  · cases found; simp [misread, referenceTo]
  · exact textReference_plain found

theorem escapedWith_lacks (reference? : Char → Option String) {d : Char}
    (plain : ∀ c name, reference? c = some name → ∀ d ∈ misread, d ∉ referenceTo name)
    (harmful : d ∈ misread) (written : reference? d ≠ none) (text : String) :
    d.toUInt8 ∉ utf8 (escapedWith reference? text) := by
  have small : d.toNat < 0x80 := by
    revert d
    simp [misread]
  intro member
  rcases mem_escapedWith (Text.mem_of_utf8 small member) with left | ⟨c, name, found, inside⟩
  · exact written left
  · exact plain c name found d harmful inside

variable {context : Context}

theorem unlimited_fits (unlimited : context.limits.maxSize = 0) (size : Nat) :
    Entity.exceeded? context.limits.textLimit size = none :=
  Limits.exceeded?_textLimit.2 (Limits.oversized_eq_false.2 (.inl unlimited))

theorem runText_escaped (unlimited : context.limits.maxSize = 0) (value : String) :
    RunText context (utf8 (escapedWith textReference? value)) value := by
  have lacks {d : Char} (harmful : d ∈ misread) (written : textReference? d ≠ none) :
      d.toUInt8 ∉ utf8 (escapedWith textReference? value) :=
    escapedWith_lacks textReference? (fun _ _ => textReference_plain) harmful written value
  constructor
  · intro b member same
    have tagless := @lacks '<' (by simp [misread]) (by decide)
    exact tagless (same ▸ member)
  · have returnless := @lacks '\r' (by simp [misread]) (by decide)
    rw [Text.unifyLineEnds_eq_self returnless]
    exact ⟨_, rfl, expand_escapedWith textReference_escapes (unlimited_fits unlimited _) _ _⟩

theorem flattenSpace_eq_self {bytes : Bytes} (tabless : 9 ∉ bytes) (feedless : 10 ∉ bytes) :
    bytes.map flattenSpace = bytes := by
  have kept : ∀ b ∈ bytes, flattenSpace b = id b := by
    intro b member
    have noTab : ¬ b = 9 := fun same => tabless (same ▸ member)
    have noFeed : ¬ b = 10 := fun same => feedless (same ▸ member)
    simp [flattenSpace, noTab, noFeed]
  rw [List.map_congr_left kept, List.map_id]

theorem valueText_escaped (unlimited : context.limits.maxSize = 0) (value : String) :
    ValueText context
      ('"'.toUInt8 :: (utf8 (escapedWith valueReference? value) ++ ['"'.toUInt8])) value := by
  have lacks {d : Char} (harmful : d ∈ misread) (written : valueReference? d ≠ none) :
      d.toUInt8 ∉ utf8 (escapedWith valueReference? value) :=
    escapedWith_lacks valueReference? (fun _ _ => valueReference_plain) harmful written value
  have tagless := @lacks '<' (by simp [misread]) (by decide)
  have quoteless := @lacks '"' (by simp [misread]) (by decide)
  have returnless := @lacks '\r' (by simp [misread]) (by decide)
  have tabless := @lacks '\t' (by simp [misread]) (by decide)
  have feedless := @lacks '\n' (by simp [misread]) (by decide)
  have flat := flattenSpace_eq_self tabless feedless
  refine ⟨_, _, rfl, by decide, ?_, ?_⟩
  · intro b member
    constructor
    · intro same
      exact quoteless (same ▸ member)
    · intro same
      exact tagless (same ▸ member)
  · rw [Text.unifyLineEnds_eq_self returnless, flat]
    exact ⟨_, rfl, expand_escapedWith valueReference_escapes (unlimited_fits unlimited _) _ _⟩

/-! ## Tags -/

theorem attributeText_serialised (unlimited : context.limits.maxSize = 0) {attr : Attribute}
    (named : isName attr.name = true) :
    ∃ one, utf8 attr.serialised = [32] ++ one ∧ AttributeText context one attr := by
  have value := valueText_escaped unlimited attr.value
  refine ⟨_, ?_, [], [], _, rfl, named, by simp [Spaces], by simp [Spaces], value⟩
  have space : utf8 " " = [32] := Text.utf8_eq_ascii (by simp)
  have opening : utf8 "=\"" = ['='.toUInt8, '"'.toUInt8] := Text.utf8_eq_ascii (by simp)
  have closing : utf8 "\"" = ['"'.toUInt8] := Text.utf8_eq_ascii (by simp)
  simp only [Attribute.serialised, Text.utf8_append, space, opening, closing]
  simp

theorem attributesText_serialised (unlimited : context.limits.maxSize = 0) {attrs : List Attribute}
    (named : ∀ attr ∈ attrs, isName attr.name = true) :
    AttributesText context (utf8 (attributesSerialised attrs)) attrs := by
  induction attrs with
  | nil =>
    rw [attributesSerialised, Text.utf8_empty]
    exact .nil
  | cons attr rest ih =>
    obtain ⟨one, split, form⟩ := attributeText_serialised unlimited (named attr (by simp))
    rw [attributesSerialised, Text.utf8_append, split, List.append_assoc]
    exact .cons (by simp) (by simp [Spaces, isSpace]) form
      (ih fun other member => named other (by simp [member]))

theorem startTagText_serialised (unlimited : context.limits.maxSize = 0) {tag : Tag}
    (serialisable : tag.Serialisable) (closer : String) :
    StartTagText context closer (utf8 tag.serialised ++ ascii closer) tag := by
  have opening : utf8 "<" = ['<'.toUInt8] := Text.utf8_eq_ascii (by simp)
  refine ⟨utf8 (attributesSerialised tag.attributes), [], ?_, serialisable.named,
    attributesText_serialised unlimited serialisable.attributesNamed, serialisable.distinct,
    by simp [Spaces]⟩
  simp only [Tag.serialised, Text.utf8_append, opening]
  simp

/-! ## Nodes -/

theorem utf8_allSerialised (nodes : List Node) :
    utf8 (Node.allSerialised nodes) = nodes.flatMap fun node => utf8 node.serialised := by
  induction nodes with
  | nil => rw [Node.allSerialised, Text.utf8_empty, List.flatMap_nil]
  | cons node rest ih => rw [Node.allSerialised, Text.utf8_append, ih, List.flatMap_cons]

theorem instructionText_serialised {target data : String} (named : isName target = true)
    (literal : Literal "?>" data)
    (visible : ∀ c ∈ data.toList.head?, c ≠ ' ' ∧ c ≠ '\t' ∧ c ≠ '\n') :
    InstructionText (utf8 (Node.serialised (.instruction target data))) target data := by
  have opening : utf8 "<?" = ascii "<?" := Text.utf8_eq_ascii (by simp)
  have closing : utf8 "?>" = ascii "?>" := Text.utf8_eq_ascii (by simp)
  have blank : utf8 " " = [32] := Text.utf8_eq_ascii (by simp)
  have ended : EndedText "?>" (utf8 data ++ ascii "?>") data :=
    endedText_literal (by simp) (by decide) (by decide) literal
  have shown : Stops isSpace (utf8 data) := by
    apply stops_isSpace_utf8
    intro c member
    obtain ⟨space, tab, feed⟩ := visible c member
    refine ⟨space, tab, feed, ?_⟩
    rintro rfl
    exact literal.noReturn (List.mem_of_head? member)
  by_cases empty : data = ""
  · refine ⟨[], utf8 data ++ ascii "?>", ?_, named, by simp [Spaces], ?_, ?_, ended⟩
    · simp only [Node.serialised, empty, Text.utf8_append, Text.utf8_empty, opening, closing]
      simp
    · rw [empty, Text.utf8_empty]
      exact stops_cons.2 (by decide)
    · rw [empty, Text.utf8_empty]
      exact stops_cons.2 (by decide)
  · have nonempty := Text.utf8_ne_nil empty
    refine ⟨[32], utf8 data ++ ascii "?>", ?_, named, by simp [Spaces, isSpace],
      stops_cons.2 (by decide), (stops_append nonempty).2 shown, ended⟩
    simp only [Node.serialised, if_neg empty, Text.utf8_append, opening, closing, blank]
    simp

theorem nodeText_serialised (unlimited : context.limits.maxSize = 0) {node : Node}
    (serialisable : node.Serialisable) : NodeText context (utf8 node.serialised) node := by
  induction serialisable with
  | @element tag children tagged separated _ ih =>
    have opening : utf8 "</" = ascii "</" := Text.utf8_eq_ascii (by simp)
    have closing : utf8 ">" = ascii ">" := Text.utf8_eq_ascii (by simp)
    have selfClosing : utf8 "/>" = ascii "/>" := Text.utf8_eq_ascii (by simp)
    cases children with
    | nil =>
      have form := startTagText_serialised unlimited tagged "/>"
      have childless : ([] : List Node).isEmpty = true := rfl
      rw [Node.serialised, if_pos childless, Text.utf8_append, selfClosing]
      exact .empty form
    | cons child rest =>
      have start := startTagText_serialised unlimited tagged ">"
      have ending : EndTagText tag.name (ascii "</" ++ (utf8 tag.name ++ ([] ++ ['>'.toUInt8]))) :=
        ⟨[], rfl, tagged.named, by simp [Spaces]⟩
      let items := (child :: rest).map fun node => (utf8 node.serialised, node)
      have nodes : items.map (·.2) = child :: rest := by
        simp only [items, List.map_map]
        exact List.map_id _
      have bytes : items.flatMap (·.1) = utf8 (Node.allSerialised (child :: rest)) := by
        simp only [items, List.flatMap_map, utf8_allSerialised]
      have forms : ∀ item ∈ items, NodeText context item.1 item.2 := by
        intro item member
        obtain ⟨node, inside, rfl⟩ := List.mem_map.1 member
        exact ih node inside
      have whole := NodeText.element start forms (nodes ▸ separated) ending
      rw [nodes, bytes] at whole
      have parent : ¬ (child :: rest).isEmpty = true := Bool.false_ne_true
      rw [Node.serialised, if_neg parent]
      simp only [Text.utf8_append, opening, closing]
      simpa [ascii] using whole
  | @text value nonempty =>
    have begun := Text.utf8_ne_nil (escapedWith_ne_empty textReference_escapes nonempty)
    exact .text begun (runText_escaped unlimited value)
  | @comment value literal =>
    have opening : utf8 "<!--" = ascii "<!--" := Text.utf8_eq_ascii (by simp)
    have closing : utf8 "-->" = ascii "-->" := Text.utf8_eq_ascii (by simp)
    refine .comment ⟨_, ?_, endedText_literal (by simp) (by decide) (by decide) literal⟩
    simp only [Node.serialised, Text.utf8_append, opening, closing, List.append_assoc]
  | instruction named literal visible =>
    exact .instruction (instructionText_serialised named literal visible)
  | @cdata value literal =>
    have opening : utf8 "<![CDATA[" = ascii "<![CDATA[" := Text.utf8_eq_ascii (by simp)
    have closing : utf8 "]]>" = ascii "]]>" := Text.utf8_eq_ascii (by simp)
    refine .cdata ⟨_, ?_, endedText_literal (by simp) (by decide) (by decide) literal⟩
    simp only [Node.serialised, Text.utf8_append, opening, closing, List.append_assoc]

end Markup

theorem documentText_serialised {root : Element} (serialisable : root.toNode.Serialisable) :
    Markup.DocumentText [] ⟨.unlimited, []⟩ (Text.utf8 root.serialised) root :=
  ⟨[], [], Text.utf8 root.serialised, [], by simp, .inl rfl, .nil,
    Markup.nodeText_serialised rfl serialisable, .nil⟩

/-- A tree that can be serialised is read back from what is written for it. -/
theorem readString_serialised (root : Element) (serialisable : root.toNode.Serialisable) :
    readString .unlimited root.serialised = .ok root :=
  readBytes_of_document (documentText_serialised serialisable)

/-- A tree with a node of each kind, and with characters that have to be written as references or
come close to a closer. -/
def mixedTree : Element :=
  ⟨⟨"a", [⟨"b", "1 < \"2\"\t"⟩, ⟨"c:d", ""⟩]⟩,
    [.text "x & y\r", .comment "-", .instruction "p" "?", .cdata "]", .element ⟨"_", []⟩ [],
      .text "\n"]⟩

theorem readString_serialised_mixed :
    mixedTree.toNode.Serialisable ∧
      readString .unlimited mixedTree.serialised = .ok mixedTree := by
  have inner : Node.Serialisable (.element ⟨"_", []⟩ []) :=
    .element ⟨by decide, by simp, by simp⟩ (by simp [Node.Separated]) (by simp)
  have children : ∀ child ∈ mixedTree.children, child.Serialisable := by
    simp only [mixedTree, List.forall_mem_cons]
    exact ⟨.text (by decide), .comment ⟨by decide, by decide⟩,
      .instruction (by decide) ⟨by decide, by decide⟩ (by simp), .cdata ⟨by decide, by decide⟩,
      inner, .text (by decide), by simp⟩
  have tagged : mixedTree.tag.Serialisable := ⟨by decide, by decide, by decide⟩
  have separated : Node.Separated mixedTree.children := by
    simp [Node.Separated, mixedTree, Node.isText]
  have whole : mixedTree.toNode.Serialisable := .element tagged separated children
  exact ⟨whole, readString_serialised mixedTree whole⟩

end XmlBuilder
