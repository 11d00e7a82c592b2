import XmlBuilder.Proofs.Reading
import XmlBuilder.Proofs.Serialisation
import XmlBuilder.Proofs.Text.LineFeeds

/-!
# What is read is well formed

Whatever a document was read from, each element of its tree is `WellFormed`: no attribute comes
twice, all names are names, and no comment, CDATA section or processing instruction holds what
would end it. This is read off the form that the grammar gives the document
(`NodeText.wellFormed`, by induction along the form).
-/
namespace XmlBuilder

/-- One node lies within the other, at any depth, or is the other. -/
inductive Node.Within (inner : Node) : Node → Prop
  | self : Within inner inner
  | child {tag : Tag} {children : List Node} {child : Node} :
    child ∈ children → Within inner child → Within inner (.element tag children)

/-- The node can be a child, as far as its own texts go. -/
def Node.FitsChild : Node → Prop
  | .element _ _ => True
  | .text _ => True
  | .attr _ => False
  | .comment value => Literal "-->" value
  | .cdata value => Literal "]]>" value
  | .instruction target data =>
    Markup.isName target = true ∧ Literal "?>" data ∧
      ∀ c ∈ data.toList.head?, c ∉ [' ', '\t', '\r', '\n']

structure Element.WellFormed (element : Element) : Prop where
  tag : element.tag.Serialisable
  separated : Node.Separated element.children
  fits : ∀ child ∈ element.children, child.FitsChild

namespace Markup

open Text (utf8)

/-! ## Texts up to a closer -/

theorem EndsFirst.free {closer : String} {body : Bytes} (first : EndsFirst closer body)
    (begun : ascii closer ≠ []) : ¬ ascii closer <:+: body := by
  intro found
  obtain ⟨front, back, rfl⟩ := found
  rw [List.append_assoc] at first
  refine first (ascii closer ++ back) (List.suffix_append _ _) (by simp [begun]) ?_
  exact ⟨back ++ ascii closer, by simp⟩

theorem EndedText.literal {closer text : String} {bytes : Bytes}
    (ended : EndedText closer bytes text) (begun : ascii closer ≠ [])
    (small : ∀ c ∈ closer.toList, c.toNat < 0x80) (noReturn : 13 ∉ ascii closer)
    (noFeed : 10 ∉ ascii closer) : Literal closer text := by
  obtain ⟨body, -, first, unified⟩ := ended
  rw [Text.unifyLineEnds_eq] at unified
  constructor
  · intro found
    obtain ⟨front, back, split⟩ := found
    have written : ascii closer <:+: utf8 text := by
      rw [← Text.utf8_eq_ascii small, Text.utf8_eq_flatMap, Text.utf8_eq_flatMap, ← split]
      exact ⟨front.flatMap String.utf8EncodeChar, back.flatMap String.utf8EncodeChar, by simp⟩
    rw [← unified] at written
    exact first.free begun (Text.infix_of_lineFeeds noReturn noFeed written)
  · intro member
    have written : '\r'.toUInt8 ∈ utf8 text := Text.mem_utf8 (by decide) member
    rw [← unified] at written
    exact Text.not_mem_lineFeeds body written

/-- Behind white space, a text begins with none. -/
theorem EndedText.visible {closer text : String} {bytes : Bytes}
    (ended : EndedText closer bytes text) (stops : Stops isSpace bytes) :
    ∀ c ∈ text.toList.head?, c ∉ [' ', '\t', '\r', '\n'] := by
  obtain ⟨body, rfl, -, unified⟩ := ended
  rw [Text.unifyLineEnds_eq] at unified
  intro c begins blank
  obtain ⟨tail, split⟩ := List.head?_eq_some_iff.1 begins
  have spaced : (utf8 text).head?.any isSpace = true := by
    rw [Text.utf8_eq_flatMap, split]
    simp only [List.mem_cons, List.not_mem_nil, or_false] at blank
    rcases blank with rfl | rfl | rfl | rfl <;> rfl
  rw [← unified, Text.any_head?_lineFeeds isSpace (by decide)] at spaced
  cases body with
  | nil => cases spaced
  | cons b rest =>
    rw [List.cons_append, stops_cons] at stops
    exact Bool.false_ne_true (stops.symm.trans spaced)

/-! ## Nodes -/

variable {context : Context}

theorem AttributesText.named {bytes : Bytes} {attrs : List Attribute}
    (form : AttributesText context bytes attrs) :
    ∀ attr ∈ attrs, isName attr.name = true := by
  induction form with
  | nil => simp
  | cons _ _ one _ ih =>
    obtain ⟨before, after, value, -, named, -⟩ := one
    exact List.forall_mem_cons.2 ⟨named, ih⟩

theorem StartTagText.serialisable {closer : String} {bytes : Bytes} {tag : Tag}
    (form : StartTagText context closer bytes tag) : tag.Serialisable := by
  obtain ⟨attrs, space, -, named, listed, distinct, -⟩ := form
  exact ⟨named, listed.named, distinct⟩

theorem NodeText.fitsChild {bytes : Bytes} {node : Node} (form : NodeText context bytes node) :
    node.FitsChild := by
  cases form with
  | comment form =>
    obtain ⟨body, -, ended⟩ := form
    exact ended.literal (by decide) (by simp) (by decide) (by decide)
  | cdata form =>
    obtain ⟨body, -, ended⟩ := form
    exact ended.literal (by decide) (by simp) (by decide) (by decide)
  | instruction form =>
    obtain ⟨space, body, -, named, -, -, stops, ended⟩ := form
    exact ⟨named, ended.literal (by decide) (by simp) (by decide) (by decide),
      ended.visible stops⟩
  | text _ _ => trivial
  | empty _ => trivial
  | element _ _ _ _ => trivial

theorem NodeText.wellFormed {bytes : Bytes} {node : Node} (form : NodeText context bytes node)
    {element : Element} (within : element.toNode.Within node) : element.WellFormed := by
  obtain ⟨tag, children⟩ := element
  change Node.Within (.element tag children) node at within
  induction form with
  | comment => cases within
  | cdata => cases within
  | instruction => cases within
  | text => cases within
  | empty start =>
    cases within with
    | self => exact ⟨start.serialisable, List.isChain_nil, by simp⟩
    | child member inner => cases member
  | @element start ending tag items starts forms separated ends ih =>
    cases within with
    | self =>
      refine ⟨starts.serialisable, separated, fun child member => ?_⟩
      obtain ⟨item, listed, rfl⟩ := List.mem_map.1 member
      exact (forms item listed).fitsChild
    | child member inner =>
      obtain ⟨item, listed, rfl⟩ := List.mem_map.1 member
      exact ih item listed inner

end Markup

/-- Every element of a document that is read is well formed, however often one was asked for
before. -/
theorem read_wellFormed {reader : Reader} {root : Element} (read : reader.read.1 = .ok root)
    (element : Element) (within : element.toNode.Within root.toNode) : element.WellFormed := by
  rw [Reader.read_eq] at read
  split at read
  · next entities found parsed =>
    cases read
    obtain ⟨mark, prolog, body, epilog, -, -, -, form, -⟩ := Markup.readDocument_sound parsed
    exact form.wellFormed within
  · cases read

/-- An element with a comment and an instruction that hold parts of their closers. -/
def remarked : Element :=
  ⟨⟨"b", [⟨"x", "1"⟩, ⟨"y", ""⟩]⟩, [.text "t", .comment "-\n>", .instruction "p" "d?"]⟩

theorem read_wellFormed_remarked :
    (Reader.ofBytes .standard
        (Text.utf8 "<a><b x='1' y=''>t<!---\r>--><?p \r\n d??></b></a>")).read.1 =
      .ok ⟨⟨"a", []⟩, [remarked.toNode]⟩ ∧ remarked.WellFormed := by
  have read : readBytes .standard
      (Text.utf8 "<a><b x='1' y=''>t<!---\r>--><?p \r\n d??></b></a>") =
        .ok ⟨⟨"a", []⟩, [remarked.toNode]⟩ := by
    rw [readBytes_eq]
    with_unfolding_all rfl
  exact ⟨read, read_wellFormed read remarked (.child (List.mem_singleton.2 rfl) .self)⟩

end XmlBuilder
