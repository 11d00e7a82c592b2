import XmlBuilder.Proofs.Reading

/-!
# How much a tree can hold

Entities can make the texts of a tree long, but they add nothing to its nodes and attributes. Each
of these is charged to the bytes of its own markup, which are at least as many as `Census.leastSize`
counts for it: four for the shortest element, five for the shortest attribute with the white space
before it. So no tree has more of them than its bytes can pay for (`NodeText.census_le`, by
induction along the form, in which the bytes of different nodes do not overlap).
-/
namespace XmlBuilder

/-- How many there are of all that a tree is made of. -/
structure Census where
  elements : Nat := 0
  attributes : Nat := 0
  texts : Nat := 0
  comments : Nat := 0
  cdatas : Nat := 0
  instructions : Nat := 0
  deriving DecidableEq, Repr

namespace Census

instance : Add Census where
  add first second :=
    ⟨first.elements + second.elements, first.attributes + second.attributes,
      first.texts + second.texts, first.comments + second.comments,
      first.cdatas + second.cdatas, first.instructions + second.instructions⟩

/-- The number of bytes that the shortest markup for so much has. -/
def leastSize (census : Census) : Nat :=
  4 * census.elements + 5 * census.attributes + census.texts + 7 * census.comments +
    12 * census.cdatas + 5 * census.instructions

theorem leastSize_add (first second : Census) :
    (first + second).leastSize = first.leastSize + second.leastSize := by
  change leastSize ⟨_, _, _, _, _, _⟩ = _
  simp only [leastSize]
  omega

theorem leastSize_element (attributes : Nat) :
    leastSize { elements := 1, attributes } = 4 + 5 * attributes := rfl

end Census

namespace Node

mutual

/-- The census of a node and of all nodes within it. -/
def census : Node → Census
  | .element tag children =>
    { elements := 1, attributes := tag.attributes.length } + censusOfAll children
  | .text _ => { texts := 1 }
  | .attr _ => { attributes := 1 }
  | .comment _ => { comments := 1 }
  | .instruction _ _ => { instructions := 1 }
  | .cdata _ => { cdatas := 1 }

def censusOfAll : List Node → Census
  | [] => {}
  | node :: rest => node.census + censusOfAll rest

end

end Node

def Element.census (element : Element) : Census := element.toNode.census

namespace Markup

open Text (utf8)

variable {context : Context} {bytes : Bytes}

/-! ## The least sizes of markup -/

theorem length_name_pos {name : String} (named : isName name = true) : 1 ≤ (utf8 name).length := by
  refine List.length_pos_iff.2 (Text.utf8_ne_nil ?_)
  rintro rfl
  cases named

theorem AttributeText.size_le {attr : Attribute} (form : AttributeText context bytes attr) :
    4 ≤ bytes.length := by
  obtain ⟨before, after, _, rfl, named, -, -, quote, raw, rfl, -⟩ := form
  have name := length_name_pos named
  simp only [List.length_append, List.length_cons, List.length_nil]
  omega

theorem AttributesText.size_le {attrs : List Attribute}
    (form : AttributesText context bytes attrs) : 5 * attrs.length ≤ bytes.length := by
  induction form with
  | nil => exact Nat.le_refl _
  | cons spaced _ one _ ih =>
    have space := List.length_pos_iff.2 spaced
    have least := one.size_le
    simp only [List.length_append, List.length_cons]
    omega

theorem StartTagText.size_le {closer : String} {tag : Tag}
    (form : StartTagText context closer bytes tag) :
    2 + 5 * tag.attributes.length + closer.length ≤ bytes.length := by
  obtain ⟨attrs, space, rfl, named, listed, -⟩ := form
  have name := length_name_pos named
  have attributes := listed.size_le
  simp only [List.length_append, List.length_cons, length_ascii]
  omega

theorem EndTagText.size_le {name : String} (form : EndTagText name bytes) : 4 ≤ bytes.length := by
  obtain ⟨space, rfl, named, -⟩ := form
  have name := length_name_pos named
  have opener : "</".length = 2 := rfl
  simp only [List.length_append, List.length_cons, List.length_nil, length_ascii]
  omega

theorem EnclosedText.size_le {opener closer text : String}
    (form : EnclosedText opener closer bytes text) :
    opener.length + closer.length ≤ bytes.length := by
  obtain ⟨_, rfl, body, rfl, -⟩ := form
  simp only [List.length_append, length_ascii]
  omega

theorem InstructionText.size_le {target data : String}
    (form : InstructionText bytes target data) : 5 ≤ bytes.length := by
  obtain ⟨space, _, rfl, named, -, -, -, body, rfl, -⟩ := form
  have name := length_name_pos named
  have opener : "<?".length = 2 := rfl
  have closer : "?>".length = 2 := rfl
  simp only [List.length_append, length_ascii]
  omega

/-! ## Trees -/

theorem census_items_le {items : List (Bytes × Node)}
    (each : ∀ item ∈ items, item.2.census.leastSize ≤ item.1.length) :
    (Node.censusOfAll (items.map (·.2))).leastSize ≤ (items.flatMap (·.1)).length := by
  induction items with
  | nil => exact Nat.le_refl _
  | cons item items ih =>
    have first := each item (List.mem_cons_self)
    have later := ih fun other member => each other (List.mem_cons_of_mem _ member)
    rw [List.map_cons, Node.censusOfAll, Census.leastSize_add, List.flatMap_cons,
      List.length_append]
    omega

theorem NodeText.census_le {node : Node} (form : NodeText context bytes node) :
    node.census.leastSize ≤ bytes.length := by
  induction form with
  | comment form => exact form.size_le
  | cdata form => exact form.size_le
  | instruction form => exact form.size_le
  | text begun _ => exact List.length_pos_iff.2 begun
  | empty start =>
    have tagged := start.size_le
    have closer : "/>".length = 2 := rfl
    rw [Node.census, Census.leastSize_add, Census.leastSize_element]
    change _ + 0 ≤ _
    omega
  | element start _ _ ending ih =>
    have opened := start.size_le
    have within := census_items_le ih
    have closed := ending.size_le
    have closer : ">".length = 1 := rfl
    rw [Node.census, Census.leastSize_add, Census.leastSize_element, List.length_append,
      List.length_append]
    omega

end Markup

/-- A document that is read has no more nodes and attributes than its bytes have room for, whatever
entities are known before or declared in it. -/
theorem read_census_le {reader : Reader} {root : Element} (read : reader.read.1 = .ok root) :
    4 * root.census.elements + 5 * root.census.attributes + root.census.texts +
        7 * root.census.comments + 12 * root.census.cdatas + 5 * root.census.instructions ≤
      reader.cursor.unread.length := by
  obtain ⟨entities, mark, prolog, body, epilog, split, -, -, form, -⟩ := Reader.read_sound read
  have least : root.census.leastSize ≤ body.length := form.census_le
  have whole := congrArg List.length split
  simp only [List.length_append] at whole
  rw [Census.leastSize] at least
  omega

/-- An element that has something of each kind. -/
def varied : Element :=
  ⟨⟨"r", [⟨"a", "12345"⟩]⟩,
    [.text "12345", .element ⟨"b", []⟩ [], .comment "", .instruction "p" "", .cdata ""]⟩

theorem read_census_le_varied :
    let bytes := Text.utf8
      "<!DOCTYPE r [<!ENTITY e '12345'>]><r a='&e;'>&e;<b/><!----><?p?><![CDATA[]]></r>"
    (Reader.ofBytes .standard bytes).read.1 = .ok varied ∧ varied.census = ⟨2, 1, 1, 1, 1, 1⟩ ∧
      4 * 2 + 5 * 1 + 1 + 7 * 1 + 12 * 1 + 5 * 1 ≤ bytes.length := by
  intro bytes
  have read : (Reader.ofBytes .standard bytes).read.1 = .ok varied := by
    change readBytes .standard bytes = _
    rw [readBytes_eq]
    with_unfolding_all rfl
  have counted : varied.census = ⟨2, 1, 1, 1, 1, 1⟩ := rfl
  have unread : (Reader.ofBytes .standard bytes).cursor.unread = bytes :=
    Cursor.unread_ofBytes bytes
  have least := read_census_le read
  rw [counted, unread] at least
  exact ⟨read, counted, least⟩

end XmlBuilder
