import XmlBuilder.Proofs.Builder.Namespaces
import XmlBuilder.Proofs.Entity.Origins
import XmlBuilder.Proofs.Markup.Entities
import XmlBuilder.Proofs.Markup.Values
import XmlBuilder.Proofs.Reading

/-!
# White space in attribute values

Tabs and line ends that are written in an attribute value become spaces before its references are
expanded (`AttributeSource`), and what a reference puts in is left as it is. So the tabs and line
ends of the values in a document are the ones that references to characters denote and the ones
that stand in the texts of the entities used, however deep (`attribute_spaces`). Of the latter
there are no carriage returns. But a tab or line feed in the text of an entity does survive, where
the same one written in the value itself would be a space (`declared_tab_survives`).
-/
namespace XmlBuilder

open Entity (Denotes Outside Uses)
open Relation (ReflTransGen TransGen)

namespace Markup

open Text (utf8)

/-- An attribute in its quotes, and the text of its value as it is before references are
expanded. -/
def AttributeSource (bytes : Bytes) (name source : String) : Prop :=
  ∃ before after quote raw,
    bytes = utf8 name ++ (before ++ '='.toUInt8 :: (after ++ quote :: (raw ++ [quote]))) ∧
    isName name = true ∧ Spaces before ∧ Spaces after ∧ isQuote quote = true ∧
    (∀ b ∈ raw, b ≠ quote ∧ b ≠ '<'.toUInt8) ∧
    utf8 source = (Text.unifyLineEnds raw).map flattenSpace

theorem attributeText_iff {context : Context} {bytes : Bytes} {attr : Attribute} :
    AttributeText context bytes attr ↔ ∃ source, AttributeSource bytes attr.name source ∧
      Entity.expand context.entities context.limits.textLimit Entity.maxLevels source =
        .ok attr.value := by
  constructor
  · rintro ⟨before, after, _, split, named, spaces, spaces', quote, raw, rfl, quoted, inside,
      source, spelled, expanded⟩
    exact ⟨source, ⟨before, after, quote, raw, split, named, spaces, spaces', quoted, inside,
      spelled.symm⟩, expanded⟩
  · rintro ⟨source, ⟨before, after, quote, raw, split, named, spaces, spaces', quoted, inside,
      spelled⟩, expanded⟩
    exact ⟨before, after, _, split, named, spaces, spaces', quote, raw, rfl, quoted, inside,
      source, spelled.symm, expanded⟩

/-- The tab and what ends lines. -/
def flattened : List Char :=
  ['\t', '\n', '\r']

theorem flattenSpace_flat {b : UInt8} (unified : b ≠ 13) :
    flattenSpace b ∉ flattened.map Char.toUInt8 := by
  have bytes : flattened.map Char.toUInt8 = [9, 10, 13] := by decide
  rw [bytes]
  unfold flattenSpace
  split
  · decide
  · next other =>
    simp only [Bool.or_eq_true, beq_iff_eq, not_or] at other
    simp [other, unified]

theorem AttributeSource.flat {bytes : Bytes} {name source : String}
    (form : AttributeSource bytes name source) {c : Char} (white : c ∈ flattened) :
    c ∉ source.toList := by
  obtain ⟨_, _, _, raw, -, -, -, -, -, -, spelled⟩ := form
  have ascii : ∀ d ∈ flattened, d.toNat < 0x80 := by simp [flattened]
  intro member
  have encoded : c.toUInt8 ∈ utf8 source := Text.mem_utf8 (ascii c white) member
  rw [spelled] at encoded
  obtain ⟨b, written, same⟩ := List.mem_map.1 encoded
  have unified : b ≠ 13 := by
    rintro rfl
    exact Text.not_mem_unifyLineEnds raw written
  exact flattenSpace_flat unified (same ▸ List.mem_map_of_mem white)

theorem NodeText.attribute_written {context : Context} {bytes : Bytes} {node : Node}
    (form : NodeText context bytes node) {tag : Tag} (within : tag ∈ node.tags) {attr : Attribute}
    (member : attr ∈ tag.attributes) : ∃ one, one <:+: bytes ∧ AttributeText context one attr := by
  induction form with
  | comment | cdata | instruction | text => cases within
  | empty form =>
    rw [Node.tags, Node.tagsOf, List.mem_singleton] at within
    subst within
    exact form.attribute_written member
  | @element start ending own items opened _ _ _ ih =>
    rcases List.mem_cons.1 within with rfl | below
    · obtain ⟨one, inside, form⟩ := opened.attribute_written member
      exact ⟨one, inside.trans (List.prefix_append _ _).isInfix, form⟩
    · obtain ⟨child, isChild, inside⟩ := Node.mem_tagsOf.1 below
      obtain ⟨item, listed, rfl⟩ := List.mem_map.1 isChild
      obtain ⟨one, inItem, form⟩ := ih item listed inside
      exact ⟨one, inItem.trans (item_within listed start ending), form⟩

theorem DocumentText.attribute_written {known : Table String} {context : Context} {bytes : Bytes}
    {root : Element} (form : DocumentText known context bytes root) {tag : Tag}
    (within : tag ∈ root.tags) {attr : Attribute} (member : attr ∈ tag.attributes) :
    ∃ one, one <:+: bytes ∧ AttributeText context one attr := by
  obtain ⟨mark, prolog, body, epilog, rfl, -, -, node, -⟩ := form
  obtain ⟨one, inside, form⟩ := node.attribute_written within member
  exact ⟨one, inside.trans ⟨mark ++ prolog, epilog, by simp⟩, form⟩

/-- No text that is used has a carriage return. -/
theorem Declarable.returnless {table : Table String} (declarable : Declarable table)
    {text declared : String} (uses : TransGen (Uses table) text declared) :
    '\r' ∉ declared.toList := by
  obtain ⟨_, -, name, -, found⟩ := TransGen.tail'_iff.1 uses
  exact (declarable _ (Table.mem_of_find? found)).2

end Markup

/-! ## The values of a document -/

/-- Of the tabs and line ends that are written in the values of a document none is left when the
references are expanded. There is one in a value exactly if it is denoted by a reference, in the
value itself or in an entity it uses, directly or not, or if it stands in the text of such an
entity; and that no carriage return does. -/
theorem attribute_spaces {limits : Limits} {bytes : Bytes} {root : Element}
    (read : readBytes limits bytes = .ok root) :
    ∃ entities declared, Markup.DocumentText [] ⟨limits, entities⟩ bytes root ∧
      Markup.DeclaredIn bytes declared ∧ entities = Table.insertAllIfNew declared [] ∧
      ∀ tag ∈ root.tags, ∀ attr ∈ tag.attributes, ∃ one source, one <:+: bytes ∧
        Markup.AttributeSource one attr.name source ∧
        Entity.expand entities limits.textLimit Entity.maxLevels source = .ok attr.value ∧
        ∀ c ∈ Markup.flattened, c ∉ source.toList ∧
          (c ∈ attr.value.toList ↔
            (∃ used, ReflTransGen (Uses entities) source used ∧ Denotes c used) ∨
              c ≠ '\r' ∧ ∃ text, TransGen (Uses entities) source text ∧ Outside c text) := by
  obtain ⟨entities, parsed⟩ := readBytes_ok_iff.1 read
  have collected := Markup.readDocument_collected limits [] bytes
  rw [parsed] at collected
  have declarable := collected.declarable (by simp [Markup.Declarable])
  obtain ⟨whole, declared, split, inBytes, made⟩ := collected
  obtain rfl : bytes = whole := split.trans (List.append_nil whole)
  have form := Markup.readDocument_sound parsed
  refine ⟨entities, declared, form, inBytes, made, fun tag within attr member => ?_⟩
  obtain ⟨one, inside, written⟩ := form.attribute_written within member
  obtain ⟨source, spelled, expanded⟩ := Markup.attributeText_iff.1 written
  refine ⟨one, source, inside, spelled, expanded, fun c white => ?_⟩
  have absent := spelled.flat white
  refine ⟨absent, ?_⟩
  rw [(Entity.expand_sound expanded).mem_iff_supplied, Entity.supplied_iff_of_absent absent]
  refine or_congr_right ⟨?_, And.right⟩
  rintro ⟨text, uses, outside⟩
  refine ⟨?_, text, uses, outside⟩
  rintro rfl
  exact declarable.returnless uses outside.mem

/-- White space on every way into a value. -/
def spacedDocument : String :=
  "<!DOCTYPE r [<!ENTITY e 'x\ty\r\n'><!ENTITY f '&e;&#13;'>]><r a='\n&f;'/>"

theorem attribute_spaces_spacedDocument :
    readString .standard spacedDocument = .ok ⟨⟨"r", [⟨"a", " x\ty\n\r"⟩]⟩, []⟩ ∧
      ∃ entities source, '\n' ∉ source.toList ∧
        Entity.expand entities Limits.standard.textLimit Entity.maxLevels source = .ok " x\ty\n\r" ∧
        ∃ used, ReflTransGen (Uses entities) source used ∧ Denotes '\r' used := by
  have read : readString .standard spacedDocument =
      .ok ⟨⟨"r", [⟨"a", " x\ty\n\r"⟩]⟩, []⟩ := by
    rw [readString, readBytes_eq]
    with_unfolding_all rfl
  refine ⟨read, ?_⟩
  obtain ⟨entities, -, -, -, -, each⟩ := attribute_spaces read
  obtain ⟨_, source, -, -, expanded, white⟩ := each _ (.head _) _ (.head _)
  have absent := (white '\n' (by decide)).1
  have returned := (white '\r' (by decide)).2.1 (by decide)
  exact ⟨entities, source, absent, expanded, by simpa using returned⟩

/-- A document without references to characters, in whose only value there is a tab. -/
theorem declared_tab_survives :
    ¬ ∀ document root, readString .standard document = .ok root → '#' ∉ document.toList →
      ∀ tag ∈ root.tags, ∀ attr ∈ tag.attributes, ∀ c ∈ Markup.flattened,
        c ∉ attr.value.toList := by
  intro never
  have read : readString .standard "<!DOCTYPE r [<!ENTITY e \"a\tb\">]><r a=\"&e;\"/>" =
      .ok ⟨⟨"r", [⟨"a", "a\tb"⟩]⟩, []⟩ := by
    rw [readString, readBytes_eq]
    with_unfolding_all rfl
  exact never _ _ read (by decide) _ (.head _) _ (.head _) '\t' (by decide) (by decide)

end XmlBuilder
