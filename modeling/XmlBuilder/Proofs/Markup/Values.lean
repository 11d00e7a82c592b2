import XmlBuilder.Proofs.Entity.Expansion
import XmlBuilder.Proofs.Markup.Content

/-!
# The values in a form

A form depends on its context only in what its runs of text expand to. So it is a form in another
context too if that one makes the same of the runs whose values are in the tree (`NodeText.carry`,
by induction along the form); between contexts that differ in their limits, the values that fit are
those it makes the same of (`carries_limits`). And each value in the tree comes from a run that
stands in the bytes (`NodeText.value_written`).
-/
namespace XmlBuilder.Markup

open Text (utf8)

variable {context context' : Context} {kept : String → Prop}

/-- What a run stands for in the first context it also stands for in the second, if it is kept. -/
def Carries (kept : String → Prop) (context context' : Context) : Prop :=
  ∀ run value, kept value → Expands context run value → Expands context' run value

theorem carries_limits (limits limits' : Limits) (entities : Table String) :
    Carries (fun value => limits'.oversized value.utf8ByteSize = false) ⟨limits, entities⟩
      ⟨limits', entities⟩ := by
  intro run value fits expands
  obtain ⟨source, written, expanded⟩ := expands
  exact ⟨source, written, Entity.expand_complete (Entity.expand_sound expanded)
    (Limits.exceeded?_textLimit.2 fits)⟩

/-! ## Forms in another context -/

theorem AttributesText.carry (carries : Carries kept context context') {bytes : Bytes}
    {attrs : List Attribute} (form : AttributesText context bytes attrs)
    (keep : ∀ attr ∈ attrs, kept attr.value) : AttributesText context' bytes attrs := by
  induction form with
  | nil => exact .nil
  | cons begun spaces one _ ih =>
    obtain ⟨before, after, value, split, named, spaced, spaced', quoted⟩ := one
    obtain ⟨quote, raw, enclosed, isQuote, inside, expands⟩ := quoted
    have expands' := carries _ _ (keep _ (by simp)) expands
    refine .cons begun spaces ?_ (ih fun attr member => keep attr (by simp [member]))
    exact ⟨before, after, value, split, named, spaced, spaced', quote, raw, enclosed, isQuote,
      inside, expands'⟩

theorem StartTagText.carry (carries : Carries kept context context') {closer : String}
    {bytes : Bytes} {tag : Tag} (form : StartTagText context closer bytes tag)
    (keep : ∀ attr ∈ tag.attributes, kept attr.value) :
    StartTagText context' closer bytes tag := by
  obtain ⟨attrs, space, split, named, attributes, distinct, spaces⟩ := form
  exact ⟨attrs, space, split, named, attributes.carry carries keep, distinct, spaces⟩

theorem value_of_attribute {tag : Tag} {attr : Attribute} (member : attr ∈ tag.attributes)
    (children : List Node) : attr.value ∈ (Node.element tag children).values := by
  rw [Node.values, List.mem_append]
  exact .inl (List.mem_map_of_mem member)

theorem value_of_item (tag : Tag) {items : List (Bytes × Node)} {item : Bytes × Node}
    (member : item ∈ items) {value : String} (inside : value ∈ item.2.values) :
    value ∈ (Node.element tag (items.map (·.2))).values := by
  rw [Node.values, List.mem_append, Node.mem_valuesOfAll]
  exact .inr ⟨item.2, List.mem_map.2 ⟨item, member, rfl⟩, inside⟩

theorem NodeText.carry (carries : Carries kept context context') {bytes : Bytes} {node : Node}
    (form : NodeText context bytes node) (keep : ∀ value ∈ node.values, kept value) :
    NodeText context' bytes node := by
  induction form with
  | comment form => exact .comment form
  | cdata form => exact .cdata form
  | instruction form => exact .instruction form
  | text begun form =>
    exact .text begun ⟨form.1, carries _ _ (keep _ (by simp [Node.values])) form.2⟩
  | empty form =>
    exact .empty (form.carry carries fun attr member => keep _ (value_of_attribute member []))
  | element start _ separated ending ih =>
    have tagged := start.carry carries fun attr member => keep _ (value_of_attribute member _)
    refine .element tagged ?_ separated ending
    intro item member
    exact ih item member fun value inside => keep value (value_of_item _ member inside)

theorem DocumentText.carry (carries : Carries kept context context')
    (same : context.entities = context'.entities) {known : Table String} {bytes : Bytes}
    {root : Element} (form : DocumentText known context bytes root)
    (keep : ∀ value ∈ root.values, kept value) : DocumentText known context' bytes root := by
  obtain ⟨mark, prolog, body, epilog, split, marked, start, node, ending⟩ := form
  exact ⟨mark, prolog, body, epilog, split, marked, same ▸ start, node.carry carries keep, ending⟩

/-! ## Where values come from -/

/-- The text is the run with its line ends unified, and with its white space flattened if it is
the run of an attribute value. -/
def Written (run : Bytes) (source : String) : Prop :=
  utf8 source = Text.unifyLineEnds run ∨
    utf8 source = (Text.unifyLineEnds run).map flattenSpace

/-- The value is what a run within the bytes expands to. -/
def ValueWritten (context : Context) (bytes : Bytes) (value : String) : Prop :=
  ∃ run source, run <:+: bytes ∧ Written run source ∧
    Entity.expand context.entities context.limits.textLimit Entity.maxLevels source = .ok value

theorem ValueWritten.mono {inner outer : Bytes} (within : inner <:+: outer) {value : String}
    (written : ValueWritten context inner value) : ValueWritten context outer value := by
  obtain ⟨run, source, inside, form, expanded⟩ := written
  exact ⟨run, source, inside.trans within, form, expanded⟩

theorem AttributeText.value_written {bytes : Bytes} {attr : Attribute}
    (form : AttributeText context bytes attr) : ValueWritten context bytes attr.value := by
  obtain ⟨before, after, _, rfl, -, -, -, quote, raw, rfl, -, -, source, spelled, expanded⟩ := form
  refine ⟨raw, source, ?_, .inr spelled.symm, expanded⟩
  exact ⟨utf8 attr.name ++ (before ++ '='.toUInt8 :: (after ++ [quote])), [quote], by simp⟩

theorem AttributesText.attribute_written {bytes : Bytes} {attrs : List Attribute}
    (form : AttributesText context bytes attrs) {attr : Attribute} (member : attr ∈ attrs) :
    ∃ one, one <:+: bytes ∧ AttributeText context one attr := by
  induction form with
  | nil => cases member
  | @cons space one more first attrs _ _ form _ ih =>
    rcases List.mem_cons.1 member with rfl | later
    · exact ⟨one, ⟨space, more, by simp⟩, form⟩
    · obtain ⟨other, within, form'⟩ := ih later
      exact ⟨other, within.trans ⟨space ++ one, [], by simp⟩, form'⟩

theorem StartTagText.attribute_written {closer : String} {bytes : Bytes} {tag : Tag}
    (form : StartTagText context closer bytes tag) {attr : Attribute}
    (member : attr ∈ tag.attributes) : ∃ one, one <:+: bytes ∧ AttributeText context one attr := by
  obtain ⟨attrs, space, rfl, -, attributes, -⟩ := form
  obtain ⟨one, within, form⟩ := attributes.attribute_written member
  exact ⟨one, within.trans ⟨'<'.toUInt8 :: utf8 tag.name, space ++ ascii closer, by simp⟩, form⟩

theorem StartTagText.value_written {closer : String} {bytes : Bytes} {tag : Tag}
    (form : StartTagText context closer bytes tag) {attr : Attribute}
    (member : attr ∈ tag.attributes) : ValueWritten context bytes attr.value := by
  obtain ⟨one, within, form⟩ := form.attribute_written member
  exact form.value_written.mono within

theorem item_within {items : List (Bytes × Node)} {item : Bytes × Node} (listed : item ∈ items)
    (start ending : Bytes) : item.1 <:+: start ++ (items.flatMap (·.1) ++ ending) := by
  have inItems : item.1 <:+: items.flatMap (·.1) :=
    List.infix_of_mem_flatten (List.mem_map_of_mem listed)
  exact inItems.trans ⟨start, ending, by simp⟩

theorem NodeText.value_written {bytes : Bytes} {node : Node} (form : NodeText context bytes node)
    {value : String} (member : value ∈ node.values) : ValueWritten context bytes value := by
  induction form with
  | comment => cases member
  | cdata => cases member
  | instruction => cases member
  | @text run text _ form =>
    obtain ⟨source, spelled, expanded⟩ := form.2
    rw [List.mem_singleton.1 member]
    exact ⟨run, source, List.infix_rfl, .inl spelled.symm, expanded⟩
  | empty form =>
    rw [Node.values, Node.valuesOfAll, List.append_nil] at member
    obtain ⟨attr, given, rfl⟩ := List.mem_map.1 member
    exact form.value_written given
  | @element start ending tag items opened _ _ _ ih =>
    rw [Node.values, List.mem_append, Node.mem_valuesOfAll] at member
    rcases member with ofTag | ⟨child, isChild, inside⟩
    · obtain ⟨attr, given, rfl⟩ := List.mem_map.1 ofTag
      exact (opened.value_written given).mono (List.prefix_append _ _).isInfix
    · obtain ⟨item, listed, rfl⟩ := List.mem_map.1 isChild
      exact (ih item listed inside).mono (item_within listed start ending)

theorem DocumentText.value_written {known : Table String} {bytes : Bytes} {root : Element}
    (form : DocumentText known context bytes root) {value : String}
    (member : value ∈ root.values) : ValueWritten context bytes value := by
  obtain ⟨mark, prolog, body, epilog, rfl, -, -, node, -⟩ := form
  exact (node.value_written member).mono ⟨mark ++ prolog, epilog, by simp⟩

/-! ## The size of what is written -/

/-- A line end of two bytes becomes one, and no byte becomes two. -/
theorem length_unifyLineEnds_le (bytes : Bytes) :
    (Text.unifyLineEnds bytes).length ≤ bytes.length := by
  suffices ∀ returned out, (Text.unifyLineEndsAfter returned out bytes).length ≤
      out.length + bytes.length from by
    simpa [Text.unifyLineEnds] using this false []
  induction bytes with
  | nil => simp [Text.unifyLineEndsAfter]
  | cons b rest ih =>
    intro returned out
    simp only [Text.unifyLineEndsAfter, List.length_cons]
    split
    · have := ih true (10 :: out)
      simp only [List.length_cons] at this
      omega
    split
    · have := ih false out
      omega
    · have := ih false (b :: out)
      simp only [List.length_cons] at this
      omega

theorem length_utf8 (text : String) : (utf8 text).length = text.utf8ByteSize := by
  rw [utf8, String.toUTF8_eq_toByteArray]
  rfl

theorem Written.size_le {run : Bytes} {source : String} (written : Written run source) :
    source.utf8ByteSize ≤ run.length := by
  rw [← length_utf8]
  rcases written with same | same
  · rw [same]
    exact length_unifyLineEnds_le run
  · rw [same, List.length_map]
    exact length_unifyLineEnds_le run

end XmlBuilder.Markup
