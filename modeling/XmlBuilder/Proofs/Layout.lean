import XmlBuilder.Proofs.Generation
import XmlBuilder.Proofs.Markup.Gaps

/-!
# Layout of a document and what is generated for it

White space in a gap of the document, between two items in the content of an element or between an
item and a tag, does not show in what is generated (`layout_not_shown`): the document is read with
it too, and its tree has the same expression.
-/
namespace XmlBuilder

open Text (utf8)

theorem generate_of_document {entities : Table String} {className document : String}
    {root : Element} (accepted : ClassName.accepts className = true)
    (form : Markup.DocumentText [] ⟨.unlimited, entities⟩ (utf8 document) root)
    (style : Builder.LiteralStyle) :
    generate ⟨.unlimited, style⟩ className document =
      .ok ⟨⟨className, accepted⟩, Builder.source ⟨className, accepted⟩
        ((Builder.compose [] root).document.render style)⟩ :=
  (generate_ok_iff _ _ _ _).2 ⟨accepted, root, readBytes_of_document form, rfl⟩

/-- The document has a gap behind the bytes `front`. -/
def IsGap (document : String) (front back : Bytes) : Prop :=
  utf8 document = front ++ back ∧
    ∃ entities root, Markup.GapInDocument [] ⟨.unlimited, entities⟩ front back root

/-- A gap lies between two characters. With any white space put there, the document is one for which
the very same is generated. -/
theorem layout_not_shown {className document : String} {front back : Bytes}
    (accepted : ClassName.accepts className = true) (gap : IsGap document front back)
    (style : Builder.LiteralStyle) :
    ∃ before after, document = before ++ after ∧ front = utf8 before ∧ back = utf8 after ∧
      ∀ space, Markup.Spaces (utf8 space) →
        ∃ file, generate ⟨.unlimited, style⟩ className document = .ok file ∧
          generate ⟨.unlimited, style⟩ className (before ++ space ++ after) = .ok file := by
  obtain ⟨whole, entities, root, gap⟩ := gap
  obtain ⟨⟨before, rfl⟩, ⟨after, rfl⟩⟩ := gap.isUtf8 (whole ▸ Text.isUtf8_utf8 document)
  have joined : document = before ++ after :=
    Text.utf8_injective (whole.trans (Text.utf8_append before after).symm)
  refine ⟨before, after, joined, rfl, rfl, fun space spaces => ?_⟩
  have form := gap.document
  obtain ⟨others, form', alike⟩ := gap.widened spaces
  have same := Builder.compose_document_alike [] root.tag alike
  rw [← whole] at form
  rw [← Text.utf8_append, ← Text.utf8_append, ← String.append_assoc] at form'
  refine ⟨_, generate_of_document accepted form style, ?_⟩
  rw [generate_of_document accepted form' style, ← same]

/-- Before the end tag of an inner element the line feed is one line end with the carriage return
that the text ends with. -/
theorem layout_not_shown_nested :
    ClassName.accepts "Xml" = true ∧
      IsGap "<a> x<b>&#9;y\r</b><!--c--></a>" (utf8 "<a> x<b>&#9;y\r") (utf8 "</b><!--c--></a>") ∧
      ∃ file, generate ⟨.unlimited, .escaped⟩ "Xml" "<a> x<b>&#9;y\r</b><!--c--></a>" = .ok file ∧
        generate ⟨.unlimited, .escaped⟩ "Xml" "<a> x<b>&#9;y\r\n\t </b><!--c--></a>" = .ok file := by
  let context : Markup.Context := ⟨.unlimited, []⟩
  have opens (name : String) (valid : Markup.isName name = true) :
      Markup.StartTagText context ">" ('<'.toUInt8 :: (utf8 name ++ utf8 ">")) ⟨name, []⟩ :=
    ⟨[], [], rfl, valid, .nil, by simp, by decide⟩
  have closes (name : String) (valid : Markup.isName name = true) :
      Markup.EndTagText name (utf8 "</" ++ (utf8 name ++ utf8 ">")) :=
    ⟨[], rfl, valid, by decide⟩
  have tagless (text : String) (lacks : (utf8 text).all (· != '<'.toUInt8) = true) :
      ∀ b ∈ utf8 text, b ≠ '<'.toUInt8 := by
    simpa using lacks
  have ended : Markup.RunText context (utf8 "&#9;y\r") "\ty\n" :=
    ⟨tagless _ rfl, "&#9;y\n", by with_unfolding_all rfl, by with_unfolding_all rfl⟩
  have begun : Markup.RunText context (utf8 " x") " x" :=
    ⟨tagless _ rfl, " x", by with_unfolding_all rfl, by with_unfolding_all rfl⟩
  have remark : Markup.CommentText (utf8 "<!--c-->") "c" :=
    ⟨utf8 "c-->", rfl, utf8 "c", rfl, by decide, rfl⟩
  have inner : Markup.GapIn context (utf8 "<b>&#9;y\r") (utf8 "</b>") ⟨"b", []⟩ [.text "\ty\n"] :=
    @Markup.GapIn.here context _ _ ⟨"b", []⟩ [(utf8 "&#9;y\r", .text "\ty\n")] []
      (opens "b" rfl) ⟨by simpa using .text (by decide) ended, by simp [Node.Separated]⟩
      (closes "b" rfl)
  have outer := @Markup.GapIn.inside context _ _ _ _ ⟨"a", []⟩ _ _ [(utf8 " x", .text " x")]
    [(utf8 "<!--c-->", .comment "c")] (opens "a" rfl)
    ⟨by simpa using ⟨.text (by decide) begun, inner.nodeText, .comment remark⟩,
      by simp [Node.Separated, Node.isText]⟩
    (closes "a" rfl) inner
  have gap : IsGap "<a> x<b>&#9;y\r</b><!--c--></a>" (utf8 "<a> x<b>&#9;y\r")
      (utf8 "</b><!--c--></a>") :=
    ⟨rfl, [], ⟨⟨"a", []⟩, _⟩, [], [], _, _, [], rfl, rfl, .inl rfl, .nil, outer, .nil⟩
  have accepted : ClassName.accepts "Xml" = true := by decide
  refine ⟨accepted, gap, ?_⟩
  obtain ⟨before, after, -, isBefore, isAfter, same⟩ := layout_not_shown accepted gap .escaped
  rw [← Text.utf8_injective isBefore, ← Text.utf8_injective isAfter] at same
  exact same "\n\t " (by decide)

end XmlBuilder
