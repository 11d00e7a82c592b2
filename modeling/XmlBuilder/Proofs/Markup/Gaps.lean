import XmlBuilder.Proofs.Builder.Layout
import XmlBuilder.Proofs.Entity.Expansion
import XmlBuilder.Proofs.Markup.Document
import XmlBuilder.Proofs.Text.Boundaries

/-!
# White space in the gaps of a document

In the content of an element there is a gap between any two items that follow each other, and
between an item, or the other tag, and a tag of the element (`GapIn`). White space that is put there
makes a text longer that stands at the gap (`RunText.padded`), or is a text of its own. Either way
the bytes are a document again (`GapIn.widened`, by induction along the way to the gap), and its
tree is the one from before but for the ends of a text or a blank text: the children of each
element are `Alike`.
-/
namespace XmlBuilder.Markup

open Text (utf8 IsUtf8 lineFeeds)
open Builder (Alike)

/-! ## White space at the ends of a run -/

theorem spaces_cons {b : UInt8} {tail : Bytes} :
    Spaces (b :: tail) ↔ isSpace b = true ∧ Spaces tail :=
  List.forall_mem_cons

theorem isSpace_iff {b : UInt8} : isSpace b = true ↔ b = 32 ∨ b = 9 ∨ b = 13 ∨ b = 10 := by
  simp only [isSpace, Bool.or_eq_true, beq_iff_eq, or_assoc]

/-- A carriage return at the end of the white space may be one line end with what follows. -/
theorem lineFeeds_spaces_append {space : Bytes} (spaces : Spaces space) (rest : Bytes) :
    ∃ more, Spaces more ∧ lineFeeds (space ++ rest) = more ++ lineFeeds rest := by
  induction space with
  | nil => exact ⟨[], spaces, rfl⟩
  | cons b tail ih =>
    obtain ⟨here, later⟩ := spaces_cons.1 spaces
    obtain ⟨more, isMore, laid⟩ := ih later
    rw [List.cons_append]
    by_cases returned : b = 13
    · rw [returned]
      by_cases feed : (tail ++ rest).head? = some 10
      · obtain ⟨last, split⟩ := List.head?_eq_some_iff.1 feed
        refine ⟨more, isMore, ?_⟩
        rw [← laid, split]
        rfl
      · rw [Text.lineFeeds_return feed, laid]
        exact ⟨10 :: more, spaces_cons.2 ⟨rfl, isMore⟩, rfl⟩
    · rw [Text.lineFeeds_cons returned, laid]
      exact ⟨b :: more, spaces_cons.2 ⟨here, isMore⟩, rfl⟩

theorem lineFeeds_append_spaces (run : Bytes) {space : Bytes} (spaces : Spaces space) :
    ∃ more, Spaces more ∧ lineFeeds (run ++ space) = lineFeeds run ++ more := by
  have alone (space : Bytes) (spaces : Spaces space) : Spaces (lineFeeds space) := by
    obtain ⟨more, isMore, laid⟩ := lineFeeds_spaces_append spaces []
    rw [List.append_nil] at laid
    rwa [laid, lineFeeds, List.append_nil]
  fun_induction lineFeeds run with
  | case1 => exact ⟨lineFeeds space, alone space spaces, rfl⟩
  | case2 rest ih =>
    obtain ⟨more, isMore, laid⟩ := ih
    exact ⟨more, isMore, congrArg (10 :: ·) laid⟩
  | case3 b rest lone ih =>
    obtain ⟨more, isMore, laid⟩ := ih
    rw [List.cons_append]
    by_cases returned : b = 13
    · subst returned
      cases rest with
      | nil =>
        -- The carriage return may be one line end with the white space.
        obtain ⟨tail, begins⟩ := Text.lineFeeds_begins 13 space
        have spaced := alone (13 :: space) (spaces_cons.2 ⟨rfl, spaces⟩)
        rw [begins] at spaced
        exact ⟨tail, (spaces_cons.1 spaced).2, begins⟩
      | cons c last =>
        have noFeed : (c :: last ++ space).head? ≠ some 10 := by
          intro feed
          exact lone last rfl (congrArg (· :: last) (Option.some.inj feed))
        rw [Text.lineFeeds_return noFeed, laid]
        exact ⟨more, isMore, rfl⟩
    · rw [Text.lineFeeds_cons returned, laid, if_neg returned]
      exact ⟨more, isMore, rfl⟩

theorem spaces_utf8 {space : Bytes} (spaces : Spaces space) :
    ∃ blank, space = utf8 blank ∧ Text.isBlankText blank = true ∧ '&' ∉ blank.toList := by
  induction space with
  | nil => exact ⟨"", Text.utf8_empty.symm, rfl, by simp⟩
  | cons b tail ih =>
    obtain ⟨here, later⟩ := spaces_cons.1 spaces
    obtain ⟨blank, rfl, blanks, plain⟩ := ih later
    have single : ∃ c, utf8 (String.singleton c) = [b] ∧ Text.isBlank c = true ∧ c ≠ '&' := by
      rcases isSpace_iff.1 here with rfl | rfl | rfl | rfl
      · exact ⟨' ', rfl, rfl, by decide⟩
      · exact ⟨'\t', rfl, rfl, by decide⟩
      · exact ⟨'\r', rfl, rfl, by decide⟩
      · exact ⟨'\n', rfl, rfl, by decide⟩
    obtain ⟨c, laid, isBlank, other⟩ := single
    refine ⟨String.singleton c ++ blank, by rw [Text.utf8_append, laid]; rfl, ?_, ?_⟩
    · rw [Text.isBlankText, String.toList_append, List.all_append, Bool.and_eq_true]
      exact ⟨by simpa using isBlank, blanks⟩
    · simpa [plain] using Ne.symm other

/-- The same bytes with white space before or behind them, or on both sides. -/
def Padded (bytes wider : Bytes) : Prop :=
  ∃ front back, wider = front ++ (bytes ++ back) ∧ Spaces front ∧ Spaces back

theorem padded_before {space : Bytes} (spaces : Spaces space) (bytes : Bytes) :
    Padded bytes (space ++ bytes) :=
  ⟨space, [], by simp, spaces, nofun⟩

theorem padded_behind {space : Bytes} (spaces : Spaces space) (bytes : Bytes) :
    Padded bytes (bytes ++ space) :=
  ⟨[], space, rfl, nofun, spaces⟩

theorem Padded.lineFeeds {bytes wider : Bytes} (padded : Padded bytes wider) :
    Padded (Text.lineFeeds bytes) (Text.lineFeeds wider) := by
  obtain ⟨front, back, rfl, before, behind⟩ := padded
  obtain ⟨first, isFirst, laid⟩ := lineFeeds_spaces_append before (bytes ++ back)
  obtain ⟨last, isLast, laid'⟩ := lineFeeds_append_spaces bytes behind
  exact ⟨first, last, by rw [laid, laid'], isFirst, isLast⟩

section Runs

variable {entities : Table String} {bytes run wider space : Bytes} {text : String}

/-- White space around a text stays around it when its references are expanded. -/
theorem Expands.padded (form : Expands ⟨.unlimited, entities⟩ bytes text)
    (padded : Padded bytes wider) :
    ∃ value, Expands ⟨.unlimited, entities⟩ wider value ∧ Text.trim value = Text.trim text := by
  obtain ⟨source, rfl, expanded⟩ := form
  obtain ⟨_, _, rfl, before, behind⟩ := padded
  obtain ⟨front, rfl, blankFront, plainFront⟩ := spaces_utf8 before
  obtain ⟨back, rfl, blankBack, plainBack⟩ := spaces_utf8 behind
  have widened := ((Entity.expand_sound expanded).append plainBack).prepend plainFront
  refine ⟨front ++ (text ++ back), ⟨front ++ (source ++ back), ?_,
    Entity.expand_complete widened rfl⟩, ?_⟩
  · rw [Text.utf8_append, Text.utf8_append]
  · rw [Text.trim_blank_append blankFront, Text.trim_append_blank blankBack]

theorem RunText.padded (form : RunText ⟨.unlimited, entities⟩ run text)
    (padded : Padded run wider) :
    ∃ value, RunText ⟨.unlimited, entities⟩ wider value ∧ Text.trim value = Text.trim text := by
  obtain ⟨tagless, expands⟩ := form
  rw [Text.unifyLineEnds_eq] at expands
  obtain ⟨value, expands', same⟩ := expands.padded padded.lineFeeds
  rw [← Text.unifyLineEnds_eq] at expands'
  have tagless' : ∀ b ∈ wider, b ≠ '<'.toUInt8 := by
    obtain ⟨front, back, rfl, before, behind⟩ := padded
    have blank (space : Bytes) (spaces : Spaces space) : ∀ b ∈ space, b ≠ '<'.toUInt8 := by
      rintro b member rfl
      exact absurd (spaces _ member) (by decide)
    exact List.forall_mem_append.2
      ⟨blank front before, List.forall_mem_append.2 ⟨tagless, blank back behind⟩⟩
  exact ⟨value, ⟨tagless', expands'⟩, same⟩

/-- White space alone is a blank text. -/
theorem runText_spaces (entities : Table String) (spaces : Spaces space) :
    ∃ blank, RunText ⟨.unlimited, entities⟩ space blank ∧ Text.trim blank = "" := by
  have empty : RunText ⟨.unlimited, entities⟩ [] "" :=
    ⟨by simp, "", Text.utf8_empty.symm, Entity.expand_complete (.plain (by simp)) rfl⟩
  have none : Text.trim "" = "" := Text.isBlankText_iff.1 rfl
  obtain ⟨blank, form, same⟩ := empty.padded (padded_behind spaces [])
  exact ⟨blank, form, same.trans none⟩

end Runs

/-! ## Items -/

/-- Items that can be the content of an element. -/
structure Items (context : Context) (items : List (Bytes × Node)) : Prop where
  forms : ∀ item ∈ items, NodeText context item.1 item.2
  separated : Node.Separated (items.map (·.2))

theorem separated_iff {items : List (Bytes × Node)} :
    Node.Separated (items.map (·.2)) ↔
      (items.map (·.2.isText)).IsChain fun first second => ¬ (first = true ∧ second = true) := by
  have kinds : items.map (·.2.isText) = (items.map (·.2)).map Node.isText := by
    rw [List.map_map]
    rfl
  rw [kinds, List.isChain_map]
  rfl

/-- No text is the first of the items, or there is none. -/
def BeginsOther (items : List (Bytes × Node)) : Prop :=
  ∀ kind ∈ (items.map (·.2.isText)).head?, kind = false

/-- No text is the last of the items, or there is none. -/
def EndsOther (items : List (Bytes × Node)) : Prop :=
  ∀ kind ∈ (items.map (·.2.isText)).getLast?, kind = false

theorem begins_with_text_or (items : List (Bytes × Node)) :
    (∃ run value rest, items = (run, .text value) :: rest) ∨ BeginsOther items := by
  cases items with
  | nil => exact .inr nofun
  | cons item rest =>
    obtain ⟨run, node⟩ := item
    cases node with
    | text value => exact .inl ⟨run, value, rest, rfl⟩
    | _ => exact .inr fun kind member => (Option.some.inj member).symm

theorem ends_with_text_or (items : List (Bytes × Node)) :
    (∃ rest run value, items = rest ++ [(run, .text value)]) ∨ EndsOther items := by
  rcases List.eq_nil_or_concat items with rfl | ⟨rest, ⟨run, node⟩, rfl⟩
  · exact .inr nofun
  · rw [List.concat_eq_append]
    cases node with
    | text value => exact .inl ⟨rest, run, value, rfl⟩
    | _ =>
      refine .inr fun kind member => ?_
      rw [List.map_append, List.map_singleton, List.getLast?_concat] at member
      exact (Option.some.inj member).symm

namespace Items

variable {context : Context} {earlier later : List (Bytes × Node)} {one other : Bytes × Node}

/-- An item may be replaced by another of its kind. -/
theorem replace (items : Items context (earlier ++ one :: later))
    (form : NodeText context other.1 other.2) (same : other.2.isText = one.2.isText) :
    Items context (earlier ++ other :: later) where
  forms := by
    have forms := items.forms
    rw [List.forall_mem_append, List.forall_mem_cons] at forms ⊢
    exact ⟨forms.1, form, forms.2.2⟩
  separated := by
    have kinds : (earlier ++ other :: later).map (·.2.isText) =
        (earlier ++ one :: later).map (·.2.isText) := by
      simp only [List.map_append, List.map_cons, same]
    rw [separated_iff, kinds]
    exact separated_iff.1 items.separated

/-- An item may be put where no text is. -/
theorem insert (items : Items context (earlier ++ later)) (ends : EndsOther earlier)
    (begins : BeginsOther later) (form : NodeText context other.1 other.2) :
    Items context (earlier ++ other :: later) where
  forms := by
    have forms := items.forms
    rw [List.forall_mem_append] at forms ⊢
    exact ⟨forms.1, List.forall_mem_cons.2 ⟨form, forms.2⟩⟩
  separated := by
    have separated := separated_iff.1 items.separated
    rw [List.map_append, List.isChain_append] at separated
    rw [separated_iff, List.map_append, List.map_cons, List.isChain_append, List.isChain_cons]
    refine ⟨separated.1, ⟨fun kind first => ?_, separated.2.1⟩, fun kind last _ _ => ?_⟩
    · simp [begins kind first]
    · simp [ends kind last]

end Items

theorem runText_of_node {context : Context} {run : Bytes} {value : String}
    (form : NodeText context run (.text value)) : RunText context run value := by
  cases form with
  | text _ form => exact form

/-- White space between items makes a text longer that stands there, or is a blank text. -/
theorem Items.widened {entities : Table String} {earlier later : List (Bytes × Node)}
    {space : Bytes} (items : Items ⟨.unlimited, entities⟩ (earlier ++ later))
    (spaces : Spaces space) (begun : space ≠ []) :
    ∃ others, Items ⟨.unlimited, entities⟩ others ∧
      others.flatMap (·.1) = earlier.flatMap (·.1) ++ (space ++ later.flatMap (·.1)) ∧
      Alike ((earlier ++ later).map (·.2)) (others.map (·.2)) := by
  rcases begins_with_text_or later with ⟨run, value, rest, rfl⟩ | begins
  · have form := runText_of_node (items.forms (run, .text value) (by simp))
    obtain ⟨wider, widened, same⟩ := form.padded (padded_before spaces run)
    refine ⟨earlier ++ (space ++ run, .text wider) :: rest,
      items.replace (.text (by simp [begun]) widened) rfl, by simp, ?_⟩
    simpa using (Alike.text same.symm).within (earlier.map (·.2)) (rest.map (·.2))
  rcases ends_with_text_or earlier with ⟨rest, run, value, rfl⟩ | ends
  · have form := runText_of_node (items.forms (run, .text value) (by simp))
    obtain ⟨wider, widened, same⟩ := form.padded (padded_behind spaces run)
    rw [List.append_assoc, List.singleton_append] at items ⊢
    refine ⟨rest ++ (run ++ space, .text wider) :: later,
      items.replace (.text (by simp [begun]) widened) rfl, by simp, ?_⟩
    simpa using (Alike.text same.symm).within (rest.map (·.2)) (later.map (·.2))
  · obtain ⟨value, form, none⟩ := runText_spaces entities spaces
    refine ⟨earlier ++ (space, .text value) :: later, items.insert ends begins (.text begun form),
      by simp, ?_⟩
    simpa using (Alike.blank none).within (earlier.map (·.2)) (later.map (·.2))

/-! ## Gaps -/

/-- The bytes are those of an element, and in the content of it, or of an element within it, items
follow each other, or an item and a tag, just where `before` ends. -/
inductive GapIn (context : Context) : Bytes → Bytes → Tag → List Node → Prop
  | here {start ending : Bytes} {tag : Tag} {earlier later : List (Bytes × Node)} :
    StartTagText context ">" start tag → Items context (earlier ++ later) →
      EndTagText tag.name ending →
      GapIn context (start ++ earlier.flatMap (·.1)) (later.flatMap (·.1) ++ ending) tag
        ((earlier ++ later).map (·.2))
  | inside {start before after ending : Bytes} {tag inner : Tag} {children : List Node}
      {earlier later : List (Bytes × Node)} :
    StartTagText context ">" start tag →
      Items context (earlier ++ (before ++ after, .element inner children) :: later) →
      EndTagText tag.name ending → GapIn context before after inner children →
      GapIn context (start ++ (earlier.flatMap (·.1) ++ before))
        (after ++ (later.flatMap (·.1) ++ ending)) tag
        ((earlier ++ (before ++ after, .element inner children) :: later).map (·.2))

namespace GapIn

variable {context : Context} {entities : Table String} {before after space : Bytes} {tag : Tag}
  {children : List Node}

theorem nodeText (gap : GapIn context before after tag children) :
    NodeText context (before ++ after) (.element tag children) := by
  cases gap with
  | here opened items closed =>
    simpa using NodeText.element opened items.forms items.separated closed
  | inside opened items closed =>
    simpa using NodeText.element opened items.forms items.separated closed

/-- With white space in the gap the bytes are those of an element with the same tag and children
that are alike. -/
theorem widened (gap : GapIn ⟨.unlimited, entities⟩ before after tag children)
    (spaces : Spaces space) (begun : space ≠ []) :
    ∃ others, NodeText ⟨.unlimited, entities⟩ (before ++ (space ++ after)) (.element tag others) ∧
      Alike children others := by
  induction gap with
  | @here start ending tag earlier later opened items closed =>
    obtain ⟨others, items', laid, alike⟩ := items.widened spaces begun
    have form := NodeText.element opened items'.forms items'.separated closed
    rw [laid] at form
    exact ⟨_, by simpa using form, alike⟩
  | @inside start before after ending tag inner children earlier later opened items closed _ ih =>
    obtain ⟨others, widened, alike⟩ := ih
    have items' : Items ⟨.unlimited, entities⟩
        (earlier ++ (before ++ (space ++ after), .element inner others) :: later) :=
      items.replace widened rfl
    have form := NodeText.element opened items'.forms items'.separated closed
    refine ⟨_, by simpa using form, ?_⟩
    simpa using (alike.element inner).within (earlier.map (·.2)) (later.map (·.2))

end GapIn

/-! ## Characters -/

/-- Items other than texts end as tags do. -/
theorem NodeText.ends {context : Context} {bytes : Bytes} {node : Node}
    (form : NodeText context bytes node) (other : node.isText = false) :
    ∃ front, bytes = front ++ ['>'.toUInt8] := by
  cases form with
  | comment form =>
    obtain ⟨_, rfl, body, rfl, -⟩ := form
    exact ⟨ascii "<!--" ++ (body ++ ascii "--"), by simp [ascii]⟩
  | cdata form =>
    obtain ⟨_, rfl, body, rfl, -⟩ := form
    exact ⟨ascii "<![CDATA[" ++ (body ++ ascii "]]"), by simp [ascii]⟩
  | @instruction _ target data form =>
    obtain ⟨space, _, rfl, -, -, -, -, body, rfl, -⟩ := form
    exact ⟨ascii "<?" ++ (utf8 target ++ (space ++ (body ++ ascii "?"))), by simp [ascii]⟩
  | text => cases other
  | @empty _ tag form =>
    obtain ⟨attrs, space, rfl, -⟩ := form
    exact ⟨'<'.toUInt8 :: (utf8 tag.name ++ (attrs ++ (space ++ ascii "/"))), by simp [ascii]⟩
  | @element start _ tag items _ _ _ closed =>
    obtain ⟨space, rfl, -⟩ := closed
    exact ⟨start ++ (items.flatMap (·.1) ++ (ascii "</" ++ (utf8 tag.name ++ space))), by simp⟩

theorem GapIn.between {context : Context} {before after : Bytes} {tag : Tag} {children : List Node}
    (gap : GapIn context before after tag children) :
    (∃ tail, after = '<'.toUInt8 :: tail) ∨ ∃ front, before = front ++ ['>'.toUInt8] := by
  induction gap with
  | @here start ending tag earlier later opened items closed =>
    cases later with
    | nil =>
      obtain ⟨space, rfl, -⟩ := closed
      exact .inl ⟨_, rfl⟩
    | cons item rest =>
      cases kind : item.2.isText with
      | false =>
        obtain ⟨tail, begins⟩ := (items.forms item (by simp)).begins kind
        rw [List.flatMap_cons, begins]
        exact .inl ⟨_, rfl⟩
      | true =>
        refine .inr ?_
        rcases List.eq_nil_or_concat earlier with rfl | ⟨first, last, rfl⟩
        · obtain ⟨attrs, space, rfl, -⟩ := opened
          exact ⟨'<'.toUInt8 :: (utf8 tag.name ++ (attrs ++ space)), by simp [ascii]⟩
        · -- Of two texts side by side there would be no gap.
          have apart := items.separated
          rw [List.map_append, Node.Separated, List.isChain_append] at apart
          have other : last.2.isText = false := by
            simpa [kind] using apart.2.2 last.2 (by simp) item.2 (by simp)
          obtain ⟨front, ends⟩ := (items.forms last (by simp)).ends other
          exact ⟨start ++ (first.flatMap (·.1) ++ front), by simp [ends]⟩
  | @inside start before after ending tag inner children earlier later _ _ _ _ ih =>
    rcases ih with ⟨tail, rfl⟩ | ⟨front, rfl⟩
    · exact .inl ⟨_, rfl⟩
    · exact .inr ⟨start ++ (earlier.flatMap (·.1) ++ front), by simp⟩

theorem isUtf8_between {before after : Bytes}
    (between : (∃ tail, after = '<'.toUInt8 :: tail) ∨ ∃ front, before = front ++ ['>'.toUInt8])
    (whole : IsUtf8 (before ++ after)) : IsUtf8 before ∧ IsUtf8 after := by
  rcases between with ⟨tail, rfl⟩ | ⟨front, rfl⟩
  · obtain ⟨isBefore, isAfter, -⟩ := Text.isUtf8_cut (by decide) whole
    exact ⟨isBefore, isAfter⟩
  · rw [List.append_assoc, List.singleton_append] at whole
    obtain ⟨isFront, -, isAfter⟩ := Text.isUtf8_cut (by decide) whole
    exact ⟨isFront.append (Text.isUtf8_cons (by decide) Text.isUtf8_nil), isAfter⟩

/-! ## Documents -/

/-- As `GapIn`, for a document with this root. -/
def GapInDocument (known : Table String) (context : Context) (before after : Bytes)
    (root : Element) : Prop :=
  ∃ mark prolog inner more epilog, before = mark ++ (prolog ++ inner) ∧ after = more ++ epilog ∧
    (mark = [] ∨ mark = byteOrderMark) ∧ PrologText known prolog context.entities ∧
    GapIn context inner more root.tag root.children ∧ EpilogText epilog

section Documents

variable {known entities : Table String} {before after space : Bytes} {root : Element}

theorem GapInDocument.document {context : Context}
    (gap : GapInDocument known context before after root) :
    DocumentText known context (before ++ after) root := by
  obtain ⟨mark, prolog, inner, more, epilog, rfl, rfl, marked, start, way, ending⟩ := gap
  exact ⟨mark, prolog, inner ++ more, epilog, by simp, marked, start, way.nodeText, ending⟩

/-- With white space in the gap, or none, the bytes are those of a document, and its root has the
same tag and children that are alike. -/
theorem GapInDocument.widened (gap : GapInDocument known ⟨.unlimited, entities⟩ before after root)
    (spaces : Spaces space) :
    ∃ others, DocumentText known ⟨.unlimited, entities⟩ (before ++ (space ++ after))
      ⟨root.tag, others⟩ ∧ Alike root.children others := by
  obtain ⟨mark, prolog, inner, more, epilog, rfl, rfl, marked, start, way, ending⟩ := gap
  have node : ∃ others, NodeText ⟨.unlimited, entities⟩ (inner ++ (space ++ more))
      (.element root.tag others) ∧ Alike root.children others := by
    by_cases begun : space = []
    · rw [begun]
      exact ⟨root.children, way.nodeText, Alike.refl root.children⟩
    · exact way.widened spaces begun
  obtain ⟨others, form, alike⟩ := node
  exact ⟨others, ⟨mark, prolog, _, epilog, by simp, marked, start, form, ending⟩, alike⟩

theorem GapInDocument.isUtf8 {context : Context}
    (gap : GapInDocument known context before after root) (whole : IsUtf8 (before ++ after)) :
    IsUtf8 before ∧ IsUtf8 after := by
  obtain ⟨mark, prolog, inner, more, epilog, rfl, rfl, -, -, way, -⟩ := gap
  refine isUtf8_between ?_ whole
  rcases way.between with ⟨tail, rfl⟩ | ⟨front, rfl⟩
  · exact .inl ⟨_, rfl⟩
  · exact .inr ⟨mark ++ (prolog ++ front), by simp⟩

end Documents

end XmlBuilder.Markup
