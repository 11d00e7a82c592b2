import XmlBuilder.Proofs.Limits
import XmlBuilder.Proofs.Places

/-!
# Bytes behind a document, and bytes missing from one

Up to the end of its root element a document is read in the same way whatever comes next
(`UpToRoot.readDocument_append`), so bytes begin with at most one such front (`UpToRoot.unique`).
Behind the front only an epilog may stand. A document therefore bears what belongs to an epilog and
nothing else, and none of its fronts is a document before its root element has ended
(`document_continued`).
-/
namespace XmlBuilder

open Text (utf8)

namespace Markup

variable {context : Context} {front rest : Bytes} {root : Element}

/-- The bytes of a document up to the end of its root element. -/
def UpToRoot (context : Context) (front : Bytes) (root : Element) : Prop :=
  ∃ mark prolog body, front = mark ++ (prolog ++ body) ∧ (mark = [] ∨ mark = byteOrderMark) ∧
    PrologText [] prolog context.entities ∧ NodeText context body root.toNode

theorem documentText_iff {bytes : Bytes} :
    DocumentText [] context bytes root ↔
      ∃ front epilog, bytes = front ++ epilog ∧ UpToRoot context front root ∧
        EpilogText epilog := by
  constructor
  · intro form
    rcases form with ⟨mark, prolog, body, epilog, rfl, marked, before, node, ending⟩
    exact ⟨_, epilog, by simp, ⟨mark, prolog, body, rfl, marked, before, node⟩, ending⟩
  · intro form
    rcases form with ⟨_, epilog, rfl, ⟨mark, prolog, body, rfl, marked, before, node⟩, ending⟩
    exact ⟨mark, prolog, body, epilog, by simp, marked, before, node, ending⟩

/-- What is read of a document when nothing but its end is still unread. -/
def readEnding (root : Element) (rest : Bytes) : Except Stop Element :=
  readEpilog rest >>= fun rest =>
    if rest.isEmpty then .ok root else .error (.here .trailingContent rest)

theorem readEnding_epilog (form : EpilogText rest) : readEnding root rest = .ok root := by
  rw [readEnding, readEpilog_complete form]
  rfl

/-- What is no epilog is refused at a place in it. -/
theorem readEnding_other (other : ¬ EpilogText rest) :
    ∃ stop, readEnding root rest = .error stop ∧ stop.site <:+ rest := by
  have traced := readEpilog_traced rest
  unfold readEnding
  cases read : readEpilog rest with
  | error stop =>
    obtain ⟨before, split, -⟩ := (traced.within read).site
    exact ⟨stop, rfl, before, split.symm⟩
  | ok last =>
    cases last with
    | nil => exact absurd (readEpilog_sound read) other
    | cons b tail =>
      obtain ⟨before, split, -⟩ := traced.ahead read
      exact ⟨_, rfl, before, split.symm⟩

namespace UpToRoot

theorem readDocument_append {limits : Limits} {entities : Table String}
    (form : UpToRoot ⟨limits, entities⟩ front root) (admitted : limits.Admits root.height)
    (fits : limits.oversized (front ++ rest).length = false) :
    readDocument limits [] (front ++ rest) = (entities, readEnding root rest) := by
  obtain ⟨mark, prolog, body, rfl, marked, before, node⟩ := form
  obtain ⟨tail, begins⟩ := node.begins rfl
  have begun : (body ++ rest).isEmpty = false := by
    rw [begins]
    rfl
  simp only [List.append_assoc] at fits ⊢
  rw [readDocument_prolog marked before node fits, readBody_eq _ begun,
    readElement_complete admitted node]
  rfl

/-- Bytes that begin so do so in one way: what comes behind the root element is settled. -/
theorem unique {limits : Limits} {entities entities' : Table String} {front' rest' : Bytes}
    {root' : Element} (form : UpToRoot ⟨limits, entities⟩ front root)
    (form' : UpToRoot ⟨limits, entities'⟩ front' root') (admitted : limits.Admits root.height)
    (admitted' : limits.Admits root'.height) (same : front ++ rest = front' ++ rest') :
    front = front' := by
  have whole := same
  obtain ⟨mark, prolog, body, rfl, marked, before, node⟩ := form
  obtain ⟨mark', prolog', body', rfl, marked', before', node'⟩ := form'
  -- The prolog ends at one place, and so does the element behind it.
  have read := readProlog_root marked before node rest
  simp only [List.append_assoc] at same
  rw [same, readProlog_root marked' before' node' rest'] at read
  obtain rfl : entities' = entities := congrArg Prod.fst read
  have behind : body' ++ rest' = body ++ rest := Except.ok.inj (congrArg Prod.snd read)
  have ended : readElement ⟨limits, entities'⟩ (body ++ rest) = .ok (root, rest) :=
    readElement_complete admitted node
  rw [← behind, readElement_complete admitted' node'] at ended
  obtain rfl : rest' = rest := congrArg Prod.snd (Except.ok.inj ended)
  exact List.append_cancel_right whole

end UpToRoot
end Markup

/-- The bytes are a document, and its root element ends behind `front`. -/
def RootEndsBehind (limits : Limits) (bytes front : Bytes) (root : Element) : Prop :=
  ∃ entities epilog, bytes = front ++ epilog ∧ Markup.UpToRoot ⟨limits, entities⟩ front root ∧
    Markup.EpilogText epilog

theorem RootEndsBehind.exists_of_read {limits : Limits} {bytes : Bytes} {root : Element}
    (read : readBytes limits bytes = .ok root) : ∃ front, RootEndsBehind limits bytes front root := by
  obtain ⟨entities, form, -⟩ := readBytes_sound read
  obtain ⟨front, epilog, split, rooted, ending⟩ := Markup.documentText_iff.1 form
  exact ⟨front, entities, epilog, split, rooted, ending⟩

variable {depth : UInt16} {bytes front : Bytes} {root : Element}

/-- With more bytes behind it, a document is read up to its end as before. -/
theorem readBytes_append (read : readBytes ⟨depth, 0⟩ bytes = .ok root) (more : Bytes) :
    readBytes ⟨depth, 0⟩ (bytes ++ more) = (Markup.readEnding root more).mapError fun stop =>
      .atPosition stop.cause (placeOf (bytes ++ more) stop.site) := by
  obtain ⟨front, entities, epilog, rfl, rooted, ending⟩ := RootEndsBehind.exists_of_read read
  have continued : Markup.readDocument ⟨depth, 0⟩ [] (front ++ (epilog ++ more)) =
      (entities, Markup.readEnding root (epilog ++ more)) :=
    rooted.readDocument_append (admits_of_read read) rfl
  rw [readBytes_eq, List.append_assoc, continued, Markup.readEnding, Markup.readEpilog_append ending]
  rfl

/-- A document that is cut off before its root element has ended is none. -/
theorem RootEndsBehind.refused {cut : Bytes} (read : readBytes ⟨depth, 0⟩ bytes = .ok root)
    (ends : RootEndsBehind ⟨depth, 0⟩ bytes front root) (shorter : cut <+: bytes)
    (early : cut.length < front.length) : ∃ error, readBytes ⟨depth, 0⟩ cut = .error error := by
  obtain ⟨missing, split⟩ := shorter
  cases again : readBytes ⟨depth, 0⟩ cut with
  | error error => exact ⟨error, rfl⟩
  | ok other =>
    -- The root of what is left would end behind the same front, which is longer.
    obtain ⟨entities, epilog, whole, rooted, -⟩ := ends
    obtain ⟨front', entities', epilog', whole', rooted', -⟩ := RootEndsBehind.exists_of_read again
    have same : front ++ epilog = front' ++ (epilog' ++ missing) := by
      rw [← whole, ← split, whole', List.append_assoc]
    have fronts := rooted.unique rooted' (admits_of_read read) (admits_of_read again) same
    rw [whole', ← fronts, List.length_append] at early
    omega

/-- With more bytes behind it, a document is read as before if they may stand in an epilog, and is
otherwise refused at a place that does not lie in the document. Cut off before its root element has
ended, it is refused. -/
theorem document_continued (read : readBytes ⟨depth, 0⟩ bytes = .ok root) :
    (∀ more,
      Markup.EpilogText more ∧ readBytes ⟨depth, 0⟩ (bytes ++ more) = .ok root ∨
        ¬ Markup.EpilogText more ∧ ∃ error, readBytes ⟨depth, 0⟩ (bytes ++ more) = .error error ∧
          bytes.length ≤ error.span.start.offset) ∧
    (∃ front, RootEndsBehind ⟨depth, 0⟩ bytes front root) ∧
    ∀ front, RootEndsBehind ⟨depth, 0⟩ bytes front root → ∀ cut, cut <+: bytes →
      cut.length < front.length → ∃ error, readBytes ⟨depth, 0⟩ cut = .error error := by
  refine ⟨fun more => ?_, RootEndsBehind.exists_of_read read,
    fun front ends cut shorter early => ends.refused read shorter early⟩
  rw [readBytes_append read more]
  by_cases epilog : Markup.EpilogText more
  · refine .inl ⟨epilog, ?_⟩
    rw [Markup.readEnding_epilog epilog]
    rfl
  · obtain ⟨stop, failed, before, split⟩ := Markup.readEnding_other epilog
    refine .inr ⟨epilog, .atPosition stop.cause (placeOf (bytes ++ more) stop.site), ?_, ?_⟩
    · rw [failed]
      rfl
    · change bytes.length ≤ (placeOf (bytes ++ more) stop.site).offset
      rw [← split, ← List.append_assoc, placeOf_append, advance_origin]
      exact (List.prefix_append bytes before).length_le

/-- A document with a comment behind its root: with white space and with another element behind it,
and without the last byte of its root element. -/
theorem document_continued_remarked :
    let document := utf8 "<a><b/>x</a> <!--c-->"
    let root : Element := ⟨⟨"a", []⟩, [.element ⟨"b", []⟩ [], .text "x"]⟩
    readBytes ⟨2, 0⟩ document = .ok root ∧
      readBytes ⟨2, 0⟩ (document ++ utf8 "\n") = .ok root ∧
      (∃ error, readBytes ⟨2, 0⟩ (document ++ utf8 "<b/>") = .error error ∧
        document.length ≤ error.span.start.offset) ∧
      RootEndsBehind ⟨2, 0⟩ document (utf8 "<a><b/>x</a>") root ∧
      ∃ error, readBytes ⟨2, 0⟩ (utf8 "<a><b/>x</a") = .error error := by
  intro document root
  have read : readBytes ⟨2, 0⟩ document = .ok root := by
    rw [readBytes_eq]
    with_unfolding_all rfl
  have rooted : Markup.readElement ⟨⟨2, 0⟩, []⟩ (utf8 "<a><b/>x</a>") = .ok (root, []) := by
    with_unfolding_all rfl
  have ended : Markup.readEpilog (utf8 " <!--c-->") = .ok [] := by with_unfolding_all rfl
  have other : Markup.readEpilog (utf8 "<b/>") = .ok (utf8 "<b/>") := by with_unfolding_all rfl
  have ends : RootEndsBehind ⟨2, 0⟩ document (utf8 "<a><b/>x</a>") root := by
    obtain ⟨body, split, node⟩ := Markup.readElement_sound rooted
    rw [List.append_nil] at split
    rw [← split] at node
    exact ⟨[], utf8 " <!--c-->", rfl, ⟨[], [], _, rfl, .inl rfl, .nil, node⟩,
      Markup.readEpilog_sound ended⟩
  obtain ⟨continued, -, cut⟩ := document_continued read
  refine ⟨read, ?_, ?_, ends, cut _ ends _ ⟨utf8 "> <!--c-->", rfl⟩ (by decide)⟩
  · rcases continued (utf8 "\n") with ⟨-, same⟩ | ⟨none, -⟩
    · exact same
    · exact absurd (.space rfl .nil) none
  · rcases continued (utf8 "<b/>") with ⟨epilog, -⟩ | ⟨-, refused⟩
    · rw [Markup.readEpilog_complete epilog] at other
      cases other
    · exact refused

end XmlBuilder
