import XmlBuilder.Markup.Document
import XmlBuilder.Scan.Content
import XmlBuilder.Scan.Doctype

/-!
Scanning a whole document.
-/
namespace XmlBuilder.Scan

open Markup (Context)

/-- Reads a comment or processing instruction, if one begins here. -/
def readMisc? (cursor : Cursor) : Option (Scanned Unit) :=
  if cursor.startsWith (Markup.ascii "<?") then some (((fun _ => ()) <$> readInstruction) cursor)
  else if cursor.startsWith (Markup.ascii "<!--") then some (((fun _ => ()) <$> readComment) cursor)
  else none

/-- Both find something that they read alike, or neither does. -/
theorem readMisc?_agrees (cursor : Cursor) :
    Option.Rel (Agrees rest cursor) (readMisc? cursor) (Markup.readMisc? cursor.unread) := by
  unfold readMisc? Markup.readMisc?
  rw [startsWith_eq, startsWith_eq]
  by_cases instruction : Markup.startsWith "<?" cursor.unread = true
  · rw [if_pos instruction, if_pos instruction]
    exact .some ((readInstruction_agrees cursor).map fun _ _ => rfl)
  by_cases comment : Markup.startsWith "<!--" cursor.unread = true
  · rw [if_neg instruction, if_neg instruction, if_pos comment, if_pos comment]
    exact .some ((readComment_agrees cursor).map fun _ _ => rfl)
  · rw [if_neg instruction, if_neg instruction, if_neg comment, if_neg comment]
    exact .none

theorem readMisc?_none {cursor : Cursor} (none : readMisc? cursor = none) :
    Markup.readMisc? cursor.unread = .none := by
  have both := readMisc?_agrees cursor
  rw [none] at both
  generalize Markup.readMisc? cursor.unread = read at both ⊢
  cases both with
  | none => rfl

theorem readMisc?_some {cursor : Cursor} {scanned : Scanned Unit}
    (found : readMisc? cursor = some scanned) :
    ∃ read, Markup.readMisc? cursor.unread = some read ∧ Agrees rest cursor scanned read := by
  have both := readMisc?_agrees cursor
  rw [found] at both
  generalize Markup.readMisc? cursor.unread = read at both ⊢
  cases both with
  | some agrees => exact ⟨_, rfl, agrees⟩

theorem readMisc?_left {cursor next : Cursor}
    (found : readMisc? cursor.skipSpace = some (.ok () next)) : next.left < cursor.left := by
  obtain ⟨read, one, agrees⟩ := readMisc?_some found
  obtain ⟨_, rfl⟩ := agrees.reaches rfl
  exact left_lt (Markup.readMisc?_shorter one)

theorem readDoctype_left {table after : Table String} {cursor next : Cursor}
    (found : readDoctype table cursor.skipSpace = (after, .ok () next)) :
    next.left < cursor.left :=
  left_lt (Markup.readDoctype_shorter ((readDoctype_agrees table _).reaches found).2)

/-- Reads up to the root element and gives the entities declared on the way, in failure too. -/
def readProlog (table : Table String) (cursor : Cursor) : Table String × Scanned Unit :=
  match _ : readMisc? cursor.skipSpace with
  | some (.error error next) => (table, .error error next)
  | some (.ok () next) => readProlog table next
  | none =>
    if cursor.skipSpace.startsWith (Markup.ascii "<!DOCTYPE") then
      match _ : readDoctype table cursor.skipSpace with
      | (after, .error error next) => (after, .error error next)
      | (after, .ok () next) => readProlog after next
    else (table, .ok () cursor.skipSpace)
termination_by cursor.left
decreasing_by
  · exact readMisc?_left ‹_›
  · exact readDoctype_left ‹_›

theorem readProlog_agrees (table : Table String) (cursor : Cursor) :
    Declares cursor (readProlog table cursor) (Markup.readProlog table cursor.unread) := by
  fun_induction readProlog table cursor with
  | case1 table cursor error next found =>
    obtain ⟨read, one, agrees⟩ := readMisc?_some found
    obtain ⟨stop, rfl, fails⟩ := agrees.stops rfl
    rw [Markup.readProlog_eq, ← unread_skipSpace, one]
    exact ⟨rfl, (fails rest).behind (skipSpace_reaches cursor)⟩
  | case2 table cursor next found ih =>
    obtain ⟨read, one, agrees⟩ := readMisc?_some found
    obtain ⟨reached, rfl⟩ := agrees.reaches rfl
    rw [Markup.readProlog_eq, ← unread_skipSpace, one]
    exact ih.behind ((skipSpace_reaches cursor).trans reached)
  | case3 table cursor none begun after error next found =>
    obtain ⟨stop, stopped, fails⟩ := (readDoctype_agrees table _).stops found
    rw [startsWith_eq] at begun
    rw [Markup.readProlog_eq, ← unread_skipSpace, readMisc?_none none]
    dsimp only
    rw [if_pos begun, stopped]
    exact ⟨rfl, (fails rest).behind (skipSpace_reaches cursor)⟩
  | case4 table cursor none begun after next found ih =>
    obtain ⟨reached, read⟩ := (readDoctype_agrees table _).reaches found
    rw [startsWith_eq] at begun
    rw [Markup.readProlog_eq, ← unread_skipSpace, readMisc?_none none]
    dsimp only
    rw [if_pos begun, read]
    exact ih.behind ((skipSpace_reaches cursor).trans reached)
  | case5 table cursor none begun =>
    rw [startsWith_eq] at begun
    rw [Markup.readProlog_eq, ← unread_skipSpace, readMisc?_none none]
    dsimp only
    rw [if_neg begun]
    exact ⟨rfl, .ok (skipSpace_reaches cursor)⟩

/-- Reads what follows the root element, as far as it may stand there. -/
def readEpilog (cursor : Cursor) : Scanned Unit :=
  match _ : readMisc? cursor.skipSpace with
  | some (.error error next) => .error error next
  | some (.ok () next) => readEpilog next
  | none => .ok () cursor.skipSpace
termination_by cursor.left
decreasing_by exact readMisc?_left ‹_›

theorem readEpilog_agrees (cursor : Cursor) :
    Agrees rest cursor (readEpilog cursor) (Markup.readEpilog cursor.unread) := by
  fun_induction readEpilog cursor with
  | case1 cursor error next found =>
    obtain ⟨read, one, agrees⟩ := readMisc?_some found
    obtain ⟨stop, rfl, fails⟩ := agrees.stops rfl
    rw [Markup.readEpilog_eq, ← unread_skipSpace, one]
    exact (fails rest).behind (skipSpace_reaches cursor)
  | case2 cursor next found ih =>
    obtain ⟨read, one, agrees⟩ := readMisc?_some found
    obtain ⟨reached, rfl⟩ := agrees.reaches rfl
    rw [Markup.readEpilog_eq, ← unread_skipSpace, one]
    exact ih.behind ((skipSpace_reaches cursor).trans reached)
  | case3 cursor none =>
    rw [Markup.readEpilog_eq, ← unread_skipSpace, readMisc?_none none]
    exact .ok (skipSpace_reaches cursor)

/-- Skips a byte order mark. -/
def skipMark (cursor : Cursor) : Cursor :=
  let mark := [0xEF, 0xBB, 0xBF]
  if cursor.startsWith mark then cursor.advanceBy mark.length else cursor

theorem skipMark_reaches (cursor : Cursor) :
    cursor.Reaches (skipMark cursor) ∧
      (skipMark cursor).unread = Markup.skipMark cursor.unread := by
  unfold skipMark Markup.skipMark
  dsimp only
  rw [Cursor.startsWith_eq]
  split
  · exact ⟨.advanceBy cursor _, Cursor.unread_advanceBy cursor _⟩
  · exact ⟨.refl cursor, rfl⟩

/-- Gives the root if nothing follows it. -/
def finish (root : Element) : Scan Element := fun cursor =>
  if cursor.atEnd then .ok root cursor else fail .trailingContent cursor

/-- Reads the root and all that follows it. -/
def readBody (context : Context) : Scan Element := fun cursor =>
  if cursor.atEnd then fail .missingRoot cursor
  else (do
    let root ← readElement context
    readEpilog
    finish root) cursor

/-- Nothing is unread behind a whole document. -/
theorem finish_agrees (root : Element) (cursor : Cursor) :
    Agrees Prod.mk cursor (finish root cursor)
      ((·, []) <$> if cursor.unread.isEmpty then .ok root
        else .error (.here .trailingContent cursor.unread)) := by
  unfold finish
  rw [Cursor.atEnd_eq]
  by_cases ended : cursor.unread.isEmpty = true
  · have done := @Agrees.ok _ _ Prod.mk cursor root cursor (.refl cursor)
    rw [List.isEmpty_iff.1 ended] at done ⊢
    exact done
  · rw [if_neg ended, if_neg ended]
    exact fail_agrees .trailingContent cursor

theorem readBody_agrees (context : Context) (cursor : Cursor) :
    Agrees Prod.mk cursor (readBody context cursor)
      ((·, []) <$> Markup.readBody context cursor.unread) := by
  unfold readBody Markup.readBody
  rw [Cursor.atEnd_eq]
  by_cases ended : cursor.unread.isEmpty = true
  · rw [if_pos ended, if_pos ended]
    exact fail_agrees .missingRoot cursor
  · rw [if_neg ended, if_neg ended]
    dsimp only
    rw [map_bind]
    refine (readElement_agrees context cursor).bind fun root after => ?_
    rw [map_bind]
    exact (readEpilog_agrees after).bind fun _ last => finish_agrees root last

/-- Reads the document to its end, with the entities of `table` and those that the document
declares, which are given in failure too. -/
def readDocument (limits : Limits) (table : Table String) (cursor : Cursor) :
    Table String × Scanned Element :=
  if limits.oversized cursor.left then (table, fail (.sizeExceeded limits.maxSize) cursor)
  else
    match readProlog table (skipMark cursor) with
    | (entities, .error error next) => (entities, .error error next)
    | (entities, .ok () next) => (entities, readBody ⟨limits, entities⟩ next)

/-- Scanning gives what reading the unread bytes gives, with the same entities. -/
theorem readDocument_agrees (limits : Limits) (table : Table String) (cursor : Cursor) :
    (readDocument limits table cursor).1 =
        (Markup.readDocument limits table cursor.unread).1 ∧
      Agrees Prod.mk cursor (readDocument limits table cursor).2
        ((·, []) <$> (Markup.readDocument limits table cursor.unread).2) := by
  unfold readDocument Markup.readDocument
  rw [Cursor.left_eq]
  by_cases oversized : limits.oversized cursor.unread.length = true
  · rw [if_pos oversized, if_pos oversized]
    exact ⟨rfl, fail_agrees (.sizeExceeded limits.maxSize) cursor⟩
  rw [if_neg oversized, if_neg oversized]
  obtain ⟨reached, marked⟩ := skipMark_reaches cursor
  have prolog := (readProlog_agrees table (skipMark cursor)).behind reached
  rw [← marked]
  split
  · next failed =>
    obtain ⟨stop, stopped, fails⟩ := prolog.stops failed
    rw [stopped]
    exact ⟨rfl, fails Prod.mk⟩
  · next entities next found =>
    obtain ⟨onwards, read⟩ := prolog.reaches found
    rw [read]
    exact ⟨rfl, (readBody_agrees ⟨limits, entities⟩ next).behind onwards⟩

end XmlBuilder.Scan
