import XmlBuilder.Proofs.Markup.Content
import XmlBuilder.Proofs.Markup.Subset

/-!
# Documents are read as their forms

Prologs and epilogs, by induction along the run in one direction and along the form in the other
(`readProlog_ok_iff`, `readEpilog_ok_iff`), and around the root element the whole document
(`readDocument_sound`, `readDocument_complete`).
-/
namespace XmlBuilder.Markup

open Text (utf8)

/-! ## Comments and processing instructions outside the root -/

theorem readMisc?_ok_iff {bytes rest : Bytes} :
    readMisc? bytes = some (.ok rest) ↔ ∃ taken, bytes = taken ++ rest ∧ MiscText taken := by
  unfold readMisc?
  constructor
  · intro h
    split at h
    · next begun =>
      cases read : readInstruction bytes with
      | error stop => rw [read] at h; cases h
      | ok pair =>
        obtain ⟨⟨target, data⟩, last⟩ := pair
        rw [read] at h
        cases h
        obtain ⟨taken, split, form⟩ := (readInstruction_ok_iff begun).1 read
        exact ⟨taken, split, .inr ⟨target, data, form⟩⟩
    split at h
    · next begun =>
      cases read : readComment bytes with
      | error stop => rw [read] at h; cases h
      | ok pair =>
        rw [read] at h
        cases h
        obtain ⟨taken, split, form⟩ := (readComment_ok_iff begun).1 read
        exact ⟨taken, split, .inl ⟨_, form⟩⟩
    · cases h
  · intro form
    rcases form with ⟨taken, rfl, ⟨text, form⟩ | ⟨target, data, form⟩⟩
    · have begun : startsWith "<!--" (taken ++ rest) = true ∧
          startsWith "<?" (taken ++ rest) = false := by
        obtain ⟨body, rfl, -⟩ := form
        exact ⟨rfl, rfl⟩
      rw [if_neg (by simp [begun]), if_pos begun.1,
        (readComment_ok_iff begun.1).2 ⟨taken, rfl, form⟩]
      rfl
    · have begun : startsWith "<?" (taken ++ rest) = true := by
        obtain ⟨space, body, rfl, -⟩ := form
        rfl
      rw [if_pos begun, (readInstruction_ok_iff begun).2 ⟨taken, rfl, form⟩]
      rfl

theorem readMisc?_eq_none_iff {bytes : Bytes} :
    readMisc? bytes = none ↔ startsWith "<?" bytes = false ∧ startsWith "<!--" bytes = false := by
  unfold readMisc?
  split
  · next begun => simp [begun]
  · next other =>
    split
    · next begun => simp [begun]
    · next noComment => simp [other, noComment]

theorem MiscText.begins {bytes : Bytes} (form : MiscText bytes) :
    ∃ tail, bytes = '<'.toUInt8 :: tail := by
  rcases form with ⟨text, body, rfl, -⟩ | ⟨target, data, space, body, rfl, -⟩
  · exact ⟨_, rfl⟩
  · exact ⟨_, rfl⟩

theorem skipSpace_tag (tail : Bytes) : skipSpace ('<'.toUInt8 :: tail) = '<'.toUInt8 :: tail :=
  List.dropWhile_cons_of_neg (by decide)

theorem skipSpace_misc {bytes : Bytes} (form : MiscText bytes) (rest : Bytes) :
    skipSpace (bytes ++ rest) = bytes ++ rest := by
  obtain ⟨tail, rfl⟩ := form.begins
  exact skipSpace_tag _

/-! ## Before the root -/

/-- Nothing that belongs to a prolog comes first. -/
structure PrologEnds (bytes : Bytes) : Prop where
  visible : Stops isSpace bytes
  noInstruction : startsWith "<?" bytes = false
  noComment : startsWith "<!--" bytes = false
  noDoctype : startsWith "<!DOCTYPE" bytes = false

theorem PrologText.spaces {before after : Table String} {space rest : Bytes}
    (spaces : Spaces space) (form : PrologText before rest after) :
    PrologText before (space ++ rest) after := by
  induction space with
  | nil => exact form
  | cons b tail ih =>
    exact .space (spaces b (by simp)) (ih fun c member => spaces c (by simp [member]))

theorem readProlog_sound {table after : Table String} {bytes rest : Bytes}
    (h : readProlog table bytes = (after, .ok rest)) :
    ∃ taken, bytes = taken ++ rest ∧ PrologText table taken after ∧ PrologEnds rest := by
  fun_induction readProlog table bytes with
  | case1 => cases h
  | case2 table bytes next read ih =>
    obtain ⟨space, split, spaces⟩ := skipSpace_split bytes
    obtain ⟨one, found, form⟩ := readMisc?_ok_iff.1 read
    obtain ⟨taken, rfl, prolog, ends⟩ := ih h
    rw [split, found]
    exact ⟨space ++ (one ++ taken), by simp, .spaces spaces (.misc form prolog), ends⟩
  | case3 => cases h
  | case4 table bytes none begun between next read ih =>
    obtain ⟨space, split, spaces⟩ := skipSpace_split bytes
    obtain ⟨one, found, starts, whole⟩ := (readDoctype_local begun).1 read
    obtain ⟨taken, rfl, prolog, ends⟩ := ih h
    rw [split, found]
    exact ⟨space ++ (one ++ taken), by simp, .spaces spaces (.doctype starts whole prolog), ends⟩
  | case5 table bytes none begun =>
    cases h
    obtain ⟨space, split, spaces⟩ := skipSpace_split bytes
    obtain ⟨noInstruction, noComment⟩ := readMisc?_eq_none_iff.1 none
    exact ⟨space ++ [], by rwa [List.append_nil], .spaces spaces .nil, skipSpace_stops bytes,
      noInstruction, noComment, by simpa using begun⟩

theorem readProlog_done {table : Table String} {bytes : Bytes} (ends : PrologEnds bytes) :
    readProlog table bytes = (table, .ok bytes) := by
  have skipped : skipSpace bytes = bytes :=
    skipSpace_eq_iff.2 ⟨[], rfl, by simp [Spaces], ends.visible⟩
  rw [readProlog_eq, skipped, readMisc?_eq_none_iff.2 ⟨ends.noInstruction, ends.noComment⟩]
  dsimp only
  rw [if_neg (by simp [ends.noDoctype])]

theorem readProlog_complete {table after : Table String} {one : Bytes}
    (form : PrologText table one after) {rest : Bytes} (ends : PrologEnds rest) :
    readProlog table (one ++ rest) = (after, .ok rest) := by
  induction form with
  | nil => exact readProlog_done ends
  | @space before after b tail space _ ih =>
    have skipped : skipSpace (b :: tail ++ rest) = skipSpace (tail ++ rest) :=
      List.dropWhile_cons_of_pos space
    rw [readProlog_eq, skipped, ← readProlog_eq, ih]
  | @misc before after first tail form _ ih =>
    have read : readMisc? (first ++ (tail ++ rest)) = some (.ok (tail ++ rest)) :=
      readMisc?_ok_iff.2 ⟨first, rfl, form⟩
    rw [List.append_assoc, readProlog_eq, skipSpace_misc form, read]
    exact ih
  | @doctype before between after first tail starts whole _ ih =>
    obtain ⟨more, begins⟩ := startsWith_iff.1 starts
    have begun : startsWith "<!DOCTYPE" (first ++ (tail ++ rest)) = true ∧
        startsWith "<?" (first ++ (tail ++ rest)) = false ∧
        startsWith "<!--" (first ++ (tail ++ rest)) = false ∧
        skipSpace (first ++ (tail ++ rest)) = first ++ (tail ++ rest) := by
      rw [begins]
      exact ⟨rfl, rfl, rfl, skipSpace_tag _⟩
    obtain ⟨starts', noInstruction, noComment, skipped⟩ := begun
    have read := (readDoctype_local starts').2 ⟨first, rfl, starts, whole⟩
    rw [List.append_assoc, readProlog_eq, skipped,
      readMisc?_eq_none_iff.2 ⟨noInstruction, noComment⟩]
    dsimp only
    rw [if_pos starts', read]
    exact ih

/-! ## After the root -/

theorem EpilogText.spaces {space rest : Bytes} (spaces : Spaces space) (form : EpilogText rest) :
    EpilogText (space ++ rest) := by
  induction space with
  | nil => exact form
  | cons b tail ih =>
    exact .space (spaces b (by simp)) (ih fun c member => spaces c (by simp [member]))

theorem readEpilog_sound {bytes : Bytes} (h : readEpilog bytes = .ok []) : EpilogText bytes := by
  fun_induction readEpilog bytes with
  | case1 => cases h
  | case2 bytes next read ih =>
    obtain ⟨space, split, spaces⟩ := skipSpace_split bytes
    obtain ⟨one, found, form⟩ := readMisc?_ok_iff.1 read
    rw [split, found]
    exact .spaces spaces (.misc form (ih h))
  | case3 bytes none =>
    obtain ⟨space, split, spaces⟩ := skipSpace_split bytes
    rw [split, Except.ok.inj h]
    exact .spaces spaces .nil

/-- How bytes are read that an epilog comes before. -/
theorem readEpilog_append {epilog : Bytes} (form : EpilogText epilog) (rest : Bytes) :
    readEpilog (epilog ++ rest) = readEpilog rest := by
  induction form with
  | nil => rfl
  | @space b tail space _ ih =>
    have skipped : skipSpace (b :: tail ++ rest) = skipSpace (tail ++ rest) :=
      List.dropWhile_cons_of_pos space
    rw [readEpilog_eq, skipped, ← readEpilog_eq, ih]
  | @misc first tail form _ ih =>
    have read : readMisc? (first ++ (tail ++ rest)) = some (.ok (tail ++ rest)) :=
      readMisc?_ok_iff.2 ⟨first, rfl, form⟩
    rw [List.append_assoc, readEpilog_eq, skipSpace_misc form, read]
    exact ih

theorem readEpilog_complete {bytes : Bytes} (form : EpilogText bytes) :
    readEpilog bytes = .ok [] := by
  have none : readEpilog [] = .ok [] := by
    rw [readEpilog_eq]
    rfl
  rw [← List.append_nil bytes, readEpilog_append form, none]

/-! ## Whole documents -/

theorem PrologText.begins {before after : Table String} {bytes : Bytes}
    (form : PrologText before bytes after) :
    bytes = [] ∨ ∃ b tail, bytes = b :: tail ∧ (isSpace b = true ∨ b = '<'.toUInt8) := by
  induction form with
  | nil => exact .inl rfl
  | space space _ _ => exact .inr ⟨_, _, rfl, .inl space⟩
  | misc form _ _ =>
    obtain ⟨tail, rfl⟩ := form.begins
    exact .inr ⟨_, _, rfl, .inr rfl⟩
  | doctype starts _ _ _ =>
    obtain ⟨tail, rfl⟩ := startsWith_iff.1 starts
    exact .inr ⟨_, _, rfl, .inr rfl⟩

/-- A mark is skipped at the start and nowhere else, as nothing else begins like it. -/
theorem skipMark_eq {mark bytes : Bytes} (marked : mark = [] ∨ mark = byteOrderMark)
    (other : ∀ b ∈ bytes.head?, b ≠ 0xEF) : skipMark (mark ++ bytes) = bytes := by
  rcases marked with rfl | rfl
  · cases bytes with
    | nil => rfl
    | cons b tail =>
      have differs : ¬ (0xEF : UInt8) = b := fun same => other b rfl same.symm
      simp [skipMark, List.isPrefixOf, differs]
  · rfl

theorem skipMark_split (bytes : Bytes) :
    ∃ mark, bytes = mark ++ skipMark bytes ∧ (mark = [] ∨ mark = byteOrderMark) := by
  unfold skipMark
  dsimp only
  split
  · next marked =>
    obtain ⟨rest, rfl⟩ := List.isPrefixOf_iff_prefix.1 marked
    exact ⟨byteOrderMark, rfl, .inr rfl⟩
  · exact ⟨[], rfl, .inl rfl⟩

theorem readBody_eq (context : Context) {bytes : Bytes} (begun : bytes.isEmpty = false) :
    readBody context bytes =
      readElement context bytes >>= fun (root, rest) =>
        readEpilog rest >>= fun rest =>
          if rest.isEmpty then .ok root else .error (.here .trailingContent rest) := by
  cases bytes with
  | nil => cases begun
  | cons b tail => rfl

theorem readBody_ok_iff {context : Context} {bytes : Bytes} {root : Element} :
    readBody context bytes = .ok root ↔
      ∃ rest, readElement context bytes = .ok (root, rest) ∧ readEpilog rest = .ok [] := by
  cases bytes with
  | nil =>
    constructor
    · intro h
      cases h
    · intro form
      rcases form with ⟨rest, read, -⟩
      obtain ⟨taken, split, form⟩ := readElement_sound read
      obtain ⟨tail, begins⟩ := form.begins rfl
      rw [begins] at split
      cases split
  | cons b tail =>
    constructor
    · intro h
      obtain ⟨⟨found, rest⟩, read, h⟩ := bind_success h
      obtain ⟨last, epilog, h⟩ := bind_success h
      cases last with
      | nil => cases h; exact ⟨rest, read, epilog⟩
      | cons c more => cases h
    · intro form
      rcases form with ⟨rest, read, epilog⟩
      exact bind_ok_iff.2 ⟨_, read, bind_ok_iff.2 ⟨_, epilog, rfl⟩⟩

theorem readDocument_sound {limits : Limits} {before after : Table String} {bytes : Bytes}
    {root : Element} (h : readDocument limits before bytes = (after, .ok root)) :
    DocumentText before ⟨limits, after⟩ bytes root := by
  unfold readDocument at h
  split at h
  · cases h
  · obtain ⟨mark, split, marked⟩ := skipMark_split bytes
    cases read : readProlog before (skipMark bytes) with
    | mk entities prolog =>
      rw [read] at h
      obtain rfl : entities = after := congrArg Prod.fst h
      obtain ⟨rest, reached, inBody⟩ := bind_success (congrArg Prod.snd h)
      rw [show prolog = .ok rest from reached] at read
      obtain ⟨start, found, prologForm, -⟩ := readProlog_sound read
      obtain ⟨last, rooted, ended⟩ := readBody_ok_iff.1 inBody
      obtain ⟨body, rfl, form⟩ := readElement_sound rooted
      rw [found] at split
      exact ⟨mark, start, body, last, split, marked, prologForm, form, readEpilog_sound ended⟩

theorem readDocument_fits {limits : Limits} {before after : Table String} {bytes : Bytes}
    {root : Element} (h : readDocument limits before bytes = (after, .ok root)) :
    limits.oversized bytes.length = false := by
  unfold readDocument at h
  split at h
  · cases h
  · next fits => simpa using fits

/-- What comes behind a prolog if it is the root element. -/
theorem prologEnds_of_root {context : Context} {body : Bytes} {root : Element}
    (form : NodeText context body root.toNode) (rest : Bytes) : PrologEnds (body ++ rest) := by
  obtain ⟨tag, children⟩ := root
  change NodeText context body (.element tag children) at form
  obtain ⟨closer, start, more, rfl, opened⟩ := form.startTag
  obtain ⟨b, tail, rfl, starts⟩ := opened.begins
  obtain ⟨-, comment, -, instruction, doctype, -⟩ := starts_tag starts (tail ++ (more ++ rest))
  simp only [List.append_assoc, List.cons_append]
  exact ⟨stops_cons.2 (by decide), instruction, comment, doctype⟩

/-- What comes before the root element leaves the rest to the reading of the root. -/
theorem readProlog_root {context : Context} {known entities : Table String}
    {mark prolog body : Bytes} {root : Element} (marked : mark = [] ∨ mark = byteOrderMark)
    (form : PrologText known prolog entities) (node : NodeText context body root.toNode)
    (rest : Bytes) :
    readProlog known (skipMark (mark ++ (prolog ++ (body ++ rest)))) =
      (entities, .ok (body ++ rest)) := by
  have first : ∀ b ∈ (prolog ++ (body ++ rest)).head?, b ≠ 0xEF := by
    obtain ⟨tail, begins⟩ := node.begins rfl
    rcases form.begins with rfl | ⟨b, more, rfl, visible⟩
    · intro b member
      rw [begins] at member
      cases member
      decide
    · intro c member
      cases member
      rintro rfl
      rcases visible with space | tagged
      · exact absurd space (by decide)
      · exact absurd tagged (by decide)
  rw [skipMark_eq marked first]
  exact readProlog_complete form (prologEnds_of_root node rest)

theorem readDocument_prolog {context : Context} {limits : Limits} {known entities : Table String}
    {mark prolog body rest : Bytes} {root : Element} (marked : mark = [] ∨ mark = byteOrderMark)
    (form : PrologText known prolog entities) (node : NodeText context body root.toNode)
    (fits : limits.oversized (mark ++ (prolog ++ (body ++ rest))).length = false) :
    readDocument limits known (mark ++ (prolog ++ (body ++ rest))) =
      (entities, readBody ⟨limits, entities⟩ (body ++ rest)) := by
  unfold readDocument
  rw [if_neg (by rw [fits]; decide), readProlog_root marked form node rest]
  rfl

theorem readDocument_complete {limits : Limits} {before after : Table String} {bytes : Bytes}
    {root : Element} (admitted : limits.Admits root.height)
    (fits : limits.oversized bytes.length = false)
    (form : DocumentText before ⟨limits, after⟩ bytes root) :
    readDocument limits before bytes = (after, .ok root) := by
  obtain ⟨mark, start, body, epilog, rfl, marked, prolog, node, ending⟩ := form
  have rooted : readBody ⟨limits, after⟩ (body ++ epilog) = .ok root :=
    readBody_ok_iff.2 ⟨epilog, readElement_complete admitted node, readEpilog_complete ending⟩
  rw [readDocument_prolog marked prolog node fits, rooted]

end XmlBuilder.Markup
