import XmlBuilder.Proofs.Markup.Document
import XmlBuilder.Reader

/-!
# What is read

What a reader reads, and where that leaves it, is told by its unread bytes (`Reader.read_eq`).
Without limits, the documents that are read are those of the grammar, and the tree is the one that
the grammar gives them. An error is placed by the bytes that are still unread (`readBytes_eq`).
-/
namespace XmlBuilder

/-! ## Places -/

namespace Reader

/-- The cursor where only `left` is still unread. -/
def cursorAt (reader : Reader) (left : Bytes) : Cursor :=
  reader.cursor.advanceBy (reader.cursor.unread.length - left.length)

theorem cursorAt_append {reader : Reader} {more left : Bytes}
    (split : reader.cursor.unread = more ++ left) :
    reader.cursorAt left = reader.cursor.ahead more := by
  rw [cursorAt, split, List.length_append, Nat.add_sub_cancel, Cursor.advanceBy_append split]

theorem cursorAt_unread {reader : Reader} {cursor : Cursor}
    (reached : reader.cursor.Reaches cursor) : reader.cursorAt cursor.unread = cursor :=
  reached.eq_advanceBy.symm

theorem read_eq (reader : Reader) :
    reader.read =
      match Markup.readDocument reader.limits reader.entities reader.cursor.unread with
      | (entities, .ok root) => (.ok root, ⟨reader.cursorAt [], reader.limits, entities⟩)
      | (entities, .error stop) =>
        (.error (.atPosition stop.cause (reader.cursorAt stop.site).position),
          ⟨reader.cursorAt stop.left, reader.limits, entities⟩) := by
  obtain ⟨same, agrees⟩ :=
    Scan.readDocument_agrees reader.limits reader.entities reader.cursor
  unfold read
  generalize Scan.readDocument reader.limits reader.entities reader.cursor = scanned
    at same agrees ⊢
  generalize Markup.readDocument reader.limits reader.entities reader.cursor.unread = read
    at same agrees ⊢
  obtain ⟨entities, scanned⟩ := scanned
  obtain ⟨entities', read⟩ := read
  obtain rfl : entities = entities' := same
  dsimp only at agrees
  generalize given : (·, []) <$> read = result at agrees
  cases agrees with
  | @ok root cursor reached =>
    cases read with
    | error stop => cases given
    | ok root' =>
      obtain ⟨rfl, ended⟩ := Prod.mk.inj (Except.ok.inj given)
      dsimp only
      rw [ended, cursorAt_unread reached]
  | @error cause site cursor there reached =>
    cases read with
    | ok root => cases given
    | error stop =>
      obtain rfl := Except.error.inj given
      dsimp only
      rw [cursorAt_unread there, cursorAt_unread reached]

end Reader

/-- The place in `bytes` where only `left` is still unread. -/
def placeOf (bytes left : Bytes) : Position :=
  Position.origin.advance (bytes.take (bytes.length - left.length))

theorem Reader.cursorAt_ofBytes (limits : Limits) (bytes left : Bytes) :
    (ofBytes limits bytes).cursorAt left = ⟨bytes.toArray, placeOf bytes left⟩ := by
  rw [cursorAt, Cursor.advanceBy_eq, ofBytes, Cursor.unread_ofBytes]
  rfl

theorem placeOf_append (before left : Bytes) :
    placeOf (before ++ left) left = Position.origin.advance before := by
  simp [placeOf]

/-- What is read: an error is placed where reading was when it found out. -/
theorem Reader.read_result (reader : Reader) :
    reader.read.1 =
      (Markup.readDocument reader.limits reader.entities reader.cursor.unread).2.mapError
        fun stop => .atPosition stop.cause (reader.cursorAt stop.site).position := by
  rw [read_eq]
  split
  · next read => rw [read]; rfl
  · next stopped => rw [stopped]; rfl

theorem readBytes_eq (limits : Limits) (bytes : Bytes) :
    readBytes limits bytes = (Markup.readDocument limits [] bytes).2.mapError fun stop =>
      .atPosition stop.cause (placeOf bytes stop.site) := by
  have unread : (Reader.ofBytes limits bytes).cursor.unread = bytes := Cursor.unread_ofBytes bytes
  unfold readBytes
  simp only [Reader.read_result, unread, Reader.cursorAt_ofBytes]
  rfl

/-! ## Documents -/

/-- Reads the text of a document. -/
def readString (limits : Limits) (document : String) : Except Error Element :=
  readBytes limits (Text.utf8 document)

theorem readBytes_ok_iff {limits : Limits} {bytes : Bytes} {root : Element} :
    readBytes limits bytes = .ok root ↔
      ∃ entities, Markup.readDocument limits [] bytes = (entities, .ok root) := by
  rw [readBytes_eq]
  cases Markup.readDocument limits [] bytes with
  | mk entities result =>
    cases result with
    | error stop =>
      constructor
      · intro h
        cases h
      · intro given
        rcases given with ⟨_, same⟩
        cases same
    | ok element =>
      constructor
      · intro h
        cases h
        exact ⟨entities, rfl⟩
      · intro given
        rcases given with ⟨_, same⟩
        cases same
        rfl

/-- What a reader reads is a document in the context of the entities it knew and has met. -/
theorem Reader.read_sound {reader : Reader} {root : Element} (h : reader.read.1 = .ok root) :
    ∃ entities, Markup.DocumentText reader.entities ⟨reader.limits, entities⟩
      reader.cursor.unread root := by
  rw [read_eq] at h
  split at h
  · next entities found read =>
    cases h
    exact ⟨entities, Markup.readDocument_sound read⟩
  · cases h

theorem readBytes_sound {limits : Limits} {bytes : Bytes} {root : Element}
    (h : readBytes limits bytes = .ok root) :
    ∃ entities, Markup.DocumentText [] ⟨limits, entities⟩ bytes root ∧
      limits.oversized bytes.length = false := by
  obtain ⟨entities, read⟩ := readBytes_ok_iff.1 h
  exact ⟨entities, Markup.readDocument_sound read, Markup.readDocument_fits read⟩

theorem readBytes_complete {limits : Limits} {entities : Table String} {bytes : Bytes}
    {root : Element} (admitted : limits.Admits root.height)
    (fits : limits.oversized bytes.length = false)
    (form : Markup.DocumentText [] ⟨limits, entities⟩ bytes root) :
    readBytes limits bytes = .ok root :=
  readBytes_ok_iff.2 ⟨entities, Markup.readDocument_complete admitted fits form⟩

theorem readBytes_of_document {entities : Table String} {bytes : Bytes} {root : Element}
    (form : Markup.DocumentText [] ⟨.unlimited, entities⟩ bytes root) :
    readBytes .unlimited bytes = .ok root :=
  readBytes_complete (.inl rfl) rfl form

/-- Bytes are read as a root element exactly if they are a document of the grammar with this root,
in the context of the entities that its document type declarations leave. -/
theorem readBytes_iff_document (bytes : Bytes) (root : Element) :
    readBytes .unlimited bytes = .ok root ↔
      ∃ entities, Markup.DocumentText [] ⟨.unlimited, entities⟩ bytes root := by
  constructor
  · intro h
    obtain ⟨entities, read⟩ := readBytes_ok_iff.1 h
    exact ⟨entities, Markup.readDocument_sound read⟩
  · intro given
    rcases given with ⟨entities, form⟩
    exact readBytes_of_document form

end XmlBuilder
