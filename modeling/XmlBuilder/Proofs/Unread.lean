import XmlBuilder.Proofs.Places

/-!
# Only the unread bytes matter

A reader scans with a cursor over all its bytes, and cuts names, texts and bodies out of them by
their offsets. Yet one that stands behind some bytes reads what a reader over the rest alone reads,
and places its errors further on by the bytes in front: each scan agrees with the reading of what is
unread (`Scan.readDocument_agrees`, from `Scan.Agrees` of every scan). So one call takes two such
readers to two such readers (`Behind.read`), and so do many (`unread_decides`).
-/
namespace XmlBuilder

/-- The same document, or an error of the same cause and wording. It is placed further on by the
bytes in front, and where it would be placed if reading had begun with them. -/
def ShiftedBy (front : Bytes) : Except Error Element → Except Error Element → Prop
  | .ok root, .ok other => root = other
  | .error error, .error other =>
    error.cause = other.cause ∧ error.message = other.message ∧
      error.span.start.offset = front.length + other.span.start.offset ∧
      error.span.stop.offset = front.length + other.span.stop.offset ∧
      ∃ read, other.span = .single (placeBehind read) ∧
        error.span = .single (placeBehind (front ++ read))
  | _, _ => False

namespace Reader

/-- The first reader has these bytes in front of the input of the second. It has read them and
then what the second one has, and for the rest they are the same. -/
structure Behind (front : Bytes) (reader alone : Reader) : Prop where
  input : reader.cursor.input.toList = front ++ alone.cursor.input.toList
  before : reader.cursor.before = front ++ alone.cursor.before
  unread : reader.cursor.unread = alone.cursor.unread
  position : reader.cursor.position = placeBehind (front ++ alone.cursor.before)
  positionAlone : alone.cursor.position = placeBehind alone.cursor.before
  limits : reader.limits = alone.limits
  entities : reader.entities = alone.entities

variable {front : Bytes} {reader alone : Reader}

theorem Behind.offset (behind : Behind front reader alone) :
    reader.cursor.position.offset = front.length + alone.cursor.position.offset := by
  rw [behind.position, behind.positionAlone]
  exact List.length_append

/-- Both cursors go on to where the same bytes are left. -/
theorem Behind.cursorAt (behind : Behind front reader alone) {left : Bytes}
    (ahead : Markup.Ahead alone.cursor.unread left) (limits : Limits) (entities : Table String) :
    Behind front ⟨reader.cursorAt left, limits, entities⟩
      ⟨alone.cursorAt left, limits, entities⟩ := by
  obtain ⟨more, split, -⟩ := ahead
  have whole : reader.cursor.unread = more ++ left := behind.unread.trans split
  rw [cursorAt_append split, cursorAt_append whole]
  refine ⟨behind.input, ?_, ?_, ?_, ?_, rfl, rfl⟩
  · dsimp only
    rw [Cursor.before_ahead whole, Cursor.before_ahead split, behind.before, List.append_assoc]
  · dsimp only
    rw [Cursor.unread_ahead whole, Cursor.unread_ahead split]
  · dsimp only
    rw [Cursor.before_ahead split, ← List.append_assoc, placeBehind_append, ← behind.position]
    rfl
  · dsimp only
    rw [Cursor.before_ahead split, placeBehind_append, ← behind.positionAlone]
    rfl

theorem Behind.read (behind : Behind front reader alone) :
    ShiftedBy front reader.read.1 alone.read.1 ∧ Behind front reader.read.2 alone.read.2 := by
  have traced := Markup.readDocument_traced alone.limits alone.entities alone.cursor.unread
  rw [read_eq, read_eq, behind.limits, behind.entities, behind.unread]
  split
  · exact ⟨rfl, behind.cursorAt (.nil _) _ _⟩
  · next entities stop failed =>
    have within := traced.within (congrArg Prod.snd failed)
    have site := behind.cursorAt within.site alone.limits entities
    refine ⟨⟨rfl, rfl, site.offset, site.offset, (alone.cursorAt stop.site).before, ?_, ?_⟩,
      behind.cursorAt within.left _ _⟩
    · exact congrArg Span.single site.positionAlone
    · exact congrArg Span.single site.position

theorem Behind.after (behind : Behind front reader alone) (calls : Nat) :
    Behind front (reader.after calls) (alone.after calls) := by
  induction calls with
  | zero => exact behind
  | succ calls ih => exact ih.read.2

theorem behind_start (limits : Limits) (entities : Table String) (front rest : Bytes) :
    Behind front ⟨(Cursor.ofBytes (front ++ rest)).advanceBy front.length, limits, entities⟩
      ⟨.ofBytes rest, limits, entities⟩ := by
  have split : (Cursor.ofBytes (front ++ rest)).unread = front ++ rest := Cursor.unread_ofBytes _
  rw [Cursor.advanceBy_append split]
  refine ⟨rfl, ?_, ?_, ?_, rfl, rfl, rfl⟩
  · exact (Cursor.before_ahead split).trans (List.append_nil front).symm
  · exact (Cursor.unread_ahead split).trans (Cursor.unread_ofBytes rest).symm
  · rw [show (Cursor.ofBytes rest).before = [] from rfl, List.append_nil]
    exact advance_origin front

/-- A reader with the cursor behind some bytes and a reader over the rest alone, with the same
limits and entities, are asked for documents as often as one likes. Each time they give the same
document, or errors of the same cause of which the one is placed further on by just the bytes in
front; and they have read just as far and know the same entities. -/
theorem unread_decides (limits : Limits) (entities : Table String) (front rest : Bytes)
    (calls : Nat) :
    let reader : Reader :=
      ⟨(Cursor.ofBytes (front ++ rest)).advanceBy front.length, limits, entities⟩
    let alone : Reader := ⟨.ofBytes rest, limits, entities⟩
    ShiftedBy front (reader.after calls).read.1 (alone.after calls).read.1 ∧
      Behind front (reader.after calls) (alone.after calls) ∧
      Behind front (reader.after calls).read.2 (alone.after calls).read.2 := by
  intro reader alone
  have behind := (behind_start limits entities front rest).after calls
  exact ⟨behind.read.1, behind, behind.read.2⟩

end Reader
end XmlBuilder
