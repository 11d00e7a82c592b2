import XmlBuilder.Proofs.Places

/-!
# What a cursor shows

Whatever a cursor is told to do, it is the cursor that has read some of the bytes from the front,
and nothing else about what it was told can be seen from it (`Cursor.standing`). A move takes such a
cursor to one that has read no fewer bytes (`move_standing`), and so do many (`moves_standing`).
What a standing cursor shows ahead and behind is what lies there in the bytes. Sums of offsets stop
at the highest offset, and no byte of a document lies so far.
-/
namespace XmlBuilder.Cursor

/-- What a cursor can be told to do. -/
inductive Move
  | advance
  | advanceBy (count : Nat)
  | skipSpace
  | consume (expected : UInt8)
  deriving DecidableEq, Repr

def move (cursor : Cursor) : Move → Cursor
  | .advance => cursor.advance
  | .advanceBy count => cursor.advanceBy count
  | .skipSpace => cursor.skipSpace
  | .consume expected => (cursor.consume? expected).getD cursor

def moves (cursor : Cursor) (path : List Move) : Cursor :=
  path.foldl move cursor

/-- How far a move goes where these bytes are unread, if they last. -/
def Move.length (unread : Bytes) : Move → Nat
  | .advance => 1
  | .advanceBy count => count
  | .skipSpace => (unread.takeWhile isSpace).length
  | .consume expected => if unread.head? = some expected then 1 else 0

/-- The cursor that has read so many of the bytes, or all of them. -/
def standing (bytes : Bytes) (offset : Nat) : Cursor where
  input := bytes.toArray
  position := placeBehind (bytes.take offset)

/-! ## Moves -/

variable {bytes : Bytes} {offset : Nat}

theorem offset_standing (bytes : Bytes) (offset : Nat) :
    (standing bytes offset).position.offset = min offset bytes.length :=
  List.length_take

theorem unread_standing (bytes : Bytes) (offset : Nat) :
    (standing bytes offset).unread = bytes.drop offset := by
  rw [unread_eq, offset_standing]
  change bytes.drop (min offset bytes.length) = _
  rcases Nat.le_total offset bytes.length with inside | ended
  · rw [Nat.min_eq_left inside]
  · rw [Nat.min_eq_right ended, List.drop_length, List.drop_of_length_le ended]

/-- There is no going on at the end. -/
theorem standing_beyond (ended : bytes.length ≤ offset) (ahead : Nat) :
    standing bytes (offset + ahead) = standing bytes offset := by
  have later : bytes.length ≤ offset + ahead := by omega
  rw [standing, standing, List.take_of_length_le ended, List.take_of_length_le later]

theorem advanceBy_standing (bytes : Bytes) (offset count : Nat) :
    (standing bytes offset).advanceBy count = standing bytes (offset + count) := by
  rw [advanceBy_eq, unread_standing, standing, standing, List.take_add, placeBehind_append]
  rfl

theorem move_standing (bytes : Bytes) (offset : Nat) (move : Move) :
    (standing bytes offset).move move =
      standing bytes (offset + move.length (bytes.drop offset)) := by
  cases move with
  | advance => exact (advance_eq _).trans (advanceBy_standing bytes offset 1)
  | advanceBy count => exact advanceBy_standing bytes offset count
  | skipSpace =>
    rw [Cursor.move, skipSpace, advanceWhile_eq_advanceBy, unread_standing]
    exact advanceBy_standing bytes offset _
  | consume expected =>
    rw [Cursor.move, consume?, Move.length, current_eq, unread_standing]
    split
    · exact (advance_eq _).trans (advanceBy_standing bytes offset 1)
    · rfl

theorem moves_standing (bytes : Bytes) (offset : Nat) (path : List Move) :
    ∃ ahead, (standing bytes offset).moves path = standing bytes (offset + ahead) := by
  induction path generalizing offset with
  | nil => exact ⟨0, rfl⟩
  | cons first path ih =>
    obtain ⟨ahead, led⟩ := ih (offset + first.length (bytes.drop offset))
    refine ⟨first.length (bytes.drop offset) + ahead, ?_⟩
    rw [← Nat.add_assoc, ← led, ← move_standing]
    rfl

/-- Wherever a cursor is led, it stands in the bytes. -/
theorem exists_standing (bytes : Bytes) (path : List Move) :
    ∃ offset ≤ bytes.length, (ofBytes bytes).moves path = standing bytes offset := by
  obtain ⟨ahead, led⟩ := moves_standing bytes 0 path
  rw [Nat.zero_add] at led
  rcases Nat.le_total ahead bytes.length with inside | beyond
  · exact ⟨ahead, inside, led⟩
  · refine ⟨bytes.length, Nat.le_refl _, led.trans ?_⟩
    rw [← standing_beyond (Nat.le_refl _) (ahead - bytes.length), Nat.add_sub_cancel' beyond]

/-! ## Views -/

section Within

variable (within : offset ≤ bytes.length)

include within

theorem peek_standing (ahead : Nat) :
    (standing bytes offset).peek ahead = bytes[offset + ahead]? := by
  rw [peek_eq, offset_standing, Nat.min_eq_left within, ← Array.getElem?_toList]
  rfl

theorem peekBytes_standing (count : Nat) :
    (standing bytes offset).peekBytes count =
      if offset + count ≤ bytes.length then some ((bytes.drop offset).take count) else none := by
  have size : (standing bytes offset).input.size = bytes.length := List.size_toArray
  rw [peekBytes_eq, offset_standing, Nat.min_eq_left within, size, unread_standing]

theorem startsWith_standing_iff (pattern : Bytes) :
    (standing bytes offset).startsWith pattern = true ↔
      (standing bytes offset).peekBytes pattern.length = some pattern := by
  refine (peekBytes_eq_some_iff ?_ pattern).symm
  rw [offset_standing, Nat.min_eq_left within]
  exact within

theorem sliceFrom_standing_append {start : Nat} (behind : start ≤ offset) :
    (standing bytes offset).sliceFrom start ++ (standing bytes offset).unread =
      bytes.drop start := by
  have led : standing bytes offset =
      (standing bytes start).ahead ((standing bytes start).unread.take (offset - start)) := by
    rw [← advanceBy_eq, advanceBy_standing, Nat.add_sub_cancel' behind]
  have split := (List.take_append_drop (offset - start) (standing bytes start).unread).symm
  have cut := sliceFrom_ahead split
  rw [offset_standing, Nat.min_eq_left (Nat.le_trans behind within)] at cut
  rw [led, cut, unread_ahead split, List.take_append_drop, unread_standing]

end Within

/-- Wherever a cursor over the bytes is led, its place is the one found by counting in the bytes
before it, and fits into 32 bits. Each move goes on from there, as far as it says or to the end, and
whatever way leads to the same offset leads to the same cursor. Ahead it shows the bytes from there
on as far as there are any, however far one looks, and behind it those before. -/
theorem moves_faithful {bytes : Bytes} (small : bytes.length < UInt32.size - 1)
    (path : List Move) :
    let cursor := (ofBytes bytes).moves path
    let offset := cursor.position.offset
    offset ≤ bytes.length ∧ cursor.position = placeBehind (bytes.take offset) ∧
      cursor.position.line < UInt32.size ∧ cursor.position.column < UInt32.size ∧
      (∀ move, (cursor.move move).position.offset =
        min (offset + move.length cursor.unread) bytes.length) ∧
      (∀ further, offset ≤ (cursor.moves further).position.offset) ∧
      (∀ other, ((ofBytes bytes).moves other).position.offset = offset →
        (ofBytes bytes).moves other = cursor) ∧
      (∀ ahead, cursor.peek ahead = bytes[offset + ahead]?) ∧
      (∀ count, cursor.peekBytes count =
        if offset + count ≤ bytes.length then some ((bytes.drop offset).take count) else none) ∧
      (∀ pattern, cursor.startsWith pattern = true ↔
        cursor.peekBytes pattern.length = some pattern) ∧
      ∀ start ≤ offset, cursor.sliceFrom start ++ cursor.unread = bytes.drop start := by
  intro cursor offset
  obtain ⟨reached, within, led⟩ := exists_standing bytes path
  have stands : cursor = standing bytes reached := led
  have counted : offset = reached := by
    rw [show offset = cursor.position.offset from rfl, stands, offset_standing,
      Nat.min_eq_left within]
  rw [counted, stands]
  have size : (bytes.take reached).length ≤ bytes.length := List.length_take_le' _ _
  have line : (standing bytes reached).position.line ≤ _ := line_le (bytes.take reached)
  have column : (standing bytes reached).position.column ≤ _ := column_le (bytes.take reached)
  refine ⟨within, rfl, by omega, by omega, ?_, ?_, ?_, peek_standing within,
    peekBytes_standing within, startsWith_standing_iff within,
    fun start behind => sliceFrom_standing_append within behind⟩
  · intro move
    rw [move_standing, offset_standing, unread_standing]
  · intro further
    obtain ⟨ahead, goesOn⟩ := moves_standing bytes reached further
    rw [goesOn, offset_standing]
    omega
  · intro other same
    obtain ⟨reached', within', led'⟩ := exists_standing bytes other
    rw [led', offset_standing, Nat.min_eq_left within'] at same
    rw [led', same]

/-- A character of two bytes, a line end of two bytes, and a letter in the second line. -/
theorem moves_faithful_letter :
    let bytes : Bytes := [0xC3, 0xA9, 13, 10, 32, 98, 99]
    let cursor := (ofBytes bytes).moves [.advance, .advance, .skipSpace, .consume 98]
    bytes.length < UInt32.size - 1 ∧ cursor.position = ⟨6, 2, 3⟩ ∧
      cursor.position = placeBehind (bytes.take cursor.position.offset) ∧
      cursor.peek 0 = some 99 ∧
      cursor.peek (UInt64.size - 1) = bytes[cursor.position.offset + (UInt64.size - 1)]? ∧
      cursor.sliceFrom 4 ++ cursor.unread = bytes.drop 4 := by
  intro bytes cursor
  have small : bytes.length < UInt32.size - 1 := by decide
  have faithful := moves_faithful small [.advance, .advance, .skipSpace, .consume 98]
  obtain ⟨-, place, -, -, -, -, -, shown, -, -, sliced⟩ := faithful
  exact ⟨small, by decide +kernel, place, by decide +kernel, shown _,
    sliced 4 (by decide +kernel)⟩

end XmlBuilder.Cursor
