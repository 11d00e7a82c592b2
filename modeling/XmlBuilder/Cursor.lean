import XmlBuilder.Position

/-!
A cursor over the bytes of a document. It keeps all of them, and the place up to which they have
been read; slices are cut out of the whole by their offsets. What is unread at a cursor decides how
it moves on, and a cursor that has moved on differs in its place alone (`ahead`).
-/
namespace XmlBuilder

/-- The white space of XML markup: space, tab, carriage return and line feed. -/
def isSpace (b : UInt8) : Bool :=
  b == 32 || b == 9 || b == 13 || b == 10

structure Cursor where
  input : Array UInt8
  position : Position
  deriving DecidableEq, Repr

namespace Cursor

def ofBytes (bytes : Bytes) : Cursor := ⟨bytes.toArray, .origin⟩

/-- The bytes from one offset to another, if these are offsets of the input in this order. -/
def slice? (cursor : Cursor) (start stop : Nat) : Option Bytes :=
  if start ≤ stop ∧ stop ≤ cursor.input.size then some (cursor.input.extract start stop).toList
  else none

def current (cursor : Cursor) : Option UInt8 := cursor.input[cursor.position.offset]?

def atEnd (cursor : Cursor) : Bool := cursor.input.size ≤ cursor.position.offset

/-- How many bytes are unread. -/
def left (cursor : Cursor) : Nat := cursor.input.size - cursor.position.offset

def unread (cursor : Cursor) : Bytes :=
  (cursor.slice? cursor.position.offset cursor.input.size).getD []

/-- The bytes already read. -/
def before (cursor : Cursor) : Bytes := cursor.input.toList.take cursor.position.offset

/-- The highest offset a word holds, at which additions stop. The bytes of every slice end before it;
of a longer list of bytes, none is lost behind it. -/
def maxOffset (cursor : Cursor) : Nat :=
  max (UInt64.size - 1) (cursor.input.size + 1)

/-- The offset `ahead` places after the current one, as far as there is one. -/
def offsetAhead (cursor : Cursor) (ahead : Nat) : Nat :=
  min (cursor.position.offset + ahead) cursor.maxOffset

/-- The byte `ahead` places after the current one. -/
def peek (cursor : Cursor) (ahead : Nat) : Option UInt8 :=
  cursor.input[cursor.offsetAhead ahead]?

/-- The next `count` bytes, if so many are left. -/
def peekBytes (cursor : Cursor) (count : Nat) : Option Bytes :=
  cursor.slice? cursor.position.offset (cursor.offsetAhead count)

/-- Whether the input has these bytes at an offset. -/
def has (input : Array UInt8) (offset : Nat) : Bytes → Bool
  | [] => true
  | b :: rest => input[offset]? == some b && has input (offset + 1) rest

def startsWith (cursor : Cursor) (pattern : Bytes) : Bool :=
  has cursor.input cursor.position.offset pattern

/-- Reads one byte; at the end nothing changes. -/
def advance (cursor : Cursor) : Cursor :=
  match cursor.current with
  | none => cursor
  | some b => { cursor with position := cursor.position.step b }

/-- Reads `count` bytes, or all that are left. -/
def advanceBy (cursor : Cursor) : Nat → Cursor
  | 0 => cursor
  | count + 1 => if cursor.atEnd then cursor else cursor.advance.advanceBy count

/-- The bytes read since the offset `start`; empty if that offset is still ahead. -/
def sliceFrom (cursor : Cursor) (start : Nat) : Bytes :=
  (cursor.slice? start cursor.position.offset).getD []

/-- Reads the current byte if it is `expected`. -/
def consume? (cursor : Cursor) (expected : UInt8) : Option Cursor :=
  if cursor.current = some expected then some cursor.advance else none

/-- The cursor that has read `more` besides. -/
def ahead (cursor : Cursor) (more : Bytes) : Cursor :=
  { cursor with position := cursor.position.advance more }

/-! The views of a cursor, by the bytes that are unread. -/

theorem unread_eq (cursor : Cursor) :
    cursor.unread = cursor.input.toList.drop cursor.position.offset := by
  unfold unread slice?
  split
  · rw [Option.getD_some, Array.toList_extract, List.extract_eq_take_drop, ← Array.length_toList,
      ← List.length_drop, List.take_length]
  · next beyond =>
    rw [List.drop_of_length_le (by rw [Array.length_toList]; omega)]
    rfl

theorem before_append_unread (cursor : Cursor) :
    cursor.before ++ cursor.unread = cursor.input.toList := by
  rw [unread_eq]
  exact List.take_append_drop _ _

theorem left_eq (cursor : Cursor) : cursor.left = cursor.unread.length := by
  rw [unread_eq, List.length_drop, Array.length_toList, left]

theorem current_eq (cursor : Cursor) : cursor.current = cursor.unread.head? := by
  rw [unread_eq, List.head?_drop, Array.getElem?_toList, current]

theorem current_nil {cursor : Cursor} (ended : cursor.unread = []) : cursor.current = none := by
  rw [current_eq, ended, List.head?_nil]

theorem current_cons {cursor : Cursor} {b : UInt8} {rest : Bytes}
    (next : cursor.unread = b :: rest) : cursor.current = some b := by
  rw [current_eq, next, List.head?_cons]

theorem current_eq_none {cursor : Cursor} (ended : cursor.current = none) : cursor.unread = [] := by
  rwa [current_eq, List.head?_eq_none_iff] at ended

theorem current_eq_some {cursor : Cursor} {b : UInt8} (found : cursor.current = some b) :
    ∃ rest, cursor.unread = b :: rest := by
  rwa [current_eq, List.head?_eq_some_iff] at found

theorem atEnd_eq (cursor : Cursor) : cursor.atEnd = cursor.unread.isEmpty := by
  rw [Bool.eq_iff_iff, List.isEmpty_iff_length_eq_zero, ← left_eq, atEnd, left, decide_eq_true_iff,
    Nat.sub_eq_zero_iff_le]

theorem has_eq (input : Array UInt8) (offset : Nat) (pattern : Bytes) :
    has input offset pattern = pattern.isPrefixOf (input.toList.drop offset) := by
  induction pattern generalizing offset with
  | nil => rfl
  | cons b rest ih =>
    rw [has, ih, ← Array.getElem?_toList, ← List.head?_drop, ← List.drop_drop]
    cases input.toList.drop offset with
    | nil => rfl
    | cons c tail => simp only [List.head?_cons, List.isPrefixOf, List.drop_one, List.tail_cons,
        Option.some_beq_some, BEq.comm]

theorem startsWith_eq (cursor : Cursor) (pattern : Bytes) :
    cursor.startsWith pattern = pattern.isPrefixOf cursor.unread := by
  rw [startsWith, has_eq, unread_eq]

theorem peek_eq (cursor : Cursor) (ahead : Nat) :
    cursor.peek ahead = cursor.input[cursor.position.offset + ahead]? := by
  unfold peek offsetAhead maxOffset
  by_cases inside : cursor.position.offset + ahead < cursor.input.size
  · rw [Nat.min_eq_left (by omega)]
  · rw [Array.getElem?_eq_none (by omega), Array.getElem?_eq_none (by omega)]

theorem peekBytes_eq (cursor : Cursor) (count : Nat) :
    cursor.peekBytes count =
      if cursor.position.offset + count ≤ cursor.input.size then some (cursor.unread.take count)
      else none := by
  unfold peekBytes slice? offsetAhead maxOffset
  by_cases fits : cursor.position.offset + count ≤ cursor.input.size
  · rw [Nat.min_eq_left (by omega), if_pos ⟨Nat.le_add_right _ _, fits⟩, if_pos fits,
      Array.toList_extract, List.extract_eq_take_drop, unread_eq, Nat.add_sub_cancel_left]
  · rw [if_neg (by omega), if_neg fits]

theorem offset_le_size {cursor : Cursor} (inside : cursor.unread ≠ []) :
    cursor.position.offset ≤ cursor.input.size := by
  have some : 0 < cursor.unread.length := List.length_pos_iff.2 inside
  rw [← left_eq, left] at some
  omega

theorem peekBytes_eq_some_iff {cursor : Cursor}
    (within : cursor.position.offset ≤ cursor.input.size) (pattern : Bytes) :
    cursor.peekBytes pattern.length = some pattern ↔ cursor.startsWith pattern = true := by
  have left : cursor.unread.length = cursor.input.size - cursor.position.offset :=
    cursor.left_eq.symm
  rw [peekBytes_eq, startsWith_eq, List.isPrefixOf_iff_prefix, List.prefix_iff_eq_take]
  split
  · rw [Option.some.injEq, eq_comm]
  · next short =>
    constructor
    · nofun
    · intro same
      have size := congrArg List.length same
      rw [List.length_take] at size
      omega

/-! A cursor that has moved on. -/

@[simp]
theorem ahead_nil (cursor : Cursor) : cursor.ahead [] = cursor := rfl

theorem ahead_append (cursor : Cursor) (more further : Bytes) :
    cursor.ahead (more ++ further) = (cursor.ahead more).ahead further := by
  rw [ahead, Position.advance_append]
  rfl

theorem offset_ahead (cursor : Cursor) (more : Bytes) :
    (cursor.ahead more).position.offset = cursor.position.offset + more.length :=
  cursor.position.offset_advance more

variable {cursor : Cursor} {more rest : Bytes}

theorem unread_ahead (split : cursor.unread = more ++ rest) :
    (cursor.ahead more).unread = rest := by
  rw [unread_eq] at split
  rw [unread_eq, offset_ahead, ← List.drop_drop]
  exact (congrArg _ split).trans (List.drop_left)

theorem before_ahead (split : cursor.unread = more ++ rest) :
    (cursor.ahead more).before = cursor.before ++ more := by
  have whole := (cursor.ahead more).before_append_unread.trans cursor.before_append_unread.symm
  rw [unread_ahead split, split, ← List.append_assoc] at whole
  exact List.append_cancel_right whole

theorem sliceFrom_ahead (split : cursor.unread = more ++ rest) :
    (cursor.ahead more).sliceFrom cursor.position.offset = more := by
  have cut := congrArg (List.take more.length) split
  rw [List.take_left, unread_eq] at cut
  unfold sliceFrom slice?
  rw [offset_ahead]
  split
  · rw [Option.getD_some, Array.toList_extract, List.extract_eq_take_drop, Nat.add_sub_cancel_left]
    exact cut
  · next beyond =>
    have sizes := congrArg List.length split
    rw [← left_eq, left, List.length_append] at sizes
    have same : (cursor.ahead more).input.size = cursor.input.size := rfl
    have none : more = [] := List.eq_nil_of_length_eq_zero (by omega)
    rw [none]
    rfl

theorem advance_nil (ended : cursor.unread = []) : cursor.advance = cursor := by
  unfold advance
  rw [current_nil ended]

theorem advance_cons {b : UInt8} (next : cursor.unread = b :: rest) :
    cursor.advance = cursor.ahead [b] := by
  unfold advance
  rw [current_cons next]
  rfl

theorem unread_advance {b : UInt8} (next : cursor.unread = b :: rest) :
    cursor.advance.unread = rest := by
  rw [advance_cons next]
  exact unread_ahead next

theorem advanceBy_eq (cursor : Cursor) (count : Nat) :
    cursor.advanceBy count = cursor.ahead (cursor.unread.take count) := by
  induction count generalizing cursor with
  | zero => rfl
  | succ count ih =>
    rw [advanceBy, atEnd_eq]
    cases next : cursor.unread with
    | nil => rfl
    | cons b rest =>
      rw [List.isEmpty_cons, if_neg Bool.false_ne_true, ih, unread_advance next,
        advance_cons next, ← ahead_append]
      rfl

theorem advanceBy_append (split : cursor.unread = more ++ rest) :
    cursor.advanceBy more.length = cursor.ahead more := by
  rw [advanceBy_eq, split, List.take_left]

theorem advance_eq (cursor : Cursor) : cursor.advance = cursor.advanceBy 1 := by
  cases next : cursor.unread with
  | nil => rw [advance_nil next, advanceBy_eq, next, List.take_nil, ahead_nil]
  | cons b rest => rw [advance_cons next, advanceBy_eq, next]; rfl

theorem left_advance {b : UInt8} (found : cursor.current = some b) :
    cursor.advance.left < cursor.left := by
  cases next : cursor.unread with
  | nil =>
    rw [current_nil next] at found
    cases found
  | cons c tail =>
    rw [left_eq, left_eq, unread_advance next, next]
    exact Nat.lt_succ_self _

/-- Reads on while the bytes are such. -/
def advanceWhile (stays : UInt8 → Bool) (cursor : Cursor) : Cursor :=
  match _ : cursor.current with
  | none => cursor
  | some b => if stays b then advanceWhile stays cursor.advance else cursor
termination_by cursor.left
decreasing_by exact left_advance ‹_›

def skipSpace (cursor : Cursor) : Cursor := cursor.advanceWhile isSpace

theorem advanceWhile_eq (stays : UInt8 → Bool) (cursor : Cursor) :
    cursor.advanceWhile stays = cursor.ahead (cursor.unread.takeWhile stays) := by
  fun_induction advanceWhile stays cursor with
  | case1 cursor ended =>
    rw [current_eq_none ended]
    rfl
  | case2 cursor b found stay ih =>
    obtain ⟨tail, next⟩ := current_eq_some found
    rw [ih, unread_advance next, advance_cons next, next,
      List.takeWhile_cons_of_pos stay, ← ahead_append]
    rfl
  | case3 cursor b found stop =>
    obtain ⟨tail, next⟩ := current_eq_some found
    rw [next, List.takeWhile_cons_of_neg stop]
    rfl

theorem advanceWhile_eq_advanceBy (stays : UInt8 → Bool) (cursor : Cursor) :
    cursor.advanceWhile stays = cursor.advanceBy (cursor.unread.takeWhile stays).length := by
  rw [advanceWhile_eq, ← advanceBy_append List.takeWhile_append_dropWhile.symm]

theorem sliceFrom_advanceWhile (stays : UInt8 → Bool) (start : Cursor) :
    (start.advanceWhile stays).sliceFrom start.position.offset = start.unread.takeWhile stays := by
  rw [advanceWhile_eq]
  exact sliceFrom_ahead List.takeWhile_append_dropWhile.symm

/-! How far a cursor can get. -/

/-- The second cursor has read some of the bytes that are unread at the first. -/
def Reaches (cursor next : Cursor) : Prop :=
  ∃ more, cursor.unread = more ++ next.unread ∧ next = cursor.ahead more

namespace Reaches

theorem refl (cursor : Cursor) : cursor.Reaches cursor :=
  ⟨[], rfl, rfl⟩

theorem trans {cursor next last : Cursor} (first : cursor.Reaches next)
    (second : next.Reaches last) : cursor.Reaches last := by
  obtain ⟨more, split, rfl⟩ := first
  obtain ⟨further, split', rfl⟩ := second
  refine ⟨more ++ further, ?_, (ahead_append ..).symm⟩
  rw [split, split', List.append_assoc]

theorem ahead (split : cursor.unread = more ++ rest) : cursor.Reaches (cursor.ahead more) :=
  ⟨more, by rw [unread_ahead split, split], rfl⟩

theorem advance (cursor : Cursor) : cursor.Reaches cursor.advance := by
  cases next : cursor.unread with
  | nil =>
    rw [advance_nil next]
    exact refl cursor
  | cons b rest =>
    rw [advance_cons next]
    exact ahead (show cursor.unread = [b] ++ rest from next)

theorem advanceWhile (stays : UInt8 → Bool) (cursor : Cursor) :
    cursor.Reaches (cursor.advanceWhile stays) := by
  rw [advanceWhile_eq]
  exact ahead (List.takeWhile_append_dropWhile).symm

theorem advanceBy (cursor : Cursor) (count : Nat) : cursor.Reaches (cursor.advanceBy count) := by
  rw [advanceBy_eq]
  exact ahead (List.take_append_drop count _).symm

/-- Where a cursor gets to is told by what is left to read there. -/
theorem eq_advanceBy {cursor next : Cursor} (reached : cursor.Reaches next) :
    next = cursor.advanceBy (cursor.unread.length - next.unread.length) := by
  obtain ⟨more, split, same⟩ := reached
  rw [split, List.length_append, Nat.add_sub_cancel, advanceBy_append split, same]

end Reaches

@[simp]
theorem unread_advanceWhile (stays : UInt8 → Bool) (cursor : Cursor) :
    (cursor.advanceWhile stays).unread = cursor.unread.dropWhile stays := by
  rw [advanceWhile_eq]
  exact unread_ahead (List.takeWhile_append_dropWhile).symm

@[simp]
theorem unread_advanceBy (cursor : Cursor) (count : Nat) :
    (cursor.advanceBy count).unread = cursor.unread.drop count := by
  rw [advanceBy_eq]
  exact unread_ahead (List.take_append_drop count _).symm

@[simp]
theorem unread_ofBytes (bytes : Bytes) : (ofBytes bytes).unread = bytes := by
  rw [unread_eq]
  rfl

end Cursor
end XmlBuilder
