/-!
Places in a document. The offset counts bytes from zero; lines and columns count from one, and
the bytes of one character share a column.
-/
namespace XmlBuilder

abbrev Bytes := List UInt8

structure Position where
  offset : Nat
  line : Nat
  column : Nat
  deriving DecidableEq, Repr

/-- A byte `10xxxxxx`, which continues a character begun before it. -/
def isContinuation (b : UInt8) : Bool :=
  b &&& 0xC0 == 0x80

namespace Position

/-- The place of the first byte. -/
def origin : Position := ⟨0, 1, 1⟩

/-- The place of an error that lies in no document. -/
def nowhere : Position := ⟨0, 0, 0⟩

/-- The place after the byte `b`. -/
def step (position : Position) (b : UInt8) : Position :=
  if b == 10 then ⟨position.offset + 1, position.line + 1, 1⟩
  else if isContinuation b then ⟨position.offset + 1, position.line, position.column⟩
  else ⟨position.offset + 1, position.line, position.column + 1⟩

/-- The place after all of `bytes`. -/
def advance (position : Position) (bytes : Bytes) : Position :=
  bytes.foldl step position

theorem advance_append (position : Position) (bytes more : Bytes) :
    position.advance (bytes ++ more) = (position.advance bytes).advance more :=
  List.foldl_append

theorem offset_step (position : Position) (b : UInt8) :
    (position.step b).offset = position.offset + 1 := by
  unfold step
  split
  · rfl
  · split <;> rfl

theorem offset_advance (position : Position) (bytes : Bytes) :
    (position.advance bytes).offset = position.offset + bytes.length := by
  induction bytes generalizing position with
  | nil => rfl
  | cons b rest ih =>
    rw [advance, List.foldl_cons, ← advance, ih, offset_step, List.length_cons, Nat.add_assoc,
      Nat.add_comm 1]

/-- `line:column`, as messages show it. -/
def text (position : Position) : String :=
  toString position.line ++ ":" ++ toString position.column

end Position

/-- A stretch of a document. -/
structure Span where
  start : Position
  stop : Position
  deriving DecidableEq, Repr

namespace Span

def nowhere : Span := ⟨.nowhere, .nowhere⟩

def single (position : Position) : Span := ⟨position, position⟩

end Span
end XmlBuilder
