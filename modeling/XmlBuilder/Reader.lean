import XmlBuilder.Scan.Document

/-!
A reader of documents. It stands at a place in its input and keeps the entities it has met, so that
reading can be asked for again after an error.
-/
namespace XmlBuilder

structure Reader where
  cursor : Cursor
  limits : Limits
  entities : Table String
  deriving DecidableEq, Repr

namespace Reader

def ofBytes (limits : Limits) (bytes : Bytes) : Reader :=
  ⟨.ofBytes bytes, limits, []⟩

/-- Reads one document from the unread bytes, which it must fill. -/
def read (reader : Reader) : Except Error Element × Reader :=
  match Scan.readDocument reader.limits reader.entities reader.cursor with
  | (entities, .ok root cursor) => (.ok root, { reader with cursor, entities })
  | (entities, .error error cursor) => (.error error, { reader with cursor, entities })

end Reader

/-- Reads the document that `bytes` hold. -/
def readBytes (limits : Limits) (bytes : Bytes) : Except Error Element :=
  (Reader.ofBytes limits bytes).read.1

end XmlBuilder
