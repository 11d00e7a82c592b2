import XmlBuilder.Markup.Content
import XmlBuilder.Markup.Prolog

/-!
A whole document: a prolog, the root element, and nothing but comments and processing instructions
after it.
-/
namespace XmlBuilder.Markup

/-- Skips a byte order mark. -/
def skipMark (bytes : Bytes) : Bytes :=
  let mark := [0xEF, 0xBB, 0xBF]
  if mark.isPrefixOf bytes then bytes.drop mark.length else bytes

/-- Reads the root and all that follows it. -/
def readBody (context : Context) (bytes : Bytes) : Except Stop Element := do
  if bytes.isEmpty then .error (.here .missingRoot bytes)
  let (root, rest) ← readElement context bytes
  let rest ← readEpilog rest
  if rest.isEmpty then .ok root else .error (.here .trailingContent rest)

/-- Reads `bytes` to the end, with the entities of `table` and those that the document declares,
which are given in failure too. -/
def readDocument (limits : Limits) (table : Table String) (bytes : Bytes) :
    Table String × Except Stop Element :=
  if limits.oversized bytes.length then
    (table, .error (.here (.sizeExceeded limits.maxSize) bytes))
  else
    let (entities, prolog) := readProlog table (skipMark bytes)
    (entities, prolog >>= readBody ⟨limits, entities⟩)

end XmlBuilder.Markup
