import XmlBuilder.Markup.Aside
import XmlBuilder.Scan.Basic

/-!
Scanning comments, CDATA sections and processing instructions, with their openers.
-/
namespace XmlBuilder.Scan

def readComment : Scan String := do
  move (·.advanceBy "<!--".length)
  readUntil "-->"

def readCdata : Scan String := do
  move (·.advanceBy "<![CDATA[".length)
  readUntil "]]>"

/-- Reads the target and the data of a processing instruction. -/
def readInstruction : Scan (String × String) := do
  move (·.advanceBy "<?".length)
  let target ← readName
  move (·.skipSpace)
  let data ← readUntil "?>"
  return (target, data)

theorem enclosed_agrees (opener closer : String) (cursor : Cursor) :
    Agrees Prod.mk cursor (readUntil closer (cursor.advanceBy opener.length))
      (Markup.readUntil closer (cursor.unread.drop opener.length)) := by
  rw [← Cursor.unread_advanceBy]
  exact (readUntil_agrees closer _).behind (.advanceBy cursor _)

theorem readComment_agrees (cursor : Cursor) :
    Agrees Prod.mk cursor (readComment cursor) (Markup.readComment cursor.unread) :=
  enclosed_agrees "<!--" "-->" cursor

theorem readCdata_agrees (cursor : Cursor) :
    Agrees Prod.mk cursor (readCdata cursor) (Markup.readCdata cursor.unread) :=
  enclosed_agrees "<![CDATA[" "]]>" cursor

theorem readInstruction_agrees (cursor : Cursor) :
    Agrees Prod.mk cursor (readInstruction cursor) (Markup.readInstruction cursor.unread) := by
  unfold readInstruction Markup.readInstruction
  rw [move_bind, ← Cursor.unread_advanceBy]
  refine .behind (.advanceBy cursor "<?".length) ((readName_agrees _).bind fun target after => ?_)
  dsimp only
  rw [move_bind, ← unread_skipSpace]
  refine .behind (skipSpace_reaches after) ?_
  exact (readUntil_agrees "?>" _).bind fun data last => .ok (.refl last)

end XmlBuilder.Scan
