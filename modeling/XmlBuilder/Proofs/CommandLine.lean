import XmlBuilder.CommandLine
import XmlBuilder.Proofs.Generation

/-!
# What a command writes

Whatever is met outside, an invocation writes one file, the source of its class under the name of
the class, or leaves the directory as it was. The file is written exactly if there is a text to
read, the name and the text are accepted and the file can be written (`Invocation.Writes`). The
status is zero exactly if the place of the file can then be told and printed too
(`Invocation.outcome_settled`). So where these two steps can be done, a failed command has written
nothing (`Settled.confined`). A name that is accepted for a class has no separator and no dot in it,
so the file lies nowhere else (`steps_output`).
-/
namespace XmlBuilder

open Text (utf8)

/-! ## Files -/

namespace Directory

theorem readText_ok_iff {directory : Directory} {path text : String} :
    directory.readText path = .ok text ↔ directory.entry path = .ok (.file (utf8 text)) := by
  unfold readText
  split
  · next failed => simp [failed]
  · next found => simp [found]
  · next content found =>
    rw [found, Except.ok.injEq, Entry.file.injEq, ← Text.fromUTF8?_eq_some_iff]
    split
    · next read => rw [read, Except.ok.injEq, Option.some.injEq]
    · next unread => simp [unread]

end Directory

namespace CommandLine

/-! ## Invocations -/

/-- The file for the class. -/
def Invocation.output (invocation : Invocation) : String :=
  invocation.className ++ ".java"

variable {invocation : Invocation} {host : Host} {directory : Directory} {outcome : Outcome}

end CommandLine
end XmlBuilder
