import XmlBuilder.Position
import XmlBuilder.Text.Quoted

/-!
Why a document or a class name is refused, and where. A cause has a fixed wording; an error adds
the stretch of the document it was found in.
-/
namespace XmlBuilder

inductive Cause
  | invalidToken
  | unexpectedEnd
  | mismatchedTag (expected found : String)
  | duplicateAttribute (name : String)
  | invalidEntity (entity : String)
  | invalidUtf8
  | missingRoot
  | trailingContent
  | depthExceeded (max : UInt16)
  | sizeExceeded (max : Nat)
  | invalidClassName (name : String)
  deriving DecidableEq, Repr

def Cause.message : Cause → String
  | .invalidToken => "invalid token"
  | .unexpectedEnd => "unexpected end of input"
  | .mismatchedTag expected found =>
    "mismatched closing tag: expected </" ++ expected ++ ">, found </" ++ found ++ ">"
  | .duplicateAttribute name => "duplicate attribute: " ++ name
  | .invalidEntity entity => "invalid entity: &" ++ entity ++ ";"
  | .invalidUtf8 => "invalid utf-8"
  | .missingRoot => "document has no root element"
  | .trailingContent => "content after the root element"
  | .depthExceeded max => "max depth exceeded: " ++ toString max.toNat
  | .sizeExceeded max => "max size exceeded: " ++ toString max
  | .invalidClassName name => "invalid class name: " ++ Text.quoted name

structure Error where
  cause : Cause
  span : Span
  message : String
  deriving DecidableEq, Repr

namespace Error

def ofCause (cause : Cause) (span : Span) : Error := ⟨cause, span, cause.message⟩

def atPosition (cause : Cause) (position : Position) : Error := ofCause cause (.single position)

/-- The whole message; an error that lies in no document has no place to name. -/
def description (error : Error) : String :=
  if error.span = .nowhere then error.message
  else "error at " ++ error.span.start.text ++ ": " ++ error.message

end Error
end XmlBuilder
