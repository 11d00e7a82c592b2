import XmlBuilder.Error
import XmlBuilder.Text.Alphabetic
import XmlBuilder.Text.Number

/-!
Names for the generated class: letters, digits, `_` and `$`, not beginning with a digit, and not a
word that the language of the class reserves.
-/
namespace XmlBuilder

def reservedWords : List String :=
  ["abstract", "assert", "boolean", "break", "byte", "case", "catch", "char", "class", "const",
   "continue", "default", "do", "double", "else", "enum", "extends", "false", "final", "finally",
   "float", "for", "goto", "if", "implements", "import", "instanceof", "int", "interface", "long",
   "native", "new", "null", "package", "private", "protected", "public", "return", "short",
   "static", "strictfp", "super", "switch", "synchronized", "this", "throw", "throws",
   "transient", "true", "try", "void", "volatile", "while", "_"]

namespace ClassName

def startsName (c : Char) : Bool :=
  Text.isAlphabetic c || c == '_' || c == '$'

def continuesName (c : Char) : Bool :=
  Text.isAlphabetic c || Text.isNumber c || c == '_' || c == '$'

def accepts (name : String) : Bool :=
  match name.toList with
  | [] => false
  | c :: rest => startsName c && rest.all continuesName && !reservedWords.contains name

theorem continuesName_of_accepts {name : String} (accepted : accepts name) :
    ∀ c ∈ name.toList, continuesName c = true := by
  unfold accepts at accepted
  split at accepted
  · cases accepted
  · next first rest spelled =>
    rw [Bool.and_eq_true, Bool.and_eq_true, List.all_eq_true] at accepted
    obtain ⟨⟨starts, continues⟩, -⟩ := accepted
    intro c member
    rw [spelled] at member
    rcases List.mem_cons.1 member with rfl | later
    · simp only [startsName, Bool.or_eq_true] at starts
      simp only [continuesName, Bool.or_eq_true]
      rcases starts with (letter | low) | dollar
      · exact .inl (.inl (.inl letter))
      · exact .inl (.inr low)
      · exact .inr dollar
    · exact continues c later

end ClassName

structure ClassName where
  text : String
  accepted : ClassName.accepts text
  deriving DecidableEq

namespace ClassName

/-- The name, if it is accepted. An error about a name lies in no document. -/
def check (name : String) : Except Error ClassName :=
  if accepted : accepts name then .ok ⟨name, accepted⟩
  else .error (.ofCause (.invalidClassName name) .nowhere)

/-- The ending of the name of a source file. -/
def fileExtension : String := "java"

/-- The file that holds the class. -/
def fileName (name : ClassName) : String :=
  name.text ++ "." ++ fileExtension

end ClassName
end XmlBuilder
