import XmlBuilder.Text.DefaultIgnorable
import XmlBuilder.Text.GraphemeExtend
import XmlBuilder.Text.Unprintable

/-!
Text between double quotes, as messages show it. Quotes, backslashes and what cannot be seen are
written as escapes.
-/
namespace XmlBuilder.Text

/-- The sound marks of halfwidth katakana, which attach to the letter before them but take a column
of their own. -/
def isHalfwidthSoundMark (c : Char) : Bool :=
  c == '\uFF9E' || c == '\uFF9F'

/-- A character that a reader would not see as one of its own. -/
def isUnseen (c : Char) : Bool :=
  isUnprintable c || isDefaultIgnorable c || (isGraphemeExtend c && !isHalfwidthSoundMark c)

/-- Adds one character of a quoted text to `out`. -/
def pushQuoted (out : String) (c : Char) : String :=
  match c with
  | '\x00' => out ++ "\\0"
  | '\t' => out ++ "\\t"
  | '\r' => out ++ "\\r"
  | '\n' => out ++ "\\n"
  | '"' => out ++ "\\\""
  | '\\' => out ++ "\\\\"
  | c =>
    if isUnseen c then
      out ++ "\\u\x7b" ++ String.ofList (Nat.toDigits 16 c.toNat) ++ "\x7d"
    else out.push c

def quoted (text : String) : String :=
  (text.toList.foldl pushQuoted "\"").push '"'

end XmlBuilder.Text
