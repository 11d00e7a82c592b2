/-!
String literals of the generated class.
-/
namespace XmlBuilder.Builder

/-- Whether the text of a literal is put between the quotes as it is, or with escapes for quotes,
backslashes, line breaks and tabs. -/
inductive LiteralStyle
  | verbatim | escaped
  deriving DecidableEq, Repr

def pushEscaped (out : String) (c : Char) : String :=
  match c with
  | '\\' => out ++ "\\\\"
  | '"' => out ++ "\\\""
  | '\n' => out ++ "\\n"
  | '\r' => out ++ "\\r"
  | '\t' => out ++ "\\t"
  | c => out.push c

def literal (style : LiteralStyle) (text : String) : String :=
  match style with
  | .verbatim => "\"" ++ text ++ "\""
  | .escaped => (text.toList.foldl pushEscaped "\"").push '"'

end XmlBuilder.Builder
