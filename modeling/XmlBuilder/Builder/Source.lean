import XmlBuilder.Builder.Call
import XmlBuilder.ClassName

/-!
The source of the generated class: what stands before and after the builder expression.
-/
namespace XmlBuilder.Builder

def imports : String :=
  "import org.w3c.dom.Document;\n" ++
  "import org.w3c.dom.Element;\n" ++
  "import uk.co.mrmarkb.xmlbuild.*;\n" ++
  "import static uk.co.mrmarkb.xmlbuild.NamespaceUriPrefixMapping.namespace;\n" ++
  "import static uk.co.mrmarkb.xmlbuild.XmlBuilderFactory.*;\n" ++
  "import static uk.co.mrmarkb.xmlbuild.XmlRenderer.render;\n\n"

/-- All before the expression. -/
def prologue (name : ClassName) : String :=
  imports ++ "public class " ++ name.text ++
    " \x7b\n\tpublic Document build() \x7b\nreturn "

/-- All after the expression. -/
def epilogue : String := ".build();\x7d\n\x7d"

def source (name : ClassName) (body : String) : String :=
  prologue name ++ body ++ epilogue

end XmlBuilder.Builder
