import XmlBuilder.Builder.Composition
import XmlBuilder.Builder.Source
import XmlBuilder.Reader

/-!
From the text of a document to the source of a class that builds the document anew.
-/
namespace XmlBuilder

structure Options where
  limits : Limits
  style : Builder.LiteralStyle
  deriving DecidableEq, Repr

def Options.standard : Options := ⟨.standard, .verbatim⟩

/-- A class and its source. -/
structure ClassFile where
  name : ClassName
  source : String
  deriving DecidableEq

/-- The class for a document, and what there is to log, in failure too. The name is looked at
before the document. -/
def generateLogged (options : Options) (className : String) (document : String) :
    Except Error ClassFile × List Diagnostic :=
  let started := Diagnostic.started className document.utf8ByteSize
  match ClassName.check className with
  | .error error => (.error error, [started])
  | .ok name =>
    match readBytes options.limits document.toUTF8.data.toList with
    | .error error => (.error error, [started])
    | .ok root =>
      let composition := Builder.compose [] root
      let body := composition.document.render options.style
      (.ok ⟨name, Builder.source name body⟩,
        [started, .parsed root.tag.name] ++ composition.diagnostics ++
          [.composed composition.bindings.length body.utf8ByteSize])

def generate (options : Options) (className : String) (document : String) :
    Except Error ClassFile :=
  (generateLogged options className document).1

end XmlBuilder
