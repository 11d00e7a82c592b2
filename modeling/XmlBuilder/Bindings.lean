import XmlBuilder.Table
import XmlBuilder.Tree

/-!
Which namespace each prefix stands for. A binding holds from the element that declares it to the
end of the document, also outside that element, until the prefix is declared again.
-/
namespace XmlBuilder

abbrev Bindings := Table String

namespace Bindings

/-- Adds what one attribute declares; an empty prefix binds nothing. -/
def declare (bindings : Bindings) (attr : Attribute) : Bindings :=
  match attr.declaredPrefix with
  | none => bindings
  | some label => if label.isEmpty then bindings else Table.insert label attr.value bindings

/-- Adds what the attributes of an element declare. -/
def record (bindings : Bindings) (tag : Tag) : Bindings :=
  tag.attributes.foldl declare bindings

/-- Records an element, and answers with the namespace that the element states for itself. -/
def meet (bindings : Bindings) (tag : Tag) : Bindings × Option String :=
  (bindings.record tag, tag.attribute? xmlns)

/-- The namespace of `label`, which is `own` where an element states one itself. -/
def resolve (bindings : Bindings) (label : String) (own : Option String) : Option String :=
  own.or (Table.find? bindings label)

end Bindings
end XmlBuilder
