import XmlBuilder.Tree

/-!
What happens on the way from a document to the source of its class, for a log.
-/
namespace XmlBuilder

/-- The kinds of node that leave no trace in the builder expression. -/
inductive SilentKind
  | comment | instruction | cdata
  deriving DecidableEq, Repr

def SilentKind.text : SilentKind → String
  | .comment => "comment"
  | .instruction => "processing instruction"
  | .cdata => "cdata section"

def Node.silentKind? : Node → Option SilentKind
  | .comment _ => some .comment
  | .instruction _ _ => some .instruction
  | .cdata _ => some .cdata
  | _ => none

inductive Level
  | span | debug | warn
  deriving DecidableEq, Repr

/-- What a field of an event holds. -/
inductive FieldValue
  | text (value : String)
  | count (value : Nat)
  deriving DecidableEq, Repr

/-- An entry of the log. The fields are in their order. -/
structure Event where
  level : Level
  message : String
  fields : List (String × FieldValue)
  deriving DecidableEq, Repr

inductive Diagnostic
  | started (className : String) (inputSize : Nat)
  | parsed (root : String)
  | skipped (kind : SilentKind)
  | unbound (label : String)
  | composed (bindings bodySize : Nat)
  deriving DecidableEq, Repr

namespace Diagnostic

def level : Diagnostic → Level
  | .started _ _ => .span
  | .unbound _ => .warn
  | _ => .debug

def message : Diagnostic → String
  | .started _ _ => "generate_with_options"
  | .parsed _ => "parsed document"
  | .skipped _ => "skipping node that has no builder call"
  | .unbound _ => "namespace prefix is not bound anywhere in the document"
  | .composed _ _ => "translated document"

def fields : Diagnostic → List (String × FieldValue)
  | .started className size => [("class_name", .text className), ("input_len", .count size)]
  | .parsed root => [("root", .text root)]
  | .skipped kind => [("kind", .text kind.text)]
  | .unbound label => [("prefix", .text label)]
  | .composed bindings size => [("bindings", .count bindings), ("body_len", .count size)]

/-- The entry of the log. -/
def event (diagnostic : Diagnostic) : Event :=
  ⟨diagnostic.level, diagnostic.message, diagnostic.fields⟩

end Diagnostic
end XmlBuilder
