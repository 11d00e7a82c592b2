import XmlBuilder.Bindings
import XmlBuilder.Builder.Call
import XmlBuilder.Diagnostic

/-!
From a document tree to its builder expression. The tree is walked once, in document order, and
prefixes are resolved with the bindings met so far; only the prefix of the root may also be bound
further down.
-/
namespace XmlBuilder.Builder

/-- What a walk through a tree carries along. -/
structure Walk where
  bindings : Bindings
  /-- The latest first. -/
  diagnostics : List Diagnostic
  deriving DecidableEq, Repr

namespace Walk

def note (walk : Walk) (diagnostic : Diagnostic) : Walk :=
  { walk with diagnostics := diagnostic :: walk.diagnostics }

/-- Notes that a node has no call, if it is of a kind that has none. -/
def pass (walk : Walk) (node : Node) : Walk :=
  match node.silentKind? with
  | some kind => walk.note (.skipped kind)
  | none => walk

def record (walk : Walk) (tag : Tag) : Walk :=
  { walk with bindings := walk.bindings.record tag }

/-- The namespace for the prefix `label` on an element that may state one itself. -/
def resolve (walk : Walk) (label : String) (own : Option String) : Walk × Namespace :=
  match walk.bindings.resolve label own with
  | some uri => (walk, ⟨some uri, label⟩)
  | none => (walk.note (.unbound label), ⟨none, label⟩)

/-- The namespace of an element, if its name has a prefix. -/
def resolveTag (walk : Walk) (tag : Tag) : Walk × Option Namespace :=
  match tag.namePrefix with
  | none => (walk, none)
  | some label =>
    let (after, space) := walk.resolve label (tag.attribute? xmlns)
    (after, some space)

end Walk

/-- The blocks of an element: its attributes, then its children, each unless there are none. -/
def blocks (tag : Tag) (children : List Call) : List (List Call) :=
  let attributes := tag.plainAttributes.map fun attr => Call.attr attr.name attr.value
  [attributes, children].filter (!·.isEmpty)

mutual

/-- Goes through a node. What it leaves is the call for the node, if there is one, and the node
without the blank texts within it. -/
def composeNode (walk : Walk) : Node → Walk × Option Call × Node
  | .element tag children =>
    let (entered, space) := (walk.record tag).resolveTag tag
    let (left, calls, kept) := composeNodes entered [] [] children
    (left, some (.element space tag.localName (blocks tag calls)), .element tag kept)
  | .text value => (walk, some (.text (Text.trim value)), .text value)
  | .attr attr => (walk, some (.attr attr.name attr.value), .attr attr)
  | node => (walk.pass node, none, node)

/-- Goes through the nodes of an element, past those that are blank. The calls and nodes before
are `calls` and `kept`, which come last first. -/
def composeNodes (walk : Walk) (calls : List Call) (kept : List Node) :
    List Node → Walk × List Call × List Node
  | [] => (walk, calls.reverse, kept.reverse)
  | node :: rest =>
    if node.isBlank then composeNodes walk calls kept rest
    else
      let (after, call, left) := composeNode walk node
      composeNodes after (call.toList ++ calls) (left :: kept) rest

end

/-- An expression with what else its walk gave. -/
structure Composition where
  document : DocumentCall
  /-- The tree that is left, which has no blank texts. -/
  tree : Element
  bindings : Bindings
  diagnostics : List Diagnostic
  deriving Repr

/-- Composes the expression of a tree, with `bindings` from before. The root's prefix is looked up
where the root stands and again at the end of the walk. -/
def compose (bindings : Bindings) (root : Element) : Composition :=
  let tag := root.tag
  let entered : Walk := ⟨bindings.record tag, []⟩
  let own := tag.attribute? xmlns
  let (walked, calls, kept) := composeNodes entered [] [] root.children
  let (left, space) :=
    match tag.namePrefix with
    | some label =>
      let (left, space) := walked.resolve label (entered.bindings.resolve label own)
      (left, RootSpace.named space)
    | none =>
      match tag.defaultNamespace?.filter (!Text.isBlankText ·) with
      | some uri => (walked, RootSpace.byDefault uri)
      | none => (walked, RootSpace.plain)
  ⟨⟨space, tag.localName, blocks tag calls⟩, ⟨tag, kept⟩, left.bindings,
    left.diagnostics.reverse⟩

end XmlBuilder.Builder
