import XmlBuilder.Proofs.Builder.Namespaces
import XmlBuilder.Proofs.Table

/-!
# What composing leaves behind

A composer gives back the tree it has walked and the bindings it has met, and can be asked for
the expression of that tree again.

* `Unblanked` says of two trees that the second lacks just the blank texts of the first; it holds
  of a tree and the pruned one, and of no others (`unblanked_iff`);
* the walk leaves the pruned tree (`composeNode_left`), and a walk through that goes as the one
  through the tree itself (`composeNode_pruned`);
* the bindings are those from before with every declaration of the tree added in document order
  (`compose_bindings_eq`), and adding them all once more changes nothing
  (`compose_bindings_twice`).

So the second expression is composed from the tree and the bindings that are there already, and
all later ones are the same (`compose_settles`).
-/
namespace XmlBuilder

theorem Text.isBlankText_iff {text : String} : isBlankText text = true ↔ trim text = "" := by
  rw [isBlankText, ← trimChars_eq_nil_iff, trim, ← String.toList_inj, String.toList_ofList]
  rfl

namespace Node

/-- A text of which nothing is left without the blank characters at its ends. -/
def BlankText (node : Node) : Prop :=
  ∃ value, node = .text value ∧ Text.trim value = ""

def IsElement (node : Node) : Prop :=
  ∃ tag children, node = .element tag children

mutual

/-- The second node is the first without the blank texts among the children of its elements. -/
inductive Unblanked : Node → Node → Prop
  | element {tag : Tag} {children kept : List Node} :
    UnblankedAll children kept → Unblanked (.element tag children) (.element tag kept)
  | other {node : Node} : ¬ node.IsElement → Unblanked node node

/-- So it is with the nodes of two lists, of which the second lacks the blank texts besides. -/
inductive UnblankedAll : List Node → List Node → Prop
  | nil : UnblankedAll [] []
  | drop {node : Node} {rest kept : List Node} :
    node.BlankText → UnblankedAll rest kept → UnblankedAll (node :: rest) kept
  | keep {node left : Node} {rest kept : List Node} :
    ¬ node.BlankText → Unblanked node left → UnblankedAll rest kept →
      UnblankedAll (node :: rest) (left :: kept)

end

theorem isBlank_iff {node : Node} : node.isBlank = true ↔ node.BlankText := by
  cases node with
  | text value => simp [isBlank, BlankText, Text.isBlankText_iff]
  | _ => simp [isBlank, BlankText]

mutual

/-- The node without the blank texts of all elements within it. -/
def pruned : Node → Node
  | .element tag children => .element tag (prunedAll children)
  | node => node

/-- The nodes that are not blank, each pruned. -/
def prunedAll : List Node → List Node
  | [] => []
  | node :: rest => if node.isBlank then prunedAll rest else node.pruned :: prunedAll rest

end

theorem pruned_of_not_element {node : Node} (other : ¬ node.IsElement) : node.pruned = node := by
  cases node with
  | element tag children => exact absurd ⟨tag, children, rfl⟩ other
  | _ => simp only [pruned]

theorem prunedAll_cons_of_blank {node : Node} (blank : node.BlankText) (rest : List Node) :
    prunedAll (node :: rest) = prunedAll rest := by
  rw [prunedAll, if_pos (isBlank_iff.2 blank)]

theorem prunedAll_cons_of_filled {node : Node} (filled : ¬ node.BlankText) (rest : List Node) :
    prunedAll (node :: rest) = node.pruned :: prunedAll rest := by
  rw [prunedAll, if_neg (isBlank_iff.not.2 filled)]

mutual

theorem unblanked_iff {left : Node} : (node : Node) → (node.Unblanked left ↔ left = node.pruned)
  | .element tag children => by
    rw [pruned]
    constructor
    · intro form
      cases form with
      | element all => rw [(unblankedAll_iff children).1 all]
      | other other => exact absurd ⟨tag, children, rfl⟩ other
    · rintro rfl
      exact .element ((unblankedAll_iff children).2 rfl)
  | .text _ | .attr _ | .comment _ | .instruction _ _ | .cdata _ => by
    rw [pruned_of_not_element (by simp [IsElement])]
    constructor
    · intro form
      cases form with
      | other => rfl
    · rintro rfl
      exact .other (by simp [IsElement])

theorem unblankedAll_iff {kept : List Node} : (nodes : List Node) →
    (UnblankedAll nodes kept ↔ kept = prunedAll nodes)
  | [] => by
    constructor
    · intro form
      cases form with
      | nil => rfl
    · rintro rfl
      exact .nil
  | node :: rest => by
    by_cases blank : node.BlankText
    · rw [prunedAll_cons_of_blank blank, ← unblankedAll_iff rest]
      constructor
      · intro form
        cases form with
        | drop _ later => exact later
        | keep filled => exact absurd blank filled
      · exact .drop blank
    · rw [prunedAll_cons_of_filled blank]
      constructor
      · intro form
        cases form with
        | drop blanked => exact absurd blanked blank
        | keep _ first later => rw [(unblanked_iff node).1 first, (unblankedAll_iff rest).1 later]
      · rintro rfl
        exact .keep blank ((unblanked_iff node).2 rfl) ((unblankedAll_iff rest).2 rfl)

end

theorem isBlank_pruned (node : Node) : node.pruned.isBlank = node.isBlank := by
  cases node with
  | element tag children => rfl
  | _ => simp only [pruned]

end Node

/-- The element without the blank texts of all elements within it. -/
def Element.pruned (element : Element) : Element :=
  { element with children := Node.prunedAll element.children }

theorem Element.pruned_toNode (root : Element) : root.pruned.toNode = root.toNode.pruned := by
  rw [toNode, toNode, Node.pruned]
  rfl

theorem Element.toNode_injective {first second : Element} (same : first.toNode = second.toNode) :
    first = second := by
  obtain ⟨tag, children⟩ := first
  obtain ⟨rfl, rfl⟩ := Node.element.inj same
  rfl

namespace Bindings

/-- What the attributes of the tags declare, in their order: a prefix that is not empty, and what
it is bound to. -/
def declared (tags : List Tag) : List (String × String) :=
  (tags.flatMap (·.attributes)).filterMap fun attr =>
    (attr.declaredPrefix.filter (!·.isEmpty)).map fun label => (label, attr.value)

theorem declare_eq (bindings : Bindings) (attr : Attribute) :
    bindings.declare attr =
      match (attr.declaredPrefix.filter (!·.isEmpty)).map fun label => (label, attr.value) with
      | none => bindings
      | some entry => Table.insert entry.1 entry.2 bindings := by
  unfold declare
  cases attr.declaredPrefix with
  | none => rfl
  | some label =>
    rw [Option.filter_some]
    by_cases empty : label.isEmpty = true
    · simp [empty]
    · simp [empty]

theorem declare_all_eq (attributes : List Attribute) (bindings : Bindings) :
    attributes.foldl declare bindings =
      Table.insertAll (attributes.filterMap fun attr =>
        (attr.declaredPrefix.filter (!·.isEmpty)).map fun label => (label, attr.value))
        bindings := by
  induction attributes generalizing bindings with
  | nil => rfl
  | cons attr rest ih =>
    rw [List.foldl_cons, ih, declare_eq, List.filterMap_cons]
    split
    · next none => rw [none]
    · next entry found => rw [found]; rfl

theorem record_all_eq_insertAll (tags : List Tag) (bindings : Bindings) :
    tags.foldl record bindings = Table.insertAll (declared tags) bindings := by
  rw [record_all_eq, declare_all_eq, declared]

end Bindings

namespace Builder

/-! ## The bindings of a composition -/

theorem Walk.resolve_bindings (walk : Walk) (label : String) (own : Option String) :
    (walk.resolve label own).1.bindings = walk.bindings := by
  unfold Walk.resolve
  split <;> rfl

theorem compose_bindings_eq (before : Bindings) (root : Element) :
    (compose before root).bindings = Table.insertAll (Bindings.declared root.tags) before := by
  have walked := composeNodes_bindings ⟨before.record root.tag, []⟩ root.children
  dsimp only at walked
  rw [← List.foldl_cons, ← Element.tags, Bindings.record_all_eq_insertAll] at walked
  unfold compose
  dsimp only
  split
  · exact (Walk.resolve_bindings _ _ _).trans walked
  · split
    · exact walked
    · exact walked

/-! ## The tree that is left -/

mutual

theorem composeNode_left (walk : Walk) : (node : Node) →
    (composeNode walk node).2.2 = node.pruned
  | .element tag children => by
    rw [composeNode, Node.pruned]
    dsimp only
    rw [composeNodes_left _ children]
  | .text _ | .attr _ | .comment _ | .instruction _ _ | .cdata _ => by
    simp only [composeNode, Node.pruned]

theorem composeNodes_left (walk : Walk) : (nodes : List Node) →
    (composeNodes walk [] [] nodes).2.2 = Node.prunedAll nodes
  | [] => rfl
  | node :: rest => by
    rw [Node.prunedAll]
    cases blank : node.isBlank with
    | true =>
      rw [composeNodes_blank walk blank, if_pos rfl]
      exact composeNodes_left walk rest
    | false =>
      rw [composeNodes_filled walk blank, if_neg Bool.false_ne_true]
      dsimp only
      rw [composeNode_left walk node, composeNodes_left _ rest]

end

mutual

/-- Through what is left of a node the walk goes as through the node. -/
theorem composeNode_pruned (walk : Walk) : (node : Node) →
    composeNode walk node.pruned = composeNode walk node
  | .element tag children => by
    rw [Node.pruned, composeNode, composeNode]
    dsimp only
    rw [composeNodes_pruned _ children]
  | .text _ | .attr _ | .comment _ | .instruction _ _ | .cdata _ => by simp only [Node.pruned]

theorem composeNodes_pruned (walk : Walk) : (nodes : List Node) →
    composeNodes walk [] [] (Node.prunedAll nodes) = composeNodes walk [] [] nodes
  | [] => rfl
  | node :: rest => by
    rw [Node.prunedAll]
    cases blank : node.isBlank with
    | true =>
      rw [composeNodes_blank walk blank, if_pos rfl]
      exact composeNodes_pruned walk rest
    | false =>
      have filled : node.pruned.isBlank = false := (Node.isBlank_pruned node).trans blank
      rw [if_neg Bool.false_ne_true, composeNodes_filled walk filled,
        composeNodes_filled walk blank, composeNode_pruned walk node, composeNodes_pruned _ rest]

end

theorem compose_tree (before : Bindings) (root : Element) :
    (compose before root).tree = root.pruned := by
  unfold compose Element.pruned
  dsimp only
  rw [composeNodes_left]

theorem compose_pruned (before : Bindings) (root : Element) :
    compose before root.pruned = compose before root := by
  unfold compose Element.pruned
  dsimp only
  rw [composeNodes_pruned]

/-! ## Composing again -/

namespace Composition

/-- The tree that is left is composed once more, with the bindings that are there. -/
def again (composition : Composition) : Composition :=
  compose composition.bindings composition.tree

/-- As `again`, so many times. -/
def afterCalls (composition : Composition) : Nat → Composition
  | 0 => composition
  | calls + 1 => (composition.afterCalls calls).again

theorem again_eq (before : Bindings) (root : Element) :
    (compose before root).again = compose (compose before root).bindings root := by
  rw [again, compose_tree, compose_pruned]

theorem again_tree (before : Bindings) (root : Element) :
    (compose before root).again.tree = (compose before root).tree := by
  rw [again_eq, compose_tree, compose_tree]

theorem again_bindings (before : Bindings) (root : Element) :
    (compose before root).again.bindings = (compose before root).bindings := by
  rw [again_eq, compose_bindings_eq, compose_bindings_eq, Table.insertAll_twice]

theorem afterCalls_succ (before : Bindings) (root : Element) (calls : Nat) :
    (compose before root).afterCalls (calls + 1) = (compose before root).again := by
  induction calls with
  | zero => rfl
  | succ calls ih =>
    rw [afterCalls, ih, again, again_tree, again_bindings]
    rfl

end Composition

/-- Composing leaves a tree that lacks just the blank texts of the elements in it. The bindings it
leaves are those from before and the ones that the tags of the tree declare: names that are new
follow in the order in which they come first, and each is bound to what the last declaration in
document order says. Composing once more, with what is left, changes neither, so that the second
expression and all later ones are the same. And whatever was bound before, the tree that is left is
composed just as the tree itself. -/
theorem compose_settles (style : LiteralStyle) (before : Bindings) (root : Element) :
    (∀ tree, (compose before root).tree = tree ↔ root.toNode.Unblanked tree.toNode) ∧
    Table.keys (compose before root).bindings = before.keys ++
      ((Table.keys (Bindings.declared root.tags)).filter (· ∉ before.keys)).eraseDups ∧
    (∀ label, Table.find? (compose before root).bindings label =
      (lastDeclared (Attribute.declares label) root.tags).or (Table.find? before label)) ∧
    (∀ calls, ((compose before root).afterCalls calls).tree = (compose before root).tree ∧
      ((compose before root).afterCalls calls).bindings = (compose before root).bindings ∧
      ((compose before root).afterCalls (calls + 1)).document.render style =
        (compose before root).again.document.render style) ∧
    ∀ other, compose other (compose before root).tree = compose other root := by
  refine ⟨fun tree => ?_, ?_, fun label => ?_, fun calls => ?_, fun other => ?_⟩
  · rw [compose_tree, Node.unblanked_iff, ← Element.pruned_toNode]
    constructor
    · rintro rfl
      rfl
    · exact fun same => (Element.toNode_injective same).symm
  · rw [compose_bindings_eq, Table.keys_insertAll]
  · rw [compose_bindings_eq, ← Bindings.record_all_eq_insertAll, Bindings.find?_record_all]
  · rw [Composition.afterCalls_succ]
    cases calls with
    | zero => exact ⟨rfl, rfl, rfl⟩
    | succ calls =>
      rw [Composition.afterCalls_succ]
      exact ⟨Composition.again_tree before root, Composition.again_bindings before root, rfl⟩
  · rw [compose_tree, compose_pruned]

/-- An element whose prefix is declared behind it only. -/
def declaredLate : Element :=
  ⟨⟨"a", []⟩, [.element ⟨"p:b", []⟩ [], .text " ", .element ⟨"c", [⟨"xmlns:p", "u"⟩]⟩ []]⟩

/-- The first expression lacks the binding that all later ones have. -/
example :
    (compose [] declaredLate).document.render .verbatim =
      "document(\"a\").with(element(namespace(\"null\",\"p\"),\"b\"), \nelement(\"c\"))\n" ∧
    (compose [] declaredLate).again.document.render .verbatim =
      "document(\"a\").with(element(namespace(\"u\",\"p\"),\"b\"), \nelement(\"c\"))\n" := by
  decide

end Builder
end XmlBuilder
