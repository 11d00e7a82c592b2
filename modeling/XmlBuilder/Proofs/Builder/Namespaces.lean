import Mathlib.Data.List.Basic
import XmlBuilder.Builder.Composition
import XmlBuilder.Proofs.Builder.Wording

/-!
# Namespaces without a walk

The composer carries the bindings met so far through one walk, in which it also drops blank texts.
Here the builder expression is given again from the tree alone: every element looks up its prefix
among the declarations of the tags up to its own place in document order, and the root among those
of its own tag, the bindings from before, and those of all other tags.

* the bindings of a walk are those of the tags it has passed (`composeNode_bindings`);
* a look-up in them finds the last declaration, or what was bound before (`find?_record_all`);
* so each call of the walk is the one stated for its place (`composeNode_call`).
-/
namespace XmlBuilder

mutual

/-- The tags of a node and of all nodes within it, in document order. -/
def Node.tags : Node → List Tag
  | .element tag children => tag :: Node.tagsOf children
  | _ => []

def Node.tagsOf : List Node → List Tag
  | [] => []
  | node :: rest => node.tags ++ Node.tagsOf rest

end

def Element.tags (element : Element) : List Tag :=
  element.tag :: Node.tagsOf element.children

theorem Node.mem_tagsOf {nodes : List Node} {tag : Tag} :
    tag ∈ Node.tagsOf nodes ↔ ∃ node ∈ nodes, tag ∈ node.tags := by
  induction nodes with
  | nil => simp [Node.tagsOf]
  | cons node rest ih => simp [Node.tagsOf, ih]

/-- An attribute `xmlns:label`. -/
def Attribute.isNamed (label : String) (attr : Attribute) : Bool :=
  attr.name == xmlns ++ ":" ++ label

/-- An attribute that binds `label`, which an attribute `xmlns:` does for no label. -/
def Attribute.declares (label : String) (attr : Attribute) : Bool :=
  label != "" && attr.isNamed label

/-- The value of the last attribute on the tags that `declares` accepts. -/
def lastDeclared (declares : Attribute → Bool) (tags : List Tag) : Option String :=
  ((tags.flatMap (·.attributes)).reverse.find? declares).map (·.value)

theorem lastDeclared_append (declares : Attribute → Bool) (tags later : List Tag) :
    lastDeclared declares (tags ++ later) =
      (lastDeclared declares later).or (lastDeclared declares tags) := by
  unfold lastDeclared
  rw [List.flatMap_append, List.reverse_append, List.find?_append, Option.map_or]

theorem Node.text_of_isBlank {node : Node} (blank : node.isBlank = true) :
    ∃ value, node = .text value ∧ Text.isBlankText value = true := by
  cases node with
  | text value => exact ⟨value, rfl, blank⟩
  | _ => cases blank

namespace Bindings

theorem declaredPrefix_eq_some_iff (attr : Attribute) (label : String) :
    attr.declaredPrefix = some label ↔ attr.isNamed label = true := by
  unfold Attribute.declaredPrefix Attribute.isNamed
  rw [Option.map_eq_some_iff, beq_iff_eq]
  constructor
  · rintro ⟨rest, found, rfl⟩
    rw [List.isPrefixOf?_eq_some_iff_append_eq] at found
    rw [← String.toList_inj, String.toList_append, String.toList_append, ← found]
    exact congrArg _ String.toList_ofList.symm
  · intro same
    refine ⟨label.toList, ?_, String.ofList_toList⟩
    rw [List.isPrefixOf?_eq_some_iff_append_eq, same, String.toList_append, String.toList_append]
    rfl

theorem declares_iff (attr : Attribute) (label : String) :
    attr.declares label = true ↔ label ≠ "" ∧ attr.declaredPrefix = some label := by
  rw [Attribute.declares, Bool.and_eq_true, bne_iff_ne, declaredPrefix_eq_some_iff]

/-- An attribute declares one prefix at most. -/
theorem declares_unique {attr : Attribute} {label other : String}
    (first : attr.declares label = true) (second : attr.declares other = true) :
    label = other := by
  have here := ((declares_iff attr label).1 first).2
  have there := ((declares_iff attr other).1 second).2
  exact Option.some.inj (here.symm.trans there)

/-- All that an attribute can do to the bindings. -/
theorem declare_cases (bindings : Bindings) (attr : Attribute) :
    (∃ label, attr.declares label = true ∧
      bindings.declare attr = Table.insert label attr.value bindings) ∨
    ((∀ label, attr.declares label = false) ∧ bindings.declare attr = bindings) := by
  unfold declare
  split
  · next none =>
    refine .inr ⟨fun label => Bool.eq_false_iff.2 fun declared => ?_, rfl⟩
    exact Option.some_ne_none _ (((declares_iff attr label).1 declared).2.symm.trans none)
  · next label found =>
    split
    · next empty =>
      rw [String.isEmpty_iff] at empty
      refine .inr ⟨fun other => Bool.eq_false_iff.2 fun declared => ?_, rfl⟩
      obtain ⟨filled, also⟩ := (declares_iff attr other).1 declared
      exact filled (Option.some.inj (also.symm.trans found) ▸ empty)
    · next filled =>
      rw [String.isEmpty_iff] at filled
      exact .inl ⟨label, (declares_iff attr label).2 ⟨filled, found⟩, rfl⟩

theorem find?_declare (bindings : Bindings) (attr : Attribute) (label : String) :
    Table.find? (bindings.declare attr) label =
      if attr.declares label then some attr.value else Table.find? bindings label := by
  rcases declare_cases bindings attr with ⟨other, declared, added⟩ | ⟨silent, same⟩
  · rw [added, Table.find?_insert]
    refine if_congr ⟨?_, fun also => declares_unique also declared⟩ rfl rfl
    rintro rfl
    exact declared
  · rw [same, silent, if_neg Bool.false_ne_true]

/-- Looking up a label after a declaration list finds the last one, or what was there before. -/
theorem find?_declare_all (attributes : List Attribute) (bindings : Bindings) (label : String) :
    Table.find? (attributes.foldl declare bindings) label =
      ((attributes.reverse.find? (Attribute.declares label)).map (·.value)).or
        (Table.find? bindings label) := by
  induction attributes generalizing bindings with
  | nil => rfl
  | cons attr rest ih =>
    rw [List.foldl_cons, ih, find?_declare, List.reverse_cons, List.find?_append, Option.map_or,
      Option.or_assoc]
    congr 1
    rw [List.find?_singleton]
    cases attr.declares label <;> rfl

theorem record_all_eq (tags : List Tag) (bindings : Bindings) :
    tags.foldl record bindings = (tags.flatMap (·.attributes)).foldl declare bindings := by
  induction tags generalizing bindings with
  | nil => rfl
  | cons tag rest ih => rw [List.foldl_cons, ih, List.flatMap_cons, List.foldl_append, record]

theorem find?_record_all (tags : List Tag) (bindings : Bindings) (label : String) :
    Table.find? (tags.foldl record bindings) label =
      (lastDeclared (Attribute.declares label) tags).or (Table.find? bindings label) := by
  rw [record_all_eq, find?_declare_all, lastDeclared]

end Bindings

namespace Builder

/-! ## The bindings of a walk -/

theorem Walk.resolveTag_bindings (walk : Walk) (tag : Tag) :
    (walk.resolveTag tag).1.bindings = walk.bindings := by
  unfold Walk.resolveTag Walk.resolve
  split
  · rfl
  · dsimp only
    split <;> rfl

theorem Walk.resolve_space (walk : Walk) (label : String) (own : Option String) :
    (walk.resolve label own).2 = ⟨walk.bindings.resolve label own, label⟩ := by
  unfold Walk.resolve
  split
  · next uri found => rw [found]
  · next none => rw [none]

theorem Walk.resolveTag_space (walk : Walk) (tag : Tag) :
    (walk.resolveTag tag).2 = tag.namePrefix.map fun label =>
      ⟨walk.bindings.resolve label (tag.attribute? xmlns), label⟩ := by
  unfold Walk.resolveTag
  split
  · next none => rw [none, Option.map_none]
  · next label found =>
    rw [found, Option.map_some]
    exact congrArg some (Walk.resolve_space walk label _)

/-- The calls and nodes so far stand before those to come and do not matter to the walk. -/
theorem composeNodes_acc (walk : Walk) (calls : List Call) (kept nodes : List Node) :
    composeNodes walk calls kept nodes =
      ((composeNodes walk [] [] nodes).1, calls.reverse ++ (composeNodes walk [] [] nodes).2.1,
        kept.reverse ++ (composeNodes walk [] [] nodes).2.2) := by
  induction nodes generalizing walk calls kept with
  | nil => simp only [composeNodes, List.reverse_nil, List.append_nil]
  | cons node rest ih =>
    rw [composeNodes, composeNodes]
    split
    · exact ih walk calls kept
    · dsimp only
      rw [ih, ih _ (_ ++ []) [_]]
      simp only [List.append_nil, List.reverse_append, List.reverse_cons, List.reverse_nil,
        List.nil_append, List.append_assoc]

theorem composeNodes_blank (walk : Walk) {node : Node} (blank : node.isBlank = true)
    (rest : List Node) : composeNodes walk [] [] (node :: rest) = composeNodes walk [] [] rest := by
  rw [composeNodes, if_pos blank]

theorem composeNodes_filled (walk : Walk) {node : Node} (filled : node.isBlank = false)
    (rest : List Node) :
    composeNodes walk [] [] (node :: rest) =
      ((composeNodes (composeNode walk node).1 [] [] rest).1,
        (composeNode walk node).2.1.toList ++
          (composeNodes (composeNode walk node).1 [] [] rest).2.1,
        (composeNode walk node).2.2 ::
          (composeNodes (composeNode walk node).1 [] [] rest).2.2) := by
  rw [composeNodes, filled, if_neg Bool.false_ne_true]
  dsimp only
  rw [composeNodes_acc, List.append_nil]
  cases (composeNode walk node).2.1 <;> rfl

/-- A node of a kind without a call is noted, and left as it is. -/
theorem composeNode_silent (walk : Walk) {node : Node} {kind : SilentKind}
    (silent : node.silentKind? = some kind) :
    composeNode walk node = (walk.note (.skipped kind), none, node) := by
  cases node with
  | comment _ | instruction _ _ | cdata _ => simp only [composeNode, Walk.pass, silent]
  | _ => cases silent

mutual

theorem composeNode_bindings (walk : Walk) : (node : Node) →
    (composeNode walk node).1.bindings = node.tags.foldl Bindings.record walk.bindings
  | .element tag children => by
    rw [composeNode, Node.tags, List.foldl_cons]
    dsimp only
    rw [composeNodes_bindings _ children, Walk.resolveTag_bindings]
    rfl
  | .text _ | .attr _ | .comment _ | .instruction _ _ | .cdata _ => by
    simp only [composeNode, Walk.pass, Node.silentKind?, Node.tags, Walk.note, List.foldl_nil]

theorem composeNodes_bindings (walk : Walk) : (nodes : List Node) →
    (composeNodes walk [] [] nodes).1.bindings =
      (Node.tagsOf nodes).foldl Bindings.record walk.bindings
  | [] => rfl
  | node :: rest => by
    rw [Node.tagsOf, List.foldl_append]
    cases blank : node.isBlank with
    | true =>
      obtain ⟨value, rfl, -⟩ := Node.text_of_isBlank blank
      rw [composeNodes_blank walk blank]
      exact composeNodes_bindings walk rest
    | false =>
      rw [composeNodes_filled walk blank, ← composeNode_bindings walk node]
      exact composeNodes_bindings _ rest

end

/-! ## The expression of a tree, stated -/

section
variable (declares : String → Attribute → Bool) (before : Bindings)

/-- The namespace of an element whose tag comes last among `seen`: the one it states itself, or
that of the last declaration of its prefix so far, or what the prefix was bound to before. -/
def statedSpace (seen : List Tag) (tag : Tag) : Option Namespace :=
  tag.namePrefix.map fun label =>
    ⟨(tag.attribute? xmlns).or
      ((lastDeclared (declares label) seen).or (Table.find? before label)), label⟩

mutual

/-- The call of a node in a tree with the tags `all`, where the next tag in document order is the
one at `place`. -/
def statedCall (all : List Tag) (place : Nat) : Node → Option Call
  | .element tag children =>
    some (.element (statedSpace declares before (all.take (place + 1)) tag) tag.localName
      (blocks tag (statedCalls all (place + 1) children)))
  | .text value => if Text.isBlankText value then none else some (.text (Text.trim value))
  | .attr attr => some (.attr attr.name attr.value)
  | .comment _ | .instruction _ _ | .cdata _ => none

def statedCalls (all : List Tag) (place : Nat) : List Node → List Call
  | [] => []
  | node :: rest =>
    (statedCall all place node).toList ++ statedCalls all (place + node.tags.length) rest

end

/-- How the root states its namespace. Its prefix is looked up on its own tag, then among the
bindings from before, then among the tags of all other elements. -/
def statedRoot (root : Element) : RootSpace :=
  let own := root.tag.attribute? xmlns
  match root.tag.namePrefix with
  | some label =>
    .named ⟨own.or <| (lastDeclared (declares label) [root.tag]).or <|
      (Table.find? before label).or (lastDeclared (declares label) (Node.tagsOf root.children)),
      label⟩
  | none =>
    match own with
    | some uri =>
      if ':' ∈ uri.toList ∨ Text.isBlankText uri then .plain else .byDefault uri
    | none => .plain

def statedDocument (root : Element) : DocumentCall :=
  ⟨statedRoot declares before root, root.tag.localName,
    blocks root.tag (statedCalls declares before root.tags 1 root.children)⟩

end

/-! ## The walk composes what is stated -/

theorem resolve_eq (before : Bindings) (seen : List Tag) (label : String) (own : Option String) :
    Bindings.resolve (seen.foldl Bindings.record before) label own =
      own.or ((lastDeclared (Attribute.declares label) seen).or (Table.find? before label)) := by
  rw [Bindings.resolve, Bindings.find?_record_all]

/-- Past a node the walk has met the tags of the node too. -/
theorem take_past {all tags : List Tag} {place : Nat} (here : tags <+: all.drop place) :
    all.take (place + tags.length) = all.take place ++ tags := by
  rw [List.take_add, ← List.prefix_iff_eq_take.1 here]

/-- Behind the tags of a node come those of the nodes after it. -/
theorem rest_ahead {all first later : List Tag} {place : Nat}
    (here : first ++ later <+: all.drop place) : later <+: all.drop (place + first.length) := by
  obtain ⟨more, split⟩ := here
  refine ⟨more, ?_⟩
  rw [← List.drop_drop, ← split, List.append_assoc, List.drop_left]

mutual

theorem composeNode_call (before : Bindings) (all : List Tag) (place : Nat) (walk : Walk)
    (met : walk.bindings = (all.take place).foldl Bindings.record before) : (node : Node) →
    node.isBlank = false → node.tags <+: all.drop place →
    (composeNode walk node).2.1 = statedCall Attribute.declares before all place node
  | .element tag children, _, here => by
    rw [Node.tags] at here
    have own : all.take (place + 1) = all.take place ++ [tag] :=
      take_past ((List.prefix_append [tag] _).trans here)
    have inside : Node.tagsOf children <+: all.drop (place + [tag].length) := rest_ahead here
    have entered : ((walk.record tag).resolveTag tag).1.bindings =
        (all.take (place + 1)).foldl Bindings.record before := by
      rw [Walk.resolveTag_bindings, own, List.foldl_append, ← met]
      rfl
    rw [composeNode, statedCall, statedSpace]
    dsimp only
    rw [composeNodes_calls before all _ _ entered children inside, Walk.resolveTag_space]
    rw [Walk.resolveTag_bindings] at entered
    rw [entered]
    simp only [resolve_eq]
  | .text value, filled, _ => by
    rw [Node.isBlank] at filled
    rw [composeNode, statedCall, filled, if_neg Bool.false_ne_true]
  | .attr _, _, _ | .comment _, _, _ | .instruction _ _, _, _ | .cdata _, _, _ => by
    simp only [composeNode, statedCall]

theorem composeNodes_calls (before : Bindings) (all : List Tag) (place : Nat) (walk : Walk)
    (met : walk.bindings = (all.take place).foldl Bindings.record before) : (nodes : List Node) →
    Node.tagsOf nodes <+: all.drop place →
    (composeNodes walk [] [] nodes).2.1 =
      statedCalls Attribute.declares before all place nodes
  | [], _ => rfl
  | node :: rest, here => by
    rw [Node.tagsOf] at here
    have first : node.tags <+: all.drop place := (List.prefix_append _ _).trans here
    have later : Node.tagsOf rest <+: all.drop (place + node.tags.length) := rest_ahead here
    rw [statedCalls]
    cases blank : node.isBlank with
    | true =>
      rw [composeNodes_blank walk blank]
      obtain ⟨value, rfl, blankText⟩ := Node.text_of_isBlank blank
      rw [statedCall, blankText]
      exact composeNodes_calls before all place walk met rest later
    | false =>
      have past : (composeNode walk node).1.bindings =
          (all.take (place + node.tags.length)).foldl Bindings.record before := by
        rw [composeNode_bindings, take_past first, List.foldl_append, ← met]
      rw [composeNodes_filled walk blank,
        composeNode_call before all place walk met node blank first]
      dsimp only
      rw [composeNodes_calls before all _ _ past rest later]

end

/-- The root's look-up after the walk adds the tags below it to what it could find before. -/
theorem resolve_twice (before : Bindings) (tag : Tag) (below : List Tag) (label : String)
    (own : Option String) :
    Bindings.resolve ((tag :: below).foldl Bindings.record before) label
        (Bindings.resolve (before.record tag) label own) =
      (own.or <| (lastDeclared (Attribute.declares label) [tag]).or <|
        (Table.find? before label).or (lastDeclared (Attribute.declares label) below)) := by
  have entered := resolve_eq before [tag] label own
  rw [List.foldl_cons, List.foldl_nil] at entered
  have whole := lastDeclared_append (Attribute.declares label) [tag] below
  rw [List.singleton_append] at whole
  rw [resolve_eq, entered, whole]
  cases own with
  | some uri => rfl
  | none =>
    cases lastDeclared (Attribute.declares label) [tag] with
    | some uri => rfl
    | none =>
      cases Table.find? before label with
      | some uri => rfl
      | none => simp only [Option.or_none, Option.none_or]

theorem defaultNamespace?_eq (tag : Tag) :
    (tag.defaultNamespace?.filter (!Text.isBlankText ·)) =
      (tag.attribute? xmlns).filter fun uri =>
        !decide (':' ∈ uri.toList ∨ Text.isBlankText uri) := by
  unfold Tag.defaultNamespace?
  rw [Option.filter_filter]
  congr 1
  funext uri
  rw [List.contains_eq_mem, Bool.decide_or, Bool.not_or, Bool.decide_eq_true, Bool.and_comm]

/-- The composer's expression is the one stated of the tree, whatever was bound before. -/
theorem compose_document_eq (before : Bindings) (root : Element) :
    (compose before root).document = statedDocument Attribute.declares before root := by
  have entered : before.record root.tag = (root.tags.take 1).foldl Bindings.record before := rfl
  have calls := composeNodes_calls before root.tags 1 ⟨before.record root.tag, []⟩ entered
    root.children (List.prefix_refl _)
  have walked := composeNodes_bindings ⟨before.record root.tag, []⟩ root.children
  unfold compose statedDocument statedRoot
  dsimp only at walked ⊢
  rw [calls]
  cases root.tag.namePrefix with
  | some label =>
    dsimp only
    rw [Walk.resolve_space, walked, ← List.foldl_cons, resolve_twice]
  | none =>
    dsimp only
    rw [defaultNamespace?_eq]
    cases root.tag.attribute? xmlns with
    | none => rfl
    | some uri =>
      rw [Option.filter_some]
      by_cases plain : ':' ∈ uri.toList ∨ Text.isBlankText uri
      · simp only [plain, decide_true, Bool.not_true, Bool.false_eq_true, if_false, if_true]
      · simp only [plain, decide_false, Bool.not_false, if_false, if_true]

/-- What is written for a tree is the wording of its stated expression. -/
theorem written_eq_stated (style : LiteralStyle) (before : Bindings) (root : Element) :
    (compose before root).document.render style =
      (statedDocument Attribute.declares before root).wording style := by
  rw [compose_document_eq, DocumentCall.render_eq]

/-- A root with an empty prefix and a declaration that seems to bind it. -/
def emptilyPrefixed : Element := ⟨⟨":a", [⟨"xmlns:", "v"⟩]⟩, []⟩

/-- An attribute `xmlns:` is no declaration of the empty prefix. -/
theorem empty_prefix_not_declared :
    (compose [] emptilyPrefixed).document.render .verbatim ≠
      (statedDocument Attribute.isNamed [] emptilyPrefixed).wording .verbatim := by
  decide

end Builder
end XmlBuilder
