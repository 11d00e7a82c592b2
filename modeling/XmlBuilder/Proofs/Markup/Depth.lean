import XmlBuilder.Proofs.Markup.Document
import XmlBuilder.Proofs.Markup.Values

/-!
# Where elements are too deep

`ElementAt` says where in a form an element of some depth begins, `FirstAt` that besides every
sibling before it, or before one of its ancestors, is too low to have an element as deep. A node
that is high enough has a first element of the depth (`FirstAt.exists`), and no other one begins
sooner (`ElementAt.exists_first`). If the limits admit all that lies less deep but not this depth,
a run ends where its first element begins (`readContent_tooDeep`, by induction along the way to
it), and so does the reading of a document (`readDocument_tooDeep`).
-/
namespace XmlBuilder.Markup

variable {context : Context} {passed : Nat → Node → Prop}

/-- The bytes of the node are `before` and `after`, and `after` begins with an element that lies
`depth` deep. On the way to it, siblings before an element of depth `d` have `passed d`. -/
inductive Reaches (context : Context) (passed : Nat → Node → Prop) :
    Bytes → Bytes → Node → Nat → Prop
  | here {bytes : Bytes} {tag : Tag} {children : List Node} :
    NodeText context bytes (.element tag children) →
      Reaches context passed [] bytes (.element tag children) 1
  | inside {start before after ending : Bytes} {tag : Tag} {earlier later : List (Bytes × Node)}
      {node : Node} {depth : Nat} :
    StartTagText context ">" start tag →
      (∀ item ∈ earlier ++ (before ++ after, node) :: later, NodeText context item.1 item.2) →
      Node.Separated ((earlier ++ (before ++ after, node) :: later).map (·.2)) →
      EndTagText tag.name ending → (∀ item ∈ earlier, passed depth item.2) →
      Reaches context passed before after node depth →
      Reaches context passed (start ++ (earlier.flatMap (·.1) ++ before))
        (after ++ (later.flatMap (·.1) ++ ending))
        (.element tag ((earlier ++ (before ++ after, node) :: later).map (·.2))) (depth + 1)

/-- An element that lies `depth` deep in the node begins between `before` and `after`. -/
def ElementAt (context : Context) : Bytes → Bytes → Node → Nat → Prop :=
  Reaches context fun _ _ => True

/-- No element that lies as deep comes before this one. -/
def FirstAt (context : Context) : Bytes → Bytes → Node → Nat → Prop :=
  Reaches context fun depth node => node.height < depth

namespace Reaches

variable {before after : Bytes} {node : Node} {depth : Nat}

theorem mono {passed' : Nat → Node → Prop}
    (weaker : ∀ depth node, passed depth node → passed' depth node)
    (reached : Reaches context passed before after node depth) :
    Reaches context passed' before after node depth := by
  induction reached with
  | here form => exact .here form
  | inside start forms separated ending skipped _ ih =>
    exact .inside start forms separated ending
      (fun item member => weaker _ _ (skipped item member)) ih

theorem carry {context' : Context} {kept : String → Prop} (carries : Carries kept context context')
    (keep : ∀ value, kept value) (reached : Reaches context passed before after node depth) :
    Reaches context' passed before after node depth := by
  induction reached with
  | here form => exact .here (form.carry carries fun value _ => keep value)
  | inside start forms separated ending skipped _ ih =>
    exact .inside (start.carry carries fun attr _ => keep attr.value)
      (fun item member => (forms item member).carry carries fun value _ => keep value)
      separated ending skipped ih

theorem pos (reached : Reaches context passed before after node depth) : 0 < depth := by
  cases reached with
  | here => exact Nat.one_pos
  | inside => exact Nat.succ_pos _

theorem not_isText (reached : Reaches context passed before after node depth) :
    node.isText = false := by
  cases reached with
  | here => rfl
  | inside => rfl

theorem begins (reached : Reaches context passed before after node depth) :
    ∃ tail, after = '<'.toUInt8 :: tail := by
  induction reached with
  | here form => exact form.begins rfl
  | inside _ _ _ _ _ _ ih =>
    obtain ⟨tail, rfl⟩ := ih
    exact ⟨_, rfl⟩

theorem nodeText (reached : Reaches context passed before after node depth) :
    NodeText context (before ++ after) node := by
  cases reached with
  | here form => exact form
  | inside opened forms separated closed =>
    simpa using NodeText.element opened forms separated closed

end Reaches

/-! ## The first element of a depth -/

/-- Of the items of which one holds, the first one. -/
theorem exists_first {α : Type} {p : α → Prop} [DecidablePred p] {items : List α}
    (some : ∃ item ∈ items, p item) :
    ∃ earlier item later, items = earlier ++ item :: later ∧ p item ∧
      ∀ other ∈ earlier, ¬ p other := by
  have found : (items.find? fun item => decide (p item)).isSome := by simpa using some
  obtain ⟨item, isFirst⟩ := Option.isSome_iff_exists.1 found
  obtain ⟨holds, earlier, later, split, others⟩ := List.find?_eq_some_iff_append.1 isFirst
  exact ⟨earlier, item, later, split, by simpa using holds, by simpa using others⟩

theorem FirstAt.exists {bytes : Bytes} {node : Node} {depth : Nat}
    (form : NodeText context bytes node) (pos : 0 < depth) (high : depth ≤ node.height) :
    ∃ before after, bytes = before ++ after ∧ FirstAt context before after node depth := by
  induction form generalizing depth with
  | comment | cdata | instruction | text => exact absurd high (by simp [Node.height]; omega)
  | @empty bytes tag form =>
    obtain rfl : depth = 1 := by simp [Node.height, Node.heightOfAll] at high; omega
    exact ⟨[], bytes, rfl, .here (.empty form)⟩
  | @element start ending tag items opened forms separated closed ih =>
    rcases Nat.lt_or_ge 1 depth with deeper | same
    · -- The content is as high as its highest node, so one of its nodes is high enough.
      have some : ∃ item ∈ items, depth - 1 ≤ item.2.height := by
        by_contra none
        have low : Node.heightOfAll (items.map (·.2)) ≤ depth - 2 := by
          refine Node.heightOfAll_le_iff.2 fun node member => ?_
          obtain ⟨item, listed, rfl⟩ := List.mem_map.1 member
          have notHigh : ¬ depth - 1 ≤ item.2.height := fun reaches => none ⟨item, listed, reaches⟩
          omega
        rw [Node.height] at high
        omega
      obtain ⟨earlier, item, later, rfl, reaches, others⟩ := exists_first some
      obtain ⟨before, after, split, first⟩ := ih item (by simp) (by omega) reaches
      obtain ⟨bytes, node⟩ := item
      obtain rfl : bytes = before ++ after := split
      refine ⟨start ++ (earlier.flatMap (·.1) ++ before),
        after ++ (later.flatMap (·.1) ++ ending), by simp, ?_⟩
      have whole := Reaches.inside opened forms separated closed
        (fun other member => Nat.lt_of_not_le (others other member)) first
      rwa [Nat.sub_add_cancel (by omega)] at whole
    · obtain rfl : depth = 1 := by omega
      exact ⟨[], _, rfl, .here (.element opened forms separated closed)⟩

/-- Wherever an element lies, the first one that lies as deep begins no later. -/
theorem ElementAt.exists_first {before after : Bytes} {node : Node} {depth : Nat}
    (given : ElementAt context before after node depth) :
    ∃ before' after', before ++ after = before' ++ after' ∧
      FirstAt context before' after' node depth ∧ before'.length ≤ before.length := by
  induction given with
  | here form => exact ⟨[], _, rfl, .here form, Nat.le_refl _⟩
  | @inside start before after ending tag earlier later node depth opened forms separated closed _
      reached ih =>
    by_cases sooner : ∃ item ∈ earlier, depth ≤ item.2.height
    · -- The first element then lies in the first node that is high enough.
      obtain ⟨passed, item, between, rfl, high, others⟩ := Markup.exists_first sooner
      obtain ⟨before', after', split, first⟩ :=
        FirstAt.exists (forms item (by simp)) reached.pos high
      obtain ⟨bytes, high⟩ := item
      obtain rfl : bytes = before' ++ after' := split
      simp only [List.append_assoc, List.cons_append] at forms separated ⊢
      refine ⟨start ++ (passed.flatMap (·.1) ++ before'), _, ?_, .inside opened forms separated
        closed (fun other member => Nat.lt_of_not_le (others other member)) first, ?_⟩
      · simp
      · simp only [List.length_append, List.flatMap_append, List.flatMap_cons]
        omega
    · obtain ⟨before', after', split, first, le⟩ := ih
      rw [split] at forms separated
      refine ⟨start ++ (earlier.flatMap (·.1) ++ before'),
        after' ++ (later.flatMap (·.1) ++ ending), ?_, ?_, ?_⟩
      · simp only [List.append_assoc]
        rw [← List.append_assoc before after, split, List.append_assoc]
      · rw [split]
        exact .inside opened forms separated closed
          (fun item member => Nat.lt_of_not_le fun high => sooner ⟨item, member, high⟩) first
      · simp
        omega

/-! ## Ends of runs -/

theorem append_inside (start passed before after more ending rest : Bytes) :
    start ++ (passed ++ before) ++ (after ++ (more ++ ending)) ++ rest =
      start ++ (passed ++ ((before ++ after) ++ (more ++ (ending ++ rest)))) := by
  simp

/-- Nodes that are low enough are read before an element inside which it gets too deep. -/
theorem readContent_passed {base depth : Nat} (element : OpenElement) (outer : List OpenElement)
    {earlier later : List (Bytes × Node)} {one : Bytes} {node : Node} (rest : Bytes)
    (counted : element.depth = depthCount base)
    (admitted : ∀ low, low < base + depth → context.limits.Admits low)
    (passed : ∀ item ∈ earlier, item.2.height < depth)
    (forms : ∀ item ∈ earlier ++ (one, node) :: later, NodeText context item.1 item.2)
    (separated : Node.Separated ((earlier ++ (one, node) :: later).map (·.2)))
    (other : node.isText = false) :
    readContent context element outer (earlier.flatMap (·.1) ++ (one ++ rest)) =
      readContent context
        ⟨element.tag, (earlier.map (·.2)).reverse ++ element.children, element.depth⟩
        outer (one ++ rest) := by
  have forms' : ∀ item ∈ earlier, NodeText context item.1 item.2 := fun item member =>
    forms item (by simp [member])
  have adds : ∀ item ∈ earlier, AddsNode context base item.1 item.2 := by
    intro item member
    have low := passed item member
    exact readContent_node (admitted _ (by omega)) (forms' item member)
  have apart : Node.Separated (earlier.map (·.2)) := by
    rw [List.map_append, Node.Separated, List.isChain_append] at separated
    exact separated.1
  have ends : TextEnds (one ++ rest) := by
    obtain ⟨tail, begins⟩ := (forms (one, node) (by simp)).begins other
    rw [show one = _ from begins]
    exact textEnds_of_begins rfl
  exact readContent_items counted adds forms' apart ends

theorem readContent_tooDeep {before after : Bytes} {node : Node} {base depth : Nat}
    (first : FirstAt context before after node depth)
    (admitted : ∀ low, low < base + depth → context.limits.Admits low)
    (refused : ¬ context.limits.Admits (base + depth)) (element : OpenElement)
    (outer : List OpenElement) (rest : Bytes) (counted : element.depth = depthCount base) :
    readContent context element outer ((before ++ after) ++ rest) =
      .error (.here (.depthExceeded context.limits.maxDepth) (after ++ rest)) := by
  induction first generalizing base element outer rest with
  | here form =>
    obtain ⟨closer, start, more, rfl, opened⟩ := form.startTag
    have deep : context.limits.tooDeep (deeper element.depth) = true := by
      rw [counted, deeper_depthCount, ← Bool.not_eq_false, tooDeep_depthCount]
      exact refused
    rw [List.nil_append, List.append_assoc, readContent_eq, readPiece_tooDeep deep opened]
  | @inside start before after ending tag earlier later node depth opened forms separated closed
      passed reached ih =>
    have counted' : deeper element.depth = depthCount (base + 1) := by
      rw [counted, deeper_depthCount]
    have admitted' : ∀ low, low < base + 1 + depth → context.limits.Admits low :=
      fun low less => admitted low (by omega)
    have shallow : context.limits.tooDeep (deeper element.depth) = false := by
      have pos := reached.pos
      rw [counted', tooDeep_depthCount]
      exact admitted' _ (by omega)
    have refused' : ¬ context.limits.Admits (base + 1 + depth) := by
      rwa [Nat.add_assoc, Nat.add_comm 1]
    rw [append_inside, readContent_eq, readPiece_tag false shallow opened]
    simp only [Bool.false_eq_true, if_false]
    -- What stands before the way is low enough to be read, and then the way goes on.
    rw [readContent_passed ⟨tag, [], deeper element.depth⟩ _ _ counted' admitted' passed forms
      separated reached.not_isText, ih admitted' refused' _ _ _ counted']
    simp

theorem readElement_tooDeep {before after rest : Bytes} {root : Element} {depth : Nat}
    (first : FirstAt context before after root.toNode depth)
    (admitted : ∀ low, low < depth → context.limits.Admits low)
    (refused : ¬ context.limits.Admits depth) :
    readElement context ((before ++ after) ++ rest) =
      .error (.here (.depthExceeded context.limits.maxDepth) (after ++ rest)) := by
  obtain ⟨tag, children⟩ := root
  have counted : depthCount 1 = 1 := rfl
  generalize same : Element.toNode ⟨tag, children⟩ = node at first
  cases first with
  | here form =>
    have deep : context.limits.tooDeep 1 = true := by
      rw [← counted, ← Bool.not_eq_false, tooDeep_depthCount]
      exact refused
    rw [readElement, openElement, if_pos deep]
    rfl
  | @inside start before after ending tag earlier later node depth opened forms separated closed
      passed reached =>
    have admitted' : ∀ low, low < 1 + depth → context.limits.Admits low :=
      fun low less => admitted low (by omega)
    have shallow : ¬ context.limits.tooDeep 1 = true := by
      have pos := reached.pos
      rw [Bool.not_eq_true, ← counted, tooDeep_depthCount]
      exact admitted' _ (by omega)
    have refused' : ¬ context.limits.Admits (1 + depth) := by
      rwa [Nat.add_comm]
    have read : ∀ more, readStartTag context (start ++ more) = .ok ((tag, false), more) :=
      fun more => readStartTag_ok_iff.2 ⟨start, rfl, opened⟩
    rw [append_inside, readElement, openElement, if_neg shallow, read]
    change readContent context ⟨tag, [], 1⟩ [] _ = _
    rw [readContent_passed ⟨tag, [], 1⟩ _ _ counted.symm admitted' passed forms separated
      reached.not_isText, readContent_tooDeep reached admitted' refused' _ _ _ counted.symm]
    simp

/-! ## Documents -/

/-- As `Reaches`, for a document with this root: `before` holds its prolog too, and `after` its
epilog. -/
def DocumentReaches (known : Table String) (context : Context) (passed : Nat → Node → Prop)
    (before after : Bytes) (root : Element) (depth : Nat) : Prop :=
  ∃ mark prolog inner more epilog, before = mark ++ (prolog ++ inner) ∧ after = more ++ epilog ∧
    (mark = [] ∨ mark = byteOrderMark) ∧ PrologText known prolog context.entities ∧
    Reaches context passed inner more root.toNode depth ∧ EpilogText epilog

/-- In a document with this root, an element that lies `depth` deep begins between `before` and
`after`. -/
def ElementInDocument (known : Table String) (context : Context) : Bytes → Bytes → Element → Nat →
    Prop :=
  DocumentReaches known context fun _ _ => True

/-- No element of the document that lies as deep comes before this one. -/
def FirstInDocument (known : Table String) (context : Context) : Bytes → Bytes → Element → Nat →
    Prop :=
  DocumentReaches known context fun depth node => node.height < depth

section Documents

variable {known : Table String} {before after : Bytes} {root : Element} {depth : Nat}

theorem DocumentReaches.carry {context' : Context} {kept : String → Prop}
    (carries : Carries kept context context') (same : context.entities = context'.entities)
    (keep : ∀ value, kept value)
    (reached : DocumentReaches known context passed before after root depth) :
    DocumentReaches known context' passed before after root depth := by
  obtain ⟨mark, prolog, inner, more, epilog, split, split', marked, start, way, ending⟩ := reached
  exact ⟨mark, prolog, inner, more, epilog, split, split', marked, same ▸ start,
    way.carry carries keep, ending⟩

theorem DocumentReaches.element
    (reached : DocumentReaches known context passed before after root depth) :
    ElementInDocument known context before after root depth := by
  obtain ⟨mark, prolog, inner, more, epilog, split, split', marked, start, way, ending⟩ := reached
  exact ⟨mark, prolog, inner, more, epilog, split, split', marked, start,
    way.mono fun _ _ _ => trivial, ending⟩

theorem DocumentReaches.begins
    (reached : DocumentReaches known context passed before after root depth) :
    ∃ tail, after = '<'.toUInt8 :: tail := by
  obtain ⟨mark, prolog, inner, more, epilog, -, rfl, -, -, way, -⟩ := reached
  obtain ⟨tail, rfl⟩ := way.begins
  exact ⟨_, rfl⟩

theorem FirstInDocument.exists {bytes : Bytes} (form : DocumentText known context bytes root)
    (pos : 0 < depth) (high : depth ≤ root.height) :
    ∃ before after, bytes = before ++ after ∧
      FirstInDocument known context before after root depth := by
  obtain ⟨mark, prolog, body, epilog, rfl, marked, start, node, ending⟩ := form
  obtain ⟨inner, more, rfl, first⟩ := FirstAt.exists node pos high
  exact ⟨mark ++ (prolog ++ inner), more ++ epilog, by simp, mark, prolog, inner, more, epilog,
    rfl, rfl, marked, start, first, ending⟩

theorem DocumentReaches.exists_first
    (given : DocumentReaches known context passed before after root depth) :
    ∃ before' after', before ++ after = before' ++ after' ∧
      FirstInDocument known context before' after' root depth ∧
      before'.length ≤ before.length := by
  obtain ⟨mark, prolog, inner, more, epilog, rfl, rfl, marked, start, way, ending⟩ := given
  obtain ⟨inner', more', split, first, le⟩ :=
    ElementAt.exists_first (way.mono fun _ _ _ => trivial)
  refine ⟨mark ++ (prolog ++ inner'), more' ++ epilog, ?_, ⟨mark, prolog, inner', more', epilog,
    rfl, rfl, marked, start, first, ending⟩, ?_⟩
  · simp only [List.append_assoc]
    rw [← List.append_assoc inner, split, List.append_assoc]
  · simp
    omega

theorem readDocument_tooDeep {limits : Limits} {entities : Table String}
    (first : FirstInDocument known ⟨limits, entities⟩ before after root depth)
    (fits : limits.oversized (before ++ after).length = false)
    (admitted : ∀ low, low < depth → limits.Admits low) (refused : ¬ limits.Admits depth) :
    readDocument limits known (before ++ after) =
      (entities, .error (.here (.depthExceeded limits.maxDepth) after)) := by
  obtain ⟨mark, prolog, inner, more, epilog, rfl, rfl, marked, start, way, -⟩ := first
  have split : mark ++ (prolog ++ inner) ++ (more ++ epilog) =
      mark ++ (prolog ++ ((inner ++ more) ++ epilog)) := by
    simp
  have rooted : readBody ⟨limits, entities⟩ ((inner ++ more) ++ epilog) =
      .error (.here (.depthExceeded limits.maxDepth) (more ++ epilog)) := by
    obtain ⟨tail, begins⟩ := way.nodeText.begins rfl
    unfold readBody
    rw [readElement_tooDeep way admitted refused, if_neg (by simp [begins])]
    rfl
  rw [split] at fits ⊢
  rw [readDocument_prolog marked start way.nodeText fits, rooted]

end Documents

end XmlBuilder.Markup
