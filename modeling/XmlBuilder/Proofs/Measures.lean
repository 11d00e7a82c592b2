import XmlBuilder.Markup.Content

/-!
# What limits are held against

The height of a tree and the values in it, that is its texts and attribute values. Elements are
counted as deep as they lie, but the count stops at its highest value; `Limits.Admits` says for
depths of any size what a limit lets through (`tooDeep_depthCount`).
-/
namespace XmlBuilder

namespace Node

mutual

/-- How many elements lie in one another. -/
def height : Node → Nat
  | .element _ children => heightOfAll children + 1
  | _ => 0

def heightOfAll : List Node → Nat
  | [] => 0
  | node :: rest => max node.height (heightOfAll rest)

end

mutual

/-- The texts and attribute values of a node and of all nodes within it. -/
def values : Node → List String
  | .element tag children => tag.attributes.map (·.value) ++ valuesOfAll children
  | .text value => [value]
  | .attr given => [given.value]
  | _ => []

def valuesOfAll : List Node → List String
  | [] => []
  | node :: rest => node.values ++ valuesOfAll rest

end

theorem heightOfAll_le_iff {nodes : List Node} {bound : Nat} :
    heightOfAll nodes ≤ bound ↔ ∀ node ∈ nodes, node.height ≤ bound := by
  induction nodes with
  | nil => simp [heightOfAll]
  | cons node rest ih => rw [heightOfAll, Nat.max_le, ih, List.forall_mem_cons]

theorem height_lt_of_mem (tag : Tag) {children : List Node} {child : Node}
    (member : child ∈ children) : child.height < (element tag children).height := by
  rw [height]
  exact Nat.lt_succ_of_le (heightOfAll_le_iff.1 (Nat.le_refl _) child member)

theorem mem_valuesOfAll {nodes : List Node} {value : String} :
    value ∈ valuesOfAll nodes ↔ ∃ node ∈ nodes, value ∈ node.values := by
  induction nodes with
  | nil => simp [valuesOfAll]
  | cons node rest ih => simp [valuesOfAll, ih]

end Node

def Element.height (element : Element) : Nat := element.toNode.height

def Element.values (element : Element) : List String := element.toNode.values

/-- An element that lies this deep is let through. Counting stops at the highest count there is,
and a limit as high as that lets everything through. -/
def Limits.Admits (limits : Limits) (depth : Nat) : Prop :=
  limits.maxDepth = 0 ∨ limits.maxDepth = 0xFFFF ∨ depth ≤ limits.maxDepth.toNat

theorem Limits.Admits.mono {limits : Limits} {depth deep : Nat} (le : depth ≤ deep)
    (admitted : limits.Admits deep) : limits.Admits depth := by
  rcases admitted with unlimited | highest | within
  · exact .inl unlimited
  · exact .inr (.inl highest)
  · exact .inr (.inr (by omega))

namespace Markup

/-- What is counted for an element that lies this deep. -/
def depthCount (depth : Nat) : UInt16 :=
  UInt16.ofNat (min depth 0xFFFF)

theorem toNat_depthCount (depth : Nat) : (depthCount depth).toNat = min depth 0xFFFF := by
  rw [depthCount, UInt16.toNat_ofNat']
  omega

theorem deeper_depthCount (depth : Nat) : deeper (depthCount depth) = depthCount (depth + 1) := by
  apply UInt16.toNat_inj.1
  have counted := toNat_depthCount depth
  unfold deeper
  split
  · next highest =>
    rw [beq_iff_eq.1 highest] at counted
    rw [beq_iff_eq.1 highest, toNat_depthCount]
    simp at counted ⊢
    omega
  · next other =>
    have below : (depthCount depth).toNat ≠ 0xFFFF := by
      intro same
      exact other (beq_iff_eq.2 (UInt16.toNat_inj.1 same))
    rw [UInt16.toNat_add, counted, toNat_depthCount]
    simp
    omega

theorem tooDeep_depthCount {limits : Limits} {depth : Nat} :
    limits.tooDeep (depthCount depth) = false ↔ limits.Admits depth := by
  have counted := toNat_depthCount depth
  have bound := limits.maxDepth.toNat_lt
  have unlimited : limits.maxDepth = 0 ↔ limits.maxDepth.toNat = 0 := UInt16.toNat_inj.symm
  have highest : limits.maxDepth = 0xFFFF ↔ limits.maxDepth.toNat = 0xFFFF :=
    UInt16.toNat_inj.symm
  simp only [Limits.tooDeep, Limits.Admits, Bool.and_eq_false_iff, bne_eq_false_iff_eq,
    decide_eq_false_iff_not, UInt16.lt_iff_toNat_lt, counted, unlimited, highest]
  omega

end Markup
end XmlBuilder
