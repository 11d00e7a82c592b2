import Mathlib.Data.List.TakeWhile
import XmlBuilder.Proofs.Builder.Recomposition

/-!
# Layout that an expression does not show

Of a text an expression shows what is left without the blank characters at its ends, and nothing if
nothing is left. Lists of nodes are `Alike` if they hold the same tags and give the same calls
wherever they stand; so are lists that differ in the ends of a text (`Alike.text`) or in a blank
text (`Alike.blank`), and lists of which the parts are alike (`Alike.append`, `Alike.element`).
Trees with alike children have the same expression (`compose_document_alike`).
-/
namespace XmlBuilder

/-! ## Blank ends -/

namespace Text

theorem dropWhile_blank {blank : List Char} (blanks : blank.all isBlank = true) (cs : List Char) :
    (blank ++ cs).dropWhile isBlank = cs.dropWhile isBlank :=
  List.dropWhile_append_of_pos (List.all_eq_true.1 blanks)

theorem trim_blank_append {blank : String} (blanks : isBlankText blank = true) (text : String) :
    trim (blank ++ text) = trim text := by
  rw [trim, trim, trimChars, trimChars, String.toList_append, dropWhile_blank blanks]

theorem trim_append_blank {blank : String} (blanks : isBlankText blank = true) (text : String) :
    trim (text ++ blank) = trim text := by
  by_cases none : isBlankText text = true
  · have whole : isBlankText (text ++ blank) = true := by
      rw [isBlankText, String.toList_append, List.all_append, Bool.and_eq_true]
      exact ⟨none, blanks⟩
    rw [isBlankText_iff.1 none, isBlankText_iff.1 whole]
  · -- What is left of the text without its blank front ends visibly or in front of `blank`.
    have left : text.toList.dropWhile isBlank ≠ [] := by
      intro dropped
      rw [List.dropWhile_eq_nil_iff] at dropped
      exact none (List.all_eq_true.2 dropped)
    have reversed : blank.toList.reverse.all isBlank = true := by
      rw [List.all_reverse]
      exact blanks
    rw [trim, trim, trimChars, trimChars, String.toList_append, List.dropWhile_append,
      if_neg (by simpa using left), List.reverse_append, dropWhile_blank reversed]

end Text

namespace Builder

/-! ## Lists of nodes -/

theorem tagsOf_append (nodes more : List Node) :
    Node.tagsOf (nodes ++ more) = Node.tagsOf nodes ++ Node.tagsOf more := by
  induction nodes with
  | nil => rfl
  | cons node rest ih => rw [List.cons_append, Node.tagsOf, Node.tagsOf, ih, List.append_assoc]

theorem statedCalls_append (declares : String → Attribute → Bool) (before : Bindings)
    (all : List Tag) (place : Nat) (nodes more : List Node) :
    statedCalls declares before all place (nodes ++ more) =
      statedCalls declares before all place nodes ++
        statedCalls declares before all (place + (Node.tagsOf nodes).length) more := by
  induction nodes generalizing place with
  | nil => rfl
  | cons node rest ih =>
    rw [List.cons_append, statedCalls, statedCalls, ih, Node.tagsOf, List.length_append,
      Nat.add_assoc, List.append_assoc]

/-- The nodes of both lists hold the same tags and give the same calls, wherever they stand. -/
structure Alike (nodes others : List Node) : Prop where
  tags : Node.tagsOf nodes = Node.tagsOf others
  calls : ∀ declares before all place,
    statedCalls declares before all place nodes = statedCalls declares before all place others

namespace Alike

theorem refl (nodes : List Node) : Alike nodes nodes :=
  ⟨rfl, fun _ _ _ _ => rfl⟩

theorem append {nodes others more further : List Node} (first : Alike nodes others)
    (later : Alike more further) : Alike (nodes ++ more) (others ++ further) where
  tags := by rw [tagsOf_append, tagsOf_append, first.tags, later.tags]
  calls declares before all place := by
    rw [statedCalls_append, statedCalls_append, first.calls, first.tags, later.calls]

/-- In the same surroundings too. -/
theorem within {nodes others : List Node} (alike : Alike nodes others) (earlier later : List Node) :
    Alike (earlier ++ (nodes ++ later)) (earlier ++ (others ++ later)) :=
  (refl earlier).append (alike.append (refl later))

theorem element (tag : Tag) {children others : List Node} (alike : Alike children others) :
    Alike [.element tag children] [.element tag others] where
  tags := by simp only [Node.tagsOf, Node.tags, alike.tags]
  calls declares before all place := by simp only [statedCalls, statedCall, alike.calls]

theorem text {value other : String} (same : Text.trim value = Text.trim other) :
    Alike [.text value] [.text other] where
  tags := rfl
  calls declares before all place := by
    have blank : Text.isBlankText value = Text.isBlankText other :=
      Bool.eq_iff_iff.2 (by rw [Text.isBlankText_iff, Text.isBlankText_iff, same])
    simp only [statedCalls, statedCall, same, blank]

theorem blank {value : String} (none : Text.trim value = "") : Alike [] [.text value] where
  tags := rfl
  calls declares before all place := by
    simp only [statedCalls, statedCall, Text.isBlankText_iff.2 none, if_true]
    rfl

end Alike

theorem compose_document_alike (before : Bindings) (tag : Tag) {children others : List Node}
    (alike : Alike children others) :
    (compose before ⟨tag, children⟩).document = (compose before ⟨tag, others⟩).document := by
  rw [compose_document_eq, compose_document_eq]
  simp only [statedDocument, statedRoot, Element.tags, alike.tags, alike.calls]

end Builder
end XmlBuilder
