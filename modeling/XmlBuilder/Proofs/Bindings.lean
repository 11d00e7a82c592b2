import Mathlib.Data.Set.Card
import XmlBuilder.Proofs.Builder.Recomposition

/-!
# Bindings along any elements

Elements are met one after the other, whatever their attributes are called and however often one
name comes. Which value a prefix has is settled by its last declaration and where it stands by its
first one.

* one attribute leaves the prefixes in the order of their first declarations (`InOrder.declare`);
* so do all attributes of all elements (`inOrder_record_all`);
* attributes `xmlns` are answered with and never recorded (`record_withoutDefault`);
* together this determines the bindings (`meetAll_last_in_first_order`), and a composition leaves
  those that its tags leave when they are met in document order (`compose_bindings_eq_meetAll`).
-/
namespace XmlBuilder

theorem Table.length_eq_ncard {α : Type} {table : Table α} (distinct : table.keys.Nodup) :
    table.length = {name | name ∈ table.keys}.ncard := by
  rw [← List.coe_toFinset, Set.ncard_coe_finset, List.toFinset_card_of_nodup distinct, keys,
    List.length_map]

namespace Tag

/-- The first attribute of this name has this value. -/
def HasFirst (tag : Tag) (name value : String) : Prop :=
  ∃ before after, tag.attributes = before ++ ⟨name, value⟩ :: after ∧
    ∀ attr ∈ before, attr.name ≠ name

theorem attribute?_eq_some_iff (tag : Tag) (name value : String) :
    tag.attribute? name = some value ↔ tag.HasFirst name value := by
  unfold attribute? HasFirst
  rw [Option.map_eq_some_iff]
  constructor
  · rintro ⟨attr, found, rfl⟩
    obtain ⟨named, before, after, split, others⟩ := List.find?_eq_some_iff_append.1 found
    rw [beq_iff_eq] at named
    subst named
    exact ⟨before, after, split, fun other member => by simpa using others other member⟩
  · rintro ⟨before, after, split, others⟩
    refine ⟨⟨name, value⟩, List.find?_eq_some_iff_append.2 ⟨beq_self_eq_true name, ?_⟩, rfl⟩
    exact ⟨before, after, split, fun other member => by simpa using others other member⟩

/-- The tag without its attributes `xmlns`. -/
def withoutDefault (tag : Tag) : Tag :=
  { tag with attributes := tag.attributes.filter (·.name != xmlns) }

end Tag

namespace Attribute

theorem declares_of_filled {label : String} (filled : label ≠ "") :
    declares label = isNamed label := by
  funext attr
  rw [declares, bne_iff_ne.2 filled, Bool.true_and]

/-- `xmlns` is shorter than all names that declare a prefix. -/
theorem not_declares_default {attr : Attribute} (named : attr.name = xmlns) (label : String) :
    attr.declares label = false := by
  have longer : xmlns ≠ xmlns ++ ":" ++ label := by
    intro same
    have lengths := congrArg String.length same
    rw [String.length_append, String.length_append, show String.length ":" = 1 from rfl] at lengths
    omega
  rw [declares, isNamed, named, beq_eq_false_iff_ne.2 longer, Bool.and_false]

end Attribute

namespace Bindings

/-! ## One attribute -/

/-- The prefixes of the bindings are those that the attributes `seen` declare, in the order of the
first attributes that do so. -/
structure InOrder (seen : List Attribute) (bindings : Bindings) : Prop where
  bound : ∀ label, label ∈ bindings.keys ↔ ∃ attr ∈ seen, attr.declares label = true
  increasing : bindings.keys.Pairwise fun first later =>
    seen.findIdx (Attribute.declares first) < seen.findIdx (Attribute.declares later)

namespace InOrder

variable {seen : List Attribute} {bindings : Bindings}

theorem inside (order : InOrder seen bindings) {label : String} (member : label ∈ bindings.keys) :
    seen.findIdx (Attribute.declares label) < seen.length :=
  List.findIdx_lt_length.2 ((order.bound label).1 member)

/-- What is declared first stays so, whatever comes later. -/
theorem increasing_append (order : InOrder seen bindings) (more : List Attribute) :
    bindings.keys.Pairwise fun first later =>
      (seen ++ more).findIdx (Attribute.declares first) <
        (seen ++ more).findIdx (Attribute.declares later) := by
  refine order.increasing.imp_of_mem fun {first later} earlier behind less => ?_
  rw [List.findIdx_append, List.findIdx_append, if_pos (order.inside earlier),
    if_pos (order.inside behind)]
  exact less

theorem declared_append (order : InOrder seen bindings) (attr : Attribute) (label : String) :
    (∃ other ∈ seen ++ [attr], other.declares label = true) ↔
      label ∈ bindings.keys ∨ attr.declares label = true := by
  rw [order.bound]
  simp [or_and_right, exists_or]

/-- A prefix that is bound gets a new value in its old place. -/
theorem insert_old (order : InOrder seen bindings) {attr : Attribute} {label : String}
    (declared : attr.declares label = true) (old : label ∈ bindings.keys) :
    InOrder (seen ++ [attr]) (Table.insert label attr.value bindings) := by
  have same := Table.keys_insert_of_old old attr.value
  constructor
  · intro other
    rw [same, order.declared_append]
    refine ⟨.inl, fun either => either.elim id fun also => ?_⟩
    exact declares_unique declared also ▸ old
  · rw [same]
    exact order.increasing_append [attr]

/-- A prefix that is not bound comes behind all that are: of `seen` no attribute declares it. -/
theorem insert_new (order : InOrder seen bindings) {attr : Attribute} {label : String}
    (declared : attr.declares label = true) (new : label ∉ bindings.keys) :
    InOrder (seen ++ [attr]) (Table.insert label attr.value bindings) := by
  have added : (Table.insert label attr.value bindings).keys = bindings.keys ++ [label] := by
    rw [Table.insert_of_new new]
    exact Table.keys_append bindings [(label, attr.value)]
  have unseen : ¬ seen.findIdx (Attribute.declares label) < seen.length :=
    fun within => new ((order.bound label).2 (List.findIdx_lt_length.1 within))
  constructor
  · intro other
    rw [added, order.declared_append, List.mem_append, List.mem_singleton]
    refine or_congr_right ⟨fun same => same ▸ declared, fun also => ?_⟩
    exact declares_unique also declared
  · rw [added, List.pairwise_append]
    refine ⟨order.increasing_append [attr], List.pairwise_singleton _ _, ?_⟩
    intro first earlier later last
    have within := order.inside earlier
    rw [List.mem_singleton.1 last, List.findIdx_append, List.findIdx_append, if_pos within,
      if_neg unseen]
    omega

theorem declare (order : InOrder seen bindings) (attr : Attribute) :
    InOrder (seen ++ [attr]) (bindings.declare attr) := by
  rcases declare_cases bindings attr with ⟨label, declared, added⟩ | ⟨silent, same⟩
  · rw [added]
    by_cases old : label ∈ bindings.keys
    · exact order.insert_old declared old
    · exact order.insert_new declared old
  · rw [same]
    refine ⟨fun label => ?_, order.increasing_append [attr]⟩
    rw [order.declared_append, silent label]
    simp

theorem mem_keys_iff (order : InOrder seen bindings) (label : String) :
    label ∈ bindings.keys ↔ label ≠ "" ∧ ∃ attr ∈ seen, attr.isNamed label = true := by
  rw [order.bound]
  simp only [Attribute.declares, Bool.and_eq_true, bne_iff_ne]
  constructor
  · rintro ⟨attr, member, filled, named⟩
    exact ⟨filled, attr, member, named⟩
  · rintro ⟨filled, attr, member, named⟩
    exact ⟨attr, member, filled, named⟩

theorem nodup (order : InOrder seen bindings) : bindings.keys.Nodup :=
  order.increasing.imp fun less same => absurd (same ▸ less) (Nat.lt_irrefl _)

end InOrder

/-! ## All elements -/

theorem lastDeclared_declares (label : String) (tags : List Tag) :
    lastDeclared (Attribute.declares label) tags =
      if label = "" then none else lastDeclared (Attribute.isNamed label) tags := by
  split
  · next empty =>
    have silent (attr : Attribute) : ¬ attr.declares label = true :=
      fun declared => ((declares_iff attr label).1 declared).1 empty
    rw [lastDeclared, List.find?_eq_none.2 fun attr _ => silent attr, Option.map_none]
  · next filled => rw [Attribute.declares_of_filled filled]

theorem inOrder_declare_all (attributes : List Attribute) {seen : List Attribute}
    {bindings : Bindings} (order : InOrder seen bindings) :
    InOrder (seen ++ attributes) (attributes.foldl declare bindings) := by
  induction attributes generalizing seen bindings with
  | nil => rwa [List.append_nil]
  | cons attr rest ih =>
    rw [List.foldl_cons, List.append_cons]
    exact ih (order.declare attr)

theorem inOrder_record_all (tags : List Tag) :
    InOrder (tags.flatMap (·.attributes)) (tags.foldl record []) := by
  have start : InOrder [] [] := ⟨fun label => by simp [Table.keys], List.Pairwise.nil⟩
  rw [record_all_eq]
  exact inOrder_declare_all _ start

theorem declare_default {attr : Attribute} (named : attr.name = xmlns) (bindings : Bindings) :
    bindings.declare attr = bindings := by
  rcases declare_cases bindings attr with ⟨label, declared, -⟩ | ⟨-, same⟩
  · cases (Attribute.not_declares_default named label).symm.trans declared
  · exact same

theorem record_withoutDefault (bindings : Bindings) (tag : Tag) :
    bindings.record tag.withoutDefault = bindings.record tag := by
  unfold record Tag.withoutDefault
  dsimp only
  induction tag.attributes generalizing bindings with
  | nil => rfl
  | cons attr rest ih =>
    by_cases default : attr.name = xmlns
    · rw [List.filter_cons_of_neg (by simp [default]), List.foldl_cons, declare_default default, ih]
    · rw [List.filter_cons_of_pos (by simp [default]), List.foldl_cons, List.foldl_cons, ih]

/-- Meets the elements one after the other. The answers come in the same order. -/
def meetAll (bindings : Bindings) : List Tag → Bindings × List (Option String)
  | [] => (bindings, [])
  | tag :: rest =>
    let (met, own) := bindings.meet tag
    let (left, others) := met.meetAll rest
    (left, own :: others)

theorem meetAll_eq (bindings : Bindings) (tags : List Tag) :
    bindings.meetAll tags = (tags.foldl record bindings, tags.map (·.attribute? xmlns)) := by
  induction tags generalizing bindings with
  | nil => rfl
  | cons tag rest ih =>
    rw [meetAll, meet]
    dsimp only
    rw [ih, List.foldl_cons, List.map_cons]

/-- Whatever elements are met, from the start: a prefix is bound to what the last attribute
`xmlns:…` for it says, and the empty prefix to nothing. Each prefix that is bound is listed once,
with its value, the one that was declared first before the others. So many are listed as are
declared. Each element is answered with its own first attribute `xmlns`; without the attributes of
this name the bindings would be the same. -/
theorem meetAll_last_in_first_order (tags : List Tag) :
    let bindings := (meetAll [] tags).1
    let attributes := tags.flatMap (·.attributes)
    let declared : Set String := {label | label ≠ "" ∧ ∃ attr ∈ attributes, attr.isNamed label}
    (∀ label, Table.find? bindings label =
      if label = "" then none else lastDeclared (Attribute.isNamed label) tags) ∧
    (∀ label uri, (label, uri) ∈ bindings ↔ Table.find? bindings label = some uri) ∧
    (Table.keys bindings).Nodup ∧
    (bindings.Pairwise fun first later =>
      attributes.findIdx (Attribute.isNamed first.1) <
        attributes.findIdx (Attribute.isNamed later.1)) ∧
    bindings.length = declared.ncard ∧
    (bindings.isEmpty = true ↔ declared = ∅) ∧
    List.Forall₂ (fun tag own => ∀ uri, own = some uri ↔ tag.HasFirst xmlns uri) tags
      (meetAll [] tags).2 ∧
    (meetAll [] (tags.map Tag.withoutDefault)).1 = bindings := by
  intro bindings attributes declared
  have met : bindings = tags.foldl record [] := congrArg Prod.fst (meetAll_eq [] tags)
  have order : InOrder attributes bindings := met ▸ inOrder_record_all tags
  have bound (label : String) : label ∈ bindings.keys ↔ label ∈ declared :=
    order.mem_keys_iff label
  have names : declared = {label | label ∈ bindings.keys} :=
    Set.ext fun label => (bound label).symm
  refine ⟨fun label => ?_, fun label uri => ?_, order.nodup, ?_, ?_, ?_, ?_, ?_⟩
  · rw [met, find?_record_all, lastDeclared_declares]
    exact Option.or_none
  · exact ⟨Table.find?_of_mem order.nodup, Table.mem_of_find?⟩
  · refine (List.pairwise_map.1 order.increasing).imp_of_mem fun {first later} earlier behind => ?_
    rw [Attribute.declares_of_filled ((bound first.1).1 (List.mem_map_of_mem earlier)).1,
      Attribute.declares_of_filled ((bound later.1).1 (List.mem_map_of_mem behind)).1]
    exact id
  · rw [names, Table.length_eq_ncard order.nodup]
  · have nameless : Table.keys bindings = [] ↔ bindings = [] := List.map_eq_nil_iff
    rw [List.isEmpty_iff, ← nameless, List.eq_nil_iff_forall_not_mem,
      Set.eq_empty_iff_forall_notMem]
    exact forall_congr' fun label => not_congr (bound label)
  · rw [meetAll_eq, List.forall₂_map_right_iff, List.forall₂_same]
    exact fun tag _ uri => tag.attribute?_eq_some_iff xmlns uri
  · rw [met, meetAll_eq, List.foldl_map]
    simp only [record_withoutDefault]

/-- Of two elements the second binds `p` anew and is without a default namespace. -/
example :
    meetAll []
      [⟨"a", [⟨"xmlns:p", "1"⟩, ⟨"xmlns", "2"⟩, ⟨"xmlns:", "3"⟩, ⟨"xmlns:q:r", "4"⟩,
        ⟨"xmlns:q:r", "5"⟩, ⟨"xmlns", "6"⟩]⟩,
       ⟨"b", [⟨"xmlnsp", "7"⟩, ⟨"xmlns:q", "8"⟩, ⟨"xmlns:p", "9"⟩]⟩] =
    ([("p", "9"), ("q:r", "5"), ("q", "8")], [some "2", none]) := by
  decide

end Bindings

/-- A composition leaves the bindings that its tags leave when they are met in document order. -/
theorem Builder.compose_bindings_eq_meetAll (before : Bindings) (root : Element) :
    (compose before root).bindings = (Bindings.meetAll before root.tags).1 := by
  rw [compose_bindings_eq, Bindings.meetAll_eq, Bindings.record_all_eq_insertAll]

end XmlBuilder
