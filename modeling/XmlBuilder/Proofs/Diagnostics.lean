import XmlBuilder.Proofs.Builder.Recomposition
import XmlBuilder.Proofs.Generation

/-!
# What there is to log

The log of a generation, given from the tree of its document alone, as the events that it shows:
for each element, in document order, a warning if its prefix is bound nowhere up to there, for each
node without a call its kind, and a warning for the root, whose prefix may be bound anywhere, at the
end (`statedLog`).

* a walk notes what is stated for each node (`composeNode_events`);
* it warns of a prefix just where it writes a namespace that is missing (`composeNode_unbound`).

So the log is the stated one between what is logged at the start and at the end (`log_stated`).
-/
namespace XmlBuilder

/-- The warning of a prefix. -/
def Event.warning (label : String) : Event :=
  ⟨.warn, "namespace prefix is not bound anywhere in the document", [("prefix", .text label)]⟩

/-- The remark that a node of this kind has no call. -/
def Event.remark (kind : String) : Event :=
  ⟨.debug, "skipping node that has no builder call", [("kind", .text kind)]⟩

/-- The prefix that a diagnostic says is not bound. -/
def Diagnostic.unbound? : Diagnostic → Option String
  | .unbound label => some label
  | _ => none

/-- The warnings in a log are those of prefixes. -/
theorem warnings_eq (diagnostics : List Diagnostic) :
    (diagnostics.map Diagnostic.event).filter (·.level == .warn) =
      (diagnostics.filterMap Diagnostic.unbound?).map Event.warning := by
  induction diagnostics with
  | nil => rfl
  | cons diagnostic rest ih =>
    cases diagnostic with
    | unbound label =>
      rw [List.map_cons, List.filter_cons_of_pos rfl, ih]
      rfl
    | _ =>
      rw [List.map_cons, List.filter_cons_of_neg Bool.false_ne_true, ih,
        List.filterMap_cons_none rfl]

namespace Builder

/-! ## The log of a tree, stated -/

/-- No attribute on the tags binds this label. -/
def Undeclared (label : String) (tags : List Tag) : Prop :=
  ∀ tag ∈ tags, ∀ attr ∈ tag.attributes, attr.declares label = false

instance (label : String) (tags : List Tag) : Decidable (Undeclared label tags) :=
  List.decidableBAll _ tags

section
variable (before : Bindings)

/-- A warning for an element whose prefix neither its own tag nor what was bound before gives a
namespace to, nor a declaration on the tags `seen`. -/
def statedWarning (seen : List Tag) (tag : Tag) : List Event :=
  match tag.namePrefix with
  | none => []
  | some label =>
    if tag.attribute? xmlns = none ∧ Undeclared label seen ∧ Table.find? before label = none then
      [.warning label]
    else []

mutual

/-- What there is to log for a node in a tree with the tags `all`, where the next tag in document
order is the one at `place`. -/
def statedEvents (all : List Tag) (place : Nat) : Node → List Event
  | .element tag children =>
    statedWarning before (all.take (place + 1)) tag ++
      statedEventsOf all (place + 1) children
  | .comment _ => [.remark "comment"]
  | .instruction _ _ => [.remark "processing instruction"]
  | .cdata _ => [.remark "cdata section"]
  | .text _ | .attr _ => []

def statedEventsOf (all : List Tag) (place : Nat) : List Node → List Event
  | [] => []
  | node :: rest =>
    statedEvents all place node ++ statedEventsOf all (place + node.tags.length) rest

end

/-- What there is to log for a whole tree; the root comes last, and all tags can bind its
prefix. -/
def statedLog (root : Element) : List Event :=
  statedEventsOf before root.tags 1 root.children ++ statedWarning before root.tags root.tag

end

/-! ## The walk notes what is stated -/

theorem lastDeclared_eq_none_iff {label : String} {tags : List Tag} :
    lastDeclared (Attribute.declares label) tags = none ↔ Undeclared label tags := by
  rw [lastDeclared, Option.map_eq_none_iff, List.find?_eq_none]
  simp only [List.mem_reverse, List.mem_flatMap, Bool.not_eq_true]
  constructor
  · exact fun none tag member attr given => none attr ⟨tag, member, given⟩
  · rintro none attr ⟨tag, member, given⟩
    exact none tag member attr given

theorem resolve_eq_none_iff {before : Bindings} {seen : List Tag} {label : String}
    {own : Option String} :
    Bindings.resolve (seen.foldl Bindings.record before) label own = none ↔
      own = none ∧ Undeclared label seen ∧ Table.find? before label = none := by
  rw [resolve_eq, Option.or_eq_none_iff, Option.or_eq_none_iff, lastDeclared_eq_none_iff]

/-- Looking up the root's prefix again after the walk, it is bound nowhere at all. -/
theorem resolve_twice_eq_none_iff {before : Bindings} {tag : Tag} {below : List Tag}
    {label : String} {own : Option String} :
    Bindings.resolve ((tag :: below).foldl Bindings.record before) label
        (Bindings.resolve (before.record tag) label own) = none ↔
      own = none ∧ Undeclared label (tag :: below) ∧ Table.find? before label = none := by
  have atRoot := @resolve_eq_none_iff before [tag] label own
  rw [List.foldl_cons, List.foldl_nil] at atRoot
  rw [resolve_eq_none_iff, atRoot]
  constructor
  · rintro ⟨⟨unstated, -, unbound⟩, undeclared, -⟩
    exact ⟨unstated, undeclared, unbound⟩
  · rintro ⟨unstated, undeclared, unbound⟩
    refine ⟨⟨unstated, fun other member => ?_, unbound⟩, undeclared, unbound⟩
    exact undeclared other (by simp [List.mem_singleton.1 member])

/-- What a walk has logged, the latest first. -/
def Walk.events (walk : Walk) : List Event :=
  walk.diagnostics.map Diagnostic.event

theorem Walk.resolve_events (walk : Walk) (label : String) (own : Option String) :
    (walk.resolve label own).1.events =
      if walk.bindings.resolve label own = none then .warning label :: walk.events
      else walk.events := by
  unfold resolve
  split
  · next uri found => rw [found, if_neg (by simp)]
  · next none => rw [none, if_pos rfl]; rfl

theorem Walk.resolveTag_events {before : Bindings} {seen : List Tag} {walk : Walk}
    (met : walk.bindings = seen.foldl Bindings.record before) (tag : Tag) :
    (walk.resolveTag tag).1.events = statedWarning before seen tag ++ walk.events := by
  unfold resolveTag statedWarning
  cases tag.namePrefix with
  | none => rfl
  | some label =>
    dsimp only
    rw [Walk.resolve_events, met]
    simp only [resolve_eq_none_iff]
    split <;> rfl

theorem statedWarning_reverse (before : Bindings) (seen : List Tag) (tag : Tag) :
    (statedWarning before seen tag).reverse = statedWarning before seen tag := by
  unfold statedWarning
  split
  · rfl
  · split <;> rfl

mutual

theorem composeNode_events (before : Bindings) (all : List Tag) (place : Nat) (walk : Walk)
    (met : walk.bindings = (all.take place).foldl Bindings.record before) : (node : Node) →
    node.tags <+: all.drop place →
    (composeNode walk node).1.events =
      (statedEvents before all place node).reverse ++ walk.events
  | .element tag children, here => by
    rw [Node.tags] at here
    have own : all.take (place + 1) = all.take place ++ [tag] :=
      take_past ((List.prefix_append [tag] _).trans here)
    have inside : Node.tagsOf children <+: all.drop (place + [tag].length) := rest_ahead here
    have recorded : (walk.record tag).bindings =
        (all.take (place + 1)).foldl Bindings.record before := by
      rw [own, List.foldl_append, ← met]
      rfl
    have entered := (Walk.resolveTag_bindings (walk.record tag) tag).trans recorded
    rw [composeNode, statedEvents]
    dsimp only
    rw [composeNodes_events before all _ _ entered children inside,
      Walk.resolveTag_events recorded, List.reverse_append, statedWarning_reverse,
      List.append_assoc]
    rfl
  | .text _, _ | .attr _, _ => by
    rw [composeNode, statedEvents]
    rfl
  | .comment _, _ | .instruction _ _, _ | .cdata _, _ => by
    rw [composeNode_silent walk rfl, statedEvents]
    rfl

theorem composeNodes_events (before : Bindings) (all : List Tag) (place : Nat) (walk : Walk)
    (met : walk.bindings = (all.take place).foldl Bindings.record before) : (nodes : List Node) →
    Node.tagsOf nodes <+: all.drop place →
    (composeNodes walk [] [] nodes).1.events =
      (statedEventsOf before all place nodes).reverse ++ walk.events
  | [], _ => rfl
  | node :: rest, here => by
    rw [Node.tagsOf] at here
    have first : node.tags <+: all.drop place := (List.prefix_append _ _).trans here
    have later : Node.tagsOf rest <+: all.drop (place + node.tags.length) := rest_ahead here
    rw [statedEventsOf, List.reverse_append]
    cases blank : node.isBlank with
    | true =>
      rw [composeNodes_blank walk blank]
      obtain ⟨value, rfl, -⟩ := Node.text_of_isBlank blank
      rw [statedEvents, List.reverse_nil, List.append_nil]
      exact composeNodes_events before all place walk met rest later
    | false =>
      have past : (composeNode walk node).1.bindings =
          (all.take (place + node.tags.length)).foldl Bindings.record before := by
        rw [composeNode_bindings, take_past first, List.foldl_append, ← met]
      rw [composeNodes_filled walk blank]
      dsimp only
      rw [composeNodes_events before all _ _ past rest later,
        composeNode_events before all place walk met node first, List.append_assoc]

end

/-- A composition logs what is stated of its tree. -/
theorem compose_events (before : Bindings) (root : Element) :
    (compose before root).diagnostics.map Diagnostic.event = statedLog before root := by
  have entered : before.record root.tag = (root.tags.take 1).foldl Bindings.record before := rfl
  have noted := composeNodes_events before root.tags 1 ⟨before.record root.tag, []⟩ entered
    root.children (List.prefix_refl _)
  have walked := composeNodes_bindings ⟨before.record root.tag, []⟩ root.children
  unfold compose statedLog statedWarning
  dsimp only at walked noted ⊢
  rw [List.map_reverse]
  cases root.tag.namePrefix with
  | some label =>
    dsimp only
    rw [← Walk.events, Walk.resolve_events, walked, ← List.foldl_cons, noted]
    simp only [resolve_twice_eq_none_iff]
    rw [show root.tag :: Node.tagsOf root.children = root.tags from rfl,
      show Walk.events ⟨before.record root.tag, []⟩ = [] from rfl, List.append_nil]
    split
    · rw [List.reverse_cons, List.reverse_reverse]
    · rw [List.reverse_reverse, List.append_nil]
  | none =>
    dsimp only
    rw [List.append_nil]
    split <;> rw [← Walk.events, noted, List.reverse_append, List.reverse_reverse] <;> rfl

/-! ## Warnings and missing namespaces -/

/-- The prefix of a namespace that is missing. -/
def Namespace.unbound : Option Namespace → List String
  | some ⟨none, label⟩ => [label]
  | _ => []

def RootSpace.unbound : RootSpace → List String
  | .named space => Namespace.unbound (some space)
  | _ => []

mutual

/-- The prefixes that stand without a namespace in a call and those within it, in the order of the
calls. -/
def Call.unbound : Call → List String
  | .element space _ blocks => Namespace.unbound space ++ unboundIn blocks
  | .text _ | .attr _ _ => []

def unboundIn : List (List Call) → List String
  | [] => []
  | block :: rest => unboundOf block ++ unboundIn rest

def unboundOf : List Call → List String
  | [] => []
  | call :: rest => call.unbound ++ unboundOf rest

end

/-- The prefixes that a walk has warned of. -/
def Walk.unbound (walk : Walk) : List String :=
  walk.diagnostics.reverse.filterMap Diagnostic.unbound?

theorem unboundOf_append (calls more : List Call) :
    unboundOf (calls ++ more) = unboundOf calls ++ unboundOf more := by
  induction calls with
  | nil => rfl
  | cons call rest ih => rw [List.cons_append, unboundOf, unboundOf, ih, List.append_assoc]

theorem unboundOf_attributes (attributes : List Attribute) :
    unboundOf (attributes.map fun attr => Call.attr attr.name attr.value) = [] := by
  induction attributes with
  | nil => rfl
  | cons attr rest ih => rw [List.map_cons, unboundOf, ih, Call.unbound, List.nil_append]

theorem unboundIn_blocks (tag : Tag) (calls : List Call) :
    unboundIn (blocks tag calls) = unboundOf calls := by
  have silent (all : List (List Call)) :
      unboundIn (all.filter (!·.isEmpty)) = unboundIn all := by
    induction all with
    | nil => rfl
    | cons block rest ih =>
      cases block with
      | nil => exact ih
      | cons call more => rw [List.filter_cons_of_pos rfl, unboundIn, unboundIn, ih]
  rw [blocks, silent, unboundIn, unboundIn, unboundIn, unboundOf_attributes, List.nil_append,
    List.append_nil]

theorem Walk.unbound_note (walk : Walk) (diagnostic : Diagnostic) :
    (walk.note diagnostic).unbound = walk.unbound ++ diagnostic.unbound?.toList := by
  rw [unbound, note, List.reverse_cons, List.filterMap_append]
  cases found : diagnostic.unbound? with
  | none => simp [unbound, found]
  | some label => simp [unbound, found]

theorem Walk.resolve_unbound (walk : Walk) (label : String) (own : Option String) :
    (walk.resolve label own).1.unbound =
      walk.unbound ++ Namespace.unbound (some (walk.resolve label own).2) := by
  unfold resolve
  split
  · exact (List.append_nil _).symm
  · exact walk.unbound_note _

theorem Walk.resolveTag_unbound (walk : Walk) (tag : Tag) :
    (walk.resolveTag tag).1.unbound =
      walk.unbound ++ Namespace.unbound (walk.resolveTag tag).2 := by
  unfold resolveTag
  split
  · exact (List.append_nil _).symm
  · exact walk.resolve_unbound _ _

mutual

theorem composeNode_unbound (walk : Walk) : (node : Node) →
    (composeNode walk node).1.unbound =
      walk.unbound ++ unboundOf (composeNode walk node).2.1.toList
  | .element tag children => by
    rw [composeNode]
    dsimp only [Option.toList]
    rw [composeNodes_unbound _ children, Walk.resolveTag_unbound, unboundOf, unboundOf,
      Call.unbound, unboundIn_blocks, List.append_nil, List.append_assoc]
    rfl
  | .text _ | .attr _ => by
    rw [composeNode]
    exact (List.append_nil _).symm
  | .comment _ | .instruction _ _ | .cdata _ => by
    rw [composeNode_silent walk rfl]
    exact walk.unbound_note _

theorem composeNodes_unbound (walk : Walk) : (nodes : List Node) →
    (composeNodes walk [] [] nodes).1.unbound =
      walk.unbound ++ unboundOf (composeNodes walk [] [] nodes).2.1
  | [] => (List.append_nil _).symm
  | node :: rest => by
    cases blank : node.isBlank with
    | true =>
      rw [composeNodes_blank walk blank]
      exact composeNodes_unbound walk rest
    | false =>
      rw [composeNodes_filled walk blank]
      dsimp only
      rw [composeNodes_unbound _ rest, composeNode_unbound walk node, unboundOf_append,
        List.append_assoc]

end

/-- A composition warns of a prefix for each namespace that is missing in its expression, that of
the root last. -/
theorem compose_unbound (before : Bindings) (root : Element) :
    (compose before root).diagnostics.filterMap Diagnostic.unbound? =
      unboundIn (compose before root).document.blocks ++
        (compose before root).document.space.unbound := by
  have walked := composeNodes_unbound ⟨before.record root.tag, []⟩ root.children
  unfold compose
  dsimp only
  rw [unboundIn_blocks]
  split
  · exact (Walk.resolve_unbound _ _ _).trans (congrArg (· ++ _) walked)
  · split
    · exact walked.trans (List.append_nil _).symm
    · exact walked.trans (List.append_nil _).symm

end Builder

/-! ## The log of a generation -/

theorem bindings_length (root : Element) :
    (Builder.compose [] root).bindings.length =
      (Table.keys (Bindings.declared root.tags)).eraseDups.length := by
  have names : Table.keys (Builder.compose [] root).bindings =
      (Table.keys (Bindings.declared root.tags)).eraseDups := by
    rw [Builder.compose_bindings_eq, Table.keys_insertAll]
    simp [Table.keys]
  rw [← names, Table.keys, List.length_map]

section Run

variable {options : Options} {className document : String}

theorem log_failed {error : Error}
    (failed : generate options className document = .error error) :
    (generateLogged options className document).2 =
      [.started className document.utf8ByteSize] := by
  unfold generate generateLogged at failed
  unfold generateLogged
  dsimp only at failed ⊢
  cases named : ClassName.check className with
  | error refused => rfl
  | ok name =>
    rw [named] at failed
    dsimp only at failed ⊢
    cases read : readBytes options.limits document.toUTF8.data.toList with
    | error refused => rfl
    | ok root =>
      rw [read] at failed
      cases failed

theorem log_succeeded {file : ClassFile}
    (done : generate options className document = .ok file) :
    ∃ root, readString options.limits document = .ok root ∧
      file.source = Builder.source file.name
        ((Builder.compose [] root).document.render options.style) ∧
      (generateLogged options className document).2 =
        .started className document.utf8ByteSize :: .parsed root.tag.name ::
          ((Builder.compose [] root).diagnostics ++
            [.composed (Builder.compose [] root).bindings.length
              ((Builder.compose [] root).document.render options.style).utf8ByteSize]) := by
  unfold generate generateLogged at done
  unfold generateLogged
  dsimp only at done ⊢
  cases named : ClassName.check className with
  | error refused =>
    rw [named] at done
    cases done
  | ok name =>
    rw [named] at done
    dsimp only at done ⊢
    cases read : readBytes options.limits document.toUTF8.data.toList with
    | error refused =>
      rw [read] at done
      cases done
    | ok root =>
      rw [read] at done
      cases done
      exact ⟨root, read, rfl, rfl⟩

end Run

/-- A generation that fails logs that it started and nothing else. One that succeeds logs besides
the name of the root, then what is stated of the tree, and at the end how many prefixes are bound
and how long the expression is. Its warnings are of the prefixes for which the expression has no
namespace, one for each place, in the order of the calls but for that of the root, which comes
last. -/
theorem log_stated (options : Options) (className document : String) :
    let log := (generateLogged options className document).2.map Diagnostic.event
    let started : Event := ⟨.span, "generate_with_options",
      [("class_name", .text className), ("input_len", .count document.utf8ByteSize)]⟩
    (∀ error, generate options className document = .error error → log = [started]) ∧
    ∀ file, generate options className document = .ok file →
      ∃ root call body, readString options.limits document = .ok root ∧
        call = (Builder.compose [] root).document ∧ body = call.render options.style ∧
        file.source = Builder.source file.name body ∧
        log = started :: ⟨.debug, "parsed document", [("root", .text root.tag.name)]⟩ ::
          (Builder.statedLog [] root ++ [⟨.debug, "translated document",
            [("bindings", .count (Table.keys (Bindings.declared root.tags)).eraseDups.length),
              ("body_len", .count body.utf8ByteSize)]⟩]) ∧
        log.filter (·.level == .warn) =
          (Builder.unboundIn call.blocks ++ call.space.unbound).map .warning := by
  intro log started
  constructor
  · intro error failed
    exact congrArg (List.map Diagnostic.event) (log_failed failed)
  · intro file done
    obtain ⟨root, read, written, logged⟩ := log_succeeded done
    refine ⟨root, _, _, read, rfl, rfl, written, ?_, ?_⟩
    · rw [← Builder.compose_events, ← bindings_length]
      unfold log
      rw [logged, List.map_cons, List.map_cons, List.map_append]
      rfl
    · unfold log
      rw [warnings_eq, logged, ← Builder.compose_unbound, List.filterMap_cons_none rfl,
        List.filterMap_cons_none rfl, List.filterMap_append]
      exact congrArg _ (List.append_nil _)

/-- A root whose prefix is not bound, around an element whose prefix is bound behind it only. -/
def boundLate : Element :=
  ⟨⟨"r:r", []⟩, [.comment "c", .element ⟨"p:a", []⟩ [],
    .element ⟨"b", [⟨"xmlns:p", "u"⟩]⟩ [.element ⟨"p:c", [⟨"xmlns:q", "v"⟩]⟩ []],
    .instruction "t" "d"]⟩

theorem log_stated_boundLate :
    let document := "<r:r><!--c--><p:a/><b xmlns:p='u'><p:c xmlns:q='v'/></b><?t d?></r:r>"
    (generateLogged .standard "Menu" document).2.map Diagnostic.event =
        [⟨.span, "generate_with_options", [("class_name", .text "Menu"), ("input_len", .count 69)]⟩,
          ⟨.debug, "parsed document", [("root", .text "r:r")]⟩, .remark "comment", .warning "p",
          .remark "processing instruction", .warning "r",
          ⟨.debug, "translated document", [("bindings", .count 2), ("body_len", .count 131)]⟩] ∧
      Builder.unboundIn (Builder.compose [] boundLate).document.blocks = ["p"] ∧
      (Builder.compose [] boundLate).document.space.unbound = ["r"] := by
  intro document
  have read : readString .standard document = .ok boundLate := by
    rw [readString, readBytes_eq]
    with_unfolding_all rfl
  have stated : Builder.statedLog [] boundLate =
      [.remark "comment", .warning "p", .remark "processing instruction", .warning "r"] := by
    decide
  obtain ⟨file, generated⟩ := (generate_succeeds_iff .standard "Menu" document).2
    ⟨by decide +kernel, boundLate, read⟩
  obtain ⟨-, succeeds⟩ := log_stated .standard "Menu" document
  obtain ⟨root, _, _, found, rfl, rfl, -, logged, -⟩ := succeeds file generated
  cases read.symm.trans found
  refine ⟨?_, by decide, by decide⟩
  rw [logged, stated]
  decide +kernel

end XmlBuilder
