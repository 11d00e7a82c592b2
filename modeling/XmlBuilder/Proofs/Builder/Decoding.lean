import XmlBuilder.Proofs.Builder.Namespaces
import XmlBuilder.Builder.Source

/-!
# Reading generated text back

A decoder of generated text, for literals with escapes. It takes the text one character at a time.
What it has read of the innermost open parenthesis is kept as a list of values, last first; a
closing parenthesis makes one value of them. A `.with(…)` and a `.withDefaultNamespace(…)` join
what they hold to the value before them.

* one character is one `State.step`, and a text is read by its steps in order (`State.read`);
* a literal, a call and a block each leave one more value, or one more block (`reads_literal`,
  `reads_call`, `reads_blocks`);
* so reading the wording of a document gives the document again, each unbound namespace as it is
  spelled (`decodeBody_wording`), and reading a whole source gives the name of its class too.
-/
namespace XmlBuilder.Builder

/-! ## The call tree, as the text shows it -/

/-- A namespace that is bound to nothing is spelled like one that is bound to `missingUri`. -/
def Namespace.spelled (space : Namespace) : Namespace :=
  ⟨some (space.uri.getD missingUri), space.label⟩

mutual

def Call.spelled : Call → Call
  | .element space name blocks => .element (space.map Namespace.spelled) name (spelledBlocks blocks)
  | .text value => .text value
  | .attr name value => .attr name value

def spelledCalls : List Call → List Call
  | [] => []
  | call :: rest => call.spelled :: spelledCalls rest

def spelledBlocks : List (List Call) → List (List Call)
  | [] => []
  | block :: rest => spelledCalls block :: spelledBlocks rest

end

def RootSpace.spelled : RootSpace → RootSpace
  | .named space => .named space.spelled
  | space => space

def DocumentCall.spelled (document : DocumentCall) : DocumentCall :=
  ⟨document.space.spelled, document.name, spelledBlocks document.blocks⟩

/-! ## The decoder -/

/-- The functions and methods of a builder expression. -/
inductive Callee
  | document | byDefault | element | text | attribute | space | block
  deriving DecidableEq, Repr

def callee? : List Char → Option Callee
  | ['d', 'o', 'c', 'u', 'm', 'e', 'n', 't'] => some .document
  | ['w', 'i', 't', 'h', 'D', 'e', 'f', 'a', 'u', 'l', 't', 'N', 'a', 'm', 'e', 's', 'p', 'a', 'c',
      'e'] => some .byDefault
  | ['e', 'l', 'e', 'm', 'e', 'n', 't'] => some .element
  | ['t', 'e', 'x', 't'] => some .text
  | ['a', 't', 't', 'r', 'i', 'b', 'u', 't', 'e'] => some .attribute
  | ['n', 'a', 'm', 'e', 's', 'p', 'a', 'c', 'e'] => some .space
  | ['w', 'i', 't', 'h'] => some .block
  | _ => none

inductive Value
  | literal (text : String)
  | space (space : Namespace)
  | call (call : Call)
  | document (document : DocumentCall)

def Value.call? : Value → Option Call
  | .call made => some made
  | _ => none

/-- An element or document with more blocks behind its own. -/
def Value.withBlocks (more : List (List Call)) : Value → Option Value
  | .call (.element own name blocks) => some (.call (.element own name (blocks ++ more)))
  | .document whole => some (.document { whole with blocks := whole.blocks ++ more })
  | _ => none

/-- The values after a call to `callee`, of the arguments and the values before the call. -/
def Callee.result? : Callee → List Value → List Value → Option (List Value)
  | .text, [.literal value], before => some (.call (.text value) :: before)
  | .attribute, [.literal value, .literal name], before => some (.call (.attr name value) :: before)
  | .space, [.literal label, .literal uri], before => some (.space ⟨some uri, label⟩ :: before)
  | .element, [.literal name], before => some (.call (.element none name []) :: before)
  | .element, [.literal name, .space own], before =>
    some (.call (.element (some own) name []) :: before)
  | .document, [.literal name], before => some (.document ⟨.plain, name, []⟩ :: before)
  | .document, [.space own, .literal name], before =>
    some (.document ⟨.named own, name, []⟩ :: before)
  | .byDefault, [.literal uri], .document whole :: before =>
    some (.document { whole with space := .byDefault uri } :: before)
  | .block, arguments, owner :: before => do
    let block ← arguments.reverse.mapM Value.call?
    let owner ← owner.withBlocks [block]
    some (owner :: before)
  | _, _, _ => none

/-- What the character at hand belongs to. The characters read of a word or literal are kept, the
last first. -/
inductive Reading
  | between
  | word (read : List Char)
  | literal (read : List Char)
  | escape (read : List Char)

structure State where
  reading : Reading
  /-- The arguments of the innermost open call, the last first. -/
  values : List Value
  /-- The open calls, the innermost first, with the values before each. -/
  outer : List (Callee × List Value)

def unescape : Char → Char
  | 'n' => '\n'
  | 'r' => '\r'
  | 't' => '\t'
  | c => c

namespace State

def close? (state : State) : Option State :=
  match state.outer with
  | [] => none
  | (callee, before) :: outer =>
    (callee.result? state.values before).map fun values => ⟨.between, values, outer⟩

def step (state : State) (c : Char) : Option State :=
  match state.reading with
  | .between =>
    if c = '"' then some { state with reading := .literal [] }
    else if c = ')' then state.close?
    else if c = ',' ∨ c = '.' ∨ c = ' ' ∨ c = '\n' then some state
    else some { state with reading := .word [c] }
  | .word read =>
    if c = '(' then
      (callee? read.reverse).map fun callee =>
        ⟨.between, [], (callee, state.values) :: state.outer⟩
    else some { state with reading := .word (c :: read) }
  | .literal read =>
    if c = '"' then
      let value := Value.literal (String.ofList read.reverse)
      some { state with reading := .between, values := value :: state.values }
    else if c = '\\' then some { state with reading := .escape read }
    else some { state with reading := .literal (c :: read) }
  | .escape read => some { state with reading := .literal (unescape c :: read) }

def read (state : State) (text : List Char) : Option State :=
  text.foldlM step state

end State

/-- The document whose builder expression has this text. -/
def decodeBody (text : String) : Option DocumentCall :=
  match State.read ⟨.between, [], []⟩ text.toList with
  | some ⟨.between, [.document document], []⟩ => some document
  | _ => none

/-- What stands before the name of the class. -/
def beforeName : String := imports ++ "public class "

/-- What stands between the name of the class and the expression. -/
def beforeBody : String := " \x7b\n\tpublic Document build() \x7b\nreturn "

/-- The name of the class and the document of a generated source. -/
def decodeSource (source : String) : Option (String × DocumentCall) := do
  let named ← beforeName.toList.isPrefixOf? source.toList
  let name := named.takeWhile (· != ' ')
  let opened ← beforeBody.toList.isPrefixOf? (named.dropWhile (· != ' '))
  let body ← epilogue.toList.isSuffixOf? opened
  let document ← decodeBody (String.ofList body)
  some (String.ofList name, document)

/-! ## Reading what the renderer writes -/

/-- Reading `text` leads from one state to another. -/
def Reads (text : String) (state after : State) : Prop :=
  state.read text.toList = some after

theorem Reads.append {first second : String} {state between after : State}
    (begun : Reads first state between) (ended : Reads second between after) :
    Reads (first ++ second) state after := by
  unfold Reads State.read at *
  rw [String.toList_append, List.foldlM_append, begun]
  exact ended

theorem Reads.push {text : String} {c : Char} {state between after : State}
    (begun : Reads text state between) (ended : between.step c = some after) :
    Reads (text.push c) state after := by
  unfold Reads State.read at *
  rw [String.toList_push, List.foldlM_append, begun]
  show (State.step between c).bind pure = some after
  rw [ended]
  rfl

theorem reads_nothing (state : State) : Reads "" state state := rfl

section
variable {values : List Value} {outer : List (Callee × List Value)}

theorem reads_pushEscaped {out : String} {state : State} {read : List Char} (c : Char)
    (begun : Reads out state ⟨.literal read, values, outer⟩) :
    Reads (pushEscaped out c) state ⟨.literal (c :: read), values, outer⟩ := by
  unfold pushEscaped
  split
  case h_6 plain quoted _ _ _ =>
    apply begun.push
    dsimp only [State.step]
    rw [if_neg quoted, if_neg plain]
  all_goals exact begun.append rfl

theorem reads_escaped {out : String} {state : State} {read : List Char} (text : List Char)
    (begun : Reads out state ⟨.literal read, values, outer⟩) :
    Reads (text.foldl pushEscaped out) state ⟨.literal (text.reverse ++ read), values, outer⟩ := by
  induction text generalizing out read with
  | nil => exact begun
  | cons c rest ih =>
    rw [List.foldl_cons, List.reverse_cons, List.append_assoc]
    exact ih (reads_pushEscaped c begun)

theorem reads_literal (text : String) :
    Reads (literal .escaped text) ⟨.between, values, outer⟩
      ⟨.between, .literal text :: values, outer⟩ := by
  have opened : Reads "\"" ⟨.between, values, outer⟩ ⟨.literal [], values, outer⟩ := rfl
  have written := reads_escaped text.toList opened
  refine written.push ?_
  dsimp only [State.step]
  rw [if_pos rfl, List.append_nil, List.reverse_reverse, String.ofList_toList]

theorem reads_space (space : Namespace) :
    Reads (space.render .escaped) ⟨.between, values, outer⟩
      ⟨.between, .space space.spelled :: values, outer⟩ := by
  unfold Namespace.render
  have opened : Reads "namespace(" ⟨.between, values, outer⟩
    ⟨.between, [], (.space, values) :: outer⟩ := rfl
  have uri := opened.append (reads_literal (space.uri.getD missingUri))
  have comma : Reads ","
      ⟨.between, [.literal (space.uri.getD missingUri)], (.space, values) :: outer⟩ _ := rfl
  have label := (uri.append comma).append (reads_literal space.label)
  exact label.append rfl

theorem reads_argument (space : Option Namespace) :
    Reads (Namespace.argument .escaped space) ⟨.between, values, outer⟩
      ⟨.between, (space.map (Value.space ∘ Namespace.spelled)).toList ++ values, outer⟩ := by
  cases space with
  | none => exact reads_nothing _
  | some space => exact (reads_space space).append rfl

end

/-- Blocks join their owner one after the other. -/
theorem withBlocks_cons {owner after : Value} {block : List Call} {rest : List (List Call)}
    (joined : owner.withBlocks (block :: rest) = some after) :
    ∃ between, owner.withBlocks [block] = some between ∧ between.withBlocks rest = some after := by
  unfold Value.withBlocks at joined ⊢
  split at joined
  · refine ⟨_, rfl, ?_⟩
    dsimp only
    rw [List.append_assoc]
    exact joined
  · refine ⟨_, rfl, ?_⟩
    dsimp only
    rw [List.append_assoc]
    exact joined
  · cases joined

theorem withBlocks_nil {owner after : Value} (joined : owner.withBlocks [] = some after) :
    owner = after := by
  unfold Value.withBlocks at joined
  split at joined
  · rw [List.append_nil] at joined
    exact Option.some.inj joined
  · rw [List.append_nil] at joined
    exact Option.some.inj joined
  · cases joined

theorem mapM_call? (calls : List Call) : (calls.map Value.call).mapM Value.call? = some calls := by
  induction calls with
  | nil => rfl
  | cons call rest ih =>
    rw [List.map_cons, List.mapM_cons, ih]
    rfl

theorem result?_block {owner joined : Value} {block : List Call} (before : List Value)
    (one : owner.withBlocks [block] = some joined) :
    Callee.result? .block (block.map Value.call).reverse (owner :: before) =
      some (joined :: before) := by
  rw [Callee.result?, List.reverse_reverse, mapM_call?]
  show (owner.withBlocks [block]).bind _ = _
  rw [one]
  rfl

mutual

theorem reads_call (values : List Value) (outer : List (Callee × List Value)) : (call : Call) →
    Reads (call.wording .escaped) ⟨.between, values, outer⟩
      ⟨.between, .call call.spelled :: values, outer⟩
  | .element space name blocks => by
    rw [Call.wording, Call.spelled]
    have opened : Reads "element(" ⟨.between, values, outer⟩
      ⟨.between, [], (.element, values) :: outer⟩ := rfl
    have argued := opened.append (reads_argument space)
    have named := argued.append (reads_literal name)
    have closed : Reads ")" ⟨.between, .literal name ::
        ((space.map (Value.space ∘ Namespace.spelled)).toList ++ []), (.element, values) :: outer⟩
      ⟨.between, .call (.element (space.map Namespace.spelled) name []) :: values, outer⟩ := by
      cases space <;> rfl
    exact (named.append closed).append (reads_blocks values outer _ _ blocks rfl)
  | .text value => by
    rw [Call.wording, Call.spelled]
    have opened : Reads "text(" ⟨.between, values, outer⟩
      ⟨.between, [], (.text, values) :: outer⟩ := rfl
    exact (opened.append (reads_literal value)).append rfl
  | .attr name value => by
    rw [Call.wording, Call.spelled]
    have opened : Reads "attribute(" ⟨.between, values, outer⟩
      ⟨.between, [], (.attribute, values) :: outer⟩ := rfl
    have named := opened.append (reads_literal name)
    have comma : Reads ", " ⟨.between, [.literal name], (.attribute, values) :: outer⟩ _ := rfl
    exact ((named.append comma).append (reads_literal value)).append rfl

theorem reads_laterCalls (values : List Value) (outer : List (Callee × List Value)) :
    (calls : List Call) →
    Reads (laterWording (callWordings .escaped calls)) ⟨.between, values, outer⟩
      ⟨.between, ((spelledCalls calls).map Value.call).reverse ++ values, outer⟩
  | [] => reads_nothing _
  | call :: rest => by
    rw [callWordings, laterWording, spelledCalls, List.map_cons, List.reverse_cons,
      List.append_assoc]
    have separated : Reads separator ⟨.between, values, outer⟩ ⟨.between, values, outer⟩ := rfl
    have first := separated.append (reads_call values outer call)
    exact first.append (reads_laterCalls _ outer rest)

theorem reads_blocks (values : List Value) (outer : List (Callee × List Value))
    (owner after : Value) : (blocks : List (List Call)) →
    owner.withBlocks (spelledBlocks blocks) = some after →
    Reads (blocksWording .escaped blocks) ⟨.between, owner :: values, outer⟩
      ⟨.between, after :: values, outer⟩
  | [], joined => by
    rw [withBlocks_nil joined]
    exact reads_nothing _
  | block :: rest, joined => by
    obtain ⟨between, one, more⟩ := withBlocks_cons joined
    have opened : Reads ".with(" ⟨.between, owner :: values, outer⟩
      ⟨.between, [], (.block, owner :: values) :: outer⟩ := rfl
    have filled := opened.append (reads_calls _ block)
    have closed : Reads ")\n"
        ⟨.between, ((spelledCalls block).map Value.call).reverse,
          (.block, owner :: values) :: outer⟩
        ⟨.between, between :: values, outer⟩ := by
      show ((Callee.result? _ _ _).map _).bind _ = _
      rw [result?_block values one]
      rfl
    rw [blocksWording, blockWording]
    exact (filled.append closed).append (reads_blocks values outer between after rest more)

theorem reads_calls (outer : List (Callee × List Value)) : (calls : List Call) →
    Reads (separator.intercalate (callWordings .escaped calls)) ⟨.between, [], outer⟩
      ⟨.between, ((spelledCalls calls).map Value.call).reverse, outer⟩
  | [] => reads_nothing _
  | call :: rest => by
    rw [callWordings, intercalate_cons_eq, spelledCalls, List.map_cons, List.reverse_cons]
    exact (reads_call [] outer call).append (reads_laterCalls _ outer rest)

end

theorem reads_root (name : String) (space : RootSpace) :
    Reads (space.render .escaped name) ⟨.between, [], []⟩
      ⟨.between, [.document ⟨space.spelled, name, []⟩], []⟩ := by
  have opened : Reads "document(" ⟨.between, [], []⟩ ⟨.between, [], [(.document, [])]⟩ := rfl
  have named := opened.append (reads_literal name)
  unfold RootSpace.render
  cases space with
  | plain => exact named.append rfl
  | byDefault uri =>
    have closed : Reads ").withDefaultNamespace("
        ⟨.between, [.literal name], [(.document, [])]⟩
        ⟨.between, [], [(.byDefault, [.document ⟨.plain, name, []⟩])]⟩ := rfl
    exact ((named.append closed).append (reads_literal uri)).append rfl
  | named space =>
    have comma : Reads "," ⟨.between, [.literal name], [(.document, [])]⟩ _ := rfl
    exact ((named.append comma).append (reads_space space)).append rfl

/-- Whatever its strings hold, the text of an expression gives the expression back. -/
theorem decodeBody_wording (document : DocumentCall) :
    decodeBody (document.wording .escaped) = some document.spelled := by
  have rooted := reads_root document.name document.space
  have whole := rooted.append (reads_blocks [] [] _ _ document.blocks rfl)
  unfold decodeBody
  rw [DocumentCall.wording, whole, List.nil_append, DocumentCall.spelled]

/-! ## Whole sources -/

theorem continuesName_blank : ClassName.continuesName ' ' = false := by
  decide +kernel

theorem className_no_blank (name : ClassName) : ∀ c ∈ name.text.toList, (c != ' ') = true := by
  intro c inside
  rw [bne_iff_ne]
  rintro rfl
  have continues := ClassName.continuesName_of_accepts name.accepted _ inside
  rw [continuesName_blank] at continues
  exact Bool.false_ne_true continues

theorem source_toList (name : ClassName) (body : String) :
    (source name body).toList = beforeName.toList ++
      (name.text.toList ++ (beforeBody.toList ++ (body.toList ++ epilogue.toList))) := by
  have opened : prologue name = beforeName ++ name.text ++ beforeBody := rfl
  unfold source
  rw [opened]
  simp only [String.toList_append, List.append_assoc]

/-- The source of a class tells its name and its document. -/
theorem decodeSource_source (name : ClassName) (document : DocumentCall) :
    decodeSource (source name (document.wording .escaped)) =
      some (name.text, document.spelled) := by
  have filled := className_no_blank name
  have ended : beforeBody.toList = ' ' :: beforeBody.toList.tail := rfl
  have named : ∀ later : List Char,
      (name.text.toList ++ (beforeBody.toList ++ later)).takeWhile (· != ' ') =
        name.text.toList := by
    intro later
    rw [List.takeWhile_append_of_pos filled, ended, List.cons_append,
      List.takeWhile_cons_of_neg (by decide), List.append_nil]
  have opened : ∀ later : List Char,
      (name.text.toList ++ (beforeBody.toList ++ later)).dropWhile (· != ' ') =
        beforeBody.toList ++ later := by
    intro later
    rw [List.dropWhile_append_of_pos filled, ended, List.cons_append,
      List.dropWhile_cons_of_neg (by decide)]
  unfold decodeSource
  rw [source_toList, List.isPrefixOf?_eq_some_iff_append_eq.2 rfl]
  dsimp only [Option.bind_eq_bind, Option.bind_some]
  rw [named, opened, List.isPrefixOf?_eq_some_iff_append_eq.2 rfl]
  dsimp only [Option.bind_some]
  rw [List.isSuffixOf?_eq_some_iff_append_eq.2 rfl]
  dsimp only [Option.bind_some]
  rw [String.ofList_toList, decodeBody_wording, String.ofList_toList]
  rfl

end XmlBuilder.Builder
