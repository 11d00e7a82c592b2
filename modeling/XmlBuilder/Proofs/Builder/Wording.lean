import XmlBuilder.Builder.Call

/-!
The wording of a builder expression, put together from the wordings of its parts. The renderer
writes behind the text so far instead; both give the same text.
-/
namespace XmlBuilder.Builder

/-- What stands between the calls of a block. -/
def separator : String := ", \n"

/-- A block with calls of these wordings. -/
def blockWording (calls : List String) : String :=
  ".with(" ++ separator.intercalate calls ++ ")\n"

def Namespace.argument (style : LiteralStyle) : Option Namespace → String
  | none => ""
  | some space => space.render style ++ ","

mutual

def Call.wording (style : LiteralStyle) : Call → String
  | .element space name blocks =>
    "element(" ++ Namespace.argument style space ++ literal style name ++ ")" ++
      blocksWording style blocks
  | .text value => "text(" ++ literal style value ++ ")"
  | .attr name value => "attribute(" ++ literal style name ++ ", " ++ literal style value ++ ")"

def callWordings (style : LiteralStyle) : List Call → List String
  | [] => []
  | call :: rest => call.wording style :: callWordings style rest

def blocksWording (style : LiteralStyle) : List (List Call) → String
  | [] => ""
  | block :: rest => blockWording (callWordings style block) ++ blocksWording style rest

end

def DocumentCall.wording (style : LiteralStyle) (document : DocumentCall) : String :=
  document.space.render style document.name ++ blocksWording style document.blocks

/-- The wordings of calls that come behind others of their block. -/
def laterWording : List String → String
  | [] => ""
  | wording :: rest => separator ++ wording ++ laterWording rest

theorem intercalate_cons_eq (wording : String) (rest : List String) :
    separator.intercalate (wording :: rest) = wording ++ laterWording rest := by
  induction rest generalizing wording with
  | nil => simp [laterWording]
  | cons next rest ih =>
    rw [String.intercalate_cons_cons, ih next, laterWording]
    simp only [String.append_assoc]

mutual

theorem Call.renderOnto_eq (style : LiteralStyle) (out : String) :
    (call : Call) → call.renderOnto style out = out ++ call.wording style
  | .element none name blocks => by
    rw [Call.renderOnto, renderBlocks_eq, Call.wording, Namespace.argument]
    simp only [String.append_assoc, String.empty_append]
  | .element (some space) name blocks => by
    rw [Call.renderOnto, renderBlocks_eq, Call.wording, Namespace.argument]
    simp only [String.append_assoc]
  | .text value => by
    rw [Call.renderOnto, Call.wording]
    simp only [String.append_assoc]
  | .attr name value => by
    rw [Call.renderOnto, Call.wording]
    simp only [String.append_assoc]

theorem renderBlocks_eq (style : LiteralStyle) (out : String) :
    (blocks : List (List Call)) → renderBlocks style out blocks = out ++ blocksWording style blocks
  | [] => by rw [renderBlocks, blocksWording, String.append_empty]
  | block :: rest => by
    rw [renderBlocks, renderBlocks_eq style _ rest, renderCalls_first style _ block,
      blocksWording, blockWording]
    simp only [String.append_assoc]

theorem renderCalls_first (style : LiteralStyle) (out : String) :
    (calls : List Call) →
      renderCalls style out true calls =
        out ++ separator.intercalate (callWordings style calls)
  | [] => by simp [renderCalls, callWordings]
  | call :: rest => by
    rw [renderCalls, if_pos rfl, renderCalls_later style _ rest, Call.renderOnto_eq style out call,
      callWordings, intercalate_cons_eq, String.append_assoc]

theorem renderCalls_later (style : LiteralStyle) (out : String) :
    (calls : List Call) →
      renderCalls style out false calls = out ++ laterWording (callWordings style calls)
  | [] => by simp [renderCalls, callWordings, laterWording]
  | call :: rest => by
    rw [renderCalls, if_neg (by decide), renderCalls_later style _ rest,
      Call.renderOnto_eq style _ call, callWordings, laterWording, separator]
    simp only [String.append_assoc]

end

theorem DocumentCall.render_eq (style : LiteralStyle) (document : DocumentCall) :
    document.render style = document.wording style :=
  renderBlocks_eq style (document.space.render style document.name) document.blocks

end XmlBuilder.Builder
