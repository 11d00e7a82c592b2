import XmlBuilder.Builder.Literal

/-!
The builder expression of a document: nested calls, and how they are written. The calls within an
element stand in blocks, one `.with(…)` each.
-/
namespace XmlBuilder.Builder

/-- A prefix with its namespace, if it is bound to one. -/
structure Namespace where
  uri : Option String
  label : String
  deriving DecidableEq, Repr

inductive Call
  | element (space : Option Namespace) (name : String) (blocks : List (List Call))
  | text (value : String)
  | attr (name value : String)
  deriving Repr

/-- How the call for the root states its namespace. -/
inductive RootSpace
  | plain
  | byDefault (uri : String)
  | named (space : Namespace)
  deriving DecidableEq, Repr

/-- The outermost call. -/
structure DocumentCall where
  space : RootSpace
  name : String
  blocks : List (List Call)
  deriving Repr

/-- Stands for the namespace of a prefix that is not bound. -/
def missingUri : String := "null"

def Namespace.render (style : LiteralStyle) (space : Namespace) : String :=
  "namespace(" ++ literal style (space.uri.getD missingUri) ++ "," ++
    literal style space.label ++ ")"

mutual

/-- Writes a call behind `out`. -/
def Call.renderOnto (style : LiteralStyle) (out : String) : Call → String
  | .element none name blocks =>
    renderBlocks style (out ++ "element(" ++ literal style name ++ ")") blocks
  | .element (some space) name blocks =>
    renderBlocks style
      (out ++ "element(" ++ space.render style ++ "," ++ literal style name ++ ")") blocks
  | .text value => out ++ "text(" ++ literal style value ++ ")"
  | .attr name value =>
    out ++ "attribute(" ++ literal style name ++ ", " ++ literal style value ++ ")"

def renderBlocks (style : LiteralStyle) (out : String) : List (List Call) → String
  | [] => out
  | block :: rest =>
    renderBlocks style (renderCalls style (out ++ ".with(") true block ++ ")\n") rest

/-- Writes the calls of a block, with a separator before each but the first. -/
def renderCalls (style : LiteralStyle) (out : String) (first : Bool) : List Call → String
  | [] => out
  | call :: rest =>
    renderCalls style (call.renderOnto style (if first then out else out ++ ", \n")) false rest

end

def RootSpace.render (style : LiteralStyle) (name : String) : RootSpace → String
  | .plain => "document(" ++ literal style name ++ ")"
  | .byDefault uri =>
    "document(" ++ literal style name ++ ").withDefaultNamespace(" ++ literal style uri ++ ")"
  | .named space => "document(" ++ literal style name ++ "," ++ space.render style ++ ")"

def DocumentCall.render (style : LiteralStyle) (document : DocumentCall) : String :=
  renderBlocks style (document.space.render style document.name) document.blocks

end XmlBuilder.Builder
