import Mathlib.Data.List.Infix
import XmlBuilder.Markup.Document
import XmlBuilder.Proofs.Text.Utf8

/-!
# The grammar of documents

What the bytes of each part of a document look like, said without a reader. A form relates bytes
to what they stand for: `AttributeText`, `StartTagText` and `EndTagText` for tags, `NodeText` for a
node with all its content, `DocumentText` for a whole document. Where a part is as long as it can
be, its form says what does not come next (`Stops`); where it ends at a closer, that the closer
does not come sooner (`EndsFirst`).

Document type declarations have a grammar in `Proofs.Markup.Subset`; here they are the bytes that
`readDoctype` consumes to the last.
-/
namespace XmlBuilder

namespace Node

def isText : Node → Bool
  | .text _ => true
  | _ => false

/-- No two texts stand side by side. -/
def Separated (nodes : List Node) : Prop :=
  nodes.IsChain fun first second => ¬ (first.isText = true ∧ second.isText = true)

end Node

namespace Markup

open Text (utf8)

def startsName (c : Char) : Bool :=
  c.isAlpha || c == '_' || c == ':' || 0x80 ≤ c.toNat

def continuesName (c : Char) : Bool :=
  startsName c || c.isDigit || c == '-' || c == '.'

def isName (name : String) : Bool :=
  match name.toList with
  | [] => false
  | c :: rest => startsName c && rest.all continuesName

/-- White space, or nothing. -/
def Spaces (bytes : Bytes) : Prop :=
  ∀ b ∈ bytes, isSpace b = true

instance : DecidablePred Spaces :=
  List.decidableBAll fun b => isSpace b = true

/-- No byte of the class comes first. -/
def Stops (inClass : UInt8 → Bool) (bytes : Bytes) : Prop :=
  ∀ b ∈ bytes.head?, inClass b = false

instance (inClass : UInt8 → Bool) : DecidablePred (Stops inClass)
  | [] => .isTrue nofun
  | b :: _ => decidable_of_iff (inClass b = false) (by simp [Stops])

/-- Behind the body, the closer is the first one: none begins within the body. -/
def EndsFirst (closer : String) (body : Bytes) : Prop :=
  ∀ back, back <:+ body → back ≠ [] → ¬ ascii closer <+: back ++ ascii closer

instance (closer : String) : DecidablePred (EndsFirst closer) := fun body =>
  decidable_of_iff (∀ back ∈ body.tails, back ≠ [] → ¬ ascii closer <+: back ++ ascii closer)
    (by simp only [EndsFirst, List.mem_tails])

/-- A text up to and including the first closer. -/
def EndedText (closer : String) (bytes : Bytes) (text : String) : Prop :=
  ∃ body, bytes = body ++ ascii closer ∧ EndsFirst closer body ∧
    Text.unifyLineEnds body = utf8 text

/-- A text between an opener and the first closer. -/
def EnclosedText (opener closer : String) (bytes : Bytes) (text : String) : Prop :=
  ∃ body, bytes = ascii opener ++ body ∧ EndedText closer body text

def CommentText : Bytes → String → Prop :=
  EnclosedText "<!--" "-->"

def CdataText : Bytes → String → Prop :=
  EnclosedText "<![CDATA[" "]]>"

/-- The target is the longest name there is, and the data begin behind all white space. -/
def InstructionText (bytes : Bytes) (target data : String) : Prop :=
  ∃ space body, bytes = ascii "<?" ++ (utf8 target ++ (space ++ body)) ∧
    isName target = true ∧ Spaces space ∧ Stops isNameByte (space ++ body) ∧
    Stops isSpace body ∧ EndedText "?>" body data

/-- What the bytes of a text stand for when its references are expanded. -/
def Expands (context : Context) (bytes : Bytes) (text : String) : Prop :=
  ∃ source, bytes = utf8 source ∧
    Entity.expand context.entities context.limits.textLimit Entity.maxLevels source = .ok text

/-- A run of text up to the next tag. -/
def RunText (context : Context) (run : Bytes) (text : String) : Prop :=
  (∀ b ∈ run, b ≠ '<'.toUInt8) ∧ Expands context (Text.unifyLineEnds run) text

def ValueText (context : Context) (bytes : Bytes) (value : String) : Prop :=
  ∃ quote raw, bytes = quote :: (raw ++ [quote]) ∧ isQuote quote = true ∧
    (∀ b ∈ raw, b ≠ quote ∧ b ≠ '<'.toUInt8) ∧
    Expands context ((Text.unifyLineEnds raw).map flattenSpace) value

def AttributeText (context : Context) (bytes : Bytes) (attr : Attribute) : Prop :=
  ∃ before after value,
    bytes = utf8 attr.name ++ (before ++ '='.toUInt8 :: (after ++ value)) ∧
    isName attr.name = true ∧ Spaces before ∧ Spaces after ∧ ValueText context value attr.value

/-- Attributes, each with white space before it. -/
inductive AttributesText (context : Context) : Bytes → List Attribute → Prop
  | nil : AttributesText context [] []
  | cons {space one more : Bytes} {attr : Attribute} {attrs : List Attribute} :
    space ≠ [] → Spaces space → AttributeText context one attr →
      AttributesText context more attrs →
      AttributesText context (space ++ (one ++ more)) (attr :: attrs)

/-- A start tag that ends in `closer`; no attribute comes twice in it. -/
def StartTagText (context : Context) (closer : String) (bytes : Bytes) (tag : Tag) : Prop :=
  ∃ attrs space,
    bytes = '<'.toUInt8 :: (utf8 tag.name ++ (attrs ++ (space ++ ascii closer))) ∧
    isName tag.name = true ∧ AttributesText context attrs tag.attributes ∧
    (tag.attributes.map (·.name)).Nodup ∧ Spaces space

def EndTagText (name : String) (bytes : Bytes) : Prop :=
  ∃ space, bytes = ascii "</" ++ (utf8 name ++ (space ++ ['>'.toUInt8])) ∧
    isName name = true ∧ Spaces space

/-- A node. The content of an element is a list of items, each given as its bytes and the node
they stand for. -/
inductive NodeText (context : Context) : Bytes → Node → Prop
  | comment {bytes : Bytes} {text : String} :
    CommentText bytes text → NodeText context bytes (.comment text)
  | cdata {bytes : Bytes} {text : String} :
    CdataText bytes text → NodeText context bytes (.cdata text)
  | instruction {bytes : Bytes} {target data : String} :
    InstructionText bytes target data → NodeText context bytes (.instruction target data)
  | text {run : Bytes} {text : String} :
    run ≠ [] → RunText context run text → NodeText context run (.text text)
  | empty {bytes : Bytes} {tag : Tag} :
    StartTagText context "/>" bytes tag → NodeText context bytes (.element tag [])
  | element {start ending : Bytes} {tag : Tag} {items : List (Bytes × Node)} :
    StartTagText context ">" start tag →
      (∀ item ∈ items, NodeText context item.1 item.2) → Node.Separated (items.map (·.2)) →
      EndTagText tag.name ending →
      NodeText context (start ++ (items.flatMap (·.1) ++ ending)) (.element tag (items.map (·.2)))

/-- A comment or processing instruction outside the root element. -/
def MiscText (bytes : Bytes) : Prop :=
  (∃ text, CommentText bytes text) ∨ ∃ target data, InstructionText bytes target data

/-- What stands before the root element, with the entities known before and after it. -/
inductive PrologText : Table String → Bytes → Table String → Prop
  | nil {table : Table String} : PrologText table [] table
  | space {before after : Table String} {b : UInt8} {rest : Bytes} :
    isSpace b = true → PrologText before rest after → PrologText before (b :: rest) after
  | misc {before after : Table String} {one rest : Bytes} :
    MiscText one → PrologText before rest after → PrologText before (one ++ rest) after
  | doctype {before between after : Table String} {one rest : Bytes} :
    startsWith "<!DOCTYPE" one = true → readDoctype before one = (between, .ok []) →
      PrologText between rest after → PrologText before (one ++ rest) after

/-- What stands after the root element. -/
inductive EpilogText : Bytes → Prop
  | nil : EpilogText []
  | space {b : UInt8} {rest : Bytes} : isSpace b = true → EpilogText rest → EpilogText (b :: rest)
  | misc {one rest : Bytes} : MiscText one → EpilogText rest → EpilogText (one ++ rest)

/-- The UTF-8 byte order mark. -/
def byteOrderMark : Bytes :=
  [0xEF, 0xBB, 0xBF]

/-- A document with this root, in a context that has the entities known at the root. -/
def DocumentText (before : Table String) (context : Context) (bytes : Bytes) (root : Element) :
    Prop :=
  ∃ mark prolog body epilog, bytes = mark ++ (prolog ++ (body ++ epilog)) ∧
    (mark = [] ∨ mark = byteOrderMark) ∧ PrologText before prolog context.entities ∧
    NodeText context body root.toNode ∧ EpilogText epilog

end Markup
end XmlBuilder
