import XmlBuilder.Proofs.Markup.Stops
import XmlBuilder.Proofs.Table

/-!
# What an internal subset declares

The items of an internal subset as they are written (`SubsetItem.bytes`), what has to hold of their
parts (`SubsetItem.Valid`), and what they declare: a general entity with a text of its own, or
nothing. Each valid item is read to its end and nothing further (`SubsetItem.Valid.text`), so a
declaration with any number of them is too, and of the entities that it declares the first ones of
each new name are added to those known before (`readDoctype_declared`).
-/
namespace XmlBuilder.Markup

open Text (utf8)

/-- An item of an internal subset. Bodies are what comes before the closing `>`. -/
inductive SubsetItem
  | internal (opening : Bytes) (name : String) (between : Bytes) (quote : UInt8) (value : String)
    (closing : Bytes)
  | external (opening : Bytes) (name : String) (between body : Bytes)
  | parameter (opening body : Bytes)
  | reference (name : String)
  | comment (text : String)
  | instruction (target data : String)
  | other (body : Bytes)
  deriving DecidableEq, Repr

namespace SubsetItem

def bytes : SubsetItem → Bytes
  | internal opening name between quote value closing =>
    ascii "<!ENTITY" ++ (opening ++ (utf8 name ++ (between ++
      quote :: (utf8 value ++ quote :: (closing ++ ['>'.toUInt8])))))
  | external opening name between body =>
    ascii "<!ENTITY" ++ (opening ++ (utf8 name ++ (between ++ (body ++ ['>'.toUInt8]))))
  | parameter opening body => ascii "<!ENTITY" ++ (opening ++ '%'.toUInt8 :: (body ++ ['>'.toUInt8]))
  | reference name => '%'.toUInt8 :: (utf8 name ++ ascii ";")
  | comment text => ascii "<!--" ++ (utf8 text ++ ascii "-->")
  | instruction target data => ascii "<?" ++ (utf8 target ++ (utf8 data ++ ascii "?>"))
  | other body => ascii "<!" ++ (body ++ ['>'.toUInt8])

/-- A body in which each `>` is quoted. -/
def Hidden (body : Bytes) : Prop :=
  Balanced (· == '>'.toUInt8) body

instance (body : Bytes) : Decidable (Hidden body) :=
  decidable_of_iff _ (balanced_iff (b := '>'.toUInt8) (by decide) (by decide)).symm

/-- The names are names and the longest ones there, and nothing ends an item before its end. -/
def Valid : SubsetItem → Prop
  | internal opening name between quote value closing =>
    Spaces opening ∧ isName name = true ∧ Spaces between ∧ isQuote quote = true ∧
      quote ∉ utf8 value ∧ Spaces closing
  | external opening name between body =>
    Spaces opening ∧ isName name = true ∧ Spaces between ∧ Stops isNameByte (between ++ body) ∧
      Stops isSpace body ∧ Stops isQuote body ∧ Hidden body
  | parameter opening body => Spaces opening ∧ Hidden body
  | reference name => EndsFirst ";" (utf8 name)
  | comment text => EndsFirst "-->" (utf8 text)
  | instruction target data =>
    isName target = true ∧ Stops isNameByte (utf8 data) ∧ EndsFirst "?>" (utf8 data)
  | other body =>
    startsWith "ENTITY" body = false ∧ startsWith "--" body = false ∧ Hidden body

instance : DecidablePred Valid
  | internal .. => instDecidableAnd
  | external .. => instDecidableAnd
  | parameter .. => instDecidableAnd
  | reference name => inferInstanceAs (Decidable (EndsFirst ";" (utf8 name)))
  | comment text => inferInstanceAs (Decidable (EndsFirst "-->" (utf8 text)))
  | instruction .. => instDecidableAnd
  | other .. => instDecidableAnd

/-- The name of a general entity and what it stands for. -/
def declared? : SubsetItem → Option (String × String)
  | internal _ name _ _ value _ => some (name, Text.withLineFeeds value)
  | _ => none

end SubsetItem

/-! ## Ends -/

theorem Stops.append {inClass : UInt8 → Bool} {first second : Bytes} (before : Stops inClass first)
    (behind : Stops inClass second) : Stops inClass (first ++ second) := by
  cases first with
  | nil => exact behind
  | cons b tail => exact before

theorem EndsFirst.suffix {closer : String} {front back : Bytes}
    (first : EndsFirst closer (front ++ back)) : EndsFirst closer back :=
  fun last within => first last (within.trans (List.suffix_append front back))

theorem endedText_utf8 {closer text : String} (first : EndsFirst closer (utf8 text)) :
    EndedText closer (utf8 text ++ ascii closer) (Text.withLineFeeds text) :=
  ⟨utf8 text, rfl, first, by rw [Text.unifyLineEnds_eq, Text.utf8_withLineFeeds]⟩

theorem instructionText_utf8 {target data : String} (valid : isName target = true)
    (longest : Stops isNameByte (utf8 data)) (first : EndsFirst "?>" (utf8 data)) :
    ∃ read, InstructionText (ascii "<?" ++ (utf8 target ++ (utf8 data ++ ascii "?>")))
      target read := by
  obtain ⟨space, split, spaces⟩ := skipSpace_split (utf8 data)
  obtain ⟨rest, same⟩ := (Ahead.skipSpace (utf8 data)).isUtf8 (Text.isUtf8_utf8 data)
  have visible := skipSpace_stops (utf8 data)
  rw [same] at split visible
  rw [split] at longest first ⊢
  refine ⟨Text.withLineFeeds rest, space, utf8 rest ++ ascii "?>", by simp, valid, spaces, ?_,
    visible.append (stops_cons.2 (by decide)), endedText_utf8 first.suffix⟩
  rw [← List.append_assoc]
  exact longest.append (stops_cons.2 (by decide))

/-! ## Items -/

section Items

variable {table : Table String} {opening between body closing : Bytes}

theorem SubsetItem.Hidden.declaration (hidden : SubsetItem.Hidden body) :
    DeclarationText (body ++ ['>'.toUInt8]) :=
  ⟨body, rfl, hidden⟩

theorem itemText_external {name : String} (spaces : Spaces opening) (valid : isName name = true)
    (spacesBetween : Spaces between) (longest : Stops isNameByte (between ++ body))
    (visible : Stops isSpace body) (unquoted : Stops isQuote body)
    (hidden : SubsetItem.Hidden body) :
    ItemText table
      (ascii "<!ENTITY" ++ (opening ++ (utf8 name ++ (between ++ (body ++ ['>'.toUInt8]))))) table := by
  refine .external spaces valid spacesBetween ?_ (visible.append (stops_cons.2 (by decide)))
    (unquoted.append (stops_cons.2 (by decide))) hidden.declaration
  rw [← List.append_assoc]
  exact longest.append (stops_cons.2 (by decide))

theorem itemText_other (noEntity : startsWith "ENTITY" body = false)
    (noComment : startsWith "--" body = false) (hidden : SubsetItem.Hidden body) :
    ItemText table (ascii "<!" ++ (body ++ ['>'.toUInt8])) table := by
  refine .other (startsWith_ascii _ _) ?_ ?_
    ⟨'<'.toUInt8 :: '!'.toUInt8 :: body, rfl, .plain rfl rfl (.plain rfl rfl hidden)⟩
  · change startsWith "ENTITY" (body ++ ['>'.toUInt8]) = false
    rw [startsWith_before (by decide), noEntity]
  · change startsWith "--" (body ++ ['>'.toUInt8]) = false
    rw [startsWith_before (by decide), noComment]

/-- What is written as a valid item is one, and adds what it declares if that is new. -/
theorem SubsetItem.Valid.text {item : SubsetItem} (valid : item.Valid) (table : Table String) :
    ItemText table item.bytes (Table.insertAllIfNew item.declared?.toList table) := by
  cases item with
  | internal opening name between quote value closing =>
    obtain ⟨spaces, named, spacesBetween, quoted, free, spacesBehind⟩ := valid
    exact .internal spaces named spacesBetween quoted
      ⟨utf8 value, closing, rfl, free, spacesBehind,
        by rw [Text.unifyLineEnds_eq, Text.utf8_withLineFeeds]⟩
  | external opening name between body =>
    obtain ⟨spaces, named, spacesBetween, longest, visible, unquoted, hidden⟩ := valid
    exact itemText_external spaces named spacesBetween longest visible unquoted hidden
  | parameter opening body => exact .parameter valid.1 valid.2.declaration
  | reference name => exact .reference (endedText_utf8 valid)
  | comment text => exact .comment ⟨_, rfl, endedText_utf8 valid⟩
  | instruction target data =>
    obtain ⟨named, longest, first⟩ := valid
    obtain ⟨read, form⟩ := instructionText_utf8 named longest first
    exact .instruction form
  | other body =>
    obtain ⟨noEntity, noComment, hidden⟩ := valid
    exact itemText_other noEntity noComment hidden

end Items

/-! ## Subsets -/

/-- Items, each behind white space of its own. -/
def writtenItems (items : List (Bytes × SubsetItem)) : Bytes :=
  items.flatMap fun entry => entry.1 ++ entry.2.bytes

/-- The general entities that items declare, in their order. -/
def declaredBy (items : List (Bytes × SubsetItem)) : List (String × String) :=
  items.filterMap (·.2.declared?)

theorem subsetText_written (table : Table String) {items : List (Bytes × SubsetItem)}
    (valid : ∀ entry ∈ items, Spaces entry.1 ∧ entry.2.Valid) {gap : Bytes} (spaces : Spaces gap) :
    SubsetText table (writtenItems items ++ (gap ++ [']'.toUInt8]))
      (Table.insertAllIfNew (declaredBy items) table) := by
  induction items generalizing table with
  | nil => exact .close spaces
  | cons entry rest ih =>
    obtain ⟨here, later⟩ := List.forall_mem_cons.1 valid
    have form := SubsetText.item here.1 (here.2.text table) (ih _ later)
    have added : Table.insertAllIfNew (declaredBy (entry :: rest)) table =
        Table.insertAllIfNew (declaredBy rest)
          (Table.insertAllIfNew entry.2.declared?.toList table) := by
      rw [declaredBy, List.filterMap_cons]
      cases entry.2.declared? with
      | none => rfl
      | some entity => rfl
    have split : writtenItems (entry :: rest) =
        entry.1 ++ (entry.2.bytes ++ writtenItems rest) := by
      rw [writtenItems, List.flatMap_cons, List.append_assoc]
      rfl
    rw [added, split]
    simpa only [List.append_assoc] using form

/-- A document type declaration whose internal subset is written of valid items is read to its end.
The entities known before keep their places and their texts, and those declared follow in the order
of their first declarations, with the texts of these. -/
theorem readDoctype_declared (table : Table String) {head gap closing : Bytes}
    {items : List (Bytes × SubsetItem)} (balanced : Balanced endsHead head)
    (valid : ∀ entry ∈ items, Spaces entry.1 ∧ entry.2.Valid) (spaces : Spaces gap)
    (spacesBehind : Spaces closing) (rest : Bytes) :
    readDoctype table
        (ascii "<!DOCTYPE" ++ (head ++ '['.toUInt8 :: (writtenItems items ++
          (gap ++ ']'.toUInt8 :: (closing ++ '>'.toUInt8 :: rest))))) =
      (table ++ Table.firstNew table (declaredBy items), .ok rest) := by
  have form := DoctypeText.subset balanced (subsetText_written table valid spaces) spacesBehind
  rw [Table.insertAllIfNew_eq] at form
  refine (readDoctype_ok_iff (startsWith_ascii _ _)).2 ⟨_, ?_, form⟩
  simp

/-- Entities in and out of comments and quotes: one that is known before, one that is declared by an
external identifier and then twice by a text. -/
def mixedItems : List (Bytes × SubsetItem) :=
  [(ascii " ", .internal (ascii " ") "a" (ascii " ") '"'.toUInt8 "2" []),
    (ascii "\n", .comment "]<!ENTITY b 'x'>"),
    ([], .external (ascii " ") "b" (ascii " ") (ascii "SYSTEM 'x>'")),
    ([], .internal (ascii " ") "b" (ascii " ") '\''.toUInt8 "x\r\n>\"" (ascii " ")),
    ([], .parameter (ascii " ") (ascii " p \"]>\"")),
    ([], .reference "p"),
    (ascii " ", .instruction "t" " b?"),
    ([], .other (ascii "ELEMENT r ANY")),
    ([], .internal (ascii " ") "b" [] '"'.toUInt8 "z" [])]

def mixedDoctype : String :=
  "<!DOCTYPE r SYSTEM '[>'[ <!ENTITY a \"2\">\n<!--]<!ENTITY b 'x'>--><!ENTITY b SYSTEM 'x>'>" ++
    "<!ENTITY b 'x\r\n>\"' ><!ENTITY % p \"]>\">%p; <?t b??><!ELEMENT r ANY><!ENTITY b\"z\"> ]><r/>"

theorem readDoctype_declared_mixed :
    Balanced endsHead (ascii " r SYSTEM '[>'") ∧
      (∀ entry ∈ mixedItems, Spaces entry.1 ∧ entry.2.Valid) ∧ Spaces (ascii " ") ∧ Spaces [] ∧
      readDoctype [("a", "1")] (utf8 mixedDoctype) =
        ([("a", "1"), ("b", "x\n>\"")], .ok (utf8 "<r/>")) := by
  have balanced : Balanced endsHead (ascii " r SYSTEM '[>'") :=
    (balanced_iff (b := '>'.toUInt8) (by decide) (by decide)).2 (by decide)
  have valid : ∀ entry ∈ mixedItems, Spaces entry.1 ∧ entry.2.Valid := by decide +kernel
  have spaces : Spaces (ascii " ") ∧ Spaces [] := by decide
  have written : utf8 mixedDoctype = ascii "<!DOCTYPE" ++ (ascii " r SYSTEM '[>'" ++
      '['.toUInt8 :: (writtenItems mixedItems ++
        (ascii " " ++ ']'.toUInt8 :: ([] ++ '>'.toUInt8 :: utf8 "<r/>")))) := by
    decide +kernel
  have declared : [("a", "1")] ++ Table.firstNew [("a", "1")] (declaredBy mixedItems) =
      [("a", "1"), ("b", "x\n>\"")] := by
    decide +kernel
  refine ⟨balanced, valid, spaces.1, spaces.2, ?_⟩
  rw [written, readDoctype_declared [("a", "1")] balanced valid spaces.1 spaces.2, declared]

end XmlBuilder.Markup
