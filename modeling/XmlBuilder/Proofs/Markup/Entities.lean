import XmlBuilder.Proofs.Markup.Stops
import XmlBuilder.Proofs.Table

/-!
# Which entities become known

Wherever reading ends, the table holds what it held before and behind that only entities whose
declarations have been read up to their `>`; of each new name it has the first one (`Collected`).
`readDeclaration_collected` to `readDocument_collected` follow the readers that are given a table,
in failure too: what fails within a declaration adds nothing, and what is read behind it has no
entities to add (`Collected.bind`). So the names in a table stay names, and its texts stay free of
carriage returns (`Collected.declarable`).
-/
namespace XmlBuilder.Markup

open Text (utf8)

/-- The declaration of a general entity with a text of its own, up to and including its `>`. -/
def EntityDeclaration (bytes : Bytes) (name text : String) : Prop :=
  ∃ opening between quote body,
    bytes = ascii "<!ENTITY" ++ (opening ++ (utf8 name ++ (between ++ quote :: body))) ∧
    Spaces opening ∧ isName name = true ∧ Spaces between ∧ isQuote quote = true ∧
    EntityText quote body text

/-- In the bytes there are declarations of these entities, one behind the other. -/
inductive DeclaredIn : Bytes → List (String × String) → Prop
  | nil {bytes : Bytes} : DeclaredIn bytes []
  | cons {gap one rest : Bytes} {name text : String} {more : List (String × String)} :
    EntityDeclaration one name text → DeclaredIn rest more →
      DeclaredIn (gap ++ (one ++ rest)) ((name, text) :: more)

/-- Reading the bytes up to `left` has made `after` of the table, by declarations in what was
read. -/
def Collected (table : Table String) (bytes : Bytes) (after : Table String) (left : Bytes) : Prop :=
  ∃ read declared, bytes = read ++ left ∧ DeclaredIn read declared ∧
    after = Table.insertAllIfNew declared table

/-- What is still unread behind a result, in failure too. -/
def reached {α : Type} (rest : α → Bytes) : Except Stop α → Bytes
  | .ok value => rest value
  | .error stop => stop.left

/-- Each entry is one that a declaration can make. -/
def Declarable (table : Table String) : Prop :=
  ∀ entry ∈ table, isName entry.1 = true ∧ '\r' ∉ entry.2.toList

/-! ## Declarations in bytes -/

theorem DeclaredIn.behind {bytes : Bytes} {entities : List (String × String)}
    (declared : DeclaredIn bytes entities) (front : Bytes) : DeclaredIn (front ++ bytes) entities := by
  cases declared with
  | nil => exact .nil
  | cons form later =>
    rw [← List.append_assoc]
    exact .cons form later

theorem DeclaredIn.append {first later : Bytes} {entities more : List (String × String)}
    (declared : DeclaredIn first entities) (declaredLater : DeclaredIn later more) :
    DeclaredIn (first ++ later) (entities ++ more) := by
  induction declared with
  | @nil bytes => exact declaredLater.behind bytes
  | cons form _ ih =>
    simp only [List.append_assoc, List.cons_append]
    exact .cons form ih

theorem DeclaredIn.declaration {bytes : Bytes} {entities : List (String × String)}
    (declared : DeclaredIn bytes entities) {entity : String × String} (member : entity ∈ entities) :
    ∃ one, one <:+: bytes ∧ EntityDeclaration one entity.1 entity.2 := by
  induction declared with
  | nil => cases member
  | @cons gap one rest name text more form _ ih =>
    rcases List.mem_cons.1 member with rfl | later
    · exact ⟨one, ⟨gap, rest, by simp⟩, form⟩
    · obtain ⟨other, within, form'⟩ := ih later
      exact ⟨other, within.trans ⟨gap ++ one, [], by simp⟩, form'⟩

theorem EntityDeclaration.declarable {bytes : Bytes} {name text : String}
    (form : EntityDeclaration bytes name text) : isName name = true ∧ '\r' ∉ text.toList := by
  obtain ⟨_, _, _, _, -, -, valid, -, -, raw, _, -, -, -, unified⟩ := form
  refine ⟨valid, fun member => ?_⟩
  have clean := Text.not_mem_unifyLineEnds raw
  rw [unified] at clean
  exact clean (Text.mem_utf8 (by decide) member)

/-! ## Collecting -/

theorem Traced.reached {α : Type} {bytes : Bytes} {rest : α → Bytes} {result : Except Stop α}
    (traced : Traced bytes rest result) : Ahead bytes (reached rest result) := by
  cases result with
  | ok value => exact traced
  | error stop => exact Stop.Within.left traced

namespace Collected

variable {table after later : Table String} {bytes between left : Bytes}

/-- Nothing was declared on the way. -/
theorem of_ahead (ahead : Ahead bytes left) : Collected table bytes table left := by
  obtain ⟨read, split, -⟩ := ahead
  exact ⟨read, [], split, .nil, rfl⟩

theorem trans (first : Collected table bytes after between)
    (second : Collected after between later left) : Collected table bytes later left := by
  obtain ⟨read, declared, rfl, inRead, rfl⟩ := first
  obtain ⟨more, declaredMore, rfl, inMore, rfl⟩ := second
  refine ⟨read ++ more, declared ++ declaredMore, by simp, inRead.append inMore, ?_⟩
  exact List.foldl_append.symm

/-- What comes next knows of no entities. -/
theorem bind {α β : Type} {rest : α → Bytes} {restLast : β → Bytes} {first : Except Stop α}
    {next : α → Except Stop β} (collected : Collected table bytes after (reached rest first))
    (traced : ∀ x, Traced (rest x) restLast (next x)) :
    Collected table bytes after (reached restLast (first >>= next)) := by
  cases first with
  | error stop => exact collected
  | ok x => exact collected.trans (.of_ahead (traced x).reached)

theorem declarable (collected : Collected table bytes after left) (before : Declarable table) :
    Declarable after := by
  obtain ⟨read, declared, -, inRead, rfl⟩ := collected
  intro entry member
  rcases Table.mem_insertAllIfNew member with old | new
  · exact before entry old
  · obtain ⟨one, -, form⟩ := inRead.declaration new
    exact form.declarable

end Collected

/-! ## Readers -/

theorem readDeclaration_collected {table after : Table String} {bytes rest : Bytes}
    (read : readDeclaration table bytes = .ok (after, rest)) : Collected table bytes after rest := by
  obtain ⟨taken, split, form⟩ := readDeclaration_sound read
  cases form with
  | @internal opening between body quote name text spaces valid spacesBetween quoted form =>
    have declared := @DeclaredIn.cons [] _ [] name text []
      ⟨opening, between, quote, body, rfl, spaces, valid, spacesBetween, quoted, form⟩ .nil
    rw [List.nil_append, List.append_nil] at declared
    exact ⟨_, _, split, declared, rfl⟩
  | parameter | external | comment | instruction | other | reference =>
    exact ⟨_, [], split, .nil, rfl⟩

theorem readSubset_collected (table : Table String) (bytes : Bytes) :
    Collected table bytes (readSubset table bytes).1 (reached id (readSubset table bytes).2) := by
  have spaced := Ahead.skipSpace bytes
  fun_induction readSubset table bytes with
  | case1 table bytes closed => exact .of_ahead (spaced.trans (.drop "]" (by decide) closed))
  | case2 table bytes goesOn stop failed =>
    have within := (readDeclaration_traced table _).within failed
    exact .of_ahead (spaced.trans within.left)
  | case3 table bytes goesOn after rest read ih =>
    have further : Collected table bytes after rest :=
      (Collected.of_ahead spaced).trans (readDeclaration_collected read)
    exact further.trans (ih (.skipSpace rest))

theorem readDoctype_collected (table : Table String) {bytes : Bytes}
    (begun : startsWith "<!DOCTYPE" bytes = true) :
    Collected table bytes (readDoctype table bytes).1 (reached id (readDoctype table bytes).2) := by
  have opened := Ahead.drop "<!DOCTYPE" (by decide) begun
  obtain ⟨tail, rfl⟩ := startsWith_iff.1 begun
  rw [drop_ascii] at opened
  rw [readDoctype_eq]
  refine (Collected.of_ahead opened).trans ?_
  split
  · exact .of_ahead (.nil tail)
  · next b rest found =>
    have ahead := skipUnquoted_ahead (fun _ => endsHead_small) found
    split
    · exact .of_ahead ahead
    · refine (Collected.of_ahead ahead).trans (.bind (readSubset_collected table rest) fun last => ?_)
      exact .of_ahead (.skipSpace last) (expect_traced (by decide) _)

theorem readProlog_collected (table : Table String) (bytes : Bytes) :
    Collected table bytes (readProlog table bytes).1 (reached id (readProlog table bytes).2) := by
  have spaced := Ahead.skipSpace bytes
  fun_induction readProlog table bytes with
  | case1 table bytes stop failed =>
    have within : stop.Within (skipSpace bytes) := readMisc?_traced failed
    exact .of_ahead (spaced.trans within.left)
  | case2 table bytes rest read ih =>
    have further : Ahead (skipSpace bytes) rest := readMisc?_traced read
    exact (Collected.of_ahead (spaced.trans further)).trans (ih (.skipSpace rest))
  | case3 table bytes none begun after stop failed =>
    have collected := readDoctype_collected table begun
    rw [failed] at collected
    exact (Collected.of_ahead spaced).trans collected
  | case4 table bytes none begun after rest read ih =>
    have collected := readDoctype_collected table begun
    rw [read] at collected
    exact ((Collected.of_ahead spaced).trans collected).trans (ih (.skipSpace rest))
  | case5 table bytes none other => exact .of_ahead spaced

theorem readDocument_collected (limits : Limits) (table : Table String) (bytes : Bytes) :
    Collected table bytes (readDocument limits table bytes).1
      (reached (fun _ => []) (readDocument limits table bytes).2) := by
  unfold readDocument
  split
  · exact .of_ahead (.refl bytes)
  · refine (Collected.of_ahead (skipMark_ahead bytes)).trans ?_
    exact .bind (readProlog_collected table _) fun rest => readBody_traced _ rest

end XmlBuilder.Markup
