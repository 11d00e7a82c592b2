import XmlBuilder.Proofs.Places

/-!
# Asking a reader again

What a reader is after it was asked for a document, however that ended, and however often it was
asked before. A call goes on in the bytes and adds entities whose declarations it has read
(`read_extends`, from `readDocument_collected`); along all calls the cursor stands in the bytes and
the entities are ones that can be declared (`calls_extend`). At the end of the bytes there is no
root, and asking changes nothing more (`read_atEnd`).
-/
namespace XmlBuilder

open Text (utf8)

/-- What a name begins with. -/
theorem Markup.name_unnumbered {name : String} (valid : isName name = true) :
    name.toList.head? ≠ some '#' := by
  unfold isName at valid
  split at valid
  · cases valid
  · next c rest spelled =>
    rw [spelled, List.head?_cons, ne_eq, Option.some.injEq]
    rintro rfl
    exact absurd valid (by simp [startsName])

theorem Cursor.StandsIn.position_atEnd {cursor : Cursor} {bytes : Bytes}
    (stands : cursor.StandsIn bytes) (ended : cursor.unread = []) :
    cursor.position = placeBehind bytes := by
  rw [stands.place, stands.whole, ended, List.append_nil]

namespace Reader

/-- The second reader is what a call can make of the first: it has read `more` and has added those
of the entities `declared` there that are new, of each name the first one. -/
structure Extends (reader next : Reader) (more : Bytes) (declared : List (String × String)) :
    Prop where
  unread : reader.cursor.unread = more ++ next.cursor.unread
  before : next.cursor.before = reader.cursor.before ++ more
  position : next.cursor.position = reader.cursor.position.advance more
  limits : next.limits = reader.limits
  declarations : Markup.DeclaredIn more declared
  entities : next.entities = reader.entities ++ Table.firstNew reader.entities declared

/-! ## One call -/

theorem read_extends (reader : Reader) :
    ∃ more declared, reader.Extends reader.read.2 more declared := by
  obtain ⟨more, declared, split, inMore, grown⟩ :=
    Markup.readDocument_collected reader.limits reader.entities reader.cursor.unread
  rw [Table.insertAllIfNew_eq] at grown
  rw [read_reader, cursorAt_append split]
  refine ⟨more, declared, ?_, Cursor.before_ahead split, rfl, rfl, inMore, grown⟩
  exact split.trans (congrArg (more ++ ·) (Cursor.unread_ahead split).symm)

theorem read_declarable {reader : Reader} (before : Markup.Declarable reader.entities) :
    Markup.Declarable reader.read.2.entities := by
  rw [read_reader]
  exact (Markup.readDocument_collected _ _ _).declarable before

theorem read_toEnd {reader : Reader} {root : Element} (read : reader.read.1 = .ok root) :
    reader.read.2.cursor.unread = [] := by
  rw [read_eq] at read ⊢
  split at read
  · dsimp only
    rw [cursorAt_append (List.append_nil _).symm, Cursor.unread_ahead (List.append_nil _).symm]
  · cases read

theorem read_atEnd {reader : Reader} (ended : reader.cursor.unread = []) :
    reader.read = (.error (.atPosition .missingRoot reader.cursor.position), reader) := by
  have fits : reader.limits.oversized 0 = false := by simp [Limits.oversized]
  have none : Markup.PrologEnds [] := ⟨by simp [Markup.Stops], rfl, rfl, rfl⟩
  have stopped : Markup.readDocument reader.limits reader.entities [] =
      (reader.entities, .error (.here .missingRoot [])) := by
    unfold Markup.readDocument
    rw [List.length_nil, fits, if_neg Bool.false_ne_true,
      show Markup.skipMark [] = [] from rfl, Markup.readProlog_done none]
    rfl
  have stays : reader.cursorAt [] = reader.cursor := by
    rw [@cursorAt_append reader [] [] ended, Cursor.ahead_nil]
  rw [read_eq, ended, stopped]
  dsimp only [Markup.Stop.here]
  rw [stays]

/-! ## All calls -/

theorem after_atEnd {reader : Reader} (ended : reader.cursor.unread = []) (calls : Nat) :
    reader.after calls = reader := by
  induction calls with
  | zero => rfl
  | succ calls ih => rw [after, ih, read_atEnd ended]

theorem after_limits (reader : Reader) (calls : Nat) :
    (reader.after calls).limits = reader.limits := by
  induction calls with
  | zero => rfl
  | succ calls ih =>
    obtain ⟨_, _, goesOn⟩ := (reader.after calls).read_extends
    exact goesOn.limits.trans ih

theorem after_declarable (limits : Limits) (bytes : Bytes) (calls : Nat) :
    Markup.Declarable ((ofBytes limits bytes).after calls).entities := by
  induction calls with
  | zero => exact fun entry member => absurd member (List.not_mem_nil)
  | succ calls ih => exact read_declarable ih

/-- Whenever a document is asked for, the cursor stands in the bytes, and what entities there are
have names for their names and no carriage return in their texts. The call goes on from there; it
leaves the entities known before as they are and adds only such as it has read whole declarations
of. If a document is read, then to the end of the bytes, and all further calls say that there is
no root. -/
theorem calls_extend (limits : Limits) (bytes : Bytes) (calls : Nat) :
    let reader := (ofBytes limits bytes).after calls
    reader.limits = limits ∧ reader.cursor.StandsIn bytes ∧
      (∀ entry ∈ reader.entities, Markup.isName entry.1 = true ∧
        entry.1.toList.head? ≠ some '#' ∧ '\r' ∉ entry.2.toList) ∧
      (∃ more declared, reader.Extends reader.read.2 more declared) ∧
      ∀ root, reader.read.1 = .ok root → reader.read.2.cursor.unread = [] ∧
        ∀ later, (reader.read.2.after later).read =
          (.error (.atPosition .missingRoot (placeBehind bytes)), reader.read.2) := by
  intro reader
  refine ⟨after_limits _ calls, standsIn_after limits bytes calls, ?_, read_extends reader, ?_⟩
  · intro entry member
    obtain ⟨named, clean⟩ := after_declarable limits bytes calls entry member
    exact ⟨named, Markup.name_unnumbered named, clean⟩
  · intro root read
    have ended := read_toEnd read
    refine ⟨ended, fun later => ?_⟩
    have stands := read_standsIn (standsIn_after limits bytes calls)
    rw [after_atEnd ended, read_atEnd ended, stands.position_atEnd ended]

/-- The name of an attribute comes twice in what stands before the document that is read. -/
theorem calls_extend_twice :
    let reader := (ofBytes .standard
      (utf8 "<!DOCTYPE r [<!ENTITY a '1'><!ENTITY a '2'>]><x b='' b=''<r>&a;</r>")).after 1
    reader.entities = [("a", "1")] ∧
      reader.read.1 = .ok ⟨⟨"r", []⟩, [.text "1"]⟩ ∧
      (∃ more declared, reader.Extends reader.read.2 more declared) ∧
      ∀ later, (reader.read.2.after later).read =
        (.error (.atPosition .missingRoot ⟨67, 1, 68⟩), reader.read.2) := by
  intro reader
  obtain ⟨unread, limits, known⟩ : reader.cursor.unread = utf8 "<r>&a;</r>" ∧
      reader.limits = .standard ∧ reader.entities = [("a", "1")] := by
    rw [show reader = _ from read_ofBytes _ _]
    decide +kernel
  have read : reader.read.1 = .ok ⟨⟨"r", []⟩, [.text "1"]⟩ := by
    rw [read_eq, unread, limits, known]
    with_unfolding_all rfl
  obtain ⟨-, -, -, goesOn, ended⟩ := calls_extend .standard
    (utf8 "<!DOCTYPE r [<!ENTITY a '1'><!ENTITY a '2'>]><x b='' b=''<r>&a;</r>") 1
  exact ⟨known, read, goesOn, (ended _ read).2⟩

end Reader
end XmlBuilder
