import XmlBuilder.Markup.Doctype
import XmlBuilder.Scan.Aside

/-!
Scanning document type declarations. The entities that one declares are kept in a table, as far as
they have been read when scanning fails.
-/
namespace XmlBuilder.Scan

variable {α β : Type}

/-- Skips past the first byte that `stops` accepts outside quotes and gives it. An open quotation
ends at the next `quote`. -/
def skipUnquoted (stops : UInt8 → Bool) (quote : Option UInt8) (cursor : Cursor) : Scanned UInt8 :=
  match _ : cursor.current with
  | none => fail .unexpectedEnd cursor
  | some b =>
    match quote with
    | some q => skipUnquoted stops (if b == q then none else some q) cursor.advance
    | none =>
      if Markup.isQuote b then skipUnquoted stops (some b) cursor.advance
      else if stops b then .ok b cursor.advance
      else skipUnquoted stops none cursor.advance
termination_by cursor.left
decreasing_by all_goals exact Cursor.left_advance ‹_›

theorem skipUnquoted_agrees (stops : UInt8 → Bool) (quote : Option UInt8) (cursor : Cursor) :
    Agrees Prod.mk cursor (skipUnquoted stops quote cursor)
      (match Markup.skipUnquoted stops quote cursor.unread with
        | none => .error .atEnd
        | some found => .ok found) := by
  fun_induction skipUnquoted stops quote cursor with
  | case1 quote cursor ended =>
    have none := Cursor.current_eq_none ended
    rw [none]
    exact fail_atEnd none
  | case2 cursor b found q ih =>
    obtain ⟨tail, next⟩ := Cursor.current_eq_some found
    rw [next, Markup.skipUnquoted, ← Cursor.unread_advance next]
    exact ih.behind (.advance cursor)
  | case3 cursor b found opens ih =>
    obtain ⟨tail, next⟩ := Cursor.current_eq_some found
    rw [next, Markup.skipUnquoted, ← Cursor.unread_advance next, if_pos opens]
    exact ih.behind (.advance cursor)
  | case4 cursor b found plain stop =>
    obtain ⟨tail, next⟩ := Cursor.current_eq_some found
    rw [next, Markup.skipUnquoted, ← Cursor.unread_advance next, if_neg plain, if_pos stop]
    exact .ok (.advance cursor)
  | case5 cursor b found plain goesOn ih =>
    obtain ⟨tail, next⟩ := Cursor.current_eq_some found
    rw [next, Markup.skipUnquoted, ← Cursor.unread_advance next, if_neg plain, if_neg goesOn]
    exact ih.behind (.advance cursor)

/-- Skips past the `>` that closes a declaration. -/
def skipDeclaration : Scan Unit := do
  let _ ← skipUnquoted (· == '>'.toUInt8) none

theorem skipDeclaration_agrees (cursor : Cursor) :
    Agrees rest cursor (skipDeclaration cursor) (Markup.skipDeclaration cursor.unread) := by
  have goesOn : Agrees rest cursor (skipDeclaration cursor)
      (_ >>= fun found : UInt8 × Bytes => .ok found.2) :=
    (skipUnquoted_agrees (· == '>'.toUInt8) none cursor).bind fun _ after => .ok (.refl after)
  unfold Markup.skipDeclaration
  cases found : Markup.skipUnquoted (· == '>'.toUInt8) none cursor.unread with
  | none =>
    rw [found] at goesOn
    exact goesOn
  | some pair =>
    rw [found] at goesOn
    exact goesOn

/-- Reads the quoted text of an entity and the end of its declaration. -/
def readEntityText (quote : UInt8) : Scan String := fun start =>
  let cursor := start.advanceWhile (· != quote)
  if cursor.atEnd then fail .unexpectedEnd cursor
  else (do
    let text ← decode (Text.unifyLineEnds (cursor.sliceFrom start.position.offset)) start.position
    move (·.advance)
    move (·.skipSpace)
    expect '>'
    return text) cursor

theorem readEntityText_agrees (quote : UInt8) (start : Cursor) :
    Agrees Prod.mk start (readEntityText quote start)
      (Markup.readEntityText quote start.unread) := by
  unfold readEntityText Markup.readEntityText
  have reached := Cursor.Reaches.advanceWhile (· != quote) start
  have ends := Cursor.unread_advanceWhile (· != quote) start
  dsimp only
  rw [Cursor.sliceFrom_advanceWhile]
  generalize start.advanceWhile (· != quote) = cursor at ends reached ⊢
  rw [← ends, Cursor.atEnd_eq]
  cases next : cursor.unread with
  | nil => exact (fail_atEnd next).behind reached
  | cons b left =>
    rw [List.isEmpty_cons, if_neg Bool.false_ne_true]
    dsimp only
    rw [← next]
    refine decode_bind (.refl start) reached fun text => ?_
    rw [move_bind, move_bind, ← Cursor.unread_advance next, ← unread_skipSpace]
    have behind := (Cursor.Reaches.advance cursor).trans (skipSpace_reaches _)
    exact .behind behind ((expect_agrees '>' _).bind fun _ after => .ok (.refl after))

/-- The table with what has been declared. -/
def declare (table : Table String) : Option (String × String) → Table String
  | some (name, text) => Table.insertIfNew name text table
  | none => table

/-- What is given are the table with what has been declared and the unread bytes. -/
abbrev declared (table : Table String) (declaration : Option (String × String)) (unread : Bytes) :
    Table String × Bytes :=
  (declare table declaration, unread)

/-- A scan that declares nothing. -/
def passing (scan : Scan α) : Scan (Option (String × String)) := do
  let _ ← scan
  return none

/-- Reads what the entity `name` is declared as: a text of its own, or what is not kept. -/
def readDefinition (name : String) : Scan (Option (String × String)) := fun cursor =>
  match cursor.current.filter Markup.isQuote with
  | some quote => (do
    let text ← readEntityText quote
    return some (name, text)) cursor.advance
  | none => passing skipDeclaration cursor

/-- Reads an entity declaration. Parameter entities and external entities leave no trace. -/
def readEntity : Scan (Option (String × String)) := do
  move (·.advanceBy "<!ENTITY".length)
  move (·.skipSpace)
  if ← consume '%'.toUInt8 then passing skipDeclaration
  else
    let name ← readName
    move (·.skipSpace)
    readDefinition name

theorem passing_agrees {give : α → Bytes → β} {scan : Scan α} {cursor : Cursor}
    {read : Except Markup.Stop β} {goOn : β → Except Markup.Stop (Table String × Bytes)}
    {table : Table String} (agrees : Agrees give cursor (scan cursor) read)
    (same : ∀ value rest, goOn (give value rest) = .ok (table, rest)) :
    Agrees (declared table) cursor (passing scan cursor) (read >>= goOn) :=
  agrees.bind fun value after => by
    rw [same]
    exact @Agrees.ok _ _ (declared table) after none after (.refl after)

theorem readDefinition_agrees (table : Table String) (name : String) (opening : Cursor) :
    Agrees (declared table) opening (readDefinition name opening)
      (match opening.unread with
        | [] => .error .atEnd
        | b :: rest =>
          if Markup.isQuote b then do
            let (text, rest) ← Markup.readEntityText b rest
            .ok (Table.insertIfNew name text table, rest)
          else do
            let rest ← Markup.skipDeclaration (b :: rest)
            .ok (table, rest)) := by
  have skipped : Agrees (declared table) opening (passing skipDeclaration opening)
      (Markup.skipDeclaration opening.unread >>= fun rest => .ok (table, rest)) :=
    passing_agrees (skipDeclaration_agrees opening) fun _ rest => rfl
  unfold readDefinition
  rw [Cursor.current_eq]
  cases next : opening.unread with
  | nil =>
    rw [next] at skipped
    exact skipped
  | cons b tail =>
    rw [next] at skipped
    dsimp only
    rw [List.head?_cons, Option.filter_some]
    by_cases quoted : Markup.isQuote b = true
    · rw [if_pos quoted, if_pos quoted, ← Cursor.unread_advance next]
      exact .behind (.advance opening) ((readEntityText_agrees b _).bind fun text after =>
        @Agrees.ok _ _ (declared table) after (some (name, text)) after (.refl after))
    · rw [if_neg quoted, if_neg quoted]
      exact skipped

theorem readEntity_agrees (table : Table String) (cursor : Cursor) :
    Agrees (declared table) cursor (readEntity cursor)
      (Markup.readEntity table cursor.unread) := by
  unfold readEntity Markup.readEntity
  rw [move_bind, move_bind, ← Cursor.unread_advanceBy, ← unread_skipSpace]
  have opened := Cursor.Reaches.advanceBy cursor "<!ENTITY".length
  refine .behind (opened.trans (skipSpace_reaches _)) ?_
  generalize (cursor.advanceBy "<!ENTITY".length).skipSpace = start
  refine consume_bind '%' ?_ ?_
  · rw [if_pos rfl, ← Cursor.unread_advanceBy]
    exact passing_agrees (skipDeclaration_agrees _) fun _ rest => rfl
  · rw [if_neg Bool.false_ne_true]
    refine (readName_agrees start).bind fun name named => ?_
    dsimp only
    rw [move_bind, ← unread_skipSpace]
    exact .behind (skipSpace_reaches named) (readDefinition_agrees table name _)

/-- Reads one item of an internal subset. -/
def readDeclaration : Scan (Option (String × String)) := fun cursor =>
  if cursor.startsWith (Markup.ascii "<!ENTITY") then readEntity cursor
  else if cursor.startsWith (Markup.ascii "<!--") then passing readComment cursor
  else if cursor.startsWith (Markup.ascii "<?") then passing readInstruction cursor
  else if cursor.startsWith (Markup.ascii "<!") then passing skipDeclaration cursor
  else (do
    if ← consume '%'.toUInt8 then passing (readUntil ";")
    else fail (if cursor.atEnd then .unexpectedEnd else .invalidToken)) cursor

theorem readDeclaration_agrees (table : Table String) (cursor : Cursor) :
    Agrees (declared table) cursor (readDeclaration cursor)
      (Markup.readDeclaration table cursor.unread) := by
  unfold readDeclaration Markup.readDeclaration
  rw [startsWith_eq, startsWith_eq, startsWith_eq, startsWith_eq]
  refine .choose (fun _ => readEntity_agrees table cursor) fun _ => ?_
  refine .choose (fun _ => ?_) fun _ => ?_
  · exact passing_agrees (readComment_agrees cursor) fun _ rest => rfl
  refine .choose (fun _ => ?_) fun _ => ?_
  · exact passing_agrees (readInstruction_agrees cursor) fun _ rest => rfl
  refine .choose (fun _ => ?_) fun _ => ?_
  · exact passing_agrees (skipDeclaration_agrees cursor) fun _ rest => rfl
  refine consume_bind '%' ?_ ?_
  · rw [if_pos rfl, ← Cursor.unread_advanceBy]
    exact passing_agrees (readUntil_agrees ";" _) fun _ rest => rfl
  · rw [if_neg Bool.false_ne_true, Cursor.atEnd_eq]
    cases next : cursor.unread with
    | nil => exact fail_atEnd next
    | cons b tail =>
      rw [List.isEmpty_cons, if_neg Bool.false_ne_true, if_neg Bool.false_ne_true, ← next]
      exact fail_agrees .invalidToken cursor

theorem readDeclaration_left {cursor next : Cursor} {declaration : Option (String × String)}
    (found : readDeclaration cursor.skipSpace = .ok declaration next) : next.left < cursor.left :=
  left_lt (Markup.readDeclaration_shorter ((readDeclaration_agrees [] _).reaches found).2)

/-- Reads an internal subset up to and including its `]`. The table holds what was declared before
reading ended, in failure too. -/
def readSubset (table : Table String) (cursor : Cursor) : Table String × Scanned Unit :=
  match cursor.skipSpace.consume? ']'.toUInt8 with
  | some next => (table, .ok () next)
  | none =>
    match _ : readDeclaration cursor.skipSpace with
    | .error error next => (table, .error error next)
    | .ok declaration next => readSubset (declare table declaration) next
termination_by cursor.left
decreasing_by exact readDeclaration_left ‹_›

/-- What becomes of a scan agrees with what reading gives, and both have declared the same, in
failure too. -/
structure Declares (cursor : Cursor) (scanned : Table String × Scanned Unit)
    (read : Table String × Except Markup.Stop Bytes) : Prop where
  table : scanned.1 = read.1
  agrees : Agrees rest cursor scanned.2 read.2

namespace Declares

variable {cursor next : Cursor} {scanned : Table String × Scanned Unit} {after : Table String}
  {read : Table String × Except Markup.Stop Bytes}

theorem behind (reached : cursor.Reaches next) (same : Declares next scanned read) :
    Declares cursor scanned read :=
  ⟨same.table, same.agrees.behind reached⟩

theorem reaches (same : Declares cursor scanned read) (found : scanned = (after, .ok () next)) :
    cursor.Reaches next ∧ read = (after, .ok next.unread) := by
  subst found
  obtain ⟨reached, gives⟩ := same.agrees.reaches rfl
  exact ⟨reached, Prod.ext same.table.symm gives⟩

theorem stops {error : Error} (same : Declares cursor scanned read)
    (failed : scanned = (after, .error error next)) :
    ∃ stop, read = (after, .error stop) ∧ ∀ {γ δ : Type} (give' : γ → Bytes → δ),
      Agrees give' cursor (.error error next) (.error stop) := by
  subst failed
  obtain ⟨stop, stopped, fails⟩ := same.agrees.stops rfl
  exact ⟨stop, Prod.ext same.table.symm stopped, fails⟩

end Declares

theorem readSubset_agrees (table : Table String) (cursor : Cursor) :
    Declares cursor (readSubset table cursor) (Markup.readSubset table cursor.unread) := by
  have bracket : String.singleton ']' = "]" := rfl
  fun_induction readSubset table cursor with
  | case1 table cursor next closed =>
    obtain ⟨begun, rfl⟩ := consume?_eq_some closed
    rw [bracket] at begun
    rw [Markup.readSubset_eq, ← unread_skipSpace, if_pos begun, ← Cursor.unread_advanceBy]
    exact ⟨rfl, .ok ((skipSpace_reaches cursor).trans (.advanceBy _ 1))⟩
  | case2 table cursor opened error next failed =>
    obtain ⟨stop, stopped, fails⟩ := (readDeclaration_agrees table cursor.skipSpace).stops failed
    have goesOn := consume?_eq_none opened
    rw [bracket] at goesOn
    rw [Markup.readSubset_eq, ← unread_skipSpace, if_neg goesOn, stopped]
    exact ⟨rfl, (fails rest).behind (skipSpace_reaches cursor)⟩
  | case3 table cursor opened declaration next found ih =>
    obtain ⟨reached, same⟩ := (readDeclaration_agrees table cursor.skipSpace).reaches found
    have goesOn := consume?_eq_none opened
    rw [bracket] at goesOn
    rw [Markup.readSubset_eq, ← unread_skipSpace, if_neg goesOn, same]
    exact ih.behind ((skipSpace_reaches cursor).trans reached)

/-- Reads a document type declaration, its opener included. -/
def readDoctype (table : Table String) (cursor : Cursor) : Table String × Scanned Unit :=
  let inHead (b : UInt8) := b == '['.toUInt8 || b == '>'.toUInt8
  match skipUnquoted inHead none (cursor.advanceBy "<!DOCTYPE".length) with
  | .error error next => (table, .error error next)
  | .ok b next =>
    if b == '>'.toUInt8 then (table, .ok () next)
    else
      match readSubset table next with
      | (after, .error error next) => (after, .error error next)
      | (after, .ok () next) => (after, expect '>' next.skipSpace)

theorem readDoctype_agrees (table : Table String) (cursor : Cursor) :
    Declares cursor (readDoctype table cursor) (Markup.readDoctype table cursor.unread) := by
  unfold readDoctype Markup.readDoctype
  have head := (skipUnquoted_agrees (fun b => b == '['.toUInt8 || b == '>'.toUInt8) none _).behind
    (.advanceBy cursor "<!DOCTYPE".length)
  rw [Cursor.unread_advanceBy] at head
  dsimp only
  generalize Markup.skipUnquoted (fun b => b == '['.toUInt8 || b == '>'.toUInt8) none _ = read
    at head ⊢
  cases scanned : skipUnquoted (fun b => b == '['.toUInt8 || b == '>'.toUInt8) none
    (cursor.advanceBy "<!DOCTYPE".length) with
  | error error next =>
    obtain ⟨stop, stopped, fails⟩ := head.stops scanned
    cases read with
    | none =>
      cases stopped
      exact ⟨rfl, fails rest⟩
    | some found => cases stopped
  | ok b next =>
    obtain ⟨reached, same⟩ := head.reaches scanned
    cases read with
    | none => cases same
    | some found =>
      cases same
      dsimp only
      by_cases closed : (b == '>'.toUInt8) = true
      · rw [if_pos closed, if_pos closed]
        exact ⟨rfl, .ok reached⟩
      · rw [if_neg closed, if_neg closed]
        have inside := readSubset_agrees table next
        split
        · next failed =>
          obtain ⟨stop, stopped, fails⟩ := inside.stops failed
          rw [stopped]
          exact ⟨rfl, (fails rest).behind reached⟩
        · next last found =>
          obtain ⟨onwards, read⟩ := inside.reaches found
          have closed := expect_agrees '>' last.skipSpace
          rw [unread_skipSpace] at closed
          rw [read]
          exact ⟨rfl, closed.behind (reached.trans (onwards.trans (skipSpace_reaches last)))⟩

end XmlBuilder.Scan
