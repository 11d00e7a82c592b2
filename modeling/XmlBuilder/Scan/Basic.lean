import XmlBuilder.Cursor
import XmlBuilder.Markup.Scan

/-!
Scanning: reading with a cursor over the whole input, which is left where reading ended, in failure
too. Names, texts and bodies are slices of the input between offsets that were kept.

A scan agrees with the reading of the unread bytes (`Scan.Agrees`): it gives the same, or fails for
the same cause, at the place where as much is unread. So what has been read already does not matter
to it. Each scan stands here with its lemma of agreement.
-/
namespace XmlBuilder

abbrev Scan := EStateM Error Cursor

/-- What has become of a scan. -/
abbrev Scanned := EStateM.Result Error Cursor

namespace Scan

variable {α β γ δ : Type} {give : α → Bytes → β} {cursor : Cursor}

/-- A scan from `cursor` has become what reading gives, a value with the unread bytes or a stop.
The cursor has only moved on, as far as reading has come, and an error is placed ahead. -/
inductive Agrees (give : α → Bytes → β) (cursor : Cursor) :
    Scanned α → Except Markup.Stop β → Prop
  | ok {value : α} {next : Cursor} :
    cursor.Reaches next → Agrees give cursor (.ok value next) (.ok (give value next.unread))
  | error {cause : Cause} {site next : Cursor} : cursor.Reaches site → cursor.Reaches next →
    Agrees give cursor (.error (.atPosition cause site.position) next)
      (.error ⟨cause, site.unread, next.unread⟩)

namespace Agrees

/-- What is scanned further on is scanned from here. -/
theorem behind {next : Cursor} {scanned : Scanned α} {read : Except Markup.Stop β}
    (reached : cursor.Reaches next) (agrees : Agrees give next scanned read) :
    Agrees give cursor scanned read := by
  cases agrees with
  | ok onwards => exact .ok (reached.trans onwards)
  | error there onwards => exact .error (reached.trans there) (reached.trans onwards)

theorem reaches {scanned : Scanned α} {value : α} {next : Cursor} {read : Except Markup.Stop β}
    (agrees : Agrees give cursor scanned read) (found : scanned = .ok value next) :
    cursor.Reaches next ∧ read = .ok (give value next.unread) := by
  subst found
  cases agrees with
  | ok reached => exact ⟨reached, rfl⟩

/-- Where a scan fails, reading stops, whatever was to be given. -/
theorem stops {scanned : Scanned α} {error : Error} {next : Cursor} {read : Except Markup.Stop β}
    (agrees : Agrees give cursor scanned read) (failed : scanned = .error error next) :
    ∃ stop, read = .error stop ∧ ∀ {γ δ : Type} (give' : γ → Bytes → δ),
      Agrees give' cursor (.error error next) (.error stop) := by
  subst failed
  cases agrees with
  | error there reached => exact ⟨_, rfl, fun _ => .error there reached⟩

/-- One scan after another, with errors that may be placed at any cursor on the way. -/
theorem bind_within {give' : γ → Bytes → δ} {scan : Scan α} {next : α → Scan γ} {start : Cursor}
    {read : Except Markup.Stop β} {goOn : β → Except Markup.Stop δ}
    (first : Agrees give cursor (scan start) read)
    (later : ∀ value after, cursor.Reaches after →
      Agrees give' cursor (next value after) (goOn (give value after.unread))) :
    Agrees give' cursor ((scan >>= next) start) (read >>= goOn) := by
  change Agrees give' cursor (EStateM.bind scan next start) (Except.bind read goOn)
  unfold EStateM.bind
  generalize scan start = scanned at first
  cases first with
  | ok reached => exact later _ _ reached
  | error there reached => exact .error there reached

/-- One scan after another, each from where the one before has got to. -/
theorem bind {give' : γ → Bytes → δ} {scan : Scan α} {next : α → Scan γ}
    {read : Except Markup.Stop β} {goOn : β → Except Markup.Stop δ}
    (first : Agrees give cursor (scan cursor) read)
    (later : ∀ value after,
      Agrees give' after (next value after) (goOn (give value after.unread))) :
    Agrees give' cursor ((scan >>= next) cursor) (read >>= goOn) :=
  first.bind_within fun value after reached => (later value after).behind reached

/-- A value made from another one. -/
theorem map {give' : γ → Bytes → δ} {scan : Scan α} {made : α → γ} {made' : β → δ}
    {read : Except Markup.Stop β} (agrees : Agrees give cursor (scan cursor) read)
    (same : ∀ value rest, made' (give value rest) = give' (made value) rest) :
    Agrees give' cursor ((made <$> scan) cursor) (made' <$> read) := by
  change Agrees give' cursor (EStateM.map made scan cursor) (Except.map made' read)
  unfold EStateM.map
  generalize scan cursor = scanned at agrees
  cases agrees with
  | error there reached => exact .error there reached
  | ok reached =>
    change Agrees give' cursor _ (.ok (made' _))
    rw [same]
    exact .ok reached

/-- A choice that both make alike. -/
theorem choose {condition : Prop} [Decidable condition] {scanned other : Scanned α}
    {read read' : Except Markup.Stop β} (met : condition → Agrees give cursor scanned read)
    (unmet : ¬ condition → Agrees give cursor other read') :
    Agrees give cursor (if condition then scanned else other)
      (if condition then read else read') := by
  split
  · next holds => exact met holds
  · next fails => exact unmet fails

end Agrees

/-- What is given are the unread bytes alone. -/
abbrev rest (_ : Unit) (unread : Bytes) : Bytes := unread

/-! Errors. -/

/-- Fails at a place. -/
def failAt (cause : Cause) (position : Position) : Scan α := fun cursor =>
  .error (.atPosition cause position) cursor

def fail (cause : Cause) : Scan α := fun cursor => failAt cause cursor.position cursor

theorem fail_agrees (cause : Cause) (cursor : Cursor) :
    Agrees give cursor (fail cause cursor) (.error (.here cause cursor.unread)) :=
  .error (.refl cursor) (.refl cursor)

theorem fail_atEnd (ended : cursor.unread = []) :
    Agrees give cursor (fail .unexpectedEnd cursor) (.error .atEnd) := by
  have failed := @fail_agrees α β give .unexpectedEnd cursor
  rwa [ended] at failed

/-! Single bytes. -/

/-- Moves the cursor. -/
def move (step : Cursor → Cursor) : Scan Unit := fun cursor => .ok () (step cursor)

theorem move_bind (step : Cursor → Cursor) (next : Scan α) (cursor : Cursor) :
    (move step >>= fun _ => next) cursor = next (step cursor) := rfl

/-- Whether the current byte is `expected`, which is read then. -/
def consume (expected : UInt8) : Scan Bool := fun cursor =>
  match cursor.consume? expected with
  | some next => .ok true next
  | none => .ok false cursor

theorem startsWith_eq (pattern : String) (cursor : Cursor) :
    cursor.startsWith (Markup.ascii pattern) = Markup.startsWith pattern cursor.unread :=
  cursor.startsWith_eq _

theorem unread_skipSpace (cursor : Cursor) :
    cursor.skipSpace.unread = Markup.skipSpace cursor.unread :=
  cursor.unread_advanceWhile isSpace

theorem skipSpace_reaches (cursor : Cursor) : cursor.Reaches cursor.skipSpace :=
  .advanceWhile isSpace cursor

/-- Less is left when something has been read behind white space. -/
theorem left_lt {next : Cursor} (shorter : next.unread.length < cursor.skipSpace.unread.length) :
    next.left < cursor.left := by
  rw [unread_skipSpace] at shorter
  rw [Cursor.left_eq, Cursor.left_eq]
  exact Nat.lt_of_lt_of_le shorter (Markup.length_skipSpace_le cursor.unread)

theorem current_eq_some_iff (c : Char) (cursor : Cursor) :
    cursor.current = some c.toUInt8 ↔ Markup.startsWith (.singleton c) cursor.unread = true := by
  rw [Cursor.current_eq]
  cases cursor.unread with
  | nil => simp [Markup.startsWith, Markup.ascii]
  | cons b rest =>
    simp only [List.head?_cons, Option.some.injEq, Markup.startsWith, Markup.ascii,
      String.toList_singleton, List.map_cons, List.map_nil, List.isPrefixOf, Bool.and_true,
      beq_iff_eq]
    exact eq_comm

theorem consume?_eq_some {c : Char} {next : Cursor} (met : cursor.consume? c.toUInt8 = some next) :
    Markup.startsWith (.singleton c) cursor.unread = true ∧ next = cursor.advanceBy 1 := by
  unfold Cursor.consume? at met
  split at met
  · next begun =>
    rw [← Cursor.advance_eq]
    exact ⟨(current_eq_some_iff c cursor).1 begun, (Option.some.inj met).symm⟩
  · cases met

theorem consume?_eq_none {c : Char} (unmet : cursor.consume? c.toUInt8 = none) :
    ¬ Markup.startsWith (.singleton c) cursor.unread = true := by
  unfold Cursor.consume? at unmet
  split at unmet
  · cases unmet
  · next other => rwa [current_eq_some_iff] at other

theorem consume_bind (c : Char) {next : Bool → Scan α} {read read' : Except Markup.Stop β}
    (met : Agrees give (cursor.advanceBy 1) (next true (cursor.advanceBy 1)) read)
    (unmet : Agrees give cursor (next false cursor) read') :
    Agrees give cursor ((consume c.toUInt8 >>= next) cursor)
      (if Markup.startsWith (.singleton c) cursor.unread then read else read') := by
  change Agrees give cursor (EStateM.bind (consume c.toUInt8) next cursor) _
  unfold EStateM.bind consume
  cases one : cursor.consume? c.toUInt8 with
  | none =>
    rw [if_neg (consume?_eq_none one)]
    exact unmet
  | some next =>
    obtain ⟨begun, rfl⟩ := consume?_eq_some one
    rw [if_pos begun]
    exact met.behind (.advanceBy cursor 1)

/-- Reads the one byte that may stand here. -/
def expect (wanted : Char) : Scan Unit := fun cursor =>
  match cursor.consume? wanted.toUInt8 with
  | some next => .ok () next
  | none => fail (if cursor.atEnd then .unexpectedEnd else .invalidToken) cursor

theorem expect_agrees (wanted : Char) (cursor : Cursor) :
    Agrees rest cursor (expect wanted cursor) (Markup.expect wanted cursor.unread) := by
  unfold expect Cursor.consume?
  rw [Cursor.current_eq, Cursor.atEnd_eq]
  cases next : cursor.unread with
  | nil => exact fail_atEnd next
  | cons b tail =>
    rw [Markup.expect]
    by_cases met : b = wanted.toUInt8
    · subst met
      have moved := @Agrees.ok Unit Bytes rest cursor () cursor.advance (.advance cursor)
      rw [rest, Cursor.unread_advance next] at moved
      simpa using moved
    · have failed := @fail_agrees Unit Bytes rest .invalidToken cursor
      rw [next] at failed
      simpa [met] using failed

/-! Texts and names. -/

/-- The text of a slice that begins at `start`. -/
def decode (slice : Bytes) (start : Position) : Scan String := fun cursor =>
  match String.fromUTF8? slice.toByteArray with
  | some text => .ok text cursor
  | none => failAt .invalidUtf8 start cursor

/-- The slice begins where the cursor has been, and scanning goes on where it is. -/
theorem decode_bind {origin site : Cursor} (there : origin.Reaches site)
    (reached : origin.Reaches cursor) {slice : Bytes} {next : String → Scan α}
    {goOn : String → Except Markup.Stop β}
    (later : ∀ text, Agrees give cursor (next text cursor) (goOn text)) :
    Agrees give origin ((decode slice site.position >>= next) cursor)
      (Markup.decode slice site.unread cursor.unread >>= goOn) := by
  change Agrees give origin (EStateM.bind (decode slice site.position) next cursor)
    (Except.bind (Markup.decode slice site.unread cursor.unread) goOn)
  unfold EStateM.bind decode Markup.decode
  cases String.fromUTF8? slice.toByteArray with
  | none => exact .error there reached
  | some text => exact (later text).behind reached

theorem decode_agrees {origin site : Cursor} (there : origin.Reaches site)
    (reached : origin.Reaches cursor) (slice : Bytes) :
    Agrees Prod.mk origin (decode slice site.position cursor)
      (Markup.decode slice site.unread cursor.unread >>= fun text =>
        .ok (text, cursor.unread)) := by
  unfold decode Markup.decode
  cases String.fromUTF8? slice.toByteArray with
  | none => exact .error there reached
  | some text => exact .ok reached

def readName : Scan String := fun start =>
  match start.current with
  | none => fail .unexpectedEnd start
  | some first =>
    if Markup.isNameStart first then
      let cursor := start.advance.advanceWhile Markup.isNameByte
      decode (cursor.sliceFrom start.position.offset) start.position cursor
    else fail .invalidToken start

theorem readName_agrees (start : Cursor) :
    Agrees Prod.mk start (readName start) (Markup.readName start.unread) := by
  unfold readName
  cases next : start.unread with
  | nil =>
    rw [Cursor.current_nil next]
    exact fail_atEnd next
  | cons first tail =>
    rw [Cursor.current_cons next, Markup.readName]
    dsimp only
    refine .choose (fun begun => ?_) fun other => ?_
    · have read : start.unread =
          (first :: tail.takeWhile Markup.isNameByte) ++ tail.dropWhile Markup.isNameByte := by
        rw [next, List.cons_append, List.takeWhile_append_dropWhile]
      have cursor : start.advance.advanceWhile Markup.isNameByte =
          start.ahead (first :: tail.takeWhile Markup.isNameByte) := by
        rw [Cursor.advanceWhile_eq, Cursor.unread_advance next, Cursor.advance_cons next,
          ← Cursor.ahead_append]
        rfl
      rw [cursor, Cursor.sliceFrom_ahead read, ← next]
      have decoded := decode_agrees (.refl start) (.ahead read)
        (first :: tail.takeWhile Markup.isNameByte)
      rwa [Cursor.unread_ahead read] at decoded
    · rw [← next]
      exact fail_agrees _ start

/-- Goes on to where the bytes of `pattern` come next. -/
def seek (pattern : Bytes) (cursor : Cursor) : Scanned Unit :=
  if _ : cursor.atEnd then fail .unexpectedEnd cursor
  else if cursor.peekBytes pattern.length = some pattern then .ok () cursor
  else seek pattern cursor.advance
termination_by cursor.left
decreasing_by
  cases next : cursor.unread with
  | nil => simp [Cursor.atEnd_eq, next] at *
  | cons b tail => exact Cursor.left_advance (Cursor.current_cons next)

/-- Reads text up to and including the first `closer`. -/
def readUntil (closer : String) : Scan String := fun start =>
  match seek (Markup.ascii closer) start with
  | .error error next => .error error next
  | .ok () cursor =>
    let body := Text.unifyLineEnds (cursor.sliceFrom start.position.offset)
    (do
      let text ← decode body start.position
      move (·.advanceBy closer.length)
      return text) cursor

theorem comes_next_iff (inside : cursor.unread ≠ []) (pattern : Bytes) :
    cursor.peekBytes pattern.length = some pattern ↔ pattern.isPrefixOf cursor.unread = true := by
  rw [Cursor.peekBytes_eq_some_iff (Cursor.offset_le_size inside), Cursor.startsWith_eq]

/-- What is sought comes where the bytes are cut at it, behind what was `read` before. -/
theorem seek_eq (pattern read : Bytes) (cursor : Cursor) :
    match Markup.splitAtFirst pattern read cursor.unread with
    | none => ∃ last, cursor.Reaches last ∧ last.unread = [] ∧
        seek pattern cursor = fail .unexpectedEnd last
    | some (body, left) => ∃ more, body = read.reverse ++ more ∧ cursor.unread = more ++ left ∧
        seek pattern cursor = .ok () (cursor.ahead more) := by
  fun_induction seek pattern cursor generalizing read with
  | case1 cursor ended =>
    rw [Cursor.atEnd_eq, List.isEmpty_iff] at ended
    rw [ended]
    exact ⟨cursor, .refl cursor, ended, rfl⟩
  | case2 cursor inside found =>
    rw [Cursor.atEnd_eq, List.isEmpty_iff] at inside
    rw [comes_next_iff inside] at found
    cases next : cursor.unread with
    | nil => exact absurd next inside
    | cons b tail =>
      rw [next] at found
      rw [Markup.splitAtFirst, if_pos found]
      exact ⟨[], (List.append_nil _).symm, rfl, rfl⟩
  | case3 cursor inside missing ih =>
    rw [Cursor.atEnd_eq, List.isEmpty_iff] at inside
    rw [comes_next_iff inside] at missing
    cases next : cursor.unread with
    | nil => exact absurd next inside
    | cons b tail =>
      rw [next] at missing
      rw [Markup.splitAtFirst, if_neg missing]
      have later := ih (b :: read)
      rw [Cursor.unread_advance next] at later
      split at later
      · obtain ⟨last, reached, ended, sought⟩ := later
        exact ⟨last, .trans (.advance cursor) reached, ended, sought⟩
      · obtain ⟨more, rfl, split, sought⟩ := later
        refine ⟨b :: more, by simp, by rw [split]; rfl, ?_⟩
        rw [sought, Cursor.advance_cons next, ← Cursor.ahead_append]
        rfl

theorem readUntil_agrees (closer : String) (start : Cursor) :
    Agrees Prod.mk start (readUntil closer start) (Markup.readUntil closer start.unread) := by
  have sought := seek_eq (Markup.ascii closer) [] start
  split at sought
  · next none =>
    obtain ⟨last, reached, ended, failed⟩ := sought
    unfold readUntil Markup.readUntil
    rw [none, failed]
    exact (fail_atEnd ended).behind reached
  · next body left found =>
    obtain ⟨more, same, split, seen⟩ := sought
    obtain rfl : body = more := same
    unfold readUntil Markup.readUntil
    rw [found, seen]
    dsimp only
    rw [Cursor.sliceFrom_ahead split, ← Cursor.unread_ahead split]
    refine decode_bind (.refl start) (.ahead split) fun text => ?_
    rw [← Cursor.unread_advanceBy]
    exact .ok (.advanceBy _ _)

end Scan
end XmlBuilder
