import XmlBuilder.Proofs.Entity.Expansion
import XmlBuilder.Proofs.Markup.Content

/-!
# Limits do nothing but refuse

A run under limits takes the steps of the run without any until it ends with it or is refused.
Each reader that is given the limits has a lemma that says so of its result (`AgreesUnless`): the
results are equal, or the limited one is an error that names a limit. `substitute_agrees` to
`readDocument_agrees` follow the readers from the references in a text up to whole documents; a
reader that calls others needs nothing of them but their lemmas.
-/
namespace XmlBuilder

/-- The cause names one of the limits, which is set. -/
def Limits.Causes (limits : Limits) (cause : Cause) : Prop :=
  limits.maxDepth ≠ 0 ∧ cause = .depthExceeded limits.maxDepth ∨
    limits.maxSize ≠ 0 ∧ cause = .sizeExceeded limits.maxSize

theorem Limits.causes_size {limits : Limits} {size : Nat} (large : limits.oversized size = true) :
    limits.Causes (.sizeExceeded limits.maxSize) := by
  simp only [oversized, Bool.and_eq_true, bne_iff_ne] at large
  exact .inr ⟨large.1, rfl⟩

theorem Limits.causes_text {limits : Limits} {size max : Nat}
    (large : Entity.exceeded? limits.textLimit size = some max) :
    limits.Causes (.sizeExceeded max) := by
  have given : max ∈ limits.textLimit := (Option.filter_eq_some_iff.1 large).1
  obtain ⟨limited, rfl⟩ := mem_textLimit_iff.1 given
  exact .inr ⟨limited, rfl⟩

theorem Limits.causes_depth {limits : Limits} {depth : UInt16}
    (deep : limits.tooDeep depth = true) : limits.Causes (.depthExceeded limits.maxDepth) := by
  simp only [tooDeep, Bool.and_eq_true, bne_iff_ne] at deep
  exact .inl ⟨deep.1, rfl⟩

/-- One result is the other, or it is an error of this kind. -/
def AgreesUnless {ε α : Type} (refusal : ε → Prop) (limited free : Except ε α) : Prop :=
  limited = free ∨ ∃ e, limited = .error e ∧ refusal e

namespace AgreesUnless

variable {ε α β : Type} {refusal : ε → Prop}

theorem refl (result : Except ε α) : AgreesUnless refusal result result :=
  .inl rfl

theorem refused {e : ε} {free : Except ε α} (h : refusal e) :
    AgreesUnless refusal (.error e) free :=
  .inr ⟨e, rfl, h⟩

theorem ok {x : α} {limited free : Except ε α} (agrees : AgreesUnless refusal limited free)
    (done : limited = .ok x) : free = .ok x := by
  rcases agrees with same | ⟨e, failed, -⟩
  · exact same.symm.trans done
  · cases done.symm.trans failed

theorem bind {limited free : Except ε α} {next next' : α → Except ε β}
    (first : AgreesUnless refusal limited free)
    (later : ∀ x, AgreesUnless refusal (next x) (next' x)) :
    AgreesUnless refusal (limited >>= next) (free >>= next') := by
  rcases first with rfl | ⟨e, rfl, h⟩
  · cases limited with
    | error e => exact refl _
    | ok x => exact later x
  · exact refused h

end AgreesUnless

/-! ## References -/

namespace Entity

variable {limits : Limits}

theorem substitute_agrees {replace replace' : String → Except Cause String}
    (each : ∀ name, AgreesUnless limits.Causes (replace name) (replace' name))
    (out : String) (name : Option (List Char)) (cs : List Char) :
    AgreesUnless limits.Causes (substitute replace limits.textLimit out name cs)
      (substitute replace' none out name cs) := by
  induction cs generalizing out name with
  | nil => exact .refl _
  | cons c rest ih =>
    cases name with
    | none =>
      simp only [substitute]
      by_cases amp : c == '&'
      · rw [if_pos amp, if_pos amp]
        exact ih out (some [])
      · rw [if_neg amp, if_neg amp]
        exact ih (out.push c) none
    | some read =>
      simp only [substitute]
      by_cases semi : c == ';'
      · rw [if_pos semi, if_pos semi]
        rcases each (String.ofList read.reverse) with same | ⟨cause, failed, caused⟩
        · rw [same]
          cases replace' (String.ofList read.reverse) with
          | error cause => exact .refl _
          | ok text =>
            have free : exceeded? none (out ++ text).utf8ByteSize = none := rfl
            dsimp only
            rw [free]
            -- The only place where the two runs part.
            cases large : exceeded? limits.textLimit (out ++ text).utf8ByteSize with
            | some max => exact .refused (Limits.causes_text large)
            | none => exact ih (out ++ text) none
        · rw [failed]
          exact .refused caused
      · rw [if_neg semi, if_neg semi]
        exact ih out (some (c :: read))

theorem replacement_agrees {declared declared' : String → Except Cause String}
    (each : ∀ name, AgreesUnless limits.Causes (declared name) (declared' name)) (name : String) :
    AgreesUnless limits.Causes (replacement declared name) (replacement declared' name) := by
  simp only [replacement]
  cases character? name with
  | some c => exact .refl _
  | none => exact each name

theorem expand_agrees (table : Table String) (levels : Nat) (text : String) :
    AgreesUnless limits.Causes (expand table limits.textLimit levels text)
      (expand table none levels text) := by
  induction levels generalizing text with
  | zero =>
    rw [expand_eq, expand_eq]
    exact substitute_agrees (replacement_agrees fun name => .refl _) "" none text.toList
  | succ levels ih =>
    rw [expand_eq, expand_eq]
    refine substitute_agrees (replacement_agrees fun name => ?_) "" none text.toList
    simp only [declaredText]
    cases table.find? name with
    | none => exact .refl _
    | some declared => exact ih declared

end Entity

/-! ## Tags and texts -/

namespace Markup

/-- The reading stopped because of a limit. -/
def RefusedBy (limits : Limits) (stop : Stop) : Prop :=
  limits.Causes stop.cause

section Context

variable {limits : Limits} {entities : Table String}

theorem Context.expand_agrees (text : String) (site left : Bytes) :
    AgreesUnless (RefusedBy limits) (Context.expand ⟨limits, entities⟩ text site left)
      (Context.expand ⟨.unlimited, entities⟩ text site left) := by
  simp only [Context.expand, Context.decode]
  have expanded := @Entity.expand_agrees limits entities Entity.maxLevels text
  rcases expanded with same | ⟨cause, failed, caused⟩
  · rw [same]
    exact .refl _
  · rw [failed]
    exact .refused caused

theorem readText_agrees (bytes : Bytes) :
    AgreesUnless (RefusedBy limits) (readText ⟨limits, entities⟩ bytes)
      (readText ⟨.unlimited, entities⟩ bytes) :=
  .bind (.refl _) fun text => .bind (Context.expand_agrees text _ _) fun _ => .refl _

theorem readValue_agrees (bytes : Bytes) :
    AgreesUnless (RefusedBy limits) (readValue ⟨limits, entities⟩ bytes)
      (readValue ⟨.unlimited, entities⟩ bytes) := by
  cases bytes with
  | nil => exact .refl _
  | cons quote bytes =>
    simp only [readValue]
    by_cases quoted : isQuote quote = true
    · rw [if_pos quoted, if_pos quoted]
      cases bytes.dropWhile fun b => b != quote && b != '<'.toUInt8 with
      | nil => exact .refl _
      | cons b left =>
        dsimp only
        by_cases closed : b == quote
        · rw [if_pos closed, if_pos closed]
          exact .bind (.refl _) fun text => .bind (Context.expand_agrees text _ _) fun _ => .refl _
        · rw [if_neg closed, if_neg closed]
          exact .refl _
    · rw [if_neg quoted, if_neg quoted]
      exact .refl _

theorem readAttribute_agrees (bytes : Bytes) :
    AgreesUnless (RefusedBy limits) (readAttribute ⟨limits, entities⟩ bytes)
      (readAttribute ⟨.unlimited, entities⟩ bytes) :=
  .bind (.refl _) fun _ => .bind (.refl _) fun _ => .bind (readValue_agrees _) fun _ => .refl _

theorem readAttributes_agrees (read : List Attribute) (bytes : Bytes) :
    AgreesUnless (RefusedBy limits) (readAttributes ⟨limits, entities⟩ read bytes)
      (readAttributes ⟨.unlimited, entities⟩ read bytes) := by
  have one (bytes : Bytes) := @readAttribute_agrees limits entities bytes
  fun_induction readAttributes ⟨limits, entities⟩ read bytes with
  | case1 read bytes found =>
    rw [readAttributes_eq, found]
    exact .refl _
  | case2 read bytes b next found closer =>
    rw [readAttributes_eq, found]
    dsimp only
    rw [if_pos closer]
    exact .refl _
  | case3 read bytes b next found further spaced stop failed =>
    rw [readAttributes_eq, found]
    dsimp only
    rw [if_neg further, if_pos spaced]
    rcases one (b :: next) with same | ⟨stop', failed', caused⟩
    · rw [← same, failed]
      exact .refl _
    · cases failed.symm.trans failed'
      exact .refused caused
  | case4 read bytes b next found further spaced attr rest taken twice =>
    rw [readAttributes_eq, found]
    dsimp only
    rw [if_neg further, if_pos spaced, (one (b :: next)).ok taken]
    dsimp only
    rw [if_pos twice]
    exact .refl _
  | case5 read bytes b next found further spaced attr rest taken fresh ih =>
    rw [@readAttributes_eq ⟨.unlimited, entities⟩ read bytes, found]
    dsimp only
    rw [if_neg further, if_pos spaced, (one (b :: next)).ok taken]
    dsimp only
    rw [if_neg fresh]
    exact ih
  | case6 read bytes b next found further unspaced =>
    rw [readAttributes_eq, found]
    dsimp only
    rw [if_neg further, if_neg unspaced]
    exact .refl _

theorem readStartTag_agrees (bytes : Bytes) :
    AgreesUnless (RefusedBy limits) (readStartTag ⟨limits, entities⟩ bytes)
      (readStartTag ⟨.unlimited, entities⟩ bytes) :=
  .bind (.refl _) fun _ => .bind (.refl _) fun _ => .bind (readAttributes_agrees _ _) fun _ =>
    .refl _

/-! ## Elements -/

theorem openElement_agrees (depth : UInt16) (bytes : Bytes) :
    AgreesUnless (RefusedBy limits) (openElement ⟨limits, entities⟩ depth bytes)
      (openElement ⟨.unlimited, entities⟩ depth bytes) := by
  have free : Limits.unlimited.tooDeep depth = false := rfl
  simp only [openElement, free]
  by_cases deep : limits.tooDeep depth = true
  · rw [if_pos deep]
    exact .refused (Limits.causes_depth deep)
  · rw [if_neg deep]
    exact readStartTag_agrees bytes

theorem readPiece_agrees (name : String) (depth : UInt16) (bytes : Bytes) :
    AgreesUnless (RefusedBy limits) (readPiece ⟨limits, entities⟩ name depth bytes)
      (readPiece ⟨.unlimited, entities⟩ name depth bytes) := by
  simp only [readPiece]
  split
  · exact .refl _
  split
  · exact .refl _
  split
  · exact .refl _
  split
  · exact .refl _
  split
  · exact .bind (openElement_agrees _ _) fun _ => .refl _
  split
  · exact .refl _
  · exact .bind (readText_agrees _) fun _ => .refl _

theorem readContent_agrees (element : OpenElement) (outer : List OpenElement) (bytes : Bytes) :
    AgreesUnless (RefusedBy limits) (readContent ⟨limits, entities⟩ element outer bytes)
      (readContent ⟨.unlimited, entities⟩ element outer bytes) := by
  -- Along the limited run: a step that it takes, the other run takes too.
  have piece (element : OpenElement) (bytes : Bytes) :=
    @readPiece_agrees limits entities element.tag.name element.depth bytes
  fun_induction readContent ⟨limits, entities⟩ element outer bytes with
  | case1 element outer bytes stop failed =>
    rcases piece element bytes with same | ⟨stop', failed', caused⟩
    · rw [readContent_eq, ← same, failed]
      exact .refl _
    · cases failed.symm.trans failed'
      exact .refused caused
  | case2 element outer bytes node rest read ih =>
    rw [@readContent_eq ⟨.unlimited, entities⟩ element, (piece element bytes).ok read]
    exact ih
  | case3 element outer bytes tag rest read ih =>
    rw [@readContent_eq ⟨.unlimited, entities⟩ element, (piece element bytes).ok read]
    exact ih
  | case4 element bytes rest read =>
    rw [readContent_eq, (piece element bytes).ok read]
    exact .refl _
  | case5 element bytes rest read parent above ih =>
    rw [@readContent_eq ⟨.unlimited, entities⟩ element, (piece element bytes).ok read]
    exact ih

theorem readElement_agrees (bytes : Bytes) :
    AgreesUnless (RefusedBy limits) (readElement ⟨limits, entities⟩ bytes)
      (readElement ⟨.unlimited, entities⟩ bytes) := by
  refine .bind (openElement_agrees 1 bytes) fun read => ?_
  obtain ⟨⟨tag, empty⟩, rest⟩ := read
  cases empty
  · exact readContent_agrees _ _ _
  · exact .refl _

/-! ## Documents -/

theorem readBody_agrees (bytes : Bytes) :
    AgreesUnless (RefusedBy limits) (readBody ⟨limits, entities⟩ bytes)
      (readBody ⟨.unlimited, entities⟩ bytes) := by
  cases bytes with
  | nil => exact .refl _
  | cons b tail => exact .bind (readElement_agrees (b :: tail)) fun _ => .refl _

end Context

theorem readDocument_agrees (limits : Limits) (table : Table String) (bytes : Bytes) :
    AgreesUnless (RefusedBy limits) (readDocument limits table bytes).2
      (readDocument .unlimited table bytes).2 := by
  have free : Limits.unlimited.oversized bytes.length = false := rfl
  simp only [readDocument, free]
  by_cases large : limits.oversized bytes.length = true
  · rw [if_pos large]
    exact .refused (Limits.causes_size large)
  · rw [if_neg large]
    exact .bind (.refl _) fun rest => readBody_agrees rest

end Markup
end XmlBuilder
