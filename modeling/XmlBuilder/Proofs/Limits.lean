import XmlBuilder.Proofs.Markup.Depth
import XmlBuilder.Proofs.Markup.Refusal
import XmlBuilder.Proofs.Reading

/-!
# What limits let through

Limits do nothing but refuse, and do not refuse what fits (`limited_or_refused`). How deep the
elements of a document may lie is what the limit on depth says, but for the highest limit, which
refuses nothing; an error is placed at the first element that lies too deep (`refused_too_deep`).
Of a value with references in it, the limit on size holds for what the text up to the last
reference stands for, and not for the text behind it (`values_fit`).
-/
namespace XmlBuilder

open Text (utf8)

/-- What is read without limits is read with limits too if it keeps within them. -/
theorem readBytes_of_unlimited {limits : Limits} {bytes : Bytes} {root : Element}
    (read : readBytes .unlimited bytes = .ok root) (admitted : limits.Admits root.height)
    (fits : limits.oversized bytes.length = false)
    (small : ∀ value ∈ root.values, limits.oversized value.utf8ByteSize = false) :
    readBytes limits bytes = .ok root := by
  obtain ⟨entities, form, -⟩ := readBytes_sound read
  have carries := Markup.carries_limits .unlimited limits entities
  exact readBytes_complete admitted fits (form.carry carries rfl small)

/-! ## Depth -/

section Depth

variable {limits : Limits} {bytes before after : Bytes} {root : Element}

theorem readDocument_first {entities : Table String}
    (first : Markup.FirstInDocument [] ⟨limits, entities⟩ before after root
      (limits.maxDepth.toNat + 1))
    (fits : limits.oversized (before ++ after).length = false) (limited : limits.maxDepth ≠ 0)
    (countable : limits.maxDepth ≠ 0xFFFF) :
    Markup.readDocument limits [] (before ++ after) =
      (entities, .error (.here (.depthExceeded limits.maxDepth) after)) := by
  refine Markup.readDocument_tooDeep first fits ?_ ?_
  · intro low less
    exact .inr (.inr (Nat.le_of_lt_succ less))
  · intro admitted
    rcases admitted with unlimited | highest | within
    · exact limited unlimited
    · exact countable highest
    · omega

/-- The first element too deep lies at one place only. -/
theorem first_unique {entities entities' : Table String} {before' after' : Bytes}
    (first : Markup.FirstInDocument [] ⟨limits, entities⟩ before after root
      (limits.maxDepth.toNat + 1))
    (first' : Markup.FirstInDocument [] ⟨limits, entities'⟩ before' after' root
      (limits.maxDepth.toNat + 1))
    (same : before ++ after = before' ++ after')
    (fits : limits.oversized (before ++ after).length = false) (limited : limits.maxDepth ≠ 0)
    (countable : limits.maxDepth ≠ 0xFFFF) : before = before' := by
  -- Reading ends at both places, and it ends only once.
  have read := readDocument_first first fits limited countable
  rw [same] at read fits
  rw [readDocument_first first' fits limited countable] at read
  obtain rfl : after' = after :=
    congrArg Markup.Stop.site (Except.error.inj (congrArg Prod.snd read))
  exact List.append_cancel_right same

/-- What is read under a limit that can be exceeded is not higher than the limit. -/
theorem height_le_of_read (read : readBytes limits bytes = .ok root) (limited : limits.maxDepth ≠ 0)
    (countable : limits.maxDepth ≠ 0xFFFF) : root.height ≤ limits.maxDepth.toNat := by
  by_contra high
  -- The document that was read is one in the context of the limits, so it has a first element that
  -- lies too deep there.
  obtain ⟨entities, form, fits⟩ := readBytes_sound read
  obtain ⟨before, after, rfl, first⟩ :=
    Markup.FirstInDocument.exists form (Nat.succ_pos _) (Nat.lt_of_not_le high)
  rw [readBytes_eq, readDocument_first first fits limited countable] at read
  cases read

theorem admits_of_read (read : readBytes limits bytes = .ok root) :
    limits.Admits root.height := by
  by_cases limited : limits.maxDepth = 0
  · exact .inl limited
  by_cases countable : limits.maxDepth = 0xFFFF
  · exact .inr (.inl countable)
  exact .inr (.inr (height_le_of_read read limited countable))

/-- In the document with this root, an element that lies `depth` deep begins behind the bytes
`before`. -/
def BeginsBehind (bytes : Bytes) (root : Element) (depth : Nat) (before : Bytes) : Prop :=
  ∃ entities after, bytes = before ++ after ∧
    Markup.ElementInDocument [] ⟨.unlimited, entities⟩ before after root depth

/-- A limit on depth alone refuses no value. -/
theorem carries_depth (depth : UInt16) (entities : Table String) :
    Markup.Carries (fun _ => True) ⟨.unlimited, entities⟩ ⟨⟨depth, 0⟩, entities⟩ :=
  fun run value _ => Markup.carries_limits .unlimited ⟨depth, 0⟩ entities run value rfl

theorem BeginsBehind.exists_first {depth : UInt16}
    (given : BeginsBehind bytes root (depth.toNat + 1) before) :
    ∃ entities before' after', bytes = before' ++ after' ∧
      Markup.FirstInDocument [] ⟨⟨depth, 0⟩, entities⟩ before' after' root (depth.toNat + 1) ∧
      before'.length ≤ before.length := by
  obtain ⟨entities, after, rfl, reached⟩ := given
  have limited := reached.carry (carries_depth depth entities) rfl fun _ => trivial
  obtain ⟨before', after', split, first, le⟩ := limited.exists_first
  exact ⟨entities, before', after', split, first, le⟩

/-- Under a limit on depth, a document is read just as without it if its elements lie no deeper.
Otherwise it is refused where the first one begins that lies deeper. The highest limit there is
refuses nothing; under any other, no document is read whose elements lie deeper. -/
theorem refused_too_deep (depth : UInt16) (limited : depth ≠ 0) (bytes : Bytes) :
    (∀ root, readBytes .unlimited bytes = .ok root →
      (root.height ≤ depth.toNat ∨ depth = 0xFFFF → readBytes ⟨depth, 0⟩ bytes = .ok root) ∧
      (depth.toNat < root.height → depth ≠ 0xFFFF →
        ∃ before tail, bytes = before ++ '<'.toUInt8 :: tail ∧
          BeginsBehind bytes root (depth.toNat + 1) before ∧
          (∀ other, BeginsBehind bytes root (depth.toNat + 1) other →
            before.length ≤ other.length) ∧
          readBytes ⟨depth, 0⟩ bytes =
            .error (.atPosition (.depthExceeded depth) (Position.origin.advance before)))) ∧
    (depth ≠ 0xFFFF → ∀ size root, readBytes ⟨depth, size⟩ bytes = .ok root →
      root.height ≤ depth.toNat) := by
  refine ⟨fun root read => ⟨fun admitted => ?_, fun high countable => ?_⟩,
    fun countable size root read => height_le_of_read read limited countable⟩
  · exact readBytes_of_unlimited read (.inr admitted.symm) rfl fun _ _ => rfl
  · obtain ⟨entities, form, -⟩ := readBytes_sound read
    obtain ⟨before, after, rfl, reached⟩ :=
      Markup.FirstInDocument.exists form (Nat.succ_pos depth.toNat) high
    have first := reached.carry (carries_depth depth entities) rfl fun _ => trivial
    have stopped := readDocument_first first rfl limited countable
    have place := placeOf_append before after
    obtain ⟨tail, rfl⟩ := first.begins
    refine ⟨before, tail, rfl, ?_, ?_, ?_⟩
    · exact ⟨entities, _, rfl, reached.element⟩
    · intro other begins
      -- What lies first by `other` is where reading ends too, whatever entities are known there.
      obtain ⟨entities', before', after', split, first', le⟩ := begins.exists_first
      rwa [first_unique first first' split rfl limited countable]
    · rw [readBytes_eq, stopped]
      exact congrArg (Except.error <| Error.atPosition (.depthExceeded depth) ·) place

/-- An element with two children, of which the second has a child. -/
def stepped : Element :=
  ⟨⟨"a", []⟩, [.element ⟨"b", []⟩ [], .element ⟨"c", []⟩ [.element ⟨"d", []⟩ []]]⟩

theorem refused_too_deep_stepped :
    (2 : UInt16) ≠ 0 ∧ readBytes .unlimited (utf8 "<a><b/><c><d/></c></a>") = .ok stepped ∧
      readBytes ⟨3, 0⟩ (utf8 "<a><b/><c><d/></c></a>") = .ok stepped ∧
      ∃ before, BeginsBehind (utf8 "<a><b/><c><d/></c></a>") stepped 3 before ∧
        readBytes ⟨2, 0⟩ (utf8 "<a><b/><c><d/></c></a>") =
          .error (.atPosition (.depthExceeded 2) (Position.origin.advance before)) := by
  have read : readBytes .unlimited (utf8 "<a><b/><c><d/></c></a>") = .ok stepped := by
    rw [readBytes_eq]
    with_unfolding_all rfl
  have higher := (refused_too_deep 3 (by decide) (utf8 "<a><b/><c><d/></c></a>")).1 _ read
  have lower := (refused_too_deep 2 (by decide) (utf8 "<a><b/><c><d/></c></a>")).1 _ read
  obtain ⟨before, tail, -, begins, -, refused⟩ := lower.2 (by decide) (by decide)
  exact ⟨by decide, read, higher.1 (.inl (by decide)), before, begins, refused⟩

/-- As many elements as there are levels, each the only child of the one before. -/
def nestedBytes : Nat → Bytes
  | 0 => []
  | levels + 1 => Markup.ascii "<a>" ++ (nestedBytes levels ++ Markup.ascii "</a>")

def nested : Nat → Element
  | 0 => ⟨⟨"a", []⟩, []⟩
  | levels + 1 => ⟨⟨"a", []⟩, [(nested levels).toNode]⟩

theorem height_nested (levels : Nat) : (nested levels).height = levels + 1 := by
  induction levels with
  | zero => rfl
  | succ levels ih =>
    change Node.heightOfAll [(nested levels).toNode] + 1 = levels + 1 + 1
    simp only [Node.heightOfAll, Nat.max_zero]
    exact congrArg (· + 1) ih

theorem nodeText_nested (context : Markup.Context) (levels : Nat) :
    Markup.NodeText context (nestedBytes (levels + 1)) (nested levels).toNode := by
  have start : Markup.StartTagText context ">" (Markup.ascii "<a>") ⟨"a", []⟩ :=
    ⟨[], [], rfl, rfl, .nil, by simp, by simp [Markup.Spaces]⟩
  have ending : Markup.EndTagText "a" (Markup.ascii "</a>") :=
    ⟨[], rfl, rfl, by simp [Markup.Spaces]⟩
  induction levels with
  | zero =>
    exact @Markup.NodeText.element context _ _ ⟨"a", []⟩ [] start (by simp)
      (by simp [Node.Separated]) ending
  | succ levels ih =>
    have whole := @Markup.NodeText.element context _ _ ⟨"a", []⟩
      [(nestedBytes (levels + 1), (nested levels).toNode)] start (by simpa using ih)
      (by simp [Node.Separated]) ending
    rwa [List.flatMap_singleton] at whole

/-- Under the highest limit there is, a document is read whose elements lie deeper. -/
theorem highest_limit_exceeded :
    readBytes .unlimited (nestedBytes 65536) = .ok (nested 65535) ∧
      (0xFFFF : UInt16).toNat < (nested 65535).height ∧
      readBytes ⟨0xFFFF, 0⟩ (nestedBytes 65536) = .ok (nested 65535) := by
  have form (limits : Limits) (levels : Nat) : Markup.DocumentText [] ⟨limits, []⟩
      (nestedBytes (levels + 1)) (nested levels) :=
    ⟨[], [], _, [], by simp, .inl rfl, .nil, nodeText_nested _ levels, .nil⟩
  refine ⟨readBytes_of_document (form _ 65535), ?_,
    readBytes_complete (.inr (.inl rfl)) rfl (form _ 65535)⟩
  rw [height_nested]
  decide

end Depth

/-! ## Size -/

/-- The value stands for a run of the bytes. What the run holds up to its last reference stands for
no more than the limit on size, and what is behind that is taken as it is. -/
def BoundedToReferences (limits : Limits) (entities : Table String) (bytes : Bytes)
    (value : String) : Prop :=
  ∃ run source closed tail head, run <:+: bytes ∧ Markup.Written run source ∧
    Entity.BehindReferences source closed tail ∧ value = head ++ tail ∧
    Entity.Expansion entities Entity.maxLevels closed head ∧
    head.utf8ByteSize ≤ limits.maxSize ∧ tail.utf8ByteSize ≤ limits.maxSize ∧
    (closed = "" ∨ tail = "" → value.utf8ByteSize ≤ limits.maxSize)

theorem Markup.ValueWritten.bounded {limits : Limits} {entities : Table String} {bytes : Bytes}
    {value : String} (written : Markup.ValueWritten ⟨limits, entities⟩ bytes value)
    (limited : limits.maxSize ≠ 0) (fits : limits.oversized bytes.length = false) :
    BoundedToReferences limits entities bytes value := by
  obtain ⟨run, source, within, form, expanded⟩ := written
  obtain ⟨closed, tail, head, behind, rfl, expansion, small⟩ := Entity.expand_split expanded
  -- The text is written in the bytes, and so are its parts.
  have sourceFits : source.utf8ByteSize ≤ limits.maxSize :=
    calc source.utf8ByteSize
      _ ≤ run.length := form.size_le
      _ ≤ bytes.length := within.length_le
      _ ≤ limits.maxSize := (Limits.oversized_eq_false.1 fits).resolve_left limited
  have headFits : head.utf8ByteSize ≤ limits.maxSize := by
    rcases small with ⟨-, rfl⟩ | small
    · exact Nat.zero_le _
    · exact Entity.exceeded?_eq_none_iff.1 small _ (Limits.mem_textLimit_iff.2 ⟨limited, rfl⟩)
  have tailFits : tail.utf8ByteSize ≤ limits.maxSize := by
    rw [behind.whole, String.utf8ByteSize_append] at sourceFits
    omega
  refine ⟨run, source, closed, tail, head, within, form, behind, rfl, expansion, headFits,
    tailFits, ?_⟩
  intro oneOnly
  rcases oneOnly with rfl | rfl
  · rwa [expansion.eq_of_plain (by simp), String.empty_append]
  · rwa [String.append_empty]

/-- Under a limit on size, a value of a document is within the limit as far as the last reference
in its run, and within it as a whole if nothing stands behind that reference or there is none. -/
theorem values_fit {limits : Limits} {bytes : Bytes} {root : Element} (limited : limits.maxSize ≠ 0)
    (read : readBytes limits bytes = .ok root) :
    ∃ entities, Markup.DocumentText [] ⟨limits, entities⟩ bytes root ∧
      ∀ value ∈ root.values, BoundedToReferences limits entities bytes value ∧
        value.utf8ByteSize ≤ 2 * limits.maxSize := by
  obtain ⟨entities, form, fits⟩ := readBytes_sound read
  refine ⟨entities, form, fun value member => ?_⟩
  have bounded := (form.value_written member).bounded limited fits
  refine ⟨bounded, ?_⟩
  obtain ⟨-, -, -, tail, head, -, -, -, rfl, -, headFits, tailFits, -⟩ := bounded
  rw [String.utf8ByteSize_append]
  omega

/-- An element with an attribute and a text. -/
def labelled (value text : String) : Element :=
  ⟨⟨"r", [⟨"b", value⟩]⟩, [.text text]⟩

theorem values_fit_labelled :
    (60 : Nat) ≠ 0 ∧
      readBytes ⟨0, 60⟩ (utf8 "<!DOCTYPE r [<!ENTITY a \"123\">]><r b='&a;'>x&a;&lt;</r>") =
        .ok (labelled "123" "x123<") ∧
      ∃ entities, BoundedToReferences ⟨0, 60⟩ entities
        (utf8 "<!DOCTYPE r [<!ENTITY a \"123\">]><r b='&a;'>x&a;&lt;</r>") "x123<" := by
  have read : readBytes ⟨0, 60⟩
      (utf8 "<!DOCTYPE r [<!ENTITY a \"123\">]><r b='&a;'>x&a;&lt;</r>") =
        .ok (labelled "123" "x123<") := by
    rw [readBytes_eq]
    with_unfolding_all rfl
  obtain ⟨entities, -, each⟩ := values_fit (by decide) read
  exact ⟨by decide, read, entities, (each "x123<" (by decide)).1⟩

/-- Text behind the last reference takes a value beyond the limit. -/
theorem trailing_text_exceeds_limit :
    ∃ root value, readBytes ⟨0, 80⟩ (utf8
        "<!DOCTYPE r [<!ENTITY a \"12345678901234567890\">]><r>&a;&a;&a;&a;45678901</r>") =
      .ok root ∧ value ∈ root.values ∧ 80 < value.utf8ByteSize := by
  refine ⟨⟨⟨"r", []⟩, [.text ("12345678901234567890123456789012345678901234567890" ++
    "12345678901234567890123456789045678901")]⟩, _, ?_, List.mem_singleton.2 rfl, by decide⟩
  rw [readBytes_eq]
  with_unfolding_all rfl

/-! ## All limits -/

/-- The result under limits is the one without, or an error that names one of the limits. And what
is read without limits is read under limits too if the document, its depth and all its values keep
within them. -/
theorem limited_or_refused (limits : Limits) (bytes : Bytes) :
    (readBytes limits bytes = readBytes .unlimited bytes ∨
      (limits.maxDepth ≠ 0 ∧ ∃ position, readBytes limits bytes =
        .error (.atPosition (.depthExceeded limits.maxDepth) position)) ∨
      (limits.maxSize ≠ 0 ∧ ∃ position, readBytes limits bytes =
        .error (.atPosition (.sizeExceeded limits.maxSize) position))) ∧
    ∀ root, readBytes .unlimited bytes = .ok root →
      (limits.maxSize = 0 ∨ bytes.length ≤ limits.maxSize) →
      (limits.maxDepth = 0 ∨ root.height ≤ limits.maxDepth.toNat) →
      (∀ value ∈ root.values, limits.maxSize = 0 ∨ value.utf8ByteSize ≤ limits.maxSize) →
        readBytes limits bytes = .ok root := by
  constructor
  · rw [readBytes_eq limits, readBytes_eq .unlimited]
    rcases Markup.readDocument_agrees limits [] bytes with same | ⟨stop, failed, caused⟩
    · exact .inl (by rw [same])
    · rw [failed]
      rcases caused with ⟨limited, cause⟩ | ⟨limited, cause⟩
      · exact .inr (.inl ⟨limited, _, by rw [Except.mapError, cause]⟩)
      · exact .inr (.inr ⟨limited, _, by rw [Except.mapError, cause]⟩)
  · intro root read fits shallow small
    have admitted : limits.Admits root.height := by
      rcases shallow with unlimited | within
      · exact .inl unlimited
      · exact .inr (.inr within)
    exact readBytes_of_unlimited read admitted (Limits.oversized_eq_false.2 fits)
      fun value member => Limits.oversized_eq_false.2 (small value member)

theorem limited_or_refused_labelled :
    readBytes ⟨1, 60⟩ (utf8 "<!DOCTYPE r [<!ENTITY a \"123\">]><r b='&a;'>x&a;&lt;</r>") =
      .ok (labelled "123" "x123<") := by
  have read : readBytes .unlimited
      (utf8 "<!DOCTYPE r [<!ENTITY a \"123\">]><r b='&a;'>x&a;&lt;</r>") =
        .ok (labelled "123" "x123<") := by
    rw [readBytes_eq]
    with_unfolding_all rfl
  exact (limited_or_refused ⟨1, 60⟩ _).2 _ read (.inr (by decide)) (.inr (by decide)) (by decide)

end XmlBuilder
