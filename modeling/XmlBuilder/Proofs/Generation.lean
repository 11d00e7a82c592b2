import XmlBuilder.Generate
import XmlBuilder.Proofs.Builder.Decoding
import XmlBuilder.Proofs.Reading

/-!
# What a generated source tells about its document

Generation succeeds exactly where the class name is accepted and the document is read. With
escapes in the literals, its result can be decoded: the class name and the whole call tree come
back, so that two inputs with one source agree in both.
-/
namespace XmlBuilder

/-- The call tree of a document, as its generated text shows it. -/
def callTree (before : Bindings) (root : Element) : Builder.DocumentCall :=
  (Builder.statedDocument Attribute.declares before root).spelled

theorem generate_ok_iff (options : Options) (className document : String) (file : ClassFile) :
    generate options className document = .ok file ↔
      ∃ accepted root, readString options.limits document = .ok root ∧
        file = ⟨⟨className, accepted⟩, Builder.source ⟨className, accepted⟩
          ((Builder.compose [] root).document.render options.style)⟩ := by
  unfold generate generateLogged ClassName.check readString Text.utf8
  split
  · next refused unmet =>
    split at unmet
    · cases unmet
    · next unaccepted =>
      constructor
      · intro h
        cases h
      · intro given
        rcases given with ⟨accepted, _⟩
        exact absurd accepted unaccepted
  · next name found =>
    split at found
    · next accepted =>
      cases found
      cases read : readBytes options.limits document.toUTF8.data.toList with
      | error error =>
        constructor
        · intro h
          cases h
        · intro given
          rcases given with ⟨_, root, succeeded, _⟩
          cases succeeded
      | ok root =>
        constructor
        · intro h
          cases h
          exact ⟨accepted, root, rfl, rfl⟩
        · intro given
          rcases given with ⟨_, _, succeeded, rfl⟩
          cases succeeded
          rfl
    · cases found

/-- A body with escapes gives back its call tree, whatever tree it was composed from. -/
theorem decodeBody_render (before : Bindings) (root : Element) :
    Builder.decodeBody ((Builder.compose before root).document.render .escaped) =
      some (callTree before root) := by
  rw [Builder.DocumentCall.render_eq, Builder.decodeBody_wording, Builder.compose_document_eq]
  rfl

/-- A generated source with escapes gives back the class name and the call tree. -/
theorem decodeSource_generate {limits : Limits} {className document : String} {file : ClassFile}
    (generated : generate ⟨limits, .escaped⟩ className document = .ok file) :
    ∃ root, readString limits document = .ok root ∧
      Builder.decodeSource file.source = some (className, callTree [] root) := by
  obtain ⟨accepted, root, read, rfl⟩ := (generate_ok_iff _ _ _ _).1 generated
  refine ⟨root, read, ?_⟩
  dsimp only
  rw [Builder.DocumentCall.render_eq, Builder.decodeSource_source, Builder.compose_document_eq]
  rfl

theorem generate_succeeds_iff (options : Options) (className document : String) :
    (∃ file, generate options className document = .ok file) ↔
      ClassName.accepts className = true ∧
        ∃ root, readString options.limits document = .ok root := by
  simp only [generate_ok_iff]
  constructor
  · intro given
    rcases given with ⟨_, accepted, root, read, _⟩
    exact ⟨accepted, root, read⟩
  · intro given
    rcases given with ⟨accepted, root, read⟩
    exact ⟨_, accepted, root, read, rfl⟩

/-- One decoder gives back the class name and call tree of every source that is generated with
escapes, and the call tree of every body composed with them. Sources are generated where the name
is accepted and the document read, and equal ones tell of equal names and trees. -/
theorem generated_text_decodes :
    (∀ limits className document file,
      generate ⟨limits, .escaped⟩ className document = .ok file →
        ∃ root, readString limits document = .ok root ∧
          Builder.decodeSource file.source = some (className, callTree [] root)) ∧
    (∀ options className document,
      (∃ file, generate options className document = .ok file) ↔
        ClassName.accepts className = true ∧
          ∃ root, readString options.limits document = .ok root) ∧
    (∀ before root,
      Builder.decodeBody ((Builder.compose before root).document.render .escaped) =
        some (callTree before root)) ∧
    (∀ limits className document file limits' className' document' file',
      generate ⟨limits, .escaped⟩ className document = .ok file →
      generate ⟨limits', .escaped⟩ className' document' = .ok file' →
      file.source = file'.source →
        className = className' ∧
        ∃ root root', readString limits document = .ok root ∧
          readString limits' document' = .ok root' ∧ callTree [] root = callTree [] root') := by
  refine ⟨fun _ _ _ _ => decodeSource_generate, fun _ _ _ => generate_succeeds_iff _ _ _,
    decodeBody_render, ?_⟩
  intro limits className document file limits' className' document' file' first second same
  obtain ⟨root, read, decoded⟩ := decodeSource_generate first
  obtain ⟨root', read', decoded'⟩ := decodeSource_generate second
  rw [← same, decoded, Option.some.injEq, Prod.mk.injEq] at decoded'
  exact ⟨decoded'.1, root, root', read, read', decoded'.2⟩

/-- The decoder at work: a prefixed root with a quote in an attribute and a text to trim. -/
theorem generated_text_decodes_quoted :
    ∃ file, generate ⟨.standard, .escaped⟩ "Menu" "<p:a b='\"'> x</p:a>" = .ok file ∧
      Builder.decodeSource file.source = some ("Menu",
        ⟨.named ⟨some "null", "p"⟩, "a", [[.attr "b" "\""], [.text "x"]]⟩) := by
  obtain ⟨decodes, succeeds, -⟩ := generated_text_decodes
  have read : readString .standard "<p:a b='\"'> x</p:a>" =
      .ok ⟨⟨"p:a", [⟨"b", "\""⟩]⟩, [.text " x"]⟩ := by
    rw [readString, readBytes_eq]
    with_unfolding_all rfl
  obtain ⟨file, generated⟩ := (succeeds ⟨.standard, .escaped⟩ _ _).2
    ⟨show ClassName.accepts "Menu" = true by decide +kernel, _, read⟩
  obtain ⟨root, found, decoded⟩ := decodes _ _ _ _ generated
  cases read.symm.trans found
  exact ⟨file, generated, decoded⟩

end XmlBuilder
