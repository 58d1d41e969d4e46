import NoteSchema.Proofs.Corpus.Closing
import NoteSchema.Proofs.Reference.Named

namespace NoteSchema

theorem ArtifactId.identifier_ne_empty (id : ArtifactId) (base : String) : id.identifier base ≠ "" := by
  intro h
  have hmem : '.' ∈ (id.identifier base).toList := by
    simp [ArtifactId.identifier, ArtifactId.toString]
  simp [h] at hmem

end NoteSchema

namespace NoteSchema.Corpus

/-- Every reference is a text that names a whole document of the corpus. -/
structure Whole (c : Corpus) : Prop where
  texts : ∀ d ∈ c.documents, TextRefs d.document
  named : ∀ d ∈ c.documents, ∀ ref ∈ refsIn d.document, ∃ e ∈ c.documents, ref = e.identifier
  plain : ∀ d ∈ c.documents, ∀ ref ∈ refsIn d.document, '#' ∉ ref.toList

variable {c : Corpus} {base : String}

theorem resolve_local (d : Loaded) (p : String) : c.resolve (some d) ("#" ++ p) = some (d, p) := by
  simp [resolve, Reference.cut_local]

section Identifiers

variable (hr : c.Registered base)

include hr

theorem find?_identifier {d : Loaded} (hd : d ∈ c.documents) : c.find? d.identifier = some d := by
  unfold Corpus.find?
  cases hf : c.documents.find? fun e => e.identifier == d.identifier with
  | none => exact absurd (List.find?_eq_none.mp hf d hd) (by simp)
  | some e =>
    have he : e.identifier = d.identifier := by simpa using List.find?_some hf
    rw [hr.ext (List.mem_of_find?_eq_some hf) hd he]

variable (hcan : c.Canonical base)

include hcan

theorem resolve_identifier {d : Loaded} (hd : d ∈ c.documents) (h : '#' ∉ d.identifier.toList)
    (here : Option Loaded) : c.resolve here d.identifier = some (d, "") := by
  have hne : d.identifier ≠ "" := hcan d hd ▸ d.id.identifier_ne_empty base
  simp [resolve, Reference.cut_of_not_mem h, hne, find?_identifier hr hd]

variable (hw : c.Whole)

include hw

theorem Whole.resolve {d : Loaded} (hd : d ∈ c.documents) {ref : String} (h : ref ∈ refsIn d.document) :
    ∃ e ∈ c.documents, ref = e.identifier ∧ c.resolve (some d) ref = some (e, "") := by
  obtain ⟨e, he, rfl⟩ := hw.named d hd ref h
  exact ⟨e, he, rfl, resolve_identifier hr hcan he (hw.plain d hd _ h) (some d)⟩

theorem Whole.linked : c.Linked := by
  refine ⟨hw.texts, fun d hd ref href t fragment ht => ?_⟩
  obtain ⟨e, _, _, hres⟩ := hw.resolve hr hcan hd href
  cases hres.symm.trans ht
  exact ⟨Or.inl rfl, t.body, rfl⟩

theorem Whole.bare (hroots : ∀ d ∈ c.documents, d.body.find? defs = none) : c.Bare := by
  refine ⟨hroots, fun d hd ref href t fragment ms ht hm => ?_⟩
  obtain ⟨e, he, _, hres⟩ := hw.resolve hr hcan hd href
  cases hres.symm.trans ht
  cases hm
  exact hroots t he

/-- A reference leads back to a whole document, or that document takes its place. -/
theorem Whole.turn (trail : List Key) {d : Loaded} (hd : d ∈ c.documents) {ref : String}
    (h : ref ∈ refsIn d.document) : ∃ e ∈ c.documents, ref = e.identifier ∧
      c.turn trail d ref =
        .ok (if trail.contains (e.identifier, "") then .back e "" else .inline e "" e.document) := by
  obtain ⟨e, he, hid, hres⟩ := hw.resolve hr hcan hd h
  refine ⟨e, he, hid, ?_⟩
  simp [Corpus.turn, hres, Json.Pointer.resolve, Json.Pointer.tokens, Json.Pointer.follow]

theorem Whole.opened {top : Loaded} (htop : top ∈ c.documents) {fr : Frame} (h : c.Opened top fr) :
    fr.value = fr.here.document := by
  cases h with
  | top => rfl
  | back _ _ _ => rfl
  | enters ho he =>
    obtain ⟨href, ht⟩ := he
    have hf := (ho.framed htop).1
    obtain ⟨e, _, _, hturn⟩ := hw.turn hr hcan _ hf.loaded (hf.refs _ href)
    rw [ht] at hturn
    split at hturn
    · cases hturn
    · cases hturn
      rfl

end Identifiers

end NoteSchema.Corpus
