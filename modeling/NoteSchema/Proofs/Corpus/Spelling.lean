import NoteSchema.Proofs.Artifact.Identifier
import NoteSchema.Proofs.Corpus.Leaf
import NoteSchema.Proofs.Json.Objects

namespace NoteSchema.Corpus

variable {base : String} {c : Corpus} {bodies : List Document}

/-- The identifier of a document is that of its address, up to empty pieces between its slashes. -/
theorem stem_of_addressed (hr : c.Registered base) {d : Loaded} (hd : d ∈ c.documents) :
    ∃ stem, d.identifier = base ++ (stem ++ ("." ++ d.id.kind.suffix)) ∧
      d.id.namespaceParts = (Text.split '/' stem).filter (· ≠ "") ∧
      (d.identifier = d.id.identifier base ↔ "" ∉ Text.split '/' stem) := by
  obtain ⟨hspelled, stem, hstem, hparts⟩ := ArtifactId.stem_of_ofIdentifier? (hr.addressed d hd)
  refine ⟨stem, hstem, hparts, ?_⟩
  rw [← ArtifactId.stem_eq_join_iff hspelled hparts, hstem, identifier_eq_join_append, String.append_assoc,
    String.append_right_inj, String.append_left_inj]

/-- Every document of accepted bodies is called as its address, but for empty pieces between slashes, and this name
leads back to the address unless it reads as that of a schema. Two documents share the place of a definition only where
the later one has given way, to a place that the earlier one has or gave way to, and only if one of them has empty
pieces in its identifier. -/
theorem documents_told_apart (hb : ∀ b ∈ bodies, b.Distinct) (h : ofBodies base bodies = .ok c) :
    (∀ d ∈ c.documents,
      (∃ stem, d.identifier = base ++ (stem ++ ("." ++ d.id.kind.suffix)) ∧
        d.id.namespaceParts = (Text.split '/' stem).filter (· ≠ "") ∧
        (d.identifier = d.id.identifier base ↔ "" ∉ Text.split '/' stem)) ∧
      (ArtifactId.ofIdentifier? base (d.id.identifier base) = some d.id ↔ ¬ d.id.ReadsAsSchema)) ∧
    ∀ d ∈ c.documents, ∀ e ∈ c.documents, d.identifier < e.identifier → c.leafPath d = c.leafPath e →
      c.leafPath e = suffixedPath e ∧ (suffixedPath e = d.id.namespaceParts ∨ suffixedPath e = suffixedPath d) ∧
      (d.identifier ≠ d.id.identifier base ∨ e.identifier ≠ e.id.identifier base) := by
  have hr := registered_ofBodies hb h
  refine ⟨fun d hd => ⟨stem_of_addressed hr hd, ?_⟩, fun d hd e he hlt hshared => ?_⟩
  · have hspelled := (ArtifactId.stem_of_ofIdentifier? (hr.addressed d hd)).1
    rw [ArtifactId.identifier_reads_back_iff]
    exact and_iff_right hspelled
  · obtain ⟨hgiven, hearlier⟩ := shared_leafPath hr hd he hlt hshared
    refine ⟨hgiven, hearlier, ?_⟩
    rw [← not_and_or]
    exact fun ⟨hdi, hei⟩ => leafPath_ne_of_lt hr hd he hdi hei hlt hshared

def loadedBlank (identifier name : String) (kind : ArtifactKind) : Loaded where
  identifier := identifier
  id := ⟨"core", [], name, kind⟩
  body := [("$id", .str identifier)]

/-- An enumeration and the schema beside it. -/
def neighbours : List Loaded :=
  [loadedBlank "https://example.org/schemas/core/A.json" "A" .enumeration,
    loadedBlank "https://example.org/schemas/core/A.schema.json" "A" .schema]

theorem ofBodies_neighbours :
    ofBodies "https://example.org/schemas/" (neighbours.map Loaded.document) = .ok { documents := neighbours } := by
  have hsorted : neighbours.Pairwise fun d e => d.identifier < e.identifier := by decide
  exact congrArg (fun ds => Except.ok (Corpus.mk ds [])) (inOrder_of_pairwise hsorted)

theorem neighbours_told_apart : ∃ c,
    ofBodies "https://example.org/schemas/" (neighbours.map Loaded.document) = .ok c ∧ c.documents = neighbours ∧
    c.leaves.map (·.2) = [["core", "A"], ["core", "A.schema.json"]] ∧
    ∀ d ∈ c.documents, ∀ e ∈ c.documents, d.identifier < e.identifier → c.leafPath d ≠ c.leafPath e := by
  have happart := (documents_told_apart (by decide) ofBodies_neighbours).2
  refine ⟨_, ofBodies_neighbours, rfl, by decide, fun d hd e he hlt hshared => ?_⟩
  have hcanonical : ∀ d ∈ neighbours, d.identifier = d.id.identifier "https://example.org/schemas/" := by
    decide
  rcases (happart d hd e he hlt hshared).2.2 with hne | hne
  · exact hne (hcanonical d hd)
  · exact hne (hcanonical e he)

/-- Three identifiers that differ in the number of slashes only. -/
def slashed : List Loaded :=
  [loadedBlank "https://example.org/schemas/core///A.json" "A" .enumeration,
    loadedBlank "https://example.org/schemas/core//A.json" "A" .enumeration,
    loadedBlank "https://example.org/schemas/core/A.json" "A" .enumeration]

theorem ofBodies_slashed :
    ofBodies "https://example.org/schemas/" (slashed.map Loaded.document) = .ok { documents := slashed } := by
  have hsorted : slashed.Pairwise fun d e => d.identifier < e.identifier := by decide
  exact congrArg (fun ds => Except.ok (Corpus.mk ds [])) (inOrder_of_pairwise hsorted)

/-- Empty pieces of an identifier are lost in its address, and a document that gives way looks for no third place. -/
theorem slashed_share_leaf : ∃ c d e,
    ofBodies "https://example.org/schemas/" (slashed.map Loaded.document) = .ok c ∧
    (c.documents.map (·.identifier)).Nodup ∧ d ∈ c.documents ∧ e ∈ c.documents ∧ d.identifier ≠ e.identifier ∧
    d.identifier ≠ d.id.identifier "https://example.org/schemas/" ∧
    c.leafPath d = ["core", "A.json"] ∧ c.leafPath e = ["core", "A.json"] := by
  refine ⟨_, slashed[1], slashed[2], ofBodies_slashed, ?_, List.getElem_mem _, List.getElem_mem _, ?_, ?_, ?_, ?_⟩
  all_goals decide

end NoteSchema.Corpus
