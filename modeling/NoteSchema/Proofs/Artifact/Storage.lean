import NoteSchema.Proofs.Artifact.Identifier
import NoteSchema.Proofs.Command.Within

namespace NoteSchema

/-- A part without slashes is the one component of its path, unless it is a dot. -/
theorem FilePath.names_ofString {part : String} (hsep : '/' ∉ part.toList) (hne : part ≠ "") :
    (ofString part).names = [part].filter (· ≠ ".") := by
  rw [ofString, Text.split, Text.splitChars_eq_singleton hsep]
  simp [hne, bne, List.filter_cons]

theorem FilePath.flatMap_names {parts : List String} (h : ∀ part ∈ parts, '/' ∉ part.toList ∧ part ≠ "") :
    (parts.flatMap fun part => (ofString part).names) = parts.filter (· ≠ ".") := by
  induction parts with
  | nil => rfl
  | cons part parts ih =>
    obtain ⟨hsep, hne⟩ := h part List.mem_cons_self
    rw [List.flatMap_cons, names_ofString hsep hne, ih fun part hpart => h part (List.mem_cons_of_mem _ hpart),
      ← List.filter_append, List.singleton_append]

namespace ArtifactId

variable {a b c : ArtifactId}

/-- The texts that the path of an artifact is made of say which artifact it is. -/
theorem storageParts_inj (h : a.storageParts = b.storageParts) : a = b := by
  obtain ⟨segment, subpath, name, kind⟩ := a
  obtain ⟨segment', subpath', name', kind'⟩ := b
  simp only [storageParts, List.cons.injEq] at h
  obtain ⟨rfl, hfolder, hrest⟩ := h
  have hkind : kind = kind' := by
    cases kind <;> cases kind' <;> first | rfl | exact absurd hfolder (by decide)
  subst hkind
  obtain ⟨rfl, hfile⟩ := List.append_inj' hrest rfl
  simp only [fileName, List.cons.injEq, and_true, String.append_left_inj] at hfile
  rw [hfile]

theorem fileName_spelled (hname : '/' ∉ c.name.toList) : '/' ∉ c.fileName.toList ∧ c.fileName ≠ "" ∧ c.fileName ≠ "." := by
  have hlong : 2 < ("." ++ c.kind.suffix).length := by cases c.kind <;> decide
  obtain ⟨hne, hdot, _⟩ := FilePath.ne_of_long hlong c.name
  have hsep : '/' ∉ ("." ++ c.kind.suffix).toList := by cases c.kind <;> decide
  refine ⟨?_, ?_, ?_⟩
  · rw [fileName, String.append_assoc, String.toList_append, List.mem_append, not_or]
    exact ⟨hname, hsep⟩
  · rwa [fileName, String.append_assoc]
  · rwa [fileName, String.append_assoc]

namespace Spelled

variable (h : c.Spelled)

include h

theorem storageParts {part : String} (hpart : part ∈ c.storageParts) : '/' ∉ part.toList ∧ part ≠ "" := by
  simp only [ArtifactId.storageParts, List.mem_cons, List.mem_append, List.mem_nil_iff, or_false] at hpart
  rcases hpart with rfl | rfl | hpart | rfl
  · exact (h c.segment (by simp [namespaceParts])).symm
  · cases c.kind <;> decide
  · exact (h part (by simp [namespaceParts, hpart])).symm
  · obtain ⟨hsep, hne, _⟩ := fileName_spelled (h c.name (by simp [namespaceParts])).2
    exact ⟨hsep, hne⟩

/-- An artifact is stored at the components that its parts are, dots left out. -/
theorem storagePath_eq (root : FilePath) :
    c.storagePath root = ⟨root.anchor, root.names ++ c.storageParts.filter (· ≠ ".")⟩ := by
  have hrelative : ∀ part ∈ c.storageParts, (FilePath.ofString part).anchor = .relative :=
    fun part hpart => (FilePath.ofString_plain (h.storageParts hpart).1).1
  show FilePath.append root (FilePath.ofStrings c.storageParts) = _
  rw [FilePath.ofStrings, FilePath.foldl_append_names hrelative,
    FilePath.flatMap_names fun part hpart => h.storageParts hpart]
  rfl

/-- Without dots among its folders an artifact is stored at the very components that its parts are. -/
theorem undotted (hdot : "." ∉ c.segment :: c.subpath) : c.storageParts.filter (· ≠ ".") = c.storageParts := by
  rw [List.filter_eq_self]
  intro part hpart
  rw [List.mem_cons, not_or] at hdot
  simp only [ArtifactId.storageParts, List.mem_cons, List.mem_append, List.mem_nil_iff, or_false] at hpart
  refine decide_eq_true ?_
  rcases hpart with rfl | rfl | hpart | rfl
  · exact Ne.symm hdot.1
  · cases c.kind <;> decide
  · exact fun heq => hdot.2 (heq ▸ hpart)
  · exact (fileName_spelled (h c.name (by simp [namespaceParts])).2).2.2

end Spelled

theorem storagePath_eq_iff (ha : a.Spelled) (hb : b.Spelled) (root : FilePath) :
    a.storagePath root = b.storagePath root ↔ a.storageParts.filter (· ≠ ".") = b.storageParts.filter (· ≠ ".") := by
  rw [ha.storagePath_eq, hb.storagePath_eq]
  simp

/-- Two artifacts without dots among their folders are stored in one place only if they are the same. -/
theorem storagePath_inj (ha : a.Spelled) (hb : b.Spelled) (hadot : "." ∉ a.segment :: a.subpath)
    (hbdot : "." ∉ b.segment :: b.subpath) (root : FilePath) : a.storagePath root = b.storagePath root ↔ a = b := by
  rw [storagePath_eq_iff ha hb, ha.undotted hadot, hb.undotted hbdot]
  exact ⟨storageParts_inj, congrArg _⟩

end ArtifactId

namespace Reference

/-- Of the artifacts that paths name, an enumeration called like a schema has the identifier of that schema, and one with
a dot for a folder is stored where the one without it is. With neither, two of them have one identifier just if they are
stored in one place. -/
theorem identifier_agrees_with_storage {base path path' : String} {here here' : Location} {kind kind' : ArtifactKind}
    {target target' : Target} {a b : ArtifactId} (ha : resolve base here path kind = .ok target)
    (haid : target.artifact = some a) (hb : resolve base here' path' kind' = .ok target')
    (hbid : target'.artifact = some b) (root : FilePath) :
    (a.identifier base = b.identifier base ↔ a = b ∨ a.Twins b ∨ b.Twins a) ∧
      (a.storagePath root = b.storagePath root ↔
        a.storageParts.filter (· ≠ ".") = b.storageParts.filter (· ≠ ".")) ∧
      (¬ a.Twins b → ¬ b.Twins a → "." ∉ a.segment :: a.subpath → "." ∉ b.segment :: b.subpath →
        (a.identifier base = b.identifier base ↔ a.storagePath root = b.storagePath root)) := by
  have hspelled := (names_of_resolve ha haid).spelled
  have hspelled' := (names_of_resolve hb hbid).spelled
  have hidentifier : a.identifier base = b.identifier base ↔ a = b ∨ a.Twins b ∨ b.Twins a :=
    ArtifactId.identifier_eq_iff hspelled hspelled'
  refine ⟨hidentifier, ArtifactId.storagePath_eq_iff hspelled hspelled' root, fun hab hba hadot hbdot => ?_⟩
  rw [hidentifier, ArtifactId.storagePath_inj hspelled hspelled' hadot hbdot root]
  simp [hab, hba]

/-- A path relative to its document and a rooted one. -/
theorem language_agrees :
    resolve "https://example.org/" ⟨"core", ["lib"]⟩ "./../Language" .enumeration =
      .ok ⟨"https://example.org/core/Language.json", some ⟨"core", [], "Language", .enumeration⟩, .documentRelative, false⟩ ∧
    resolve "https://example.org/" ⟨"shop", []⟩ "/core/lib/Language" .enumeration =
      .ok ⟨"https://example.org/core/lib/Language.json", some ⟨"core", ["lib"], "Language", .enumeration⟩,
        .namespaceRooted, false⟩ ∧
    ((⟨"core", [], "Language", .enumeration⟩ : ArtifactId).identifier "https://example.org/" =
        (⟨"core", ["lib"], "Language", .enumeration⟩ : ArtifactId).identifier "https://example.org/" ↔
      (⟨"core", [], "Language", .enumeration⟩ : ArtifactId).storagePath (FilePath.ofString "/data") =
        (⟨"core", ["lib"], "Language", .enumeration⟩ : ArtifactId).storagePath (FilePath.ofString "/data")) := by
  have h : resolve "https://example.org/" ⟨"core", ["lib"]⟩ "./../Language" .enumeration =
      .ok ⟨"https://example.org/core/Language.json", some ⟨"core", [], "Language", .enumeration⟩, .documentRelative,
        false⟩ := by decide
  have h' : resolve "https://example.org/" ⟨"shop", []⟩ "/core/lib/Language" .enumeration =
      .ok ⟨"https://example.org/core/lib/Language.json", some ⟨"core", ["lib"], "Language", .enumeration⟩,
        .namespaceRooted, false⟩ := by decide
  exact ⟨h, h', (identifier_agrees_with_storage h rfl h' rfl (FilePath.ofString "/data")).2.2 (by decide) (by decide)
    (by decide) (by decide)⟩

/-- A dot for a folder is part of an identifier and not of a place; an enumeration called like a schema shares the
identifier of that schema and not its place. -/
theorem identifier_drifts_from_storage :
    ((resolve "https://example.org/" ⟨"shop", []⟩ "/core/./Language" .enumeration).toOption.bind (·.artifact) =
        some ⟨"core", ["."], "Language", .enumeration⟩ ∧
      (resolve "https://example.org/" ⟨"shop", []⟩ "/core/Language" .enumeration).toOption.bind (·.artifact) =
        some ⟨"core", [], "Language", .enumeration⟩ ∧
      (⟨"core", ["."], "Language", .enumeration⟩ : ArtifactId).identifier "https://example.org/" ≠
        (⟨"core", [], "Language", .enumeration⟩ : ArtifactId).identifier "https://example.org/" ∧
      (⟨"core", ["."], "Language", .enumeration⟩ : ArtifactId).storagePath (FilePath.ofString "/data") =
        (⟨"core", [], "Language", .enumeration⟩ : ArtifactId).storagePath (FilePath.ofString "/data")) ∧
    ((resolve "https://example.org/" ⟨"shop", []⟩ "/core/Tag" .schema).toOption.bind (·.artifact) =
        some ⟨"core", [], "Tag", .schema⟩ ∧
      (resolve "https://example.org/" ⟨"shop", []⟩ "/core/Tag.schema" .enumeration).toOption.bind (·.artifact) =
        some ⟨"core", [], "Tag.schema", .enumeration⟩ ∧
      (⟨"core", [], "Tag", .schema⟩ : ArtifactId).identifier "https://example.org/" =
        (⟨"core", [], "Tag.schema", .enumeration⟩ : ArtifactId).identifier "https://example.org/" ∧
      (⟨"core", [], "Tag", .schema⟩ : ArtifactId).storagePath (FilePath.ofString "/data") ≠
        (⟨"core", [], "Tag.schema", .enumeration⟩ : ArtifactId).storagePath (FilePath.ofString "/data")) := by
  decide

end Reference

end NoteSchema
