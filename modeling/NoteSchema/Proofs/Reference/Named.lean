import NoteSchema.Proofs.Artifact.Identifier
import NoteSchema.Reference.Resolve

namespace NoteSchema.Reference

variable {base path part : String} {here : Location} {kind : ArtifactKind} {parts : List String} {target : Target}
  {id : ArtifactId}

theorem cut_of_not_mem {ref : String} (h : '#' ∉ ref.toList) : cut ref = (ref, "") := by
  simp [cut, Text.cutChars_of_not_mem h]

theorem not_mark_of_cut (ref : String) : '#' ∉ (cut ref).1.toList := by
  rw [cut, String.toList_ofList]
  exact Text.not_mem_cutChars '#' ref.toList

theorem cut_local (p : String) : cut ("#" ++ p) = ("", p) := by
  simp [cut, Text.cutChars]

/-- What a segment is made of, the line feed that may end it aside. -/
theorem isSegmentChar_of_isSegment (h : isSegment part = true) {c : Char} (hc : c ∈ part.toList) :
    isSegmentChar c = true ∨ c = '\n' := by
  simp only [isSegment, Bool.and_eq_true, List.all_eq_true] at h
  split at h
  next hlast =>
    obtain ⟨front, hfront⟩ := List.getLast?_eq_some_iff.mp hlast
    rw [hfront, List.dropLast_concat] at h
    rw [hfront, List.mem_append, List.mem_singleton] at hc
    exact hc.imp_left (h.2 c)
  next => exact .inl (h.2 c hc)

theorem not_slash_of_isSegment (h : isSegment part = true) : '/' ∉ part.toList := by
  intro hslash
  rcases isSegmentChar_of_isSegment h hslash with hc | hc
  · exact absurd hc (by decide)
  · exact absurd hc (by decide)

theorem ne_empty_of_isSegment (h : isSegment part = true) : part ≠ "" := by
  rintro rfl
  exact absurd h (by decide)

/-- The address of an artifact has the parts of its path, each of them a segment. -/
theorem parts_of_artifactOf (h : artifactOf path kind parts = .ok id) :
    id.namespaceParts = parts ∧ id.kind = kind ∧ ∀ part ∈ parts, isSegment part = true := by
  unfold artifactOf at h
  split at h
  next => cases h
  next artifact hparts =>
    split at h
    next => cases h
    next hall =>
      cases h
      have hsegments : ∀ part ∈ parts, isSegment part = true := by simpa using List.find?_eq_none.mp hall
      obtain ⟨hnamed, hkind⟩ := ArtifactId.of_ofParts hparts
      exact ⟨hnamed, hkind, hsegments⟩

/-- The parts of an address name it, if each of them is a segment. -/
theorem artifactOf_namespaceParts (h : ∀ part ∈ id.namespaceParts, isSegment part = true) (path : String) :
    artifactOf path id.kind id.namespaceParts = .ok id := by
  have hfind : id.namespaceParts.find? (fun part => !isSegment part) = none := by
    rw [List.find?_eq_none]
    exact fun part hpart => by simp [h part hpart]
  rw [artifactOf, ArtifactId.ofParts_namespaceParts, hfind]
  rfl

/-- How a trimmed path names an artifact: as an address below the base, whose ending may decide the kind and which may
go on with a fragment, or by the parts that it means at a location. -/
inductive Names (base : String) (here : Location) (path : String) (kind : ArtifactKind) (id : ArtifactId) : Target → Prop
  | url {rest stem : String} {own : ArtifactKind} (hform : PathKind.ofPath path = .absoluteUrl)
      (hrest : Text.after? base (cut path).1 = some rest) (hstem : stemOf kind rest = (stem, own))
      (hid : artifactOf path own ((Text.split '/' stem).filter (· ≠ "")) = .ok id) :
      Names base here path kind id (localTarget base .absoluteUrl (cut path).2 id)
  | placed {parts : List String} (hform : PathKind.ofPath path ≠ .absoluteUrl)
      (hparts : partsOf here (PathKind.ofPath path) path = .ok parts) (hid : artifactOf path kind parts = .ok id) :
      Names base here path kind id (localTarget base (PathKind.ofPath path) "" id)

theorem map_localTarget_eq_ok {form : PathKind} {fragment : String}
    (h : (artifactOf path kind parts).map (localTarget base form fragment) = .ok target) (hid : target.artifact = some id) :
    artifactOf path kind parts = .ok id ∧ target = localTarget base form fragment id := by
  cases ha : artifactOf path kind parts with
  | error e =>
    rw [ha] at h
    cases h
  | ok artifact =>
    rw [ha] at h
    cases h
    cases hid
    exact ⟨rfl, rfl⟩

theorem names_of_resolveUrl (hform : PathKind.ofPath path = .absoluteUrl) (h : resolveUrl base path kind = .ok target)
    (hid : target.artifact = some id) : Names base here path kind id target := by
  unfold resolveUrl at h
  dsimp only at h
  split at h
  next =>
    cases h
    cases hid
  next rest hrest =>
    obtain ⟨hartifact, rfl⟩ := map_localTarget_eq_ok h hid
    exact .url hform hrest rfl hartifact

theorem names_of_resolve (h : resolve base here path kind = .ok target) (hid : target.artifact = some id) :
    Names base here (Text.trim path) kind id target := by
  unfold resolve at h
  dsimp only at h
  split at h
  next => cases h
  next =>
    unfold resolveTrimmed at h
    split at h
    next =>
      cases h
      cases hid
    next hform => exact names_of_resolveUrl hform h hid
    next hform =>
      cases hparts : partsOf here (PathKind.ofPath (Text.trim path)) (Text.trim path) with
      | error e =>
        rw [hparts] at h
        cases h
      | ok parts =>
        rw [hparts] at h
        obtain ⟨hartifact, rfl⟩ := map_localTarget_eq_ok h hid
        exact .placed hform hparts hartifact

theorem Names.isSegment (h : Names base here path kind id target) : ∀ part ∈ id.namespaceParts, isSegment part = true := by
  cases h with
  | url _ _ _ hid | placed _ _ hid =>
    obtain ⟨hparts, _, hall⟩ := parts_of_artifactOf hid
    rwa [hparts]

theorem Names.artifact (h : Names base here path kind id target) : target.artifact = some id := by
  cases h <;> rfl

theorem Names.spelled (h : Names base here path kind id target) : id.Spelled :=
  fun part hpart => ⟨ne_empty_of_isSegment (h.isSegment part hpart), not_slash_of_isSegment (h.isSegment part hpart)⟩

/-- What a path names has a name. -/
theorem name_of_resolve (h : resolve base here path kind = .ok target) (hid : target.artifact = some id) : id.name ≠ "" :=
  ((names_of_resolve h hid).spelled id.name (by simp [ArtifactId.namespaceParts])).1

section Memory

variable {r : Resolver}

/-- A resolver for a document at a location knows only targets that its paths have there. -/
structure Faithful (base : String) (here : Location) (r : Resolver) : Prop where
  base_eq : r.base = base
  here_eq : r.here = here
  known : ∀ entry ∈ r.known, resolveTrimmed base here entry.1.1 entry.1.2 = .ok entry.2

theorem faithful_new : Faithful base here ⟨base, here, []⟩ := ⟨rfl, rfl, fun _ h => nomatch h⟩

theorem Faithful.lookup {path : String} {kind : ArtifactKind} {target : Target} (h : Faithful base here r)
    (hl : r.known.lookup (path, kind) = some target) : resolveTrimmed base here path kind = .ok target := by
  obtain ⟨before, after, hknown, _⟩ := List.lookup_eq_some_iff.mp hl
  exact h.known ((path, kind), target) (by simp [hknown])

/-- A resolver that knows some targets answers as one that knows none, and learns nothing false. -/
theorem Faithful.resolve (h : Faithful base here r) (path : String) (kind : ArtifactKind) :
    (r.resolve path kind).1 = Reference.resolve base here path kind ∧ Faithful base here (r.resolve path kind).2 := by
  unfold Resolver.resolve Reference.resolve
  dsimp only
  split
  next => exact ⟨rfl, h⟩
  next hne =>
    split
    next target hl => exact ⟨(h.lookup hl).symm, h⟩
    next =>
      rw [h.base_eq, h.here_eq]
      split
      next target hr =>
        refine ⟨hr.symm, rfl, rfl, fun entry hentry => ?_⟩
        rcases List.mem_cons.mp hentry with rfl | hentry
        · exact hr
        · exact h.known entry hentry
      next e hr => exact ⟨hr.symm, h⟩

/-- Each path that is resolved in a row gets the answer that it gets alone. -/
theorem Faithful.resolveAll (h : Faithful base here r) (calls : List (String × ArtifactKind)) :
    (r.resolveAll calls).1 = calls.map fun call => Reference.resolve base here call.1 call.2 := by
  induction calls generalizing r with
  | nil => rfl
  | cons call rest ih =>
    obtain ⟨path, kind⟩ := call
    obtain ⟨hanswer, hr⟩ := h.resolve path kind
    rw [Resolver.resolveAll, List.map_cons, ← hanswer, ← ih hr]

end Memory

end NoteSchema.Reference
