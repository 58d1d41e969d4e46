import NoteSchema.Corpus.Definitions
import NoteSchema.Proofs.Corpus.Registered
import NoteSchema.Proofs.Text.Split
import Mathlib.Data.List.Lex

namespace NoteSchema

theorem Text.lt_append {s more : String} (h : more ≠ "") : s < s ++ more := by
  have hne : more.toList ≠ [] := by simpa using h
  rw [String.lt_iff, String.toList_append]
  obtain ⟨c, cs, hc⟩ := List.exists_cons_of_ne_nil hne
  have base : List.Lex (· < ·) ([] : List Char) more.toList := hc ▸ .nil
  have h := List.Lex.append_left (· < ·) base s.toList
  rw [List.append_nil] at h
  exact h

/-- A text that goes on with a dot comes before one that goes on with a slash. -/
theorem Text.append_dot_lt_append_slash (s t u : String) : s ++ ("." ++ t) < s ++ ("/" ++ u) := by
  rw [String.lt_iff, String.toList_append (s := s), String.toList_append (s := s)]
  have base : List.Lex (· < ·) ("." ++ t).toList ("/" ++ u).toList := by
    rw [String.toList_append, String.toList_append]
    exact .rel (by decide)
  exact List.Lex.append_left (· < ·) base s.toList

end NoteSchema

namespace NoteSchema.Corpus

variable {base : String} {c : Corpus}

/-- The path of a document that gives way to another one in its place. -/
def suffixedPath (d : Loaded) : List String :=
  d.id.namespaceParts.dropLast ++ [d.id.namespaceParts.getLast?.getD "" ++ "." ++ d.id.kind.suffix]

theorem leafAmong_eq {taken : List (List String)} {d : Loaded} :
    leafAmong taken d = if d.id.namespaceParts ∈ taken then suffixedPath d else d.id.namespaceParts := by
  unfold leafAmong suffixedPath
  simp only [List.contains_iff_mem]

theorem namespaceParts_ne_nil (id : ArtifactId) : id.namespaceParts ≠ [] := by
  simp [ArtifactId.namespaceParts]

theorem identifier_eq_join (d : Loaded) :
    d.id.identifier base = base ++ Text.join "/" (suffixedPath d) := by
  obtain ⟨parts, last, hp⟩ := List.eq_nil_or_concat' d.id.namespaceParts |>.resolve_left (namespaceParts_ne_nil d.id)
  have h := Text.join_append_last "/" last ("." ++ d.id.kind.suffix) parts
  simp only [ArtifactId.identifier, ArtifactId.toString, suffixedPath, hp, List.dropLast_concat,
    List.getLast?_concat, Option.getD_some, String.append_assoc, h]

theorem identifier_eq_join_append (d : Loaded) :
    d.id.identifier base = base ++ Text.join "/" d.id.namespaceParts ++ ("." ++ d.id.kind.suffix) := by
  simp only [ArtifactId.identifier, ArtifactId.toString, String.append_assoc]

/-- A document at the path that its identifier spells comes before one whose namespace is that path. -/
theorem identifier_lt_of_suffixedPath {d e : Loaded} (hd : d.identifier = d.id.identifier base)
    (he : e.identifier = e.id.identifier base) (h : suffixedPath d = e.id.namespaceParts) :
    d.identifier < e.identifier := by
  rw [hd, he, identifier_eq_join, h, identifier_eq_join_append]
  refine Text.lt_append fun hs => ?_
  have := congrArg String.length hs
  simp [String.length_append] at this

/-- A document goes to its namespace, which no document before it has, or gives way. -/
theorem mem_assignLeaves_cases {taken : List (List String)} {ds : List Loaded} {p : String × List String}
    (h : p ∈ assignLeaves taken ds) :
    ∃ d ∈ ds, p.1 = d.identifier ∧ (p.2 = d.id.namespaceParts ∧ p.2 ∉ taken ∨ p.2 = suffixedPath d) := by
  induction ds generalizing taken with
  | nil => simp [assignLeaves] at h
  | cons d rest ih =>
    rcases List.mem_cons.mp h with rfl | h
    · refine ⟨d, by simp, rfl, ?_⟩
      rw [leafAmong_eq]
      split
      next => exact Or.inr rfl
      next hfree => exact Or.inl ⟨rfl, hfree⟩
    · obtain ⟨e, he, hi, hp⟩ := ih h
      exact ⟨e, by simp [he], hi, hp.imp_left fun ⟨hown, hfree⟩ => ⟨hown, fun hm => hfree (by simp [hm])⟩⟩

/-- Of two documents with one path the later one has given way. -/
theorem pairwise_assignLeaves (taken : List (List String)) (ds : List Loaded) :
    (assignLeaves taken ds).Pairwise fun p q =>
      p.2 = q.2 → ∃ e ∈ ds, q.1 = e.identifier ∧ q.2 = suffixedPath e := by
  induction ds generalizing taken with
  | nil => exact .nil
  | cons d rest ih =>
    refine .cons (fun q hq hpath => ?_) ((ih _).imp fun hpq hpath => ?_)
    · obtain ⟨e, he, hi, ⟨_, hfree⟩ | hgiven⟩ := mem_assignLeaves_cases hq
      · exact absurd (hpath ▸ List.mem_cons_self) hfree
      · exact ⟨e, by simp [he], hi, hgiven⟩
    · obtain ⟨e, he, hi, hgiven⟩ := hpq hpath
      exact ⟨e, by simp [he], hi, hgiven⟩

theorem map_fst_assignLeaves (taken : List (List String)) (ds : List Loaded) :
    (assignLeaves taken ds).map (·.1) = ds.map (·.identifier) := by
  induction ds generalizing taken with
  | nil => rfl
  | cons d rest ih => simp only [assignLeaves, List.map_cons, ih]

theorem leafPath_mem {d : Loaded} (hd : d ∈ c.documents) : (d.identifier, c.leafPath d) ∈ c.leaves := by
  have hnamed : d.identifier ∈ c.leaves.map (·.1) := by
    rw [leaves, map_fst_assignLeaves]
    exact List.mem_map_of_mem hd
  obtain ⟨p, hp, hi⟩ := List.mem_map.mp hnamed
  unfold leafPath
  cases hl : c.leaves.lookup d.identifier with
  | none =>
    have := List.lookup_eq_none_iff.mp hl _ hp
    simp [hi] at this
  | some path' =>
    obtain ⟨front, back, hs, _⟩ := List.lookup_eq_some_iff.mp hl
    simp [hs]

theorem leafPath_cases (hr : c.Registered base) {d : Loaded} (hd : d ∈ c.documents) :
    c.leafPath d = d.id.namespaceParts ∨ c.leafPath d = suffixedPath d := by
  obtain ⟨e, he, hi, hp⟩ := mem_assignLeaves_cases (leafPath_mem hd)
  obtain rfl := hr.ext hd he hi
  exact hp.imp_left And.left

/-- Two documents share a place only if the later one gives way to a document in its own place and the earlier one is
where it goes. -/
theorem shared_leafPath (hr : c.Registered base) {d e : Loaded} (hd : d ∈ c.documents) (he : e ∈ c.documents)
    (hlt : d.identifier < e.identifier) (h : c.leafPath d = c.leafPath e) :
    c.leafPath e = suffixedPath e ∧ (suffixedPath e = d.id.namespaceParts ∨ suffixedPath e = suffixedPath d) := by
  have inOrder : (c.leaves.map (·.1)).Pairwise (· < ·) := by
    rw [leaves, map_fst_assignLeaves]
    exact List.pairwise_map.mpr hr.inOrder
  have ordered : c.leaves.Pairwise fun p q =>
      p.1 < q.1 ∧ (p.2 = q.2 → ∃ e ∈ c.documents, q.1 = e.identifier ∧ q.2 = suffixedPath e) :=
    (List.pairwise_map.mp inOrder).and (pairwise_assignLeaves [] c.documents)
  have given := List.Pairwise.forall_of_forall_of_flip
    (R := fun p q => p.1 < q.1 → p.2 = q.2 → ∃ e ∈ c.documents, q.1 = e.identifier ∧ q.2 = suffixedPath e)
    (fun p _ hlt => absurd hlt (lt_irrefl p.1)) (ordered.imp fun hpq _ => hpq.2)
    (ordered.imp fun hpq hlt => absurd hlt (lt_asymm hpq.1)) (leafPath_mem hd) (leafPath_mem he)
  obtain ⟨e', he', hi, hgiven⟩ := given hlt h
  obtain rfl := hr.ext he he' hi
  refine ⟨hgiven, ?_⟩
  rw [← hgiven, ← h]
  exact leafPath_cases hr hd

theorem leafPath_ne_of_lt (hr : c.Registered base) {d e : Loaded} (hd : d ∈ c.documents) (he : e ∈ c.documents)
    (hdi : d.identifier = d.id.identifier base) (hei : e.identifier = e.id.identifier base)
    (hlt : d.identifier < e.identifier) : c.leafPath d ≠ c.leafPath e := by
  intro h
  rcases (shared_leafPath hr hd he hlt h).2 with hown | hgiven
  · exact lt_asymm hlt (identifier_lt_of_suffixedPath hei hdi hown)
  · refine hlt.ne ?_
    rw [hdi, hei, identifier_eq_join, identifier_eq_join, hgiven]

/-- Documents that are spelled as they are addressed never share the place of their definition. -/
theorem leafPath_injective (hr : c.Registered base) (hc : c.Canonical base) {d e : Loaded}
    (hd : d ∈ c.documents) (he : e ∈ c.documents) (h : c.leafPath d = c.leafPath e) : d = e := by
  rcases lt_trichotomy d.identifier e.identifier with hlt | heq | hgt
  · exact absurd h (leafPath_ne_of_lt hr hd he (hc d hd) (hc e he) hlt)
  · exact hr.ext hd he heq
  · exact absurd h.symm (leafPath_ne_of_lt hr he hd (hc e he) (hc d hd) hgt)

theorem assignLeaves_ne_nil {taken : List (List String)} {ds : List Loaded} {p : String × List String}
    (h : p ∈ assignLeaves taken ds) : p.2 ≠ [] := by
  induction ds generalizing taken with
  | nil => simp [assignLeaves] at h
  | cons d rest ih =>
    rcases List.mem_cons.mp h with rfl | h
    · rw [leafAmong_eq]
      split
      · simp [suffixedPath]
      · exact namespaceParts_ne_nil d.id
    · exact ih h

theorem leafPath_ne_nil {d : Loaded} (hd : d ∈ c.documents) : c.leafPath d ≠ [] :=
  assignLeaves_ne_nil (leafPath_mem hd)

/-- The place of a document is spelled at the start of its identifier, up to the suffix of its kind. -/
theorem identifier_eq_leafPath (hr : c.Registered base) (hc : c.Canonical base) {d : Loaded} (hd : d ∈ c.documents) :
    ∃ suffix, d.identifier = base ++ Text.join "/" (c.leafPath d) ++ suffix ∧
      (suffix = "" ∨ ∃ kind, suffix = "." ++ kind) := by
  rw [hc d hd]
  rcases leafPath_cases hr hd with hp | hp <;> rw [hp]
  · exact ⟨_, identifier_eq_join_append d, Or.inr ⟨_, rfl⟩⟩
  · exact ⟨"", by rw [identifier_eq_join, String.append_empty], Or.inl rfl⟩

/-- A document comes before those whose places lie below its own. -/
theorem identifier_lt_of_leafPath (hr : c.Registered base) (hc : c.Canonical base) {d e : Loaded}
    (hd : d ∈ c.documents) (he : e ∈ c.documents) {q : List String} (hq : q ≠ [])
    (h : c.leafPath e = c.leafPath d ++ q) : d.identifier < e.identifier := by
  obtain ⟨s, hs, hcase⟩ := identifier_eq_leafPath hr hc hd
  obtain ⟨t, ht, _⟩ := identifier_eq_leafPath hr hc he
  have hjoin : e.identifier =
      base ++ Text.join "/" (c.leafPath d) ++ ("/" ++ (Text.join "/" q ++ t)) := by
    rw [ht, h, Text.join_append (leafPath_ne_nil hd) hq]
    simp only [String.append_assoc]
  rw [hs, hjoin]
  rcases hcase with rfl | ⟨kind, rfl⟩
  · rw [String.append_empty]
    refine Text.lt_append fun hempty => ?_
    have := congrArg String.length hempty
    simp [String.length_append] at this
  · exact Text.append_dot_lt_append_slash _ _ _

end NoteSchema.Corpus
