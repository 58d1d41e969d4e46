import NoteSchema.Proofs.Artifact.Storage
import NoteSchema.Proofs.Text.Blank

namespace NoteSchema

/-- No line feed stands in what a location is made of. -/
structure Location.OneLine (here : Location) : Prop where
  segment : '\n' ∉ here.segment.toList
  subpath : ∀ part ∈ here.subpath, '\n' ∉ part.toList

instance (here : Location) : Decidable here.OneLine :=
  decidable_of_iff ('\n' ∉ here.segment.toList ∧ ∀ part ∈ here.subpath, '\n' ∉ part.toList)
    ⟨fun h => ⟨h.1, h.2⟩, fun h => ⟨h.1, h.2⟩⟩

/-- The parts of an address are made of letters, digits, `_`, `.` and `-`. -/
def ArtifactId.Plain (c : ArtifactId) : Prop :=
  ∀ part ∈ c.namespaceParts, part ≠ "" ∧ ∀ ch ∈ part.toList, Reference.isSegmentChar ch = true

namespace Reference

variable {base path : String} {here there : Location} {kind : ArtifactKind} {target : Target} {id : ArtifactId}

theorem isAlphanum_le {c : Char} (h : c.isAlphanum = true) : c.toNat ≤ 122 := by
  have hupto {n : UInt32} (hn : n.toNat ≤ 122) (h : decide (c.val ≤ n) = true) : c.toNat ≤ 122 :=
    (UInt32.le_iff_toNat_le.mp (of_decide_eq_true h)).trans hn
  rcases Bool.or_eq_true_iff.mp h with h | h
  · rcases Bool.or_eq_true_iff.mp h with h | h
    · have hupper : c.val ≥ 'A'.val ∧ c.val ≤ 'Z'.val := of_decide_eq_true h
      exact hupto (by decide) (decide_eq_true hupper.2)
    · exact hupto (by decide) (Bool.and_eq_true_iff.mp h).2
  · exact hupto (by decide) (Bool.and_eq_true_iff.mp h).2

theorem isSegmentChar_lt {c : Char} (h : isSegmentChar c = true) : c.toNat < 128 := by
  simp only [isSegmentChar, Bool.or_eq_true, beq_iff_eq] at h
  rcases h with ((h | rfl) | rfl) | rfl
  · exact (isAlphanum_le h).trans_lt (by decide)
  all_goals decide

theorem not_blank_of_isSegmentChar {c : Char} (h : isSegmentChar c = true) : Text.isBlank c = false := by
  have hall : ∀ n < 128, isSegmentChar (Char.ofNat n) = true → Text.isBlank (Char.ofNat n) = false := by decide
  rw [← Char.ofNat_toNat c] at h ⊢
  exact hall c.toNat (isSegmentChar_lt (by rwa [Char.ofNat_toNat] at h)) h

theorem isSegment_of_chars {part : String} (hne : part ≠ "") (h : ∀ c ∈ part.toList, isSegmentChar c = true) :
    isSegment part = true := by
  have hlast : part.toList.getLast? ≠ some '\n' :=
    fun hlast => absurd (h '\n' (List.mem_of_getLast? hlast)) (by decide)
  simpa [isSegment, hlast, hne] using h

/-- What a path means has no line feeds, if neither the path nor the location has. -/
theorem oneLine_of_partsOf {form : PathKind} {parts : List String} (hhere : here.OneLine) (hpath : '\n' ∉ path.toList)
    (h : partsOf here form path = .ok parts) : ∀ part ∈ parts, '\n' ∉ part.toList := by
  intro part hpart hbreak
  unfold partsOf at h
  split at h
  next =>
    split at h
    next more hmore =>
      cases h
      rcases List.mem_cons.mp hpart with rfl | hpart
      · exact hhere.segment hbreak
      · have hjoined := Text.mem_of_mem_split (mem_of_normalize hmore hpart).1 hbreak
        simp only [String.toList_append, List.mem_append] at hjoined
        rcases hjoined with (hjoined | hjoined) | hjoined
        · rcases Text.mem_join hjoined with hsep | ⟨piece, hpiece, hchar⟩
          · exact absurd hsep (by decide)
          · exact hhere.subpath piece hpiece hchar
        · exact absurd hjoined (by decide)
        · exact hpath hjoined
    next => cases h
  next =>
    cases h
    rcases List.mem_cons.mp hpart with rfl | hpart
    · exact hhere.segment hbreak
    · rcases List.mem_append.mp hpart with hpart | hpart
      · exact hhere.subpath part hpart hbreak
      · exact hpath (Text.mem_of_mem_split hpart hbreak)
  next =>
    cases h
    have hin := Text.mem_of_mem_split hpart hbreak
    rw [String.toList_ofList] at hin
    exact hpath (List.mem_of_mem_drop hin)

theorem mem_of_stemOf {rest stem : String} {own : ArtifactKind} (h : stemOf kind rest = (stem, own)) {c : Char}
    (hc : c ∈ stem.toList) : c ∈ rest.toList := by
  have hprefix : ∃ more, rest = stem ++ more := by
    unfold stemOf at h
    split at h
    next hstem =>
      cases h
      exact ⟨_, Text.before?_eq_some.mp hstem⟩
    next =>
      split at h
      next hstem =>
        cases h
        exact ⟨_, Text.before?_eq_some.mp hstem⟩
      next =>
        cases h
        exact ⟨"", by simp⟩
  obtain ⟨more, rfl⟩ := hprefix
  rw [String.toList_append]
  exact List.mem_append_left _ hc

theorem Names.plain (h : Names base here path kind id target) (hhere : here.OneLine) (hpath : '\n' ∉ path.toList) :
    id.Plain := by
  have hsegment := h.isSegment
  have hlines : ∀ part ∈ id.namespaceParts, '\n' ∉ part.toList := by
    cases h with
    | @url rest stem own _ hrest hstem hid =>
      obtain ⟨hparts, _⟩ := parts_of_artifactOf hid
      rw [hparts]
      intro part hpart hbreak
      have hinStem := Text.mem_of_mem_split (List.mem_of_mem_filter hpart) hbreak
      have hdocument : (cut path).1 = base ++ rest := Text.after?_eq_some.mp hrest
      have hinDocument : '\n' ∈ (cut path).1.toList := by
        rw [hdocument, String.toList_append]
        exact List.mem_append_right _ (mem_of_stemOf hstem hinStem)
      rw [cut, String.toList_ofList] at hinDocument
      exact hpath (Text.mem_of_mem_cutChars hinDocument)
    | placed _ hparts hid =>
      obtain ⟨hids, _⟩ := parts_of_artifactOf hid
      rw [hids]
      exact oneLine_of_partsOf hhere hpath hparts
  refine fun part hpart => ⟨ne_empty_of_isSegment (hsegment part hpart), fun c hc => ?_⟩
  refine (isSegmentChar_of_isSegment (hsegment part hpart) hc).resolve_right ?_
  rintro rfl
  exact hlines part hpart hc

/-- The start of a web address. -/
def IsWeb (base : String) : Prop := Text.startsWith "http://" base = true ∨ Text.startsWith "https://" base = true

instance (base : String) : Decidable (IsWeb base) := inferInstanceAs (Decidable (_ ∨ _))

theorem ofPath_of_isWeb (h : IsWeb base) (more : String) :
    PathKind.ofPath (base ++ more) = .absoluteUrl ∧ ∃ rest, (base ++ more).toList = 'h' :: rest := by
  rcases h with h | h
  all_goals
    obtain ⟨rest, hrest⟩ := Option.isSome_iff_exists.mp h
    obtain rfl := Text.after?_eq_some.mp hrest
    rw [PathKind.ofPath, String.toList_append, String.toList_append]
    exact ⟨rfl, _, rfl⟩

section Plain

variable (hplain : id.Plain)

include hplain

theorem spelled_of_plain : id.Spelled := by
  refine fun part hpart => ⟨(hplain part hpart).1, fun hsep => ?_⟩
  exact absurd ((hplain part hpart).2 '/' hsep) (by decide)

theorem isSegment_of_plain (part : String) (hpart : part ∈ id.namespaceParts) : isSegment part = true :=
  isSegment_of_chars (hplain part hpart).1 (hplain part hpart).2

theorem not_mark_of_plain (hbase : '#' ∉ base.toList) : '#' ∉ (id.identifier base).toList := by
  have hjoin : '#' ∉ (Text.join "/" id.namespaceParts).toList := by
    intro hmark
    rcases Text.mem_join hmark with hsep | ⟨part, hpart, hchar⟩
    · exact absurd hsep (by decide)
    · exact absurd ((hplain part hpart).2 '#' hchar) (by decide)
  have hsuffix : '#' ∉ ("." ++ id.kind.suffix).toList := by cases id.kind <;> decide
  simp only [ArtifactId.identifier, ArtifactId.toString, String.append_assoc]
  simp only [String.toList_append, List.mem_append, not_or] at hsuffix ⊢
  exact ⟨hbase, hjoin, hsuffix⟩

/-- The joined parts of an address end in a character that is not blank. -/
theorem join_ends_of_plain :
    ∃ front last, (Text.join "/" id.namespaceParts).toList = front ++ [last] ∧ Text.isBlank last = false := by
  obtain ⟨hne, hchars⟩ := hplain id.name (by simp [ArtifactId.namespaceParts])
  have hname : id.name.toList ≠ [] := by simpa using hne
  refine ⟨(Text.join "/" (id.segment :: id.subpath) ++ "/").toList ++ id.name.toList.dropLast,
    id.name.toList.getLast hname, ?_, not_blank_of_isSegmentChar (hchars _ (List.getLast_mem hname))⟩
  rw [List.append_assoc, List.dropLast_concat_getLast hname, ← String.toList_append, id.join_eq]

/-- The address after a mark is read the same everywhere. -/
theorem resolve_marked {mark : Char} {form : PathKind}
    (hmark : (mark = '/' ∧ form = .namespaceRooted) ∨ (mark = '@' ∧ form = .projectRooted)) (base : String)
    (there : Location) (hpath : path = String.singleton mark ++ Text.join "/" id.namespaceParts) :
    resolve base there path id.kind = .ok ⟨id.identifier base, some id, form, false⟩ := by
  obtain ⟨front, last, hjoin, hlast⟩ := join_ends_of_plain hplain
  have hchars : path.toList = mark :: (Text.join "/" id.namespaceParts).toList := by simp [hpath]
  have hform : PathKind.ofPath path = form ∧ Text.isBlank mark = false := by
    rw [PathKind.ofPath, hchars]
    rcases hmark with ⟨rfl, rfl⟩ | ⟨rfl, rfl⟩
    all_goals exact ⟨rfl, by decide⟩
  have htrim : Text.trim path = path :=
    Text.trim_eq_self hchars (hchars.trans (by rw [hjoin, ← List.cons_append])) hform.2 hlast
  have hne : path ≠ "" := by
    rintro rfl
    simp at hchars
  have hrest : Text.split '/' (String.ofList (path.toList.drop 1)) = id.namespaceParts := by
    rw [hchars, List.drop_one, List.tail_cons, String.ofList_toList, (spelled_of_plain hplain).split_eq]
  have hartifact := artifactOf_namespaceParts (isSegment_of_plain hplain) path
  rw [resolve, htrim]
  simp only [if_neg hne, resolveTrimmed, hform.1]
  rcases hmark with ⟨_, rfl⟩ | ⟨_, rfl⟩
  all_goals
    simp only [partsOf, hrest, bind, Except.bind, hartifact]
    rfl

omit hplain in
theorem stemOf_toString (hreads : ¬ id.ReadsAsSchema) (kind : ArtifactKind) :
    stemOf kind id.toString = (Text.join "/" id.namespaceParts, id.kind) := by
  have hown := id.before?_toString
  unfold stemOf
  cases hkind : id.kind with
  | schema =>
    rw [hkind] at hown
    rw [hown]
  | enumeration =>
    rw [hkind] at hown
    rw [ArtifactId.before?_schema_of_enumeration hkind hreads, hown]

/-- An identifier means the same artifact everywhere. -/
theorem resolve_identifier (hweb : IsWeb base) (hmark : '#' ∉ base.toList) (hreads : ¬ id.ReadsAsSchema)
    (there : Location) (kind : ArtifactKind) :
    resolve base there (id.identifier base) kind = .ok ⟨id.identifier base, some id, .absoluteUrl, false⟩ := by
  obtain ⟨hform, rest, hstart⟩ := ofPath_of_isWeb hweb id.toString
  have hend : ∃ front, (id.identifier base).toList = front ++ ['n'] := by
    cases hkind : id.kind with
    | schema => exact ⟨(base ++ Text.join "/" id.namespaceParts ++ ".schema.jso").toList,
        by simp [ArtifactId.identifier, ArtifactId.toString, hkind, ArtifactKind.suffix]⟩
    | enumeration => exact ⟨(base ++ Text.join "/" id.namespaceParts ++ ".jso").toList,
        by simp [ArtifactId.identifier, ArtifactId.toString, hkind, ArtifactKind.suffix]⟩
  obtain ⟨front, hend⟩ := hend
  have htrim : Text.trim (id.identifier base) = id.identifier base :=
    Text.trim_eq_self hstart hend (by decide) (by decide)
  have hne : id.identifier base ≠ "" := by
    intro hempty
    rw [hempty] at hend
    simp at hend
  have hrest : Text.after? base (id.identifier base) = some id.toString := Text.after?_eq_some.mpr rfl
  rw [resolve, htrim]
  simp only [if_neg hne, resolveTrimmed, show PathKind.ofPath (id.identifier base) = _ from hform, resolveUrl,
    cut_of_not_mem (not_mark_of_plain hplain hmark), hrest, stemOf_toString hreads,
    (spelled_of_plain hplain).filter_eq, artifactOf_namespaceParts (isSegment_of_plain hplain)]
  rfl

end Plain

/-- An artifact that a path names in one document has the same identity in every other one: its parts after a slash or
an at sign name it there, and so does its identifier, which is also what the path is replaced by. Only a web address
keeps the fragment that it ends with. An enumeration that is called like a schema is left out: its identifier is taken
for that of the schema. -/
theorem resolved_everywhere (hweb : IsWeb base) (hmark : '#' ∉ base.toList) (hhere : here.OneLine)
    (hpath : '\n' ∉ path.toList) (h : resolve base here path kind = .ok target) (hid : target.artifact = some id)
    (hreads : ¬ id.ReadsAsSchema) (there : Location) :
    (target.ref =
        if PathKind.ofPath (Text.trim path) = .absoluteUrl ∧ (cut (Text.trim path)).2 ≠ "" then
          id.identifier base ++ "#" ++ (cut (Text.trim path)).2
        else id.identifier base) ∧
      (∀ kind, resolve base there (id.identifier base) kind = .ok ⟨id.identifier base, some id, .absoluteUrl, false⟩) ∧
      resolve base there ("/" ++ Text.join "/" id.namespaceParts) id.kind =
        .ok ⟨id.identifier base, some id, .namespaceRooted, false⟩ ∧
      resolve base there ("@" ++ Text.join "/" id.namespaceParts) id.kind =
        .ok ⟨id.identifier base, some id, .projectRooted, false⟩ := by
  have hnames := names_of_resolve h hid
  have hplain := hnames.plain hhere fun hbreak => hpath (Text.mem_of_mem_trim hbreak)
  refine ⟨?_, resolve_identifier hplain hweb hmark hreads there, resolve_marked hplain (.inl ⟨rfl, rfl⟩) base there rfl,
    resolve_marked hplain (.inr ⟨rfl, rfl⟩) base there rfl⟩
  cases hnames with
  | url hform =>
    by_cases hfragment : (cut (Text.trim path)).2 = ""
    · simp [localTarget, hfragment]
    · simp [localTarget, hform, hfragment]
  | placed hform => simp [localTarget, hform]

/-- A web address with a fragment, which names an artifact of another segment. -/
theorem address_resolved_everywhere :
    resolve "https://example.org/" ⟨"shop", ["order"]⟩ " https://example.org/core//lib/Address.schema.json#/properties/city "
        .enumeration =
      .ok ⟨"https://example.org/core/lib/Address.schema.json#/properties/city", some ⟨"core", ["lib"], "Address", .schema⟩,
        .absoluteUrl, false⟩ ∧
    resolve "https://example.org/" ⟨"core", ["lib", "deep"]⟩ "@core/lib/Address" .schema =
      .ok ⟨"https://example.org/core/lib/Address.schema.json", some ⟨"core", ["lib"], "Address", .schema⟩,
        .projectRooted, false⟩ := by
  have h : resolve "https://example.org/" ⟨"shop", ["order"]⟩
      " https://example.org/core//lib/Address.schema.json#/properties/city " .enumeration =
      .ok ⟨"https://example.org/core/lib/Address.schema.json#/properties/city", some ⟨"core", ["lib"], "Address", .schema⟩,
        .absoluteUrl, false⟩ := by decide
  exact ⟨h, (resolved_everywhere (by decide) (by decide) (by decide) (by decide) h rfl (by decide)
    ⟨"core", ["lib", "deep"]⟩).2.2.2⟩

end Reference

end NoteSchema
