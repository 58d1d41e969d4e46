import NoteSchema.Artifact.Id
import NoteSchema.Proofs.Text.Split

namespace NoteSchema.ArtifactId

variable {a b c : ArtifactId} {base : String}

/-- Each part of an address can stand between slashes. -/
def Spelled (c : ArtifactId) : Prop := ∀ part ∈ c.namespaceParts, part ≠ "" ∧ '/' ∉ part.toList

/-- An enumeration whose name ends as the stems of schemas do: what it is called reads as a schema. -/
def ReadsAsSchema (c : ArtifactId) : Prop := c.kind = .enumeration ∧ Text.endsWith ".schema" c.name = true

instance (c : ArtifactId) : Decidable c.ReadsAsSchema := inferInstanceAs (Decidable (_ ∧ _))

/-- A schema and the enumeration that is called the same. -/
def Twins (a b : ArtifactId) : Prop := a.kind = .schema ∧ b = ⟨a.segment, a.subpath, a.name ++ ".schema", .enumeration⟩

instance (a b : ArtifactId) : Decidable (Twins a b) := inferInstanceAs (Decidable (_ ∧ _))

theorem Twins.toString_eq (h : Twins a b) : a.toString = b.toString := by
  obtain ⟨hkind, rfl⟩ := h
  have hjoin := Text.join_append_last "/" a.name ".schema" (a.segment :: a.subpath)
  simp only [toString, namespaceParts, hkind, ArtifactKind.suffix]
  rw [← List.cons_append, ← List.cons_append, hjoin]
  simp [String.append_assoc]

theorem ofParts_namespaceParts (c : ArtifactId) (kind : ArtifactKind) :
    ofParts kind c.namespaceParts = .ok (c.withKind kind) := by
  obtain ⟨segment, subpath, name, own⟩ := c
  obtain ⟨second, rest, hmore⟩ := List.exists_cons_of_ne_nil (show subpath ++ [name] ≠ [] by simp)
  have hlast : (second :: rest).getLast?.getD "" = name := by simp [← hmore]
  have hfront : (second :: rest).dropLast = subpath := by simp [← hmore]
  simp only [namespaceParts, hmore, ofParts, hlast, hfront, withKind]

theorem ext_of_namespaceParts (hparts : a.namespaceParts = b.namespaceParts) (hkind : a.kind = b.kind) : a = b := by
  have h := ofParts_namespaceParts a b.kind
  rw [hparts, ofParts_namespaceParts] at h
  obtain ⟨segment, subpath, name, kind⟩ := a
  obtain rfl : kind = b.kind := hkind
  exact (Except.ok.inj h).symm

namespace Spelled

theorem split_eq (h : c.Spelled) : Text.split '/' (Text.join "/" c.namespaceParts) = c.namespaceParts :=
  Text.split_join (by simp [namespaceParts]) fun part hpart => (h part hpart).2

theorem filter_eq (h : c.Spelled) :
    (Text.split '/' (Text.join "/" c.namespaceParts)).filter (· ≠ "") = c.namespaceParts := by
  rw [h.split_eq, List.filter_eq_self]
  exact fun part hpart => by simpa using (h part hpart).1

theorem join_inj (ha : a.Spelled) (hb : b.Spelled) :
    Text.join "/" a.namespaceParts = Text.join "/" b.namespaceParts ↔ a.namespaceParts = b.namespaceParts := by
  refine ⟨fun h => ?_, congrArg _⟩
  rw [← ha.split_eq, h, hb.split_eq]

end Spelled

theorem join_eq (c : ArtifactId) :
    Text.join "/" c.namespaceParts = Text.join "/" (c.segment :: c.subpath) ++ "/" ++ c.name := by
  rw [namespaceParts, ← List.cons_append, Text.join_append (by simp) (by simp)]
  rfl

/-- A text without slashes at the end of joined parts is at the end of the last one. -/
theorem ends_of_join {ending stem : String} (hsep : '/' ∉ ending.toList)
    (h : Text.join "/" c.namespaceParts = stem ++ ending) : ∃ front, c.name = front ++ ending := by
  have hchars : (Text.join "/" (c.segment :: c.subpath)).toList ++ '/' :: c.name.toList =
      stem.toList ++ ending.toList := by
    rw [← String.toList_append, ← h, c.join_eq]
    simp
  rcases List.append_eq_append_iff.mp hchars with ⟨middle, _, hrest⟩ | ⟨middle, _, hending⟩
  · cases middle with
    | nil =>
      rw [List.nil_append] at hrest
      exact absurd (hrest ▸ List.mem_cons_self) hsep
    | cons first middle =>
      obtain ⟨_, hname⟩ := List.cons.inj hrest
      exact ⟨String.ofList middle, String.toList_injective (by simpa using hname)⟩
  · exact absurd (hending ▸ by simp) hsep

/-- The name of an enumeration is what keeps its identifier from ending as that of a schema. -/
theorem before?_schema_of_enumeration (hkind : c.kind = .enumeration) (h : ¬ c.ReadsAsSchema) :
    Text.before? ("." ++ ArtifactKind.schema.suffix) c.toString = none := by
  rw [Text.before?_eq_none]
  intro stem hstem
  refine h ⟨hkind, ?_⟩
  have hjoin : Text.join "/" c.namespaceParts = stem ++ ".schema" := by
    have hsplit : Text.join "/" c.namespaceParts ++ ".json" = stem ++ ".schema" ++ ".json" := by
      simpa [toString, hkind, ArtifactKind.suffix, String.append_assoc] using hstem
    exact (String.append_left_inj _).mp hsplit
  obtain ⟨front, hname⟩ := ends_of_join (by decide) hjoin
  rw [Text.endsWith, Text.before?_eq_some.mpr hname]
  rfl

theorem before?_toString (c : ArtifactId) :
    Text.before? ("." ++ c.kind.suffix) c.toString = some (Text.join "/" c.namespaceParts) :=
  Text.before?_eq_some.mpr (String.append_assoc ..)

/-- An identifier names its address, unless it reads as that of another one. -/
theorem ofIdentifier?_identifier (hc : c.Spelled) (h : ¬ c.ReadsAsSchema) (base : String) :
    ofIdentifier? base (c.identifier base) = some c := by
  have hrest : Text.after? base (c.identifier base) = some c.toString := Text.after?_eq_some.mpr rfl
  have hown : ofRest? c.kind c.toString = some (some c) := by
    rw [ofRest?, before?_toString, Option.map_some, hc.filter_eq, ofParts_namespaceParts]
    rfl
  cases hkind : c.kind with
  | schema =>
    rw [hkind] at hown
    simp only [ofIdentifier?, hrest, Option.bind_eq_bind, Option.bind_some, hown]
  | enumeration =>
    rw [hkind] at hown
    have hother : ofRest? .schema c.toString = none := by
      rw [ofRest?, before?_schema_of_enumeration hkind h, Option.map_none]
    simp only [ofIdentifier?, hrest, Option.bind_eq_bind, Option.bind_some, hother, hown, Option.getD_some]

/-- An address that parts make has these parts. -/
theorem of_ofParts {kind : ArtifactKind} {parts : List String} (h : ofParts kind parts = .ok c) :
    c.namespaceParts = parts ∧ c.kind = kind := by
  unfold ofParts at h
  split at h
  next segment second rest =>
    cases h
    refine ⟨?_, rfl⟩
    rw [namespaceParts, List.getLast?_eq_some_getLast (List.cons_ne_nil second rest), Option.getD_some,
      List.dropLast_concat_getLast]
  next => cases h

/-- Pieces between slashes that are not empty can be spelled again. -/
theorem of_ofRest? {kind : ArtifactKind} {rest : String} (h : ofRest? kind rest = some (some c)) :
    c.Spelled ∧ c.kind = kind := by
  obtain ⟨stem, _, hread⟩ := Option.map_eq_some_iff.mp h
  cases hparts : ofParts kind ((Text.split '/' stem).filter (· ≠ "")) with
  | error e =>
    rw [hparts] at hread
    cases hread
  | ok made =>
    rw [hparts] at hread
    cases hread
    obtain ⟨hparts, hkind⟩ := of_ofParts hparts
    refine ⟨fun part hpart => ?_, hkind⟩
    rw [hparts, List.mem_filter] at hpart
    exact ⟨by simpa using hpart.2, Text.not_mem_of_mem_split hpart.1⟩

/-- The ending of schemas is tried first, and that of enumerations only where it fails. -/
theorem of_ofIdentifier? {rest : String} (h : ofIdentifier? base (base ++ rest) = some c) :
    ofRest? .schema rest = some (some c) ∨ ofRest? .schema rest = none ∧ ofRest? .enumeration rest = some (some c) := by
  have hrest : Text.after? base (base ++ rest) = some rest := Text.after?_eq_some.mpr rfl
  simp only [ofIdentifier?, hrest, Option.bind_eq_bind, Option.bind_some] at h
  cases hschema : ofRest? .schema rest with
  | some found =>
    simp only [hschema] at h
    exact .inl (congrArg some h)
  | none =>
    simp only [hschema] at h
    cases henum : ofRest? .enumeration rest with
    | none => simp [henum] at h
    | some found =>
      simp only [henum, Option.getD_some] at h
      exact .inr ⟨rfl, congrArg some h⟩

/-- What stands between the base and the ending of an identifier: its pieces that are not empty are the address. -/
theorem stem_of_ofIdentifier? {identifier : String} (h : ofIdentifier? base identifier = some c) :
    c.Spelled ∧ ∃ stem, identifier = base ++ (stem ++ ("." ++ c.kind.suffix)) ∧
      c.namespaceParts = (Text.split '/' stem).filter (· ≠ "") := by
  obtain ⟨rest, hrest, _⟩ := Option.bind_eq_some_iff.mp h
  obtain rfl := Text.after?_eq_some.mp hrest
  have hread : ofRest? c.kind rest = some (some c) := by
    rcases of_ofIdentifier? h with hschema | ⟨_, henum⟩
    · rwa [(of_ofRest? hschema).2]
    · rwa [(of_ofRest? henum).2]
  obtain ⟨stem, hstem, hparts⟩ := Option.map_eq_some_iff.mp hread
  have hrest := Text.before?_eq_some.mp hstem
  refine ⟨(of_ofRest? hread).1, stem, by rw [hrest], ?_⟩
  cases hmade : ofParts c.kind ((Text.split '/' stem).filter (· ≠ "")) with
  | error e =>
    rw [hmade] at hparts
    cases hparts
  | ok made =>
    rw [hmade] at hparts
    cases hparts
    exact (of_ofParts hmade).1

/-- An identifier is that of its address just if there is no empty piece in it. -/
theorem stem_eq_join_iff (hc : c.Spelled) {stem : String}
    (h : c.namespaceParts = (Text.split '/' stem).filter (· ≠ "")) :
    stem = Text.join "/" c.namespaceParts ↔ "" ∉ Text.split '/' stem := by
  constructor
  · intro hstem hempty
    rw [hstem, hc.split_eq] at hempty
    exact (hc "" hempty).1 rfl
  · intro hfull
    have hall : (Text.split '/' stem).filter (· ≠ "") = Text.split '/' stem := by
      refine List.filter_eq_self.mpr fun part hpart => ?_
      simpa using fun hempty : part = "" => hfull (hempty ▸ hpart)
    rw [h, hall]
    exact (Text.join_split '/' stem).symm

/-- A text that reads as a schema is not read as an enumeration. -/
theorem ofRest?_schema_of_readsAsSchema (h : c.ReadsAsSchema) : ofRest? .schema c.toString ≠ none := by
  obtain ⟨hkind, hname⟩ := h
  obtain ⟨front, hfront⟩ := Option.isSome_iff_exists.mp hname
  have hjoin : Text.join "/" c.namespaceParts = Text.join "/" (c.segment :: c.subpath) ++ "/" ++ front ++ ".schema" := by
    rw [c.join_eq, Text.before?_eq_some.mp hfront, String.append_assoc, String.append_assoc, String.append_assoc]
  have hstem : Text.before? ("." ++ ArtifactKind.schema.suffix) c.toString =
      some (Text.join "/" (c.segment :: c.subpath) ++ "/" ++ front) := by
    rw [Text.before?_eq_some, toString, hjoin, hkind]
    simp [ArtifactKind.suffix, String.append_assoc]
  rw [ofRest?, hstem, Option.map_some]
  simp

/-- An address is read back from its identifier under a base just if its parts can stand between slashes and its name
does not make an enumeration read as a schema. -/
theorem identifier_reads_back_iff (base : String) (c : ArtifactId) :
    ofIdentifier? base (c.identifier base) = some c ↔ c.Spelled ∧ ¬ c.ReadsAsSchema := by
  refine ⟨fun h => ?_, fun h => ofIdentifier?_identifier h.1 h.2 base⟩
  rcases of_ofIdentifier? h with hschema | ⟨hnone, henum⟩
  · obtain ⟨hspelled, hkind⟩ := of_ofRest? hschema
    refine ⟨hspelled, fun hreads => ?_⟩
    rw [hreads.1] at hkind
    cases hkind
  · exact ⟨(of_ofRest? henum).1, fun hreads => ofRest?_schema_of_readsAsSchema hreads hnone⟩

/-- The identifiers of a schema and of an enumeration are the same only if these are twins. -/
theorem twins_of_toString (ha : a.Spelled) (hb : b.Spelled) (hak : a.kind = .schema) (hbk : b.kind = .enumeration)
    (h : a.toString = b.toString) : Twins a b := by
  have hjoin : Text.join "/" a.namespaceParts ++ ".schema" = Text.join "/" b.namespaceParts := by
    refine (String.append_left_inj ".json").mp ?_
    simpa [toString, hak, hbk, ArtifactKind.suffix, String.append_assoc] using h
  let twin : ArtifactId := ⟨a.segment, a.subpath, a.name ++ ".schema", .enumeration⟩
  have htwin : twin.Spelled := by
    intro part hpart
    simp only [namespaceParts, List.mem_cons, List.mem_append, List.mem_nil_iff, or_false] at hpart
    rcases hpart with rfl | hpart | rfl
    · exact ha a.segment (by simp [namespaceParts])
    · exact ha part (by simp [namespaceParts, show part ∈ a.subpath from hpart])
    · have hname := (ha a.name (by simp [namespaceParts])).2
      show a.name ++ ".schema" ≠ "" ∧ '/' ∉ (a.name ++ ".schema").toList
      simp [hname]
  have hparts : Text.join "/" twin.namespaceParts = Text.join "/" a.namespaceParts ++ ".schema" :=
    Text.join_append_last "/" a.name ".schema" (a.segment :: a.subpath)
  exact ⟨hak, (ext_of_namespaceParts ((htwin.join_inj hb).mp (hparts.trans hjoin)) hbk.symm).symm⟩

theorem toString_inj_of_kind (ha : a.Spelled) (hb : b.Spelled) (hkind : a.kind = b.kind)
    (h : a.toString = b.toString) : a = b := by
  rw [toString, toString, hkind, String.append_left_inj, String.append_left_inj] at h
  exact ext_of_namespaceParts ((ha.join_inj hb).mp h) hkind

/-- Two addresses have one identifier only if they are the same, or twins. -/
theorem identifier_eq_iff (ha : a.Spelled) (hb : b.Spelled) :
    a.identifier base = b.identifier base ↔ a = b ∨ Twins a b ∨ Twins b a := by
  rw [identifier, identifier, String.append_right_inj]
  constructor
  · intro h
    cases hak : a.kind <;> cases hbk : b.kind
    · exact .inl (toString_inj_of_kind ha hb (hak.trans hbk.symm) h)
    · exact .inr (.inl (twins_of_toString ha hb hak hbk h))
    · exact .inr (.inr (twins_of_toString hb ha hbk hak h.symm))
    · exact .inl (toString_inj_of_kind ha hb (hak.trans hbk.symm) h)
  · rintro (rfl | h | h)
    · rfl
    · exact h.toString_eq
    · exact h.toString_eq.symm

end NoteSchema.ArtifactId
