import NoteSchema.Proofs.Corpus.Registered
import NoteSchema.Proofs.Reference.Named
import Mathlib.Data.List.Induction

namespace NoteSchema.Corpus

variable {base : String} {l : Layout} {t : FileTree} {ps : List FilePath} {p : FilePath} {c : Corpus}
  {held : FilePath → Option Loaded}

theorem isSome_find? {identifier : String} :
    (c.find? identifier).isSome = true ↔ ∃ d ∈ c.documents, d.identifier = identifier := by
  simp [find?, List.find?_isSome]

/-- The document under the base that a file holds. -/
def held? (base : String) (t : FileTree) (p : FilePath) : Option Loaded :=
  match t.readDocument p with
  | .ok body => (ofBody base body).toOption.map fun d => { d with source := some p }
  | .error _ => none

/-- A file that cannot be read, with the reason. -/
def failure? (t : FileTree) (p : FilePath) : Option (FilePath × String) :=
  match t.readDocument p with
  | .ok _ => none
  | .error reason => some (p, reason)

/-- A file that is taken leaves a failure, or a document unless there is one of its identifier, or nothing. -/
theorem take_eq (base : String) (t : FileTree) (c : Corpus) (p : FilePath) : take base t c p =
    { documents := c.documents ++ ((held? base t p).filter fun d => (c.find? d.identifier).isNone).toList
      failures := c.failures ++ (failure? t p).toList } := by
  cases hread : t.readDocument p with
  | error reason => simp [take, held?, failure?, hread]
  | ok body =>
    cases hbody : ofBody base body with
    | error e => simp [take, held?, failure?, hread, hbody, Except.toOption]
    | ok d =>
      cases hfind : c.find? d.identifier with
      | none => simp [take, held?, failure?, hread, hbody, Except.toOption, Option.filter, hfind]
      | some e => simp [take, held?, failure?, hread, hbody, Except.toOption, Option.filter, hfind]

/-- A document that is there is not taken a second time. -/
theorem find?_take (base : String) (t : FileTree) (c : Corpus) (p : FilePath) (identifier : String) :
    (take base t c p).find? identifier =
      (c.find? identifier).or ((held? base t p).filter fun d => d.identifier == identifier) := by
  rw [take_eq, find?, find?, List.find?_append]
  cases held? base t p with
  | none => simp
  | some d =>
    by_cases hd : d.identifier = identifier
    · subst hd
      cases hfind : c.documents.find? fun e => e.identifier == d.identifier <;> simp [Option.filter, find?, hfind]
    · cases hfind : c.find? d.identifier <;> simp [Option.filter, hfind, hd]

theorem nodup_take (base : String) (t : FileTree) (p : FilePath) (h : (c.documents.map (·.identifier)).Nodup) :
    ((take base t c p).documents.map (·.identifier)).Nodup := by
  rw [take_eq, List.map_append]
  cases hpassed : (held? base t p).filter fun d => (c.find? d.identifier).isNone with
  | none => simpa using h
  | some d =>
    have hnew : d.identifier ∉ c.documents.map (·.identifier) := by
      intro hin
      obtain ⟨e, he, hidentifier⟩ := List.mem_map.mp hin
      have hthere := isSome_find?.mpr ⟨e, he, hidentifier⟩
      simp [Option.isNone_iff_eq_none.mp (Option.filter_eq_some_iff.mp hpassed).2] at hthere
    rw [Option.toList_some, List.map_singleton, ← List.concat_eq_append]
    exact h.concat hnew

/-- Files taken one after another: those that cannot be read are noted, and of the documents with one identifier the
first is there, once. -/
theorem taken (base : String) (t : FileTree) (ps : List FilePath) :
    (ps.foldl (take base t) { documents := [] }).failures = ps.filterMap (failure? t) ∧
      ((ps.foldl (take base t) { documents := [] }).documents.map (·.identifier)).Nodup ∧
      ∀ identifier, (ps.foldl (take base t) { documents := [] }).find? identifier =
        (ps.filterMap (held? base t)).find? fun d => d.identifier == identifier := by
  induction ps using List.reverseRecOn with
  | nil => exact ⟨rfl, List.nodup_nil, fun _ => rfl⟩
  | append_singleton ps p ih =>
    obtain ⟨hfailures, hnodup, hfind⟩ := ih
    rw [List.foldl_concat]
    refine ⟨?_, nodup_take base t p hnodup, fun identifier => ?_⟩
    · rw [take_eq, List.filterMap_append, ← hfailures]
      cases hf : failure? t p <;> simp [hf]
    · rw [find?_take, hfind, List.filterMap_append, List.find?_append]
      cases hheld : held? base t p <;> simp [hheld, Option.filter, List.find?_singleton]

/-- The files that a corpus is loaded from, in the order in which they are taken. -/
def listed (l : Layout) (t : FileTree) : List FilePath := (l.schemas t ++ l.enumerations t).mergeSort FilePath.le

theorem mem_listed {l : Layout} : p ∈ listed l t ↔ p ∈ l.schemas t ++ l.enumerations t := List.mem_mergeSort

theorem failures_load (base : String) (l : Layout) (t : FileTree) :
    (load base l t).failures = (listed l t).filterMap (failure? t) :=
  (taken base t (listed l t)).1

theorem nodup_load (base : String) (l : Layout) (t : FileTree) :
    ((load base l t).documents.map (·.identifier)).Nodup := by
  have hperm : (load base l t).documents.Perm ((listed l t).foldl (take base t) { documents := [] }).documents :=
    List.mergeSort_perm _ _
  exact (hperm.map (·.identifier)).nodup_iff.mpr (taken base t (listed l t)).2.1

theorem inOrder_load (base : String) (l : Layout) (t : FileTree) :
    (load base l t).documents.Pairwise fun a b => a.identifier < b.identifier := by
  have hsorted : (load base l t).documents.Pairwise fun a b => a.identifier ≤ b.identifier :=
    Text.pairwise_mergeSort_key Loaded.identifier _
  have honce : (load base l t).documents.Pairwise fun a b => a.identifier ≠ b.identifier :=
    List.pairwise_map.mp (nodup_load base l t)
  exact (hsorted.and honce).imp fun ⟨hle, hne⟩ => lt_of_le_of_ne hle hne

/-- Of documents that all have different identifiers, that of an identifier is the one that has it. -/
theorem find?_eq_some_iff (hnodup : (c.documents.map (·.identifier)).Nodup) {identifier : String} {d : Loaded} :
    c.find? identifier = some d ↔ d ∈ c.documents ∧ d.identifier = identifier := by
  constructor
  · intro h
    exact ⟨List.mem_of_find?_eq_some h, by simpa using List.find?_some h⟩
  · rintro ⟨hd, rfl⟩
    obtain ⟨e, he⟩ := Option.isSome_iff_exists.mp (isSome_find?.mpr ⟨d, hd, rfl⟩)
    have hsame : e.identifier = d.identifier := by simpa using List.find?_some he
    rw [he, List.inj_on_of_nodup_map hnodup (List.mem_of_find?_eq_some he) hd hsame]

/-- What is loaded under an identifier is the first document that is listed with it. -/
theorem find?_load (base : String) (l : Layout) (t : FileTree) (identifier : String) :
    (load base l t).find? identifier =
      ((listed l t).filterMap (held? base t)).find? fun d => d.identifier == identifier := by
  obtain ⟨_, hnodup, hfind⟩ := taken base t (listed l t)
  rw [← hfind]
  have hmem (d : Loaded) : d ∈ (load base l t).documents ↔
      d ∈ ((listed l t).foldl (take base t) { documents := [] }).documents := List.mem_mergeSort
  refine Option.ext fun d => ?_
  rw [find?_eq_some_iff (nodup_load base l t), find?_eq_some_iff hnodup, hmem]

/-- A body that is a document under the base is an object with its identifier and the address that this names. -/
theorem ofBody_eq_ok {body : Document} {d : Loaded} : ofBody base body = .ok d ↔
    body = d.document ∧ d.body.find? "$id" = some (.str d.identifier) ∧
      ArtifactId.ofIdentifier? base d.identifier = some d.id ∧ d.source = none := by
  constructor
  · intro h
    unfold ofBody at h
    split at h
    next =>
      split at h
      next => cases h
      next hidentifier =>
        split at h
        next hid =>
          cases h
          exact ⟨rfl, hidentifier, hid, rfl⟩
        next => cases h
      next => cases h
    next => cases h
  · obtain ⟨identifier, id, members, source⟩ := d
    rintro ⟨rfl, hidentifier, hid, rfl⟩
    simp only [Loaded.document, ofBody, hidentifier, hid]

theorem held?_eq_some {d : Loaded} : held? base t p = some d ↔
    t.readDocument p = .ok d.document ∧ d.body.find? "$id" = some (.str d.identifier) ∧
      ArtifactId.ofIdentifier? base d.identifier = some d.id ∧ d.source = some p := by
  unfold held?
  split
  next document hread =>
    constructor
    · intro h
      obtain ⟨e, he, rfl⟩ := Option.map_eq_some_iff.mp h
      cases hbody : ofBody base document with
      | error e =>
        rw [hbody] at he
        cases he
      | ok e' =>
        rw [hbody] at he
        cases he
        obtain ⟨rfl, hidentifier, hid, _⟩ := ofBody_eq_ok.mp hbody
        exact ⟨hread, hidentifier, hid, rfl⟩
    · rintro ⟨hdocument, hidentifier, hid, hsource⟩
      obtain rfl := Except.ok.inj (hread.symm.trans hdocument)
      have hbody : ofBody base d.document = .ok { d with source := none } :=
        ofBody_eq_ok.mpr ⟨rfl, hidentifier, hid, rfl⟩
      rw [hbody, ← hsource]
      rfl
  next hread => simp [hread]

/-- What each of some files holds under the base, no two of them a document of the same identifier. -/
structure Holding (base : String) (t : FileTree) (ps : List FilePath) (held : FilePath → Option Loaded) : Prop where
  reads : ∀ p ∈ ps, held? base t p = held p
  distinct : ∀ p ∈ ps, ∀ d ∈ held p, d.document.Distinct
  apart : ∀ p ∈ ps, ∀ q ∈ ps, ∀ d ∈ held p, ∀ e ∈ held q, d.identifier = e.identifier → p = q

/-- A corpus that is loaded from such files has the document of each of them. -/
theorem load_of_holding (h : Holding base t (l.schemas t ++ l.enumerations t) held) :
    (load base l t).Registered base ∧
      ∀ d, d ∈ (load base l t).documents ↔ ∃ p ∈ l.schemas t ++ l.enumerations t, held p = some d := by
  have hmem (d : Loaded) : d ∈ (load base l t).documents ↔ ∃ p ∈ l.schemas t ++ l.enumerations t, held p = some d := by
    have hfound : d ∈ (load base l t).documents ↔ (load base l t).find? d.identifier = some d := by
      rw [find?_eq_some_iff (nodup_load base l t)]
      exact (and_iff_left rfl).symm
    rw [hfound, find?_load]
    constructor
    · intro hd
      obtain ⟨p, hp, he⟩ := List.mem_filterMap.mp (List.mem_of_find?_eq_some hd)
      exact ⟨p, mem_listed.mp hp, h.reads p (mem_listed.mp hp) ▸ he⟩
    · rintro ⟨p, hp, he⟩
      have hin : d ∈ (listed l t).filterMap (held? base t) :=
        List.mem_filterMap.mpr ⟨p, mem_listed.mpr hp, (h.reads p hp).trans he⟩
      have hthere :
          (((listed l t).filterMap (held? base t)).find? fun e => e.identifier == d.identifier).isSome = true :=
        List.find?_isSome.mpr ⟨d, hin, beq_self_eq_true d.identifier⟩
      obtain ⟨e, hsome⟩ := Option.isSome_iff_exists.mp hthere
      obtain ⟨q, hq, heq⟩ := List.mem_filterMap.mp (List.mem_of_find?_eq_some hsome)
      rw [h.reads q (mem_listed.mp hq)] at heq
      have hsame : e.identifier = d.identifier := by simpa using List.find?_some hsome
      obtain rfl := h.apart q (mem_listed.mp hq) p hp e heq d he hsame
      rw [hsome]
      exact heq.symm.trans he
  refine ⟨registered_of_made (fun d hd => ?_) (taken base t (listed l t)).2.1, hmem⟩
  obtain ⟨p, hp, he⟩ := (hmem d).mp (List.mem_mergeSort.mpr hd)
  obtain ⟨_, hidentifier, hid, _⟩ := held?_eq_some.mp ((h.reads p hp).trans he)
  exact ⟨hidentifier, hid, h.distinct p hp d he⟩

/-- A corpus whose files can all be read is loaded without a failure. -/
theorem failures_load_eq_nil (h : ∀ p ∈ l.schemas t ++ l.enumerations t, ∃ body, t.readDocument p = .ok body) :
    (load base l t).failures = [] := by
  rw [failures_load, List.filterMap_eq_nil_iff]
  intro p hp
  obtain ⟨body, hbody⟩ := h p (mem_listed.mp hp)
  rw [failure?, hbody]

/-- A folder cannot be read as a document. -/
theorem readDocument_of_folder (h : t.isFolder p = true) :
    t.readDocument p = .error (Refusal.message ⟨.folder, [p.toString]⟩) := by
  unfold FileTree.isFolder at h
  split at h
  next hlocate => simp only [FileTree.readDocument, FileTree.readText, FileTree.read, hlocate]
  next => cases h

/-- A folder that stands where a document is looked for is a failure. -/
theorem failure_of_folder (hp : p ∈ l.schemas t ++ l.enumerations t) (hfolder : t.isFolder p = true) :
    ∃ reason, (p, reason) ∈ (load base l t).failures := by
  rw [failures_load]
  exact ⟨_, List.mem_filterMap.mpr ⟨p, mem_listed.mpr hp, by rw [failure?, readDocument_of_folder hfolder]⟩⟩

/-- Whatever is loaded is known under the base. -/
theorem after?_of_mem_load {d : Loaded} (hd : d ∈ (load base l t).documents) : ∃ rest, d.identifier = base ++ rest := by
  have hfound := (find?_eq_some_iff (nodup_load base l t)).mpr ⟨hd, rfl⟩
  rw [find?_load] at hfound
  obtain ⟨p, _, hheld⟩ := List.mem_filterMap.mp (List.mem_of_find?_eq_some hfound)
  obtain ⟨_, _, hid, _⟩ := held?_eq_some.mp hheld
  obtain ⟨rest, hrest, _⟩ := Option.bind_eq_some_iff.mp hid
  exact ⟨rest, Text.after?_eq_some.mp hrest⟩

/-- Under a base with a `#` in it nothing that is loaded can be referred to from elsewhere. -/
theorem resolve_eq_none_of_mark (hbase : '#' ∈ base.toList) {ref : String} (href : (Reference.cut ref).1 ≠ "")
    (here : Option Loaded) : (load base l t).resolve here ref = none := by
  simp only [resolve, if_neg href, Option.map_eq_none_iff]
  refine List.find?_eq_none.mpr fun d hd => ?_
  obtain ⟨rest, hrest⟩ := after?_of_mem_load hd
  have hcut := Reference.not_mark_of_cut ref
  rw [beq_iff_eq]
  rintro hidentifier
  rw [← hidentifier, hrest, String.toList_append] at hcut
  exact hcut (List.mem_append_left _ hbase)

end NoteSchema.Corpus
