import NoteSchema.Proofs.Artifact.Storage
import NoteSchema.Proofs.Corpus.Loading
import NoteSchema.Proofs.Corpus.Whole
import NoteSchema.Proofs.File.Document
import NoteSchema.Proofs.File.Journal
import NoteSchema.Proofs.File.Listing

namespace NoteSchema

/-- No file below a root has a name that ends in the given way. -/
def FileTree.Lacks (t : FileTree) (root : FilePath) (ending : String) : Prop :=
  ∀ names name bytes, t.find? (t.placeOf root ++ (names ++ [name])) = some (.file bytes) → Text.endsWith ending name = false

/-- An address whose file and whose identifier both lead back to it: its parts can stand between slashes, none of its
folders is a step, and as an enumeration it does not read as a schema. -/
structure ArtifactId.Storable (c : ArtifactId) : Prop where
  spelled : c.Spelled
  straight : ∀ part ∈ c.segment :: c.subpath, part ≠ "." ∧ part ≠ ".."
  plain : ¬ c.ReadsAsSchema

namespace ArtifactId.Storable

variable {c c' : ArtifactId}

theorem not_up (h : c.Storable) : ".." ∉ c.storageParts := by
  simp only [storageParts, List.mem_cons, List.mem_append, List.not_mem_nil, or_false, not_or]
  have hlong : 2 < ("." ++ c.kind.suffix).length := by cases c.kind <;> decide
  refine ⟨Ne.symm (h.straight _ List.mem_cons_self).2, by cases c.kind <;> decide,
    fun hup => (h.straight _ (List.mem_cons_of_mem _ hup)).2 rfl, fun hup => ?_⟩
  rw [fileName, String.append_assoc] at hup
  exact (FilePath.ne_of_long hlong c.name).2.2 hup.symm

theorem not_dot (h : c.Storable) : "." ∉ c.segment :: c.subpath := fun hdot => (h.straight _ hdot).1 rfl

theorem artifactPath_eq (h : c.Storable) (l : Layout) : l.artifactPath c = l.root ++ ⟨.relative, c.storageParts⟩ := by
  rw [Layout.artifactPath, h.spelled.storagePath_eq, h.spelled.undotted h.not_dot]
  rfl

theorem artifactPath_inj (h : c.Storable) (h' : c'.Storable) (l : Layout) : l.artifactPath c = l.artifactPath c' ↔ c = c' :=
  storagePath_inj h.spelled h'.spelled h.not_dot h'.not_dot l.root

end ArtifactId.Storable

/-- A document that has been stored: where, under which address, and its members. -/
structure Stored where
  path : FilePath
  id : ArtifactId
  body : Members String

namespace Stored

def document (o : Stored) : Document := .obj o.body

/-- What is written of a document, and where. -/
def entry (o : Stored) : FilePath × String := (o.path, Json.text o.document)

/-- The document as it stands in a corpus. -/
def loaded (base : String) (o : Stored) : Loaded :=
  { identifier := o.id.identifier base, id := o.id, body := o.body, source := some o.path }

/-- What has been stored last at a path. -/
def lastTo (stored : List Stored) (p : FilePath) : Option Stored := (stored.filter (·.path = p)).getLast?

/-- A document that can be read back: it is stored where its address says and carries its identifier, and its text reads as
what was printed. -/
structure Readable (base : String) (l : Layout) (o : Stored) : Prop where
  path : o.path = l.artifactPath o.id
  storable : o.id.Storable
  whole : Json.Whole o.document
  distinct : o.document.Distinct
  checked : Check.json (Json.text o.document) = .ok ()
  carried : o.body.find? "$id" = some (.str (o.id.identifier base))

variable {base : String} {l : Layout} {o o' : Stored} {stored : List Stored} {p : FilePath}

theorem lastTo_eq_some (h : lastTo stored p = some o) : o ∈ stored ∧ o.path = p := by
  have hmem := List.mem_filter.mp (List.mem_of_getLast? h)
  exact ⟨hmem.1, of_decide_eq_true hmem.2⟩

theorem exists_lastTo (h : o ∈ stored) : ∃ o', lastTo stored o.path = some o' := by
  have hne : stored.filter (·.path = o.path) ≠ [] := List.ne_nil_of_mem (List.mem_filter.mpr ⟨h, by simp⟩)
  exact ⟨_, List.getLast?_eq_some_getLast hne⟩

namespace Readable

/-- The path of a document that can be read back leads to the components of its address. -/
theorem placeOf_eq (h : o.Readable base l) (t : FileTree) : t.placeOf o.path = t.placeOf l.root ++ o.id.storageParts := by
  rw [h.path, h.storable.artifactPath_eq, FileTree.placeOf_below l.root h.storable.not_up]

theorem placeOf_inj (h : o.Readable base l) (h' : o'.Readable base l) (t : FileTree) :
    t.placeOf o.path = t.placeOf o'.path ↔ o.path = o'.path := by
  refine ⟨fun heq => ?_, congrArg _⟩
  rw [h.placeOf_eq, h'.placeOf_eq, List.append_cancel_left_eq] at heq
  rw [h.path, h'.path, h.storable.artifactPath_eq, h'.storable.artifactPath_eq, heq]

theorem ofBody_eq (h : o.Readable base l) : Corpus.ofBody base o.document = .ok { o.loaded base with source := none } := by
  simp only [Corpus.ofBody, document, h.carried,
    ArtifactId.ofIdentifier?_identifier h.storable.spelled h.storable.plain base]
  rfl

/-- A document that stands where it was stored is listed. -/
theorem mem_listed (h : o.Readable base l) {t : FileTree} {bytes : Text.Bytes}
    (hl : t.locate o.path = .ok (t.placeOf o.path, .file bytes)) : o.path ∈ l.schemas t ++ l.enumerations t := by
  have hpath : o.path = l.root ++ ⟨.relative, Layout.listedNames o.id.segment o.id.kind.folder o.id.subpath o.id.fileName⟩ :=
    h.path.trans (h.storable.artifactPath_eq l)
  have hplace := h.placeOf_eq t
  obtain ⟨_, hfound⟩ := FileTree.placeOf_of_locate hl
  rw [hplace] at hl hfound
  have hlisted {keep : String → Entry → Bool} (hkeep : keep o.id.fileName (.file bytes) = true) :
      o.path ∈ l.listing t o.id.kind.folder keep := by
    rw [hpath] at hl ⊢
    exact Layout.mem_listing_of_locate hl hfound rfl hkeep
  have hends : Text.endsWith ("." ++ o.id.kind.suffix) o.id.fileName = true := by
    rw [Text.endsWith, ArtifactId.fileName, Text.before?_eq_some.mpr (String.append_assoc ..)]
    rfl
  rw [List.mem_append]
  cases hkind : o.id.kind with
  | schema =>
    rw [hkind] at hlisted hends
    exact .inl (hlisted hends)
  | enumeration =>
    rw [hkind] at hlisted hends
    exact .inr (hlisted hends)

end Readable

end Stored

theorem Text.endsWith_json {name : String} (h : Text.endsWith ".schema.json" name = true) :
    Text.endsWith ".json" name = true := by
  obtain ⟨stem, hstem⟩ := Option.isSome_iff_exists.mp h
  rw [Text.before?_eq_some] at hstem
  have hsplit : name = stem ++ ".schema" ++ ".json" := by
    rw [hstem, String.append_assoc]
    rfl
  rw [Text.endsWith, Text.before?_eq_some.mpr hsplit]
  rfl

/-- What a corpus is loaded from is listed by names with the suffix of documents. -/
theorem Layout.listing_of_mem {l : Layout} {t : FileTree} {p : FilePath} (hp : p ∈ l.schemas t ++ l.enumerations t) :
    ∃ folder keep, p ∈ l.listing t folder keep ∧ ∀ name e, keep name e = true → Text.endsWith ".json" name = true := by
  rcases List.mem_append.mp hp with hp | hp
  · exact ⟨_, _, hp, fun _ _ => Text.endsWith_json⟩
  · exact ⟨_, _, hp, fun _ _ => id⟩

namespace Corpus

open Store (Journal lastAt)
open Stored (lastTo)

variable {base : String} {l : Layout} {stored : List Stored} {s s' : Store} {p : FilePath}

/-- What has been stored below a root is read back: one document for each path, each being the one stored there last, and
referred to by its identifier; and there is no failure unless a folder stands where a document is looked for. -/
structure Reloads (base : String) (l : Layout) (t : FileTree) (stored : List Stored) : Prop where
  failures : (∀ p ∈ l.schemas t ++ l.enumerations t, t.isFolder p = false) → (load base l t).failures = []
  sources : ((load base l t).documents.map (·.source)).Perm ((stored.map (·.path)).dedup.map some)
  documents : ∀ d ∈ (load base l t).documents, ∃ p o, lastTo stored p = some o ∧ d = o.loaded base
  references : ∀ o ∈ stored, '#' ∉ (o.id.identifier base).toList → ∀ here, ∃ d ∈ (load base l t).documents,
    d.source = some o.path ∧ (load base l t).resolve here (o.id.identifier base) = some (d, "")

/-- Of the documents stored at one place the last is what stands there. -/
theorem lastAt_of_lastTo (hr : ∀ o ∈ stored, o.Readable base l) {o : Stored} (h : lastTo stored p = some o) (t : FileTree) :
    lastAt t (stored.map Stored.entry) (t.placeOf p) = some (Text.Utf8.encode (Json.text o.document)) := by
  obtain ⟨ho, rfl⟩ := Stored.lastTo_eq_some h
  have hsame : stored.filter ((fun e => decide (t.placeOf e.1 = t.placeOf o.path)) ∘ Stored.entry) =
      stored.filter (·.path = o.path) :=
    List.filter_congr fun x hx => decide_eq_decide.mpr ((hr x hx).placeOf_inj (hr o ho) t)
  rw [lastAt, List.filter_map, hsame, List.getLast?_map, show (stored.filter _).getLast? = some o from h]
  rfl

section Journal

variable (hj : Journal s s' (stored.map Stored.entry)) (hr : ∀ o ∈ stored, o.Readable base l)

include hj hr

/-- What is stored last at a path is found there. -/
theorem readDocument_of_lastTo {o : Stored} (h : lastTo stored p = some o) :
    s'.tree.readDocument p = .ok o.document := by
  have hlast := lastAt_of_lastTo hr h s.tree
  obtain ⟨ho, rfl⟩ := Stored.lastTo_eq_some h
  obtain ⟨bytes, hlocate⟩ := hj.located _ (List.mem_map_of_mem ho)
  have hcontent := hj.content (s.tree.placeOf o.path)
  rw [hlast, Option.some_or, ← hj.placeOf] at hcontent
  have hfile : s'.tree.content? (s'.tree.placeOf o.path) = some bytes :=
    Store.content?_of_locate hlocate
  obtain rfl := Option.some.inj (hfile.symm.trans hcontent)
  exact FileTree.readDocument_of_printed (Store.read_of_locate hlocate) (hr o ho).whole (hr o ho).distinct (hr o ho).checked

/-- What has been stored is listed, as a file. -/
theorem listed_of_mem {o : Stored} (ho : o ∈ stored) :
    o.path ∈ l.schemas s'.tree ++ l.enumerations s'.tree ∧ s'.tree.isFolder o.path = false := by
  obtain ⟨bytes, hlocate⟩ := hj.located _ (List.mem_map_of_mem ho)
  have hlocate : s'.tree.locate o.path = .ok (s.tree.placeOf o.path, .file bytes) := hlocate
  have hthere : s'.tree.locate o.path = .ok (s'.tree.placeOf o.path, .file bytes) := by rw [hlocate, hj.placeOf]
  exact ⟨(hr o ho).mem_listed hthere, by rw [FileTree.isFolder, hlocate]⟩

/-- What is listed was stored, if it is not a folder in the place of a document. -/
theorem exists_stored_of_listed (hold : s.tree.Lacks l.root ".json") (hp : p ∈ l.schemas s'.tree ++ l.enumerations s'.tree)
    (hfile : s'.tree.isFolder p = false) : ∃ o ∈ stored, o.path = p := by
  obtain ⟨folder, keep, hlisted, hends⟩ := Layout.listing_of_mem hp
  obtain ⟨segment, front, name, e, e', rfl, hkeep, _, hlocate⟩ := Layout.locate_of_mem_listing hj.sound hlisted
  cases e' with
  | folder =>
    rw [FileTree.isFolder, hlocate] at hfile
    cases hfile
  | file bytes =>
    obtain ⟨_, hfound⟩ := FileTree.placeOf_of_locate hlocate
    rw [hj.placeOf] at hfound
    have hcontent := hj.content (s.tree.placeOf l.root ++ Layout.listedNames segment folder front name)
    rw [FileTree.content?, hfound] at hcontent
    cases hlast : lastAt s.tree (stored.map Stored.entry)
        (s.tree.placeOf l.root ++ Layout.listedNames segment folder front name) with
    | none =>
      -- it would have been there before
      rw [hlast, Option.none_or] at hcontent
      have hbefore := hold (segment :: folder :: front) name bytes (Store.find?_of_content? hcontent.symm)
      rw [hends name e hkeep] at hbefore
      cases hbefore
    | some last =>
      obtain ⟨entry, hentry, _⟩ := Option.map_eq_some_iff.mp hlast
      obtain ⟨hin, hplace⟩ := List.mem_filter.mp (List.mem_of_getLast? hentry)
      obtain ⟨o, ho, rfl⟩ := List.mem_map.mp hin
      have hparts := (hr o ho).placeOf_eq s.tree
      rw [show s.tree.placeOf o.path = _ from of_decide_eq_true hplace, List.append_cancel_left_eq] at hparts
      exact ⟨o, ho, by rw [(hr o ho).path, (hr o ho).storable.artifactPath_eq, ← hparts]⟩

/-- A path that is listed holds what was stored there last; as a folder it holds nothing. -/
theorem held?_of_listed (hold : s.tree.Lacks l.root ".json") (hp : p ∈ l.schemas s'.tree ++ l.enumerations s'.tree) :
    held? base s'.tree p = (lastTo stored p).map (Stored.loaded base) := by
  cases hfile : s'.tree.isFolder p with
  | true =>
    have hnothing : lastTo stored p = none := by
      rw [Option.eq_none_iff_forall_ne_some]
      intro o ho
      obtain ⟨hin, rfl⟩ := Stored.lastTo_eq_some ho
      rw [(listed_of_mem hj hr hin).2] at hfile
      cases hfile
    rw [hnothing, held?, readDocument_of_folder hfile]
    rfl
  | false =>
    obtain ⟨x, hx, rfl⟩ := exists_stored_of_listed hj hr hold hp hfile
    obtain ⟨o, ho⟩ := Stored.exists_lastTo hx
    obtain ⟨hin, hpath⟩ := Stored.lastTo_eq_some ho
    rw [ho, held?, readDocument_of_lastTo hj hr ho, ← hpath]
    simp only [(hr o hin).ofBody_eq]
    rfl

/-- The listed paths hold what was stored there last. -/
theorem holding_of_journal (hold : s.tree.Lacks l.root ".json") :
    Holding base s'.tree (l.schemas s'.tree ++ l.enumerations s'.tree)
      fun p => (lastTo stored p).map (Stored.loaded base) := by
  refine ⟨fun p hp => held?_of_listed hj hr hold hp, fun p _ d hd => ?_, fun p _ q _ d hd e he hidentifier => ?_⟩
  · obtain ⟨o, ho, rfl⟩ := Option.map_eq_some_iff.mp hd
    exact (hr o (Stored.lastTo_eq_some ho).1).distinct
  · obtain ⟨o, ho, rfl⟩ := Option.map_eq_some_iff.mp hd
    obtain ⟨o', ho', rfl⟩ := Option.map_eq_some_iff.mp he
    obtain ⟨hin, rfl⟩ := Stored.lastTo_eq_some ho
    obtain ⟨hin', rfl⟩ := Stored.lastTo_eq_some ho'
    have hid := ArtifactId.ofIdentifier?_identifier (hr o hin).storable.spelled (hr o hin).storable.plain base
    rw [show o.id.identifier base = o'.id.identifier base from hidentifier,
      ArtifactId.ofIdentifier?_identifier (hr o' hin').storable.spelled (hr o' hin').storable.plain base] at hid
    rw [(hr o hin).path, (hr o' hin').path, Option.some.inj hid]

omit hj hr in
/-- Where there is just what was stored last at each path, there is one document for each path. -/
theorem perm_sources {documents : List Loaded} (hnodup : documents.Nodup)
    (hsource : ∀ d ∈ documents, ∃ p o, lastTo stored p = some o ∧ d = o.loaded base)
    (hthere : ∀ o ∈ stored, ∃ o', lastTo stored o.path = some o' ∧ o'.loaded base ∈ documents) :
    (documents.map (·.source)).Perm ((stored.map (·.path)).dedup.map some) := by
  refine (List.perm_ext_iff_of_nodup ?_ ?_).mpr fun source => ?_
  · refine List.Nodup.map_on (fun d hd e he hsame => ?_) hnodup
    obtain ⟨p, o, ho, rfl⟩ := hsource d hd
    obtain ⟨q, o', ho', rfl⟩ := hsource e he
    have hpaths := Option.some.inj hsame
    rw [(Stored.lastTo_eq_some ho).2, (Stored.lastTo_eq_some ho').2] at hpaths
    rw [hpaths, ho'] at ho
    rw [Option.some.inj ho]
  · exact (List.nodup_dedup _).map (Option.some_injective _)
  · simp only [List.mem_map, List.mem_dedup]
    constructor
    · rintro ⟨d, hd, rfl⟩
      obtain ⟨p, o, ho, rfl⟩ := hsource d hd
      exact ⟨o.path, ⟨o, (Stored.lastTo_eq_some ho).1, rfl⟩, rfl⟩
    · rintro ⟨_, ⟨o, ho, rfl⟩, rfl⟩
      obtain ⟨o', ho', hd⟩ := hthere o ho
      exact ⟨_, hd, congrArg some (Stored.lastTo_eq_some ho').2⟩

/-- What a store has written below a root that held no documents before is what is loaded from there. -/
theorem reloads_of_journal (hold : s.tree.Lacks l.root ".json") : Reloads base l s'.tree stored := by
  obtain ⟨hregistered, hmem⟩ := load_of_holding (holding_of_journal hj hr hold)
  have hsource : ∀ d ∈ (load base l s'.tree).documents, ∃ p o, lastTo stored p = some o ∧ d = o.loaded base := by
    intro d hd
    obtain ⟨p, _, hp⟩ := (hmem d).mp hd
    obtain ⟨o, ho, rfl⟩ := Option.map_eq_some_iff.mp hp
    exact ⟨p, o, ho, rfl⟩
  have hthere : ∀ o ∈ stored, ∃ o', lastTo stored o.path = some o' ∧
      o'.loaded base ∈ (load base l s'.tree).documents := by
    intro o ho
    obtain ⟨o', ho'⟩ := Stored.exists_lastTo ho
    exact ⟨o', ho', (hmem _).mpr ⟨o.path, (listed_of_mem hj hr ho).1, by rw [ho']; rfl⟩⟩
  have hread (hfolders : ∀ p ∈ l.schemas s'.tree ++ l.enumerations s'.tree, s'.tree.isFolder p = false) :
      ∀ p ∈ l.schemas s'.tree ++ l.enumerations s'.tree, ∃ body, s'.tree.readDocument p = .ok body := by
    intro p hp
    obtain ⟨x, hx, rfl⟩ := exists_stored_of_listed hj hr hold hp (hfolders p hp)
    obtain ⟨o, ho⟩ := Stored.exists_lastTo hx
    exact ⟨_, readDocument_of_lastTo hj hr ho⟩
  have honce : (load base l s'.tree).documents.Nodup := List.Nodup.of_map _ hregistered.nodup
  refine ⟨fun hfolders => failures_load_eq_nil (hread hfolders), perm_sources honce hsource hthere, hsource,
    fun o ho hmark here => ?_⟩
  obtain ⟨o', ho', hd⟩ := hthere o ho
  obtain ⟨hin, hpath⟩ := Stored.lastTo_eq_some ho'
  have hid : o'.id = o.id := by
    rw [(hr o' hin).path, (hr o ho).path] at hpath
    exact ((hr o' hin).storable.artifactPath_inj (hr o ho).storable l).mp hpath
  have hcanonical : Canonical base (load base l s'.tree) := by
    intro d hd
    obtain ⟨_, _, _, rfl⟩ := hsource d hd
    rfl
  have hidentifier : (o'.loaded base).identifier = o.id.identifier base := by rw [← hid]; rfl
  refine ⟨_, hd, congrArg some hpath, ?_⟩
  rw [← hidentifier] at hmark ⊢
  exact resolve_identifier hregistered hcanonical hd hmark here

end Journal

end Corpus

end NoteSchema
