import NoteSchema.Proofs.Corpus.Loading
import NoteSchema.Proofs.File.Journal
import NoteSchema.Proofs.File.Listing
import NoteSchema.Proofs.Json.Order

namespace NoteSchema

namespace FileTree

variable {t t' : FileTree} {p : FilePath} {q : Place}

/-- A file in which an object with an identifier can be read. -/
def Carries (t : FileTree) (p : FilePath) (identifier : String) : Prop :=
  ∃ body : Members String, t.readDocument p = .ok (.obj body) ∧ body.find? "$id" = some (.str identifier)

/-- Two trees whose files differ in one place at most. -/
structure ButOne (t t' : FileTree) (q : Place) : Prop where
  home : t'.home = t.home
  content : ∀ place, place ≠ q → t'.content? place = t.content? place

theorem ButOne.symm (h : ButOne t t' q) : ButOne t' t q := ⟨h.home.symm, fun place hp => (h.content place hp).symm⟩

theorem readDocument_congr (h : t.locate p = t'.locate p) : t.readDocument p = t'.readDocument p := by
  rw [readDocument, readDocument, readText, readText, read, read, h]

/-- What can be read stands at the end of its path. -/
theorem locate_of_readDocument {d : Document} (h : t.readDocument p = .ok d) :
    ∃ bytes, t.locate p = .ok (t.placeOf p, .file bytes) := by
  cases hread : t.read p with
  | ok bytes => exact ⟨bytes, Store.locate_of_read hread⟩
  | error r =>
    rw [readDocument, readText, hread] at h
    cases h

/-- Whatever path leads to a file, it carries the same. -/
theorem Carries.of_placeOf {p' : FilePath} {identifier : String} {bytes : Text.Bytes} (h : t.Carries p identifier)
    (hplace : t.placeOf p = t.placeOf p') (hl : t.locate p' = .ok (t.placeOf p', .file bytes)) :
    t.Carries p' identifier := by
  obtain ⟨body, hread, hidentifier⟩ := h
  obtain ⟨bytes', hlocate⟩ := locate_of_readDocument hread
  have hfound := Store.content?_of_locate hlocate
  rw [hplace, Store.content?_of_locate hl] at hfound
  obtain rfl := Option.some.inj hfound
  rw [hplace] at hlocate
  have htext : t.readText p' = t.readText p := readText_congr hlocate hl
  refine ⟨body, ?_, hidentifier⟩
  rw [readDocument, htext]
  exact hread

end FileTree

namespace Layout

open FileTree (ButOne)

variable {l : Layout} {t t' : FileTree} {p : FilePath} {q : Place} {folder : String} {keep : String → Entry → Bool}

theorem anchor_of_mem_listing (h : p ∈ l.listing t folder keep) : p.anchor = l.root.anchor := by
  obtain ⟨⟨names, e⟩, _, hkept⟩ := List.mem_filterMap.mp (List.mem_mergeSort.mp h)
  dsimp only at hkept
  split at hkept
  next =>
    split at hkept
    next =>
      cases hkept
      rfl
    next => cases hkept
  next => cases hkept

/-- The root is found again where files below it are kept, if it is reached without a detour or is there anyway. -/
theorem locate_root_of_kept (ht' : t'.Sound) (hhome : t'.home = t.home)
    (hroot : t'.isFolder l.root = t.isFolder l.root ∨ ".." ∉ l.root.names)
    (hfolder : t.locate l.root = .ok (t.placeOf l.root, .folder)) {names : List String} (hnames : names ≠ []) {e : Entry}
    (hfound : t'.find? (t.placeOf l.root ++ names) = some e) : t'.locate l.root = .ok (t.placeOf l.root, .folder) := by
  have hplace : t'.placeOf l.root = t.placeOf l.root := by
    rw [FileTree.placeOf, FileTree.placeOf, FileTree.origin, FileTree.origin, hhome]
  rcases hroot with hsame | hplain
  · have hthere : t'.isFolder l.root = true := by rw [hsame, FileTree.isFolder, hfolder]
    unfold FileTree.isFolder at hthere
    split at hthere
    next place hlocate =>
      obtain ⟨_, rfl⟩ := FileTree.stands_of_follow hlocate
      rw [hlocate, ← hplace]
      rfl
    next => cases hthere
  · obtain ⟨front, last, rfl⟩ : ∃ front last, names = front ++ [last] :=
      ⟨_, _, (List.dropLast_concat_getLast hnames).symm⟩
    rw [← List.append_assoc] at hfound
    have habove := ht'.standing (ht'.above hfound).1 (t.placeOf l.root) (List.prefix_append _ _)
    have hend : t'.placeOf l.root = t'.origin l.root.anchor ++ l.root.names := FileTree.endOf_plain hplain
    rw [← hplace] at habove ⊢
    rw [hend] at habove ⊢
    rw [FileTree.locate, FileTree.start_eq]
    exact ht'.follow_below (ht'.origin l.root.anchor).find? habove

/-- A file that is listed and that another tree has too is listed there as well. -/
theorem mem_listing_of_kept (ht : t.Sound) (ht' : t'.Sound) (hhome : t'.home = t.home)
    (hroot : t'.isFolder l.root = t.isFolder l.root ∨ ".." ∉ l.root.names)
    (hkeep : ∀ name e e', keep name e = keep name e') {bytes : Text.Bytes}
    (hlocate : t.locate p = .ok (t.placeOf p, .file bytes)) (hfound : t'.find? (t.placeOf p) = some (.file bytes))
    (hp : p ∈ l.listing t folder keep) : p ∈ l.listing t' folder keep ∧ t'.locate p = .ok (t.placeOf p, .file bytes) := by
  obtain ⟨segment, front, name, e, e', rfl, hkept, hentry, hthere⟩ := locate_of_mem_listing ht hp
  have hplace : t.placeOf (l.root ++ ⟨.relative, listedNames segment folder front name⟩) =
      t.placeOf l.root ++ listedNames segment folder front name := by
    rw [hlocate] at hthere
    exact (Prod.mk.inj (Except.ok.inj hthere)).1
  rw [hplace] at hfound hlocate ⊢
  have hfolder : t.locate l.root = .ok (t.placeOf l.root, .folder) := by
    obtain ⟨found, hfound, _⟩ := List.mem_filterMap.mp (List.mem_mergeSort.mp hp)
    unfold FileTree.below at hfound
    split at hfound
    next place hroot =>
      obtain ⟨_, rfl⟩ := FileTree.stands_of_follow hroot
      exact hroot
    next => cases hfound
  have hfolder' := locate_root_of_kept ht' hhome hroot hfolder (List.cons_ne_nil segment _) hfound
  have hplace' : t'.placeOf l.root = t.placeOf l.root := by
    rw [FileTree.placeOf, FileTree.placeOf, FileTree.origin, FileTree.origin, hhome]
  have hsplit : t'.locate (l.root ++ ⟨.relative, listedNames segment folder front name⟩) =
      (t'.follow (t'.start l.root) .folder l.root.names).bind fun found =>
        t'.follow found.1 found.2 (listedNames segment folder front name) := FileTree.follow_append
  have hlocate' : t'.locate (l.root ++ ⟨.relative, listedNames segment folder front name⟩) =
      .ok (t.placeOf l.root ++ listedNames segment folder front name, .file bytes) := by
    rw [hsplit, show t'.follow (t'.start l.root) .folder l.root.names = _ from hfolder']
    exact ht'.follow_below (ht'.find?_of_locate hfolder').2 hfound
  refine ⟨?_, hlocate'⟩
  exact mem_listing_of_locate hlocate' hfound (by rw [hplace']) ((hkeep name (.file bytes) e).trans hkept)

end Layout

namespace Corpus

open FileTree (ButOne)

variable {base : String} {l : Layout} {t t' : FileTree} {p : FilePath} {q : Place} {identifier : String}

theorem held?_of_carries {id : ArtifactId} (h : t.Carries p identifier)
    (hid : ArtifactId.ofIdentifier? base identifier = some id) :
    ∃ d, held? base t p = some d ∧ d.identifier = identifier := by
  obtain ⟨body, hread, hidentifier⟩ := h
  exact ⟨⟨identifier, id, body, some p⟩, held?_eq_some.mpr ⟨hread, hidentifier, hid, rfl⟩, rfl⟩

theorem carries_of_held? {d : Loaded} (h : held? base t p = some d) : t.Carries p d.identifier := by
  obtain ⟨hread, hidentifier, _, _⟩ := held?_eq_some.mp h
  exact ⟨d.body, hread, hidentifier⟩

/-- The first of some sorted paths at which something is found is the least one. -/
theorem exists_least {α : Type} {f : FilePath → Option α} {g : α → Bool} {a : α} {ps : List FilePath}
    (hsorted : ps.Pairwise fun p q => p.le q = true) (h : (ps.filterMap f).find? g = some a) :
    ∃ p ∈ ps, f p = some a ∧ ∀ q ∈ ps, ∀ b, f q = some b → g b = true → p.le q = true := by
  induction ps with
  | nil => cases h
  | cons p ps ih =>
    obtain ⟨hfirst, hrest⟩ := List.pairwise_cons.mp hsorted
    have hlater (h : (ps.filterMap f).find? g = some a) (hno : ∀ b, f p = some b → g b = true → False) :
        ∃ p' ∈ p :: ps, f p' = some a ∧ ∀ q ∈ p :: ps, ∀ b, f q = some b → g b = true → p'.le q = true := by
      obtain ⟨p', hp', ha, hleast⟩ := ih hrest h
      refine ⟨p', List.mem_cons_of_mem p hp', ha, fun q hq b hb hg => ?_⟩
      rcases List.mem_cons.mp hq with rfl | hq
      · exact (hno b hb hg).elim
      · exact hleast q hq b hb hg
    cases hf : f p with
    | none =>
      rw [List.filterMap_cons_none hf] at h
      exact hlater h fun b hb => by rw [hf] at hb; cases hb
    | some b =>
      rw [List.filterMap_cons_some hf, List.find?_cons] at h
      cases hg : g b with
      | true =>
        rw [hg] at h
        cases h
        refine ⟨p, List.mem_cons_self, hf, fun q hq b hb hg => ?_⟩
        rcases List.mem_cons.mp hq with rfl | hq
        · exact FilePath.le_refl q
        · exact hfirst q hq
      | false =>
        rw [hg] at h
        refine hlater h fun b' hb' hg' => ?_
        obtain rfl := Option.some.inj (hf.symm.trans hb')
        rw [hg] at hg'
        cases hg'

theorem anchor_of_mem_listed (h : p ∈ listed l t) : p.anchor = l.root.anchor :=
  (List.mem_append.mp (mem_listed.mp h)).elim Layout.anchor_of_mem_listing Layout.anchor_of_mem_listing

/-- What is loaded under an identifier is what the least file that carries it holds. -/
theorem find?_load_eq_some_iff {d : Loaded} : (load base l t).find? identifier = some d ↔
    ∃ p ∈ listed l t, held? base t p = some d ∧ d.identifier = identifier ∧
      ∀ q ∈ listed l t, t.Carries q identifier → p.le q = true := by
  have hsorted : (listed l t).Pairwise fun p q => p.le q = true := FilePath.pairwise_mergeSort_le id _
  have hleast {e : Loaded} (h : (load base l t).find? identifier = some e) :
      ∃ p ∈ listed l t, held? base t p = some e ∧ e.identifier = identifier ∧
        ∀ q ∈ listed l t, t.Carries q identifier → p.le q = true := by
    rw [find?_load] at h
    have hidentifier : e.identifier = identifier := by simpa using List.find?_some h
    obtain ⟨p, hp, hheld, hbefore⟩ := exists_least hsorted h
    refine ⟨p, hp, hheld, hidentifier, fun q hq hcarries => ?_⟩
    obtain ⟨_, _, hid, _⟩ := held?_eq_some.mp hheld
    obtain ⟨e', he', hsame⟩ := held?_of_carries hcarries (hidentifier ▸ hid)
    exact hbefore q hq e' he' (by simpa using hsame)
  refine ⟨hleast, ?_⟩
  rintro ⟨p, hp, hheld, rfl, hbefore⟩
  have hthere : (((listed l t).filterMap (held? base t)).find? fun e => e.identifier == d.identifier).isSome = true :=
    List.find?_isSome.mpr ⟨d, List.mem_filterMap.mpr ⟨p, hp, hheld⟩, beq_self_eq_true d.identifier⟩
  rw [← find?_load] at hthere
  obtain ⟨e, he⟩ := Option.isSome_iff_exists.mp hthere
  obtain ⟨p', hp', hheld', hidentifier, hbefore'⟩ := hleast he
  have hsame : p = p' :=
    FilePath.le_antisymm ((anchor_of_mem_listed hp).trans (anchor_of_mem_listed hp').symm)
      (hbefore p' hp' (hidentifier ▸ carries_of_held? hheld')) (hbefore' p hp (carries_of_held? hheld))
  subst hsame
  rw [he]
  exact hheld'.symm.trans hheld

/-- A file that another tree has too is loaded from there as well. -/
theorem mem_listed_of_butOne (ht : t.Sound) (ht' : t'.Sound) (h : ButOne t t' q)
    (hroot : t'.isFolder l.root = t.isFolder l.root ∨ ".." ∉ l.root.names)
    (hnot : ∀ p, t.placeOf p = q → ¬ t.Carries p identifier) (hp : p ∈ listed l t) (hcarries : t.Carries p identifier) :
    p ∈ listed l t' ∧ t'.readDocument p = t.readDocument p := by
  obtain ⟨body, hread, _⟩ := id hcarries
  obtain ⟨bytes, hlocate⟩ := FileTree.locate_of_readDocument hread
  have hcontent : t'.content? (t.placeOf p) = some bytes :=
    (h.content _ fun heq => hnot p heq hcarries).trans (Store.content?_of_locate hlocate)
  have hfound := Store.find?_of_content? hcontent
  have hall {folder : String} {keep : String → Entry → Bool} (hkeep : ∀ name e e', keep name e = keep name e')
      (hp : p ∈ l.listing t folder keep) :
      p ∈ l.listing t' folder keep ∧ t'.locate p = .ok (t.placeOf p, .file bytes) :=
    Layout.mem_listing_of_kept ht ht' h.home hroot hkeep hlocate hfound hp
  rcases List.mem_append.mp (mem_listed.mp hp) with hp | hp
  · obtain ⟨hp', hlocate'⟩ := hall (fun _ _ _ => rfl) hp
    exact ⟨mem_listed.mpr (List.mem_append_left _ hp'), FileTree.readDocument_congr (hlocate'.trans hlocate.symm)⟩
  · obtain ⟨hp', hlocate'⟩ := hall (fun _ _ _ => rfl) hp
    exact ⟨mem_listed.mpr (List.mem_append_right _ hp'), FileTree.readDocument_congr (hlocate'.trans hlocate.symm)⟩

/-- A file that does not carry an identifier makes no difference to what is loaded under it. -/
theorem find?_load_of_butOne (ht : t.Sound) (ht' : t'.Sound) (h : ButOne t t' q)
    (hroot : t'.isFolder l.root = t.isFolder l.root ∨ ".." ∉ l.root.names)
    (hnot : ∀ p, t.placeOf p = q → ¬ t.Carries p identifier) (hnot' : ∀ p, t'.placeOf p = q → ¬ t'.Carries p identifier)
    {d : Loaded} (hd : (load base l t).find? identifier = some d) : (load base l t').find? identifier = some d := by
  obtain ⟨p, hp, hheld, rfl, hleast⟩ := find?_load_eq_some_iff.mp hd
  obtain ⟨hp', hread⟩ := mem_listed_of_butOne ht ht' h hroot hnot hp (carries_of_held? hheld)
  refine find?_load_eq_some_iff.mpr ⟨p, hp', ?_, rfl, fun r hr hcarries => ?_⟩
  · rw [held?_eq_some, hread]
    exact held?_eq_some.mp hheld
  · obtain ⟨hr', hread'⟩ := mem_listed_of_butOne ht' ht h.symm (hroot.imp_left Eq.symm) hnot' hr hcarries
    obtain ⟨body, hbody, hidentifier⟩ := hcarries
    exact hleast r hr' ⟨body, hread'.trans hbody, hidentifier⟩

/-- What is loaded from any tree. There is one document for each identifier that some listed file carries and that names
an address under the base; it is that of the least such file. The documents come in the order of their identifiers, each
is found under its own and under no other, and has the address that this names. The failures are the files that cannot
be read. And when files differ in one place, what is loaded under an identifier that neither file there carries stays. -/
theorem loaded_exactly (base : String) (l : Layout) (t : FileTree) :
    (∀ identifier, (∃ d ∈ (load base l t).documents, d.identifier = identifier) ↔
      (∃ p ∈ listed l t, t.Carries p identifier) ∧ (ArtifactId.ofIdentifier? base identifier).isSome = true) ∧
    (∀ d ∈ (load base l t).documents, ∃ p ∈ listed l t, d.source = some p ∧ t.readDocument p = .ok d.document ∧
      t.Carries p d.identifier ∧ ∀ q ∈ listed l t, t.Carries q d.identifier → p.le q = true) ∧
    ((load base l t).documents.Pairwise fun a b => a.identifier < b.identifier) ∧
    (∀ identifier d, (load base l t).find? identifier = some d ↔
      d ∈ (load base l t).documents ∧ d.identifier = identifier) ∧
    (∀ d ∈ (load base l t).documents, ArtifactId.ofIdentifier? base d.identifier = some d.id) ∧
    ((load base l t).failures = (listed l t).filterMap (failure? t) ∧
      ∀ p reason, (p, reason) ∈ (load base l t).failures ↔ p ∈ listed l t ∧ t.readDocument p = .error reason) ∧
    ∀ t' q identifier, t.Sound → t'.Sound → t.ButOne t' q →
      (t'.isFolder l.root = t.isFolder l.root ∨ ".." ∉ l.root.names) →
      (∀ p, t.placeOf p = q → ¬ t.Carries p identifier) → (∀ p, t'.placeOf p = q → ¬ t'.Carries p identifier) →
        (load base l t').find? identifier = (load base l t).find? identifier := by
  have hfind (identifier : String) (d : Loaded) : (load base l t).find? identifier = some d ↔
      d ∈ (load base l t).documents ∧ d.identifier = identifier :=
    find?_eq_some_iff (nodup_load base l t)
  have hread {d : Loaded} (hd : d ∈ (load base l t).documents) : ∃ p ∈ listed l t, held? base t p = some d ∧
      ∀ q ∈ listed l t, t.Carries q d.identifier → p.le q = true := by
    obtain ⟨p, hp, hheld, _, hleast⟩ := find?_load_eq_some_iff.mp ((hfind d.identifier d).mpr ⟨hd, rfl⟩)
    exact ⟨p, hp, hheld, hleast⟩
  refine ⟨fun identifier => ⟨?_, ?_⟩, fun d hd => ?_, inOrder_load base l t, hfind, fun d hd => ?_,
    ⟨failures_load base l t, fun p reason => ?_⟩, ?_⟩
  · rintro ⟨d, hd, rfl⟩
    obtain ⟨p, hp, hheld, _⟩ := hread hd
    obtain ⟨_, _, hid, _⟩ := held?_eq_some.mp hheld
    exact ⟨⟨p, hp, carries_of_held? hheld⟩, by rw [hid]; rfl⟩
  · rintro ⟨⟨p, hp, hcarries⟩, hid⟩
    obtain ⟨id, hid⟩ := Option.isSome_iff_exists.mp hid
    obtain ⟨d, hheld, rfl⟩ := held?_of_carries hcarries hid
    have hthere : (load base l t).find? d.identifier ≠ none := by
      rw [find?_load]
      intro hnone
      exact List.find?_eq_none.mp hnone d (List.mem_filterMap.mpr ⟨p, hp, hheld⟩) (beq_self_eq_true d.identifier)
    obtain ⟨e, he⟩ := Option.ne_none_iff_exists'.mp hthere
    exact ⟨e, (hfind _ e).mp he⟩
  · obtain ⟨p, hp, hheld, hleast⟩ := hread hd
    obtain ⟨hdocument, _, _, hsource⟩ := held?_eq_some.mp hheld
    exact ⟨p, hp, hsource, hdocument, carries_of_held? hheld, hleast⟩
  · obtain ⟨p, _, hheld, _⟩ := hread hd
    exact (held?_eq_some.mp hheld).2.2.1
  · rw [failures_load, List.mem_filterMap]
    have hone (q : FilePath) : failure? t q = some (p, reason) ↔ q = p ∧ t.readDocument p = .error reason := by
      unfold failure?
      split
      next body hbody =>
        refine ⟨nofun, ?_⟩
        rintro ⟨rfl, herror⟩
        rw [hbody] at herror
        cases herror
      next cause herror =>
        constructor
        · intro h
          cases h
          exact ⟨rfl, herror⟩
        · rintro ⟨rfl, h⟩
          rw [Except.error.inj (herror.symm.trans h)]
    simp only [hone]
    constructor
    · rintro ⟨q, hq, rfl, herror⟩
      exact ⟨hq, herror⟩
    · rintro ⟨hp, herror⟩
      exact ⟨p, hp, rfl, herror⟩
  · intro t' q identifier ht ht' hone hroot hnot hnot'
    refine Option.ext fun d => ⟨fun hd => ?_, fun hd => ?_⟩
    · exact find?_load_of_butOne ht' ht hone.symm (hroot.imp_left Eq.symm) hnot' hnot hd
    · exact find?_load_of_butOne ht ht' hone hroot hnot hnot' hd

/-- A document with the identifier of the example. -/
def shelved (title : String) : Text.Bytes :=
  Text.Utf8.encode (Json.text (.obj [("$id", .str "s:core/A.schema.json"), ("title", .str title)]))

/-- Two files with one identifier, and a third one of any content. -/
def shelf (content : String) : FileTree where
  home := []
  entries := [(["corpus"], .folder), (["corpus", "core"], .folder), (["corpus", "core", "enums"], .folder),
    (["corpus", "core", "schemas"], .folder), (["corpus", "core", "schemas", "B.schema.json"], .file (shelved "later")),
    (["corpus", "core", "schemas", "A.schema.json"], .file (shelved "first")),
    (["corpus", "core", "enums", "K.json"], .file (Text.Utf8.encode content))]

def shelfLayout : Layout := ⟨⟨.root, ["corpus"]⟩, []⟩

def shelfPath (kind : ArtifactKind) (name : String) : FilePath := ⟨.root, ["corpus", "core", kind.folder, name]⟩

theorem mem_shelf {content : String} : p ∈ listed shelfLayout (shelf content) ↔
    p ∈ [shelfPath .schema "B.schema.json", shelfPath .schema "A.schema.json", shelfPath .enumeration "K.json"] := by
  rw [mem_listed, List.mem_append, Layout.schemas, Layout.enumerations, Layout.listing, Layout.listing,
    List.mem_mergeSort, List.mem_mergeSort, ← List.mem_append]
  exact Iff.of_eq (congrArg _ (by with_unfolding_all rfl))

theorem sound_shelf (content : String) : (shelf content).Sound := by
  refine .of_entries rfl ?_
  intro entry hentry
  simp only [shelf, List.mem_cons, List.not_mem_nil, or_false] at hentry
  rcases hentry with rfl | rfl | rfl | rfl | rfl | rfl | rfl
  all_goals
    refine ⟨rfl, ?_⟩
    rintro _ ⟨⟩
    decide

theorem butOne_shelf (content content' : String) :
    (shelf content).ButOne (shelf content') ["corpus", "core", "enums", "K.json"] := by
  refine ⟨rfl, fun place hplace => ?_⟩
  simp [FileTree.content?, FileTree.find?, shelf, FileTree.lookup, Ne.symm hplace]

/-- What the third file of the example carries is found by reading it. -/
theorem not_carries_shelf {content identifier : String}
    (h : ¬ (shelf content).Carries (shelfPath .enumeration "K.json") identifier) :
    ∀ p, (shelf content).placeOf p = ["corpus", "core", "enums", "K.json"] → ¬ (shelf content).Carries p identifier := by
  intro p hp hcarries
  have hlocate : (shelf content).locate (shelfPath .enumeration "K.json") =
      .ok ((shelf content).placeOf (shelfPath .enumeration "K.json"), .file (Text.Utf8.encode content)) := by
    with_unfolding_all rfl
  exact h (hcarries.of_placeOf hp hlocate)

theorem shelf_loaded : ∃ d, (load "s:" shelfLayout (shelf "[")).find? "s:core/A.schema.json" = some d ∧
    d.source = some (shelfPath .schema "A.schema.json") ∧
    (load "s:" shelfLayout (shelf "[]")).find? "s:core/A.schema.json" = some d ∧
    ∃ reason, (shelfPath .enumeration "K.json", reason) ∈ (load "s:" shelfLayout (shelf "[")).failures := by
  obtain ⟨hthere, hread, _, hfind, _, ⟨_, hfailures⟩, hsame⟩ := loaded_exactly "s:" shelfLayout (shelf "[")
  have hfirst : (shelf "[").Carries (shelfPath .schema "A.schema.json") "s:core/A.schema.json" :=
    ⟨[("$id", .str "s:core/A.schema.json"), ("title", .str "first")], by decide +kernel, rfl⟩
  have hbroken : ∃ reason, (shelf "[").readDocument (shelfPath .enumeration "K.json") = .error reason :=
    ⟨"Expecting value: line 1 column 2 (char 1)", by decide +kernel⟩
  have hnot : ¬ (shelf "[").Carries (shelfPath .enumeration "K.json") "s:core/A.schema.json" := by
    rintro ⟨body, hbody, _⟩
    obtain ⟨reason, hreason⟩ := hbroken
    rw [hreason] at hbody
    cases hbody
  have hnot' : ¬ (shelf "[]").Carries (shelfPath .enumeration "K.json") "s:core/A.schema.json" := by
    rintro ⟨body, hbody, _⟩
    have hlist : (shelf "[]").readDocument (shelfPath .enumeration "K.json") = .ok (.arr []) := by decide
    rw [hlist] at hbody
    cases hbody
  obtain ⟨d, hd, hid⟩ := (hthere "s:core/A.schema.json").mpr
    ⟨⟨_, mem_shelf.mpr (by simp), hfirst⟩, by decide⟩
  have hfound := (hfind "s:core/A.schema.json" d).mpr ⟨hd, hid⟩
  have hkept := hsame (shelf "[]") _ "s:core/A.schema.json" (sound_shelf "[") (sound_shelf "[]")
    (butOne_shelf "[" "[]") (.inr (by decide)) (not_carries_shelf hnot) (not_carries_shelf hnot')
  refine ⟨d, hfound, ?_, hkept.trans hfound, ?_⟩
  · obtain ⟨p, hp, hsource, _, hcarries, hleast⟩ := hread d hd
    rw [hid] at hcarries hleast
    rw [hsource]
    rcases List.mem_cons.mp (mem_shelf.mp hp) with rfl | hp
    · exact absurd (hleast _ (mem_shelf.mpr (by simp)) hfirst) (by decide)
    · rcases List.mem_cons.mp hp with rfl | hp
      · rfl
      · obtain rfl := List.mem_singleton.mp hp
        exact absurd hcarries hnot
  · obtain ⟨reason, hreason⟩ := hbroken
    exact ⟨reason, (hfailures _ reason).mpr ⟨mem_shelf.mpr (by simp), hreason⟩⟩

end Corpus

end NoteSchema
