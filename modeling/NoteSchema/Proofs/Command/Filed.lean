import NoteSchema.Proofs.Artifact.Storage
import NoteSchema.Proofs.Command.Aimed
import NoteSchema.Proofs.Command.Turn
import NoteSchema.Proofs.Corpus.Stored
import NoteSchema.Proofs.Schema.Distinct

namespace NoteSchema

namespace FilePath

/-- A text that is one component of a path: it is there, it is no dot, and no slash is in it. -/
def IsName (name : String) : Prop := name ≠ "" ∧ name ≠ "." ∧ '/' ∉ name.toList

instance (name : String) : Decidable (IsName name) := inferInstanceAs (Decidable (_ ∧ _ ∧ _))

variable {cwd names : List String} {p root : FilePath} {name text : String}

theorem isName_of_mem_ofString (h : name ∈ (ofString text).names) : IsName name := by
  obtain ⟨hsplit, hplain⟩ := List.mem_filter.mp h
  simp only [bne_iff_ne, ne_eq, Bool.and_eq_true] at hplain
  exact ⟨hplain.1, hplain.2, Text.not_mem_of_mem_split hsplit⟩

/-- No name comes of steps up. -/
theorem mem_of_mem_collapse (h : name ∈ collapse names) : name ∈ names := by
  have hgo : ∀ stack : List String,
      name ∈ names.foldl (fun acc n => if n = ".." then acc.tail else n :: acc) stack → name ∈ stack ∨ name ∈ names := by
    clear h
    induction names with
    | nil => exact fun _ => .inl
    | cons first names ih =>
      intro stack h
      rcases ih _ h with h | h
      · dsimp only at h
        split at h
        next => exact .inl (List.mem_of_mem_tail h)
        next =>
          rcases List.mem_cons.mp h with rfl | h
          · exact .inr List.mem_cons_self
          · exact .inl h
      · exact .inr (List.mem_cons_of_mem _ h)
  exact (hgo [] (List.mem_reverse.mp h)).resolve_left List.not_mem_nil

theorem mem_of_mem_absolute (h : name ∈ p.absolute cwd) : name ∈ cwd ∨ name ∈ p.names := by
  unfold absolute at h
  split at h
  next => exact List.mem_append.mp (mem_of_mem_collapse h)
  next => exact .inr (mem_of_mem_collapse h)

end FilePath

/-- Each name in a tree is one component. -/
def FileTree.Named (t : FileTree) : Prop := ∀ entry ∈ t.entries, ∀ name ∈ entry.1, FilePath.IsName name

instance (t : FileTree) : Decidable t.Named := inferInstanceAs (Decidable (∀ entry ∈ t.entries, ∀ name ∈ entry.1, _))

theorem FileTree.Named.home {t : FileTree} (h : t.Named) (hs : t.Sound) {name : String} (hname : name ∈ t.home) :
    FilePath.IsName name :=
  h _ (mem_of_find? (List.ne_nil_of_mem hname) hs.home) name hname

/-- A layout made of settings has a root that was given as a text, and starts where the tree does. -/
theorem Settings.layout_eq_ok {s : Settings} {home : List String} {l : Layout} (h : s.layout home = .ok l) :
    ∃ root, l = ⟨FilePath.ofString root, home⟩ := by
  unfold layout at h
  split at h
  next root _ =>
    cases h
    exact ⟨root, rfl⟩
  next => cases h

/-- A location whose parts are folders below a root. -/
def Location.Straight (here : Location) : Prop :=
  ∀ part ∈ here.segment :: here.subpath, FilePath.IsName part ∧ part ≠ ".."

theorem Layout.parts_of_locationOf {l : Layout} {p : FilePath} {here : Location} {part : String}
    (h : l.locationOf p = .ok here) (hpart : part ∈ here.segment :: here.subpath) : part ∈ p.absolute l.cwd := by
  obtain ⟨name, hnames⟩ := absolute_of_locationOf h
  rw [hnames]
  refine List.mem_append_right _ ?_
  rcases List.mem_cons.mp hpart with rfl | hpart
  · exact List.mem_cons_self
  · exact List.mem_cons_of_mem _ (List.mem_cons_of_mem _ (List.mem_append_left _ hpart))

namespace Command.Compile

variable {s : Settings} {l : Layout} {t : FileTree} {files : List String} {p : FilePath} {here : Location}

/-- The components of the sources of a run are names, whether they are given or listed. -/
theorem isName_of_mem_sourcesOf (hs : t.Sound) (ht : t.Named) (hl : s.layout t.home = .ok l)
    (hp : p ∈ sourcesOf l t files) {name : String} (hname : name ∈ p.names) : FilePath.IsName name := by
  obtain ⟨root, rfl⟩ := Settings.layout_eq_ok hl
  by_cases hfiles : files = []
  · rw [sourcesOf, if_pos hfiles] at hp
    obtain ⟨segment, front, last, e, _, rfl, _, hentry, _⟩ := Layout.locate_of_mem_listing hs hp
    have hnames :
        name ∈ (FilePath.ofString root).names ++ Layout.listedNames segment Layout.sourceFolder front last := hname
    rcases List.mem_append.mp hnames with hname | hname
    · exact FilePath.isName_of_mem_ofString hname
    · exact ht _ hentry name (List.mem_append_right _ hname)
  · rw [sourcesOf, if_neg hfiles] at hp
    obtain ⟨file, _, rfl⟩ := List.mem_map.mp (List.mem_mergeSort.mp hp)
    exact FilePath.isName_of_mem_ofString hname

/-- The sources of a run lie in folders that lead straight to them. -/
theorem straight_of_mem_sourcesOf (hs : t.Sound) (ht : t.Named) (hl : s.layout t.home = .ok l)
    (hp : p ∈ sourcesOf l t files) (hplace : l.locationOf p = .ok here) : here.Straight := by
  intro part hpart
  have hin := Layout.parts_of_locationOf hplace hpart
  have hcwd : l.cwd = t.home := by
    obtain ⟨root, rfl⟩ := Settings.layout_eq_ok hl
    rfl
  refine ⟨?_, fun hup => FilePath.not_up_of_absolute l.cwd p (hup ▸ hin)⟩
  rcases FilePath.mem_of_mem_absolute hin with hname | hname
  · exact ht.home hs (hcwd ▸ hname)
  · exact isName_of_mem_sourcesOf hs ht hl hp hname

end Command.Compile

theorem Json.whole_obj {ms : Members String} (h : ∀ m ∈ ms, Whole m.2) : Whole (.obj ms) := fun n hn => by
  obtain ⟨m, hm, hn⟩ := mem_numbersInMembers.mp hn
  exact h m hm n hn

theorem Json.whole_arr {items : List Document} (h : ∀ v ∈ items, Whole v) : Whole (.arr items) := fun n hn => by
  obtain ⟨v, hv, hn⟩ := mem_numbersInItems.mp hn
  exact h v hv n hn

theorem Json.whole_str (s : String) : Whole (.str s) := fun _ hn => absurd hn List.not_mem_nil

namespace Enumeration

variable {e later : Enumeration}

/-- An enumeration that can be stored under its address and read back. -/
structure Storable (e : Enumeration) : Prop where
  id : e.id.Storable
  values : ∀ v ∈ e.values, v.Distinct ∧ Json.Whole v

theorem Storable.merge (h : e.Storable) (hlater : later.Storable) : (e.merge later).Storable :=
  ⟨h.id, fun v hv => (mem_mergeValues hv).elim (h.values v) (hlater.values v)⟩

theorem whole_textMember (name : String) (o : Option String) : ∀ m ∈ textMember name o, Json.Whole m.2 := by
  unfold textMember
  split
  next => exact fun _ hm => absurd hm List.not_mem_nil
  next => exact fun _ hm => absurd hm List.not_mem_nil
  next s _ => exact fun m hm => List.mem_singleton.mp hm ▸ Json.whole_str s

theorem whole_listMember (name : String) (o : Option (List String)) : ∀ m ∈ listMember name o, Json.Whole m.2 := by
  unfold listMember
  split
  next => exact fun _ hm => absurd hm List.not_mem_nil
  next items =>
    intro m hm
    obtain rfl := List.mem_singleton.mp hm
    refine Json.whole_arr fun v hv => ?_
    obtain ⟨s, _, rfl⟩ := List.mem_map.mp hv
    exact Json.whole_str s

/-- Beside its values an enumeration says nothing with numbers. -/
theorem toDocument_whole (base : String) (h : ∀ v ∈ e.values, Json.Whole v) : Json.Whole (e.toDocument base) := by
  have hhead : ∀ m ∈ [("$id", Json.str (e.id.identifier base)), ("title", .str (if e.title = "" then e.id.name else e.title)),
      ("type", .str e.valueType), ("enum", .arr e.values)], Json.Whole m.2 := by
    simp only [List.forall_mem_cons]
    exact ⟨Json.whole_str _, Json.whole_str _, Json.whole_str _, Json.whole_arr h, fun _ hm => absurd hm List.not_mem_nil⟩
  refine Json.whole_obj (List.forall_mem_append.mpr ⟨List.forall_mem_append.mpr ⟨List.forall_mem_append.mpr
    ⟨List.forall_mem_append.mpr ⟨hhead, whole_textMember _ _⟩, whole_listMember _ _⟩, whole_listMember _ _⟩,
    whole_textMember _ _⟩)

/-- The document of an enumeration, stored where its address says. -/
def stored (e : Enumeration) (base : String) (p : FilePath) : Stored where
  path := p
  id := e.id
  body :=
    match e.toDocument base with
    | .obj ms => ms
    | _ => []

theorem Storable.readable (h : e.Storable) {base : String} {l : Layout} {p : FilePath} (hp : p = l.artifactPath e.id)
    (hcheck : Check.json (Json.text (e.toDocument base)) = .ok ()) : (e.stored base p).Readable base l where
  path := hp
  storable := h.id
  whole := toDocument_whole base fun v hv => (h.values v hv).2
  distinct := toDocument_distinct e base fun v hv => (h.values v hv).1
  checked := hcheck
  carried := rfl

end Enumeration

namespace Pending

variable {l : Layout} {p : Pending} {entries : List (FilePath × Enumeration)} {d : FilePath} {e : Enumeration}

/-- What is pending has the destinations that the addresses name, and can be stored there. -/
def Storable (l : Layout) (entries : List (FilePath × Enumeration)) : Prop :=
  ∀ m ∈ entries, m.1 = l.artifactPath m.2.id ∧ m.2.Storable

theorem Storable.add (h : Storable l entries) (hd : d = l.artifactPath e.id) (he : e.Storable) :
    Storable l (add d e entries) := by
  induction entries with
  | nil => exact fun m hm => List.mem_singleton.mp hm ▸ ⟨hd, he⟩
  | cons first rest ih =>
    obtain ⟨d', prior⟩ := first
    obtain ⟨hfirst, hrest⟩ := List.forall_mem_cons.mp h
    rw [Pending.add]
    split
    next => exact List.forall_mem_cons.mpr ⟨⟨hfirst.1, hfirst.2.merge he⟩, hrest⟩
    next => exact List.forall_mem_cons.mpr ⟨hfirst, ih hrest⟩

theorem Storable.request (h : Storable l p.entries) {r : Emission} {taken : Bool × Pending} (hr : p.request r = .ok taken)
    (hd : r.destination = l.artifactPath r.enumeration.id) (he : r.enumeration.Storable) : Storable l taken.2.entries := by
  unfold Pending.request at hr
  split at hr
  next =>
    cases hr
    exact h
  next =>
    split at hr
    next => cases hr
    next =>
      cases hr
      exact h.add hd he

end Pending

namespace Store

open Stored (entry)

variable {start s s' : Store} {base : String} {l : Layout} {stored : List Stored} {released : Released}

/-- Enumerations that can be stored are, but for those that are refused. -/
theorem journal_enumerations {todo : List (FilePath × Enumeration)} (htodo : Pending.Storable l todo)
    (hj : Journal start s (stored.map entry)) (h : s.writeEnumerations base todo = (.ok released, s')) :
    ∃ more, Journal start s' ((stored ++ more).map entry) ∧
      ∀ o ∈ more, o.Readable base l ∧ ∃ m ∈ todo, o = m.2.stored base m.1 := by
  replace h := releases_of_ok h
  induction h generalizing stored with
  | nil => exact ⟨[], by rwa [List.append_nil], fun _ ho => absurd ho List.not_mem_nil⟩
  | @wrote s s₁ _ d e rest _ hw _ ih =>
    obtain ⟨⟨hd, he⟩, hrest⟩ := List.forall_mem_cons.mp htodo
    have hnew : Journal start s₁ ((stored ++ [e.stored base d]).map entry) := by
      rw [List.map_append]
      exact hj.landed hw
    obtain ⟨more, hmore, hfrom⟩ := ih hrest hnew
    refine ⟨e.stored base d :: more, by rwa [List.append_assoc] at hmore, List.forall_mem_cons.mpr ⟨⟨?_, ?_⟩, fun o ho => ?_⟩⟩
    · exact he.readable hd (wrote_of_ok hj.sound hw).1.fit.check
    · exact ⟨(d, e), List.mem_cons_self, rfl⟩
    · obtain ⟨hreadable, m, hm, rfl⟩ := hfrom o ho
      exact ⟨hreadable, m, List.mem_cons_of_mem _ hm, rfl⟩
  | refused hw _ ih =>
    obtain ⟨more, hmore, hfrom⟩ := ih (List.forall_mem_cons.mp htodo).2 (hj.refused hw)
    refine ⟨more, hmore, fun o ho => ?_⟩
    obtain ⟨hreadable, m, hm, rfl⟩ := hfrom o ho
    exact ⟨hreadable, m, List.mem_cons_of_mem _ hm, rfl⟩

end Store

namespace Command.Compile

open Hint (Block Note)
open Schema (Compiled Setup)
open Store (Journal)

variable {s : Settings} {l : Layout} {here : Location} {n : Note} {b : Block} {p : FilePath} {r r' : Run} {old : Store}
  {found : List Diagnostic} {c : Compiled} {notes : List (Location × Note)} {stored : List Stored}

/-- A block whose documents can be read back from where its addresses lead: the name of the class stays within one
component; no enumeration goes elsewhere than its path says, none of the folders in that is a step, and its name is not that
of a schema; and no number has a fraction. -/
structure Retrievable (s : Settings) (l : Layout) (here : Location) (b : Block) : Prop where
  name : '/' ∉ b.name.toList
  enums : ∀ m ∈ placedIn s l here b, Schema.given? m.definition.targetPath = none ∧
    (∀ part ∈ m.id.segment :: m.id.subpath, part ≠ "." ∧ part ≠ "..") ∧ ¬ m.id.ReadsAsSchema
  whole : ∀ c ∈ (Schema.compile (Setup.ofSettings s l) here b).toOption,
    (∀ d ∈ (c.schema.toDocument s.base s.dialect).toOption, Json.Whole d) ∧
      ∀ e ∈ c.emissions, ∀ v ∈ e.enumeration.values, Json.Whole v

instance (s : Settings) (l : Layout) (here : Location) (b : Block) : Decidable (Retrievable s l here b) :=
  decidable_of_iff ('/' ∉ b.name.toList ∧
      (∀ m ∈ placedIn s l here b, Schema.given? m.definition.targetPath = none ∧
        (∀ part ∈ m.id.segment :: m.id.subpath, part ≠ "." ∧ part ≠ "..") ∧ ¬ m.id.ReadsAsSchema) ∧
      ∀ c ∈ (Schema.compile (Setup.ofSettings s l) here b).toOption,
        (∀ d ∈ (c.schema.toDocument s.base s.dialect).toOption, Json.Whole d) ∧
          ∀ e ∈ c.emissions, ∀ v ∈ e.enumeration.values, Json.Whole v)
    ⟨fun h => ⟨h.1, h.2.1, h.2.2⟩, fun h => ⟨h.name, h.enums, h.whole⟩⟩

theorem Location.Straight.storable (hplace : here.Straight) (howner : b.owner ≠ "") (hname : '/' ∉ b.name.toList) :
    (Schema.idOf here b).Storable where
  spelled part hpart := by
    rw [ArtifactId.namespaceParts, ← List.cons_append, List.mem_append, List.mem_singleton] at hpart
    rcases hpart with hpart | rfl
    · exact ⟨(hplace part hpart).1.1, (hplace part hpart).1.2.2⟩
    · exact ⟨Block.name_ne_empty howner, hname⟩
  straight part hpart := ⟨(hplace part hpart).1.2.1, (hplace part hpart).2⟩
  plain := fun h => nomatch h.1

/-- The enumerations that a class asks for can be stored where they are to be written. -/
theorem Retrievable.emissions (h : Retrievable s l here b) (hread : Block.ofNote s.strictness n = .ok (b, found))
    (hcompile : Schema.compile (Setup.ofSettings s l) here b = .ok c) {e : Emission} (he : e ∈ c.emissions) :
    e.destination = l.artifactPath e.enumeration.id ∧ e.enumeration.Storable := by
  obtain ⟨m, hm, hstems⟩ := forall₂_mem_left (Schema.emissions_of_compile hcompile).flip he
  obtain ⟨hdestination, target, htarget, hid⟩ := placed_of_mem (s := s) (l := l) hm
  obtain ⟨hnone, hstraight, hplain⟩ := h.enums m hm
  have hstorable : m.id.Storable := ⟨(Reference.names_of_resolve htarget hid).spelled, hstraight, hplain⟩
  have hdistinct := (Schema.fit_of_compile (Hint.keyed_of_ofNote hread) hcompile).2 e he
  have hwhole := (h.whole c (by rw [hcompile]; rfl)).2 e he
  refine ⟨?_, hstems.id ▸ hstorable, fun v hv => ⟨hdistinct v hv, hwhole v hv⟩⟩
  rw [hstems.destination, hstems.id, hdestination, Schema.destination, hnone]
  rfl

/-- Notes that a run may read: their sources lie straight below the root, they belong to classes, and what comes of them can be
read back. -/
def Sourced (s : Settings) (l : Layout) (notes : List (Location × Note)) : Prop :=
  ∀ m ∈ notes, m.1.Straight ∧ m.2.owner ≠ "" ∧ ∀ b ∈ blockOf? s m.2, Retrievable s l m.1 b

/-- A run that has so far written only schemas of some notes, all of which can be read back, as can be what it has still to
write. -/
structure Filed (s : Settings) (l : Layout) (notes : List (Location × Note)) (old : Store) (stored : List Stored) (r : Run) :
    Prop where
  journal : Journal old r.store (stored.map Stored.entry)
  readable : ∀ o ∈ stored, o.Readable s.base l
  addressed : ∀ o ∈ stored, ∃ m ∈ notes, ∃ found c, Yields s l m.1 m.2 found c ∧ c.schema.id = o.id ∧
    c.schema.toDocument s.base s.dialect = .ok o.document
  pending : Pending.Storable l r.pending.entries

/-- The schema of a note as a document that can be read back. -/
theorem exists_readable (hdialect : s.dialect.Distinct) (hplace : here.Straight) (howner : n.owner ≠ "")
    (hread : Block.ofNote s.strictness n = .ok (b, found)) (hcompile : Schema.compile (Setup.ofSettings s l) here b = .ok c)
    (h : Retrievable s l here b) {d : Document} (hd : c.schema.toDocument s.base s.dialect = .ok d)
    (hcheck : Check.json (Json.text d) = .ok ()) :
    ∃ o : Stored, o.Readable s.base l ∧ o.path = l.artifactPath c.schema.id ∧ o.id = c.schema.id ∧ o.document = d := by
  have hkeyed := Hint.keyed_of_ofNote hread
  have hstorable : c.schema.id.Storable :=
    Schema.id_of_compile hcompile ▸ Location.Straight.storable hplace (hkeyed.owner ▸ howner) h.name
  obtain ⟨hdistinct, ms, rfl, hcarried⟩ := Schema.document_of_class hd
  refine ⟨⟨l.artifactPath c.schema.id, c.schema.id, ms⟩, ?_, rfl, rfl, rfl⟩
  exact
    { path := rfl
      storable := hstorable
      whole := (h.whole c (by rw [hcompile]; rfl)).1 _ (by rw [hd]; rfl)
      distinct := hdistinct (Schema.fit_of_compile hkeyed hcompile).1 hdialect
      checked := hcheck
      carried := hcarried }

namespace Filed

theorem start {t : FileTree} (ht : t.Sound) (notes : List (Location × Note)) (stamps : List String) :
    Filed s l notes { tree := t, stamps } [] (Run.start "compile" s.emitEnums.truthy t stamps) where
  journal := .new ht
  readable _ ho := absurd ho List.not_mem_nil
  addressed _ ho := absurd ho List.not_mem_nil
  pending _ hm := absurd hm List.not_mem_nil

theorem add (h : Filed s l notes old stored r) (i : Report.Item) : Filed s l notes old stored (r.add i) := { h with }

variable (hdialect : s.dialect.Distinct) (hall : Sourced s l notes)

include hdialect hall

theorem note (hn : (here, n) ∈ notes) (h : Filed s l notes old stored r) (hok : Compile.note s l p here n r = .ok () r') :
    ∃ stored', Filed s l notes old stored' r' := by
  obtain ⟨hplace, howner, hretrievable⟩ := hall _ hn
  have hturn := noteTurn s l p here n r
  rw [hok] at hturn
  cases hturn with
  | unmarked => exact ⟨stored, h.add _⟩
  | repeated => exact ⟨stored, h.add _⟩
  | @refused _ _ _ store _ _ _ _ hstore =>
    have hkept : Filed s l notes old stored { r with store } := { h with journal := h.journal.refused hstore }
    exact ⟨stored, hkept.add _⟩
  | @wrote found c document store pending hyields _ hdocument hstore hpending =>
    obtain ⟨b, hread, hcompile⟩ := id hyields
    have hb := hretrievable b (by simp [blockOf?, hread, Except.toOption])
    obtain ⟨o, hreadable, hpath, hid, rfl⟩ := exists_readable hdialect hplace howner hread hcompile hb hdocument
      (Store.wrote_of_ok h.journal.sound hstore).1.fit.check
    have hentries : Pending.Storable l pending.entries := by
      rw [request_eq] at hpending
      cases hpending
      exact Pending.requested_keeps (P := fun p => Pending.Storable l p.entries)
        (fun e he p taken hp htaken => hp.request htaken (hb.emissions hread hcompile he).1 (hb.emissions hread hcompile he).2)
        h.pending
    have hjournal : Journal old store ((stored ++ [o]).map Stored.entry) := by
      rw [List.map_append, List.map_singleton, Stored.entry, hpath]
      exact h.journal.landed hstore
    have hkept : Filed s l notes old (stored ++ [o]) { r with store, pending } :=
      { journal := hjournal
        readable := List.forall_mem_append.mpr ⟨h.readable, List.forall_mem_singleton.mpr hreadable⟩
        addressed := List.forall_mem_append.mpr
          ⟨h.addressed, List.forall_mem_singleton.mpr ⟨_, hn, found, c, hyields, hid.symm, hdocument⟩⟩
        pending := hentries }
    exact ⟨stored ++ [o], hkept.add _⟩

theorem sources {ps : List FilePath} (hin : ∀ m ∈ notesRead s l ps r, m ∈ notes) (h : Filed s l notes old stored r)
    (hok : ps.forM (Compile.source s l) r = .ok () r') : ∃ stored', Filed s l notes old stored' r' :=
  sources_keep (P := fun r => ∃ stored, Filed s l notes old stored r) (fun _ i h => h.imp fun _ h => h.add i)
    (fun m hm _ _ _ h hok => h.elim fun _ h => h.note hdialect hall (hin m hm) hok) ⟨stored, h⟩ hok

end Filed

/-- What is stored is the schema of a note, under the address of its class, or an enumeration that was requested, under the
address that it has among the requests. -/
inductive Addressed (s : Settings) (l : Layout) (notes : List (Location × Note)) (entries : List (FilePath × Enumeration))
    (o : Stored) : Prop
  | schema {m found c} (hm : m ∈ notes) (hyields : Yields s l m.1 m.2 found c) (hid : c.schema.id = o.id)
      (hpath : o.path = l.artifactPath o.id) (hdocument : c.schema.toDocument s.base s.dialect = .ok o.document)
  | enumeration {e} (he : (o.path, e) ∈ entries) (hid : e.id = o.id) (hdocument : e.toDocument s.base = o.document)

/-- After the release all that a run has written can be read back. -/
theorem Filed.release (h : Filed s l notes old stored r) (hok : Compile.release s l r = .ok () r') :
    ∃ stored' : List Stored, Journal old r'.store (stored'.map Stored.entry) ∧ (∀ o ∈ stored', o.Readable s.base l) ∧
      ∀ o ∈ stored', Addressed s l notes r'.pending.entries o := by
  have haddressed (entries : List (FilePath × Enumeration)) : ∀ o ∈ stored, Addressed s l notes entries o := by
    intro o ho
    obtain ⟨m, hm, found, c, hyields, hid, hdocument⟩ := h.addressed o ho
    exact .schema hm hyields hid (h.readable o ho).path hdocument
  have hturn := releaseTurn s l r
  generalize Compile.release s l r = result at hturn hok
  cases hturn with
  | closed =>
    cases hok
    exact ⟨stored, h.journal, h.readable, haddressed _⟩
  | broken => cases hok
  | released _ hstore =>
    cases hok
    obtain ⟨more, hjournal, hmore⟩ := Store.journal_enumerations (fun m hm => h.pending m (mem_todo hm)) h.journal hstore
    refine ⟨stored ++ more, hjournal, List.forall_mem_append.mpr ⟨h.readable, fun o ho => (hmore o ho).1⟩,
      List.forall_mem_append.mpr ⟨haddressed _, fun o ho => ?_⟩⟩
    obtain ⟨_, m, hm, rfl⟩ := hmore o ho
    exact .enumeration (mem_todo hm) rfl rfl

end Command.Compile

end NoteSchema
