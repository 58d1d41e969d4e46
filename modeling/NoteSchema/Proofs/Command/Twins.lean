import NoteSchema.Proofs.Command.Finished
import NoteSchema.Proofs.File.Alike

namespace NoteSchema

namespace Command.Compile

open Hint (Block Note)
open Schema (Compiled Setup)
open Store (Alike Clear)

variable {s : Settings} {l : Layout} {t t' : FileTree} {p : FilePath} {here : Location} {n n' : Note} {r r' q q' : Run}
  {notes notes' : List (Location × Note)} {stamps : List String} {P : FilePath → Prop}

/-- Two notes are read alike, whatever is reported of them: as one block, or not for the same reason. -/
def ReadsAs (s : Settings) (n n' : Note) : Prop :=
  (Block.ofNote s.strictness n').map Prod.fst = (Block.ofNote s.strictness n).map Prod.fst

namespace ReadsAs

theorem refl (s : Settings) (n : Note) : ReadsAs s n n := rfl

theorem symm (h : ReadsAs s n n') : ReadsAs s n' n := Eq.symm h

theorem blockOf?_eq (h : ReadsAs s n n') : blockOf? s n' = blockOf? s n := by
  have hoption (x : Except Hint.Failure (Block × List Diagnostic)) :
      x.toOption.map Prod.fst = (x.map Prod.fst).toOption := by cases x <;> rfl
  rw [blockOf?, blockOf?, hoption, hoption, h]

theorem schemaPath?_eq (h : ReadsAs s n n') : schemaPath? s l here n' = schemaPath? s l here n := by
  rw [schemaPath?, schemaPath?, h.blockOf?_eq]

theorem enumPaths_eq (h : ReadsAs s n n') : enumPaths s l here n' = enumPaths s l here n := by
  rw [enumPaths, enumPaths, h.blockOf?_eq]

theorem harmless (h : ReadsAs s n n') (hharmless : Harmless s l here n) : Harmless s l here n' where
  read f hf := by
    rw [ReadsAs, hf] at h
    cases hn : Block.ofNote s.strictness n with
    | ok found => simp [hn, Except.map] at h
    | error e =>
      simp only [hn, Except.map, Except.error.injEq] at h
      exact hharmless.read f (h ▸ hn)
  write b hb := hharmless.write b (h.blockOf?_eq ▸ hb)
  plain d hd := hharmless.plain d (by rwa [h.schemaPath?_eq, h.enumPaths_eq] at hd)

theorem yields (h : ReadsAs s n n') {found : List Diagnostic} {c : Compiled} (hyields : Yields s l here n' found c) :
    ∃ found', Yields s l here n found' c := by
  obtain ⟨b, hread, hcompile⟩ := hyields
  rw [ReadsAs, hread] at h
  cases hn : Block.ofNote s.strictness n with
  | error e => simp [hn, Except.map] at h
  | ok found' =>
    simp only [hn, Except.map, Except.ok.injEq] at h
    exact ⟨found'.2, b, by rw [hn, h], hcompile⟩

end ReadsAs

/-- What a note that goes through does to the store: nothing if it comes to no class or its schema has been written, else
it tries to write its schema. -/
inductive StoreTurn (s : Settings) (l : Layout) (here : Location) (n : Note) (a : Store) : Store → Prop
  | none (hno : ∀ found c, ¬ Yields s l here n found c) : StoreTurn s l here n a a
  | repeated {found c} (hyields : Yields s l here n found c) (hwritten : l.artifactPath c.schema.id ∈ a.written) :
    StoreTurn s l here n a a
  | tried {found c document result a'} (hyields : Yields s l here n found c)
      (hwritten : l.artifactPath c.schema.id ∉ a.written)
      (hdocument : c.schema.toDocument s.base s.dialect = .ok document)
      (hstore : a.writeDocument (l.artifactPath c.schema.id) document = (result, a')) : StoreTurn s l here n a a'

theorem storeTurn (h : note s l p here n r = .ok () r') : StoreTurn s l here n r.store r'.store := by
  have hturn := noteTurn s l p here n r
  rw [h] at hturn
  cases hturn with
  | unmarked hread =>
    refine .none fun found c hyields => ?_
    obtain ⟨b, hread', _⟩ := hyields
    rw [hread] at hread'
    cases hread'
  | repeated hyields hwritten => exact .repeated hyields hwritten
  | wrote hyields hwritten hdocument hstore => exact .tried hyields hwritten hdocument hstore
  | refused hyields hwritten hdocument hstore => exact .tried hyields hwritten hdocument hstore

/-- Notes that are read alike do the same to a store. -/
theorem StoreTurn.of_readsAs {a a' : Store} (h : StoreTurn s l here n' a a') (hreads : ReadsAs s n n') :
    StoreTurn s l here n a a' := by
  cases h with
  | none hno =>
    refine .none fun found c hyields => ?_
    obtain ⟨found', hyields'⟩ := hreads.symm.yields hyields
    exact hno found' c hyields'
  | repeated hyields hwritten =>
    obtain ⟨_, hyields'⟩ := hreads.yields hyields
    exact .repeated hyields' hwritten
  | tried hyields hwritten hdocument hstore =>
    obtain ⟨_, hyields'⟩ := hreads.yields hyields
    exact .tried hyields' hwritten hdocument hstore

theorem Steady.kept (h : Steady s l t notes r) : Store.Kept t r.store := ⟨h.sound, h.home⟩

theorem Harmless.hasNul (h : Harmless s l here n) {found : List Diagnostic} {c : Compiled}
    (hyields : Yields s l here n found c) : (l.artifactPath c.schema.id).hasNul = false :=
  h.plain _ (List.mem_append_left _ (by rw [hyields.schemaPath]; exact List.mem_singleton_self _))

/-- A note whose schema leaves some paths alone is not seen by them. -/
theorem StoreTurn.alike {a a' : Store} (h : StoreTurn s l here n a a') (ha : Store.Kept t a) (hharmless : Harmless s l here n)
    (hclear : ∀ d ∈ schemaPath? s l here n, ∀ p, P p → Clear t a.stamps d p) : Alike t P a a' := by
  cases h with
  | none => exact .refl t P a
  | repeated => exact .refl t P a
  | tried hyields _ _ hstore => exact ha.alike_of_write (hharmless.hasNul hyields) (hclear _ hyields.schemaPath) hstore

/-- One note keeps two stores alike to the path of its schema and to others. -/
theorem StoreTurn.both {a a' b b' : Store} (h : StoreTurn s l here n a a') (h' : StoreTurn s l here n b b')
    (ha : Store.Kept t a) (hb : Store.Kept t b) (hharmless : Harmless s l here n) (hP : ∀ d ∈ schemaPath? s l here n, P d)
    (hab : Alike t P a b) : Alike t P a' b' := by
  cases h with
  | none hno =>
    cases h' with
    | none => exact hab
    | repeated hyields => exact absurd hyields (hno _ _)
    | tried hyields => exact absurd hyields (hno _ _)
  | repeated hyields hwritten =>
    have hwritten' := (hab.written _ (hP _ hyields.schemaPath)).mpr hwritten
    cases h' with
    | none hno => exact absurd hyields (hno _ _)
    | repeated => exact hab
    | tried hyields' hnew =>
      rw [(hyields.unique hyields').2] at hnew
      exact absurd hwritten' hnew
  | tried hyields hwritten hdocument hstore =>
    have hwritten' := mt (hab.written _ (hP _ hyields.schemaPath)).mp hwritten
    cases h' with
    | none hno => exact absurd hyields (hno _ _)
    | repeated hyields' hold =>
      rw [(hyields.unique hyields').2] at hold
      exact absurd hold hwritten'
    | tried hyields' _ hdocument' hstore' =>
      obtain ⟨-, rfl⟩ := hyields.unique hyields'
      rw [hdocument] at hdocument'
      cases hdocument'
      exact (hab.write ha hb (hP _ hyields.schemaPath) (hharmless.hasNul hyields) hstore hstore').2

theorem StoreTurn.stamps_eq {a a' : Store} (h : StoreTurn s l here n a a') (ha : Store.Kept t a)
    (hharmless : Harmless s l here n) : a'.stamps = a.stamps := by
  have hnone : Alike t (fun _ => False) a a' := h.alike ha hharmless fun _ _ _ hno => hno.elim
  exact hnone.stamps

/-- Two runs, one without some notes of the other one, that look alike to some paths. -/
structure Twins (s : Settings) (l : Layout) (t t' : FileTree) (notes notes' : List (Location × Note)) (stamps : List String)
    (P : FilePath → Prop) (r q : Run) : Prop where
  left : Steady s l t notes r
  right : Steady s l t' notes' q
  home : t'.home = t.home
  stamps : r.store.stamps = stamps
  alike : Alike t P r.store q.store

/-- What the notes of two runs must be: harmless, with schemas that are written to the paths at hand or leave them alone. -/
def Sorted (s : Settings) (l : Layout) (t : FileTree) (stamps : List String) (P : FilePath → Prop) (m : Location × Note) :
    Prop :=
  Harmless s l m.1 m.2 ∧ ∀ d ∈ schemaPath? s l m.1 m.2, P d ∨ ∀ p, P p → Clear t stamps d p

namespace Twins

theorem rightKept (h : Twins s l t t' notes notes' stamps P r q) : Store.Kept t q.store :=
  ⟨h.right.sound, h.right.home.trans h.home⟩

/-- A note that only one run has. -/
theorem drop (h : Twins s l t t' notes notes' stamps P r q) (hn : (here, n) ∈ notes) (hharmless : Harmless s l here n)
    (hclear : ∀ d ∈ schemaPath? s l here n, ∀ p, P p → Clear t stamps d p) (p : FilePath) :
    ∃ r', note s l p here n r = .ok () r' ∧ Twins s l t t' notes notes' stamps P r' q := by
  obtain ⟨r', _, hgo, hsteady, _⟩ := note_finishes hharmless hn p h.left
  have hturn := storeTurn hgo
  have halike := hturn.alike (P := P) h.left.kept hharmless (by rw [h.stamps]; exact hclear)
  exact ⟨r', hgo, { h with
    left := hsteady
    stamps := halike.stamps.trans h.stamps
    alike := halike.symm.trans h.alike }⟩

/-- A note that both runs have. -/
theorem keep (h : Twins s l t t' notes notes' stamps P r q) (hn : (here, n) ∈ notes) (hn' : (here, n') ∈ notes')
    (hreads : ReadsAs s n n') (hsorted : Sorted s l t stamps P (here, n)) (p : FilePath) :
    ∃ r' q', note s l p here n r = .ok () r' ∧ note s l p here n' q = .ok () q' ∧
      Twins s l t t' notes notes' stamps P r' q' := by
  obtain ⟨hharmless, hpath⟩ := hsorted
  obtain ⟨r', _, hgo, hsteady, _⟩ := note_finishes hharmless hn p h.left
  obtain ⟨q', _, hgo', hsteady', _⟩ := note_finishes (hreads.harmless hharmless) hn' p h.right
  have hturn := storeTurn hgo
  have hturn' := (storeTurn hgo').of_readsAs hreads
  refine ⟨r', q', hgo, hgo', { h with
    left := hsteady
    right := hsteady'
    stamps := (hturn.stamps_eq h.left.kept hharmless).trans h.stamps
    alike := ?_ }⟩
  by_cases hP : ∀ d ∈ schemaPath? s l here n, P d
  · exact hturn.both hturn' h.left.kept h.rightKept hharmless hP h.alike
  · -- a note that is written elsewhere is seen in neither run
    have hclear : ∀ d ∈ schemaPath? s l here n, ∀ p, P p → Clear t stamps d p := by
      intro d hd
      refine (hpath d hd).resolve_left fun hPd => hP fun d' hd' => ?_
      obtain rfl := Option.some.inj (hd.symm.trans hd')
      exact hPd
    have hleft := hturn.alike (P := P) h.left.kept hharmless (by rw [h.stamps]; exact hclear)
    have hright := hturn'.alike (P := P) h.rightKept hharmless (by rw [h.alike.stamps, h.stamps]; exact hclear)
    exact hleft.symm.trans (h.alike.trans hright)

/-- Notes that both runs have. -/
theorem keep_all (h : Twins s l t t' notes notes' stamps P r q) {ns ns' : List Note}
    (hns : List.Forall₂ (fun n n' =>
      ((here, n) ∈ notes ∧ Sorted s l t stamps P (here, n)) ∧ (here, n') ∈ notes' ∧ ReadsAs s n n') ns ns')
    (p : FilePath) :
    ∃ r' q', ns.forM (note s l p here) r = .ok () r' ∧ ns'.forM (note s l p here) q = .ok () q' ∧
      Twins s l t t' notes notes' stamps P r' q' := by
  induction hns generalizing r q with
  | nil => exact ⟨r, q, rfl, rfl, h⟩
  | cons hn _ ih =>
    obtain ⟨⟨hn, hsorted⟩, hn', hreads⟩ := hn
    obtain ⟨r₁, q₁, hr, hq, h₁⟩ := h.keep hn hn' hreads hsorted p
    obtain ⟨r₂, q₂, hr', hq', h₂⟩ := ih h₁
    exact ⟨r₂, q₂, by rw [Work.forM_cons_of_ok hr, hr'], by rw [Work.forM_cons_of_ok hq, hq'], h₂⟩

end Twins

/-- What a source that can be read does to the store its notes do. -/
theorem store_of_text {text : String} (hplace : l.locationOf p = .ok here) (htext : r.store.tree.readText p = .ok text)
    (h : source s l p r = .ok () r') :
    ∃ r₁, (Note.extract text).forM (note s l p here) r = .ok () r₁ ∧ r₁.store = r'.store := by
  have hturn := sourceTurn s l p r
  generalize source s l p r = result at hturn h
  cases hturn with
  | misplaced hplace' =>
    rw [hplace] at hplace'
    cases hplace'
  | unreadable _ htext' =>
    rw [htext] at htext'
    cases htext'
  | unmarked _ htext' hnotes =>
    rw [htext] at htext'
    cases htext'
    cases h
    exact ⟨r, by rw [hnotes]; rfl, rfl⟩
  | read hplace' htext' =>
    rw [hplace] at hplace'
    rw [htext] at htext'
    cases hplace'
    cases htext'
    exact ⟨r', h, rfl⟩

theorem store_of_no_text (hno : ∀ here text, l.locationOf p = .ok here → r.store.tree.readText p ≠ .ok text)
    (h : source s l p r = .ok () r') : r'.store = r.store := by
  have hturn := sourceTurn s l p r
  generalize source s l p r = result at hturn h
  cases hturn with
  | misplaced | unreadable =>
    cases h
    rfl
  | unmarked hplace htext | read hplace htext => exact absurd htext (hno _ _ hplace)

/-- A text becomes another one when a note is dropped from it: the others are read as before. -/
def Drops (s : Settings) (n : Note) (text text' : String) : Prop :=
  ∃ before after before' after', Note.extract text = before ++ n :: after ∧ Note.extract text' = before' ++ after' ∧
    List.Forall₂ (ReadsAs s) before before' ∧ List.Forall₂ (ReadsAs s) after after'

/-- A source holds the same in both trees, or all but one note, whose schema leaves some paths alone. -/
def Spared (s : Settings) (l : Layout) (t t' : FileTree) (stamps : List String) (P : FilePath → Prop) (p : FilePath) : Prop :=
  ∀ here, l.locationOf p = .ok here → t'.readText p = t.readText p ∨
    ∃ text text' n, t.readText p = .ok text ∧ t'.readText p = .ok text' ∧ Drops s n text text' ∧
      ∀ d ∈ schemaPath? s l here n, ∀ p, P p → Clear t stamps d p

namespace Twins

/-- The notes of a text, one of which only one run has. -/
theorem keep_but_one (h : Twins s l t t' notes notes' stamps P r q) {text text' : String} (hdrops : Drops s n text text')
    (hnotes : ∀ n ∈ Note.extract text, (here, n) ∈ notes ∧ Sorted s l t stamps P (here, n))
    (hnotes' : ∀ n ∈ Note.extract text', (here, n) ∈ notes')
    (hclear : ∀ d ∈ schemaPath? s l here n, ∀ p, P p → Clear t stamps d p) (p : FilePath) :
    ∃ r' q', (Note.extract text).forM (note s l p here) r = .ok () r' ∧
      (Note.extract text').forM (note s l p here) q = .ok () q' ∧ Twins s l t t' notes notes' stamps P r' q' := by
  obtain ⟨before, after, before', after', hextract, hextract', hbefore, hafter⟩ := hdrops
  rw [hextract] at hnotes ⊢
  rw [hextract'] at hnotes' ⊢
  obtain ⟨hin, hrest⟩ := List.forall_mem_append.mp hnotes
  obtain ⟨⟨hn, hsorted⟩, hin₂⟩ := List.forall_mem_cons.mp hrest
  obtain ⟨hin', hin₂'⟩ := List.forall_mem_append.mp hnotes'
  obtain ⟨r₁, q₁, hr₁, hq₁, h₁⟩ := h.keep_all (forall₂_and_mem hin hin' hbefore) p
  obtain ⟨r₂, hr₂, h₂⟩ := h₁.drop hn hsorted.1 hclear p
  obtain ⟨r₃, q₃, hr₃, hq₃, h₃⟩ := h₂.keep_all (forall₂_and_mem hin₂ hin₂' hafter) p
  refine ⟨r₃, q₃, ?_, ?_, h₃⟩
  · rw [Work.forM_append_of_ok _ hr₁, Work.forM_cons_of_ok hr₂, hr₃]
  · rw [Work.forM_append_of_ok _ hq₁, hq₃]

/-- A source, with one note that only one run has or with the same notes in both. -/
theorem through (h : Twins s l t t' notes notes' stamps P r q) (hspared : Spared s l t t' stamps P p)
    (hp : Undisturbed s l t notes p) (hp' : Undisturbed s l t' notes' p)
    (hnotes : ∀ m ∈ notesAt l t p, m ∈ notes ∧ Sorted s l t stamps P m) (hnotes' : ∀ m ∈ notesAt l t' p, m ∈ notes')
    (hharmless : ∀ m ∈ notes, Harmless s l m.1 m.2) (hharmless' : ∀ m ∈ notes', Harmless s l m.1 m.2) :
    ∃ r' q', source s l p r = .ok () r' ∧ source s l p q = .ok () q' ∧ Twins s l t t' notes notes' stamps P r' q' := by
  obtain ⟨r', _, hr, hsteady, _⟩ := source_finishes hharmless hp (fun m hm => (hnotes m hm).1) h.left
  obtain ⟨q', _, hq, hsteady', _⟩ := source_finishes hharmless' hp' hnotes' h.right
  refine ⟨r', q', hr, hq, ?_⟩
  have hread := h.left.readText_eq hp
  have hread' := h.right.readText_eq hp'
  have hunread (hno : ∀ here text, l.locationOf p = .ok here → t.readText p ≠ .ok text)
      (hno' : ∀ here text, l.locationOf p = .ok here → t'.readText p ≠ .ok text) :
      Twins s l t t' notes notes' stamps P r' q' := by
    have hstore := store_of_no_text (by rw [hread]; exact hno) hr
    have hstore' := store_of_no_text (by rw [hread']; exact hno') hq
    exact { h with left := hsteady, right := hsteady', stamps := hstore ▸ h.stamps, alike := hstore ▸ hstore' ▸ h.alike }
  cases hplace : l.locationOf p with
  | error e => exact hunread (by simp [hplace]) (by simp [hplace])
  | ok here =>
    have hin {text : String} (htext : t.readText p = .ok text) : ∀ n ∈ Note.extract text,
        (here, n) ∈ notes ∧ Sorted s l t stamps P (here, n) := fun n hn =>
      hnotes _ (by simpa [notesAt, hplace, htext] using hn)
    have hin' {text : String} (htext : t'.readText p = .ok text) : ∀ n ∈ Note.extract text, (here, n) ∈ notes' :=
      fun n hn => hnotes' _ (by simpa [notesAt, hplace, htext] using hn)
    have hnoted {text text' : String} (htext : t.readText p = .ok text) (htext' : t'.readText p = .ok text')
        (hgo : ∃ r₁ q₁, (Note.extract text).forM (note s l p here) r = .ok () r₁ ∧
          (Note.extract text').forM (note s l p here) q = .ok () q₁ ∧ Twins s l t t' notes notes' stamps P r₁ q₁) :
        Twins s l t t' notes notes' stamps P r' q' := by
      obtain ⟨r₁, q₁, hr₁, hq₁, h₁⟩ := hgo
      obtain ⟨r₂, hr₂, hstore⟩ := store_of_text hplace (hread.trans htext) hr
      obtain ⟨q₂, hq₂, hstore'⟩ := store_of_text hplace (hread'.trans htext') hq
      cases hr₁.symm.trans hr₂
      cases hq₁.symm.trans hq₂
      exact { h with
        left := hsteady
        right := hsteady'
        stamps := hstore ▸ h₁.stamps
        alike := hstore ▸ hstore' ▸ h₁.alike }
    rcases hspared here hplace with hsame | ⟨text, text', n, htext, htext', hdrops, hclear⟩
    · cases htext : t.readText p with
      | error reason => exact hunread (by simp [htext]) (by simp [hsame, htext])
      | ok text =>
        have htext' := hsame.trans htext
        exact hnoted htext htext' (h.keep_all (forall₂_and_mem (hin htext) (hin' htext')
          (List.forall₂_same.mpr fun n _ => .refl s n)) p)
    · exact hnoted htext htext' (h.keep_but_one hdrops (hin htext) (hin' htext') hclear p)

/-- All sources, in one tree and the other. -/
theorem through_all (h : Twins s l t t' notes notes' stamps P r q) {ps : List FilePath}
    (hps : ∀ p ∈ ps, Spared s l t t' stamps P p ∧ Undisturbed s l t notes p ∧ Undisturbed s l t' notes' p)
    (hnotes : ∀ p ∈ ps, ∀ m ∈ notesAt l t p, m ∈ notes) (hnotes' : ∀ p ∈ ps, ∀ m ∈ notesAt l t' p, m ∈ notes')
    (hsorted : ∀ m ∈ notes, Sorted s l t stamps P m) (hharmless' : ∀ m ∈ notes', Harmless s l m.1 m.2) :
    ∃ r' q', ps.forM (source s l) r = .ok () r' ∧ ps.forM (source s l) q = .ok () q' ∧
      Twins s l t t' notes notes' stamps P r' q' := by
  induction ps generalizing r q with
  | nil => exact ⟨r, q, rfl, rfl, h⟩
  | cons p ps ih =>
    obtain ⟨hspared, hp, hp'⟩ := hps p List.mem_cons_self
    obtain ⟨r₁, q₁, hr, hq, h₁⟩ := h.through hspared hp hp'
      (fun m hm => ⟨hnotes p List.mem_cons_self m hm, hsorted m (hnotes p List.mem_cons_self m hm)⟩)
      (hnotes' p List.mem_cons_self) (fun m hm => (hsorted m hm).1) hharmless'
    obtain ⟨r₂, q₂, hr', hq', h₂⟩ := ih h₁ (fun p hp => hps p (List.mem_cons_of_mem _ hp))
      (fun p hp => hnotes p (List.mem_cons_of_mem _ hp)) fun p hp => hnotes' p (List.mem_cons_of_mem _ hp)
    exact ⟨r₂, q₂, by rw [Work.forM_cons_of_ok hr, hr'], by rw [Work.forM_cons_of_ok hq, hq'], h₂⟩

end Twins

end Command.Compile

end NoteSchema
