import NoteSchema.Proofs.Command.Aimed
import NoteSchema.Proofs.File.Again

namespace NoteSchema

namespace Report

variable {r r' : Report}

/-- What became of each unit, in order. -/
def outline (r : Report) : List (Outcome × String) := r.results.map fun i => (i.outcome, i.unit)

theorem failed_eq (r : Report) : r.failed = r.outline.any fun i => i.1 == .fail := by
  simp [failed, outline, List.any_map, Function.comp_def]

end Report

namespace Work

variable {J : Run → Prop} {last : FileTree} {size : Nat} {r r' : Run} {i i' : Report.Item} {w w' : Work Unit} {α : Type}

/-- A run that repeats what another one has done. -/
structure Again (last : FileTree) (size : Nat) (r r' : Run) : Prop where
  store : Store.Retraces last size r.store r'.store
  pending : r'.pending = r.pending
  outline : r'.report.outline = r.report.outline

theorem Again.add (h : Again last size r r') (hitem : (i'.outcome, i'.unit) = (i.outcome, i.unit)) :
    Again last size (r.add i) (r'.add i') where
  store := h.store
  pending := h.pending
  outline := by
    have houtline := h.outline
    rw [Report.outline, Report.outline] at houtline
    simp only [Run.add, Report.add, Report.outline, List.map_append, List.map_cons, List.map_nil, houtline, hitem]

/-- Work that ends in the same way for two runs, one of which repeats the other. -/
inductive Echo (last : FileTree) (size : Nat) : EStateM.Result Abort Run Unit → EStateM.Result Abort Run Unit → Prop
  | done {r r' : Run} (h : Again last size r r') : Echo last size (.ok () r) (.ok () r')
  | stopped {r r' : Run} (a : Abort) (h : Again last size r r') : Echo last size (.error a r) (.error a r')

theorem Echo.reached {x x' : EStateM.Result Abort Run Unit} (h : Echo last size x x') :
    Again last size (Work.reached x) (Work.reached x') := by
  cases h with
  | done h => exact h
  | stopped _ h => exact h

/-- Work that keeps an invariant, lets the tree grow, and ends as before for a run that repeats another one, if the tree that
this comes to has grown from the one that it leaves. -/
structure Repeatable (J : Run → Prop) (last : FileTree) (size : Nat) (w : Work Unit) : Prop where
  keeps : ∀ r, J r → J (Work.reached (w r))
  grows : ∀ r, J r → r.store.tree.Grows (fun _ => True) (Work.reached (w r)).store.tree
  again : ∀ r r', J r → Again last size r r' → (Work.reached (w r)).store.tree.Grows (fun _ => True) last →
    Echo last size (w r) (w r')

namespace Repeatable

theorem skip (J : Run → Prop) (last : FileTree) (size : Nat) : Repeatable J last size (pure ()) where
  keeps _ h := h
  grows _ _ := .refl _ _
  again _ _ _ h _ := .done h

theorem bind (h : Repeatable J last size w) (h' : Repeatable J last size w') :
    Repeatable J last size (w >>= fun _ => w') where
  keeps r hr := by
    have hfirst := h.keeps r hr
    cases hw : w r with
    | ok _ r₁ =>
      rw [hw] at hfirst
      rw [bind_of_ok _ hw]
      exact h'.keeps r₁ hfirst
    | error a r₁ =>
      rw [hw] at hfirst
      rw [bind_of_error _ hw]
      exact hfirst
  grows r hr := by
    have hkept := h.keeps r hr
    have hfirst := h.grows r hr
    cases hw : w r with
    | ok _ r₁ =>
      rw [hw] at hfirst hkept
      rw [bind_of_ok _ hw]
      exact hfirst.trans (h'.grows r₁ hkept)
    | error a r₁ =>
      rw [hw] at hfirst
      rw [bind_of_error _ hw]
      exact hfirst
  again r r' hr hagain hlast := by
    have hkept := h.keeps r hr
    have hfirst := h.again r r' hr hagain
    cases hw : w r with
    | ok _ r₁ =>
      rw [hw] at hfirst hkept
      rw [bind_of_ok _ hw] at hlast ⊢
      have hecho := hfirst ((h'.grows r₁ hkept).trans hlast)
      generalize hw' : w r' = x at hecho
      cases hecho with
      | done hnext =>
        rw [bind_of_ok _ hw']
        exact h'.again r₁ _ hkept hnext hlast
    | error a r₁ =>
      rw [hw] at hfirst
      rw [bind_of_error _ hw] at hlast ⊢
      have hecho := hfirst hlast
      generalize hw' : w r' = x at hecho
      cases hecho with
      | stopped _ hnext =>
        rw [bind_of_error _ hw']
        exact .stopped a hnext

/-- Pieces of work that are each repeatable are repeatable one after another. -/
theorem forM {f : α → Work Unit} {as : List α} (h : ∀ a ∈ as, Repeatable J last size (f a)) :
    Repeatable J last size (as.forM f) := by
  induction as with
  | nil => exact skip J last size
  | cons a as ih => exact (h a List.mem_cons_self).bind (ih fun b hb => h b (List.mem_cons_of_mem a hb))

end Repeatable

end Work

namespace Command.Compile

open Hint (Block Note)
open Schema (Compiled Setup)
open Work (Again Echo Repeatable)

variable {P : FilePath → Prop} {s : Settings} {l : Layout} {here : Location} {n : Note} {p : FilePath} {r r' : Run}
  {start : Store} {last : FileTree} {size : Nat} {w : Work Unit}

/-- Work that writes to paths of a kind only is repeatable if it ends as before for a run that repeats another one. -/
theorem repeatable_of_keepsTo (hs : start.tree.Sound)
    (hkeeps : ∀ r, KeepsTo P start r → ∀ start, KeepsTo P start r → KeepsTo P start (Work.reached (w r)))
    (hagain : ∀ r r', KeepsTo P start r → Again last size r r' →
      (Work.reached (w r)).store.tree.Grows (fun _ => True) last → Echo last size (w r) (w r')) :
    Repeatable (KeepsTo P start) last size w where
  keeps r hr := hkeeps r hr start hr
  grows r hr := ((hkeeps r hr r.store hr.anew).store.grows (hr.store.grows hs).1).2.mono fun _ _ => trivial
  again := hagain

/-- A class leaves the store as writing its schema leaves it. -/
theorem store_of_writeSchema {unit : String} {found : List Diagnostic} {c : Compiled} {document : Document}
    {result : Except WriteFailure Unit} {store : Store}
    (hwritten : ¬ r.store.written.contains (l.artifactPath c.schema.id) = true)
    (hdocument : c.schema.toDocument s.base s.dialect = .ok document)
    (hw : r.store.writeDocument (l.artifactPath c.schema.id) document = (result, store)) :
    (Work.reached (writeSchema s l unit found c r)).store = store := by
  unfold writeSchema
  rw [Work.bind_of_ok _ (Work.get_eq r), if_neg hwritten, hdocument, Work.bind_of_ok _ (Work.orFault_ok document r)]
  cases result with
  | ok done =>
    rw [Work.bind_of_ok _ (Work.write_of_ok hw)]
    dsimp only
    rw [Work.bind_of_ok _ (request_eq c.emissions { r with store })]
    split <;> rfl
  | error e =>
    cases e with
    | storage e =>
      rw [Work.bind_of_ok _ (Work.write_of_storage hw)]
      rfl
    | unreadable e =>
      rw [Work.bind_of_error _ (Work.write_of_error hw (by simp))]
      rfl
    | fault f =>
      rw [Work.bind_of_error _ (Work.write_of_error hw (by simp))]
      rfl

/-- The schema of a class is written as before. -/
theorem writeSchema_again (unit : String) (found : List Diagnostic) (c : Compiled) (h : Again last size r r')
    (hgrows : (Work.reached (writeSchema s l unit found c r)).store.tree.Grows (fun _ => True) last) :
    Echo last size (writeSchema s l unit found c r) (writeSchema s l unit found c r') := by
  by_cases hwritten : r.store.written.contains (l.artifactPath c.schema.id) = true
  · unfold writeSchema
    rw [Work.bind_of_ok _ (Work.get_eq r), Work.bind_of_ok _ (Work.get_eq r'), h.store.written, if_pos hwritten]
    exact .done (h.add rfl)
  · cases hdocument : c.schema.toDocument s.base s.dialect with
    | error f =>
      unfold writeSchema
      rw [Work.bind_of_ok _ (Work.get_eq r), Work.bind_of_ok _ (Work.get_eq r'), h.store.written, if_neg hwritten,
        hdocument]
      exact .stopped _ h
    | ok document =>
      obtain ⟨⟨result, store⟩, hw⟩ : ∃ x, r.store.writeDocument (l.artifactPath c.schema.id) document = x := ⟨_, rfl⟩
      obtain ⟨⟨result', store'⟩, hw'⟩ : ∃ x, r'.store.writeDocument (l.artifactPath c.schema.id) document = x := ⟨_, rfl⟩
      have hstore : store.tree.Grows (fun _ => True) last := by
        rwa [store_of_writeSchema hwritten hdocument hw] at hgrows
      unfold writeSchema
      rw [Work.bind_of_ok _ (Work.get_eq r), Work.bind_of_ok _ (Work.get_eq r'), h.store.written, if_neg hwritten,
        hdocument, Work.bind_of_ok _ (Work.orFault_ok document r), Work.bind_of_ok _ (Work.orFault_ok document r')]
      obtain ⟨hfate, hnext⟩ := h.store.write hw hw' hstore
      cases hfate with
      | done =>
        rw [Work.bind_of_ok _ (Work.write_of_ok hw), Work.bind_of_ok _ (Work.write_of_ok hw')]
        dsimp only
        rw [Work.bind_of_ok _ (request_eq _ _), Work.bind_of_ok _ (request_eq _ _)]
        have hall : Again last size { r with store, pending := r.pending.requested c.emissions }
            { r' with store := store', pending := r'.pending.requested c.emissions } :=
          ⟨hnext, congrArg (·.requested c.emissions) h.pending, h.outline⟩
        split
        next => exact .done (hall.add rfl)
        next => exact .done (hall.add rfl)
      | refused e e' =>
        rw [Work.bind_of_ok _ (Work.write_of_storage hw), Work.bind_of_ok _ (Work.write_of_storage hw')]
        have hall : Again last size { r with store } { r' with store := store' } := ⟨hnext, h.pending, h.outline⟩
        exact .done (hall.add rfl)
      | broken e hother =>
        rw [Work.bind_of_error _ (Work.write_of_error hw hother), Work.bind_of_error _ (Work.write_of_error hw' hother)]
        exact .stopped _ ⟨hnext, h.pending, h.outline⟩

theorem repeatable_note (hs : start.tree.Sound) (ha : Aims P s l (here, n)) :
    Repeatable (KeepsTo P start) last size (note s l p here n) := by
  refine repeatable_of_keepsTo hs (fun r _ start h => keepsTo_note ha h) fun r r' _ h hgrows => ?_
  unfold note at hgrows ⊢
  cases hread : Block.ofNote s.strictness n with
  | error e =>
    cases e with
    | fault f => exact .stopped _ h
    | noMarker owner => exact .done (h.add rfl)
  | ok read =>
    obtain ⟨block, found⟩ := read
    rw [hread] at hgrows
    dsimp only at hgrows ⊢
    cases hcompile : Schema.Shared.compile (Setup.ofSettings s l) here block with
    | error f => exact .stopped _ h
    | ok c =>
      rw [hcompile] at hgrows
      exact writeSchema_again _ found c h hgrows

/-- A source that is where it was at the start, and is not written to. -/
def Lasting (P : FilePath → Prop) (start : Store) (last : FileTree) (p : FilePath) : Prop :=
  ∃ q e, start.tree.locate p = .ok (q, e) ∧ last.locate p = .ok (q, e) ∧ ¬ Store.Touched P start.tree q

/-- A lasting source is read as at the start. -/
theorem Lasting.readText (h : Lasting P start last p) (hs : start.tree.Sound) (hr : KeepsTo P start r) :
    r.store.tree.readText p = start.tree.readText p := by
  obtain ⟨q, e, hstart, _, hlasting⟩ := h
  have hhere := (hr.store.grows hs).2.locate hstart hlasting
  rw [FileTree.readText, FileTree.readText, FileTree.read, FileTree.read, hhere, hstart]

/-- A lasting source is read as before. -/
theorem Lasting.readText_again (h : Lasting P start last p) (hs : start.tree.Sound) (hnew : start.written = [])
    (hr : KeepsTo P start r) (hagain : Again last size r r') (hgrows : r.store.tree.Grows (fun _ => True) last) :
    r'.store.tree.readText p = r.store.tree.readText p := by
  obtain ⟨q, e, hstart, hlast, hlasting⟩ := h
  obtain ⟨_, hgrown⟩ := hr.store.grows hs
  have hhere := hgrown.locate hstart hlasting
  have hnot : q ∉ r.store.written.map last.placeOf := by
    intro hq
    obtain ⟨d, hd, rfl⟩ := List.mem_map.mp hq
    have hkind : P d := by
      have hwritten := (hr.store.written hs).2 d hd
      simpa [hnew] using hwritten
    refine hlasting ⟨d, hkind, ?_⟩
    rw [hgrows.placeOf, hgrown.placeOf]
  have hthere : r'.store.tree.locate p = .ok (q, e) := by
    refine FileTree.locate_of_stays hlast hagain.store.second.home (fun q hq => ?_) fun content hq => ?_
    · exact (hagain.store.folder_iff hgrows).mpr hq
    · rw [hagain.store.rest q hnot, hq]
  rw [FileTree.readText, FileTree.readText, FileTree.read, FileTree.read, hthere, hhere]

theorem repeatable_source (hs : start.tree.Sound) (hnew : start.written = []) (hp : Lasting P start last p)
    (ha : ∀ m ∈ notesAt l start.tree p, Aims P s l m) : Repeatable (KeepsTo P start) last size (source s l p) := by
  refine repeatable_of_keepsTo hs (fun r hr start' h => ?_) fun r r' hr h hgrows => ?_
  · have hread := hp.readText hs hr
    have hnotes : notesAt l r.store.tree p = notesAt l start.tree p := by rw [notesAt, notesAt, hread]
    exact keepsTo_source (hnotes ▸ ha) h
  · have hread := hp.readText hs hr
    have hgrown : r.store.tree.Grows (fun _ => True) (Work.reached (source s l p r)).store.tree := by
      have hnotes : notesAt l r.store.tree p = notesAt l start.tree p := by rw [notesAt, notesAt, hread]
      have hkept := keepsTo_source (s := s) (hnotes ▸ ha) hr.anew
      exact (hkept.store.grows (hr.store.grows hs).1).2.mono fun _ _ => trivial
    have htext := hp.readText_again hs hnew hr h (hgrown.trans hgrows)
    clear hgrown
    unfold source at hgrows ⊢
    cases hplace : l.locationOf p with
    | error e => exact .done (h.add rfl)
    | ok here =>
      rw [hplace] at hgrows
      dsimp only at hgrows ⊢
      rw [Work.bind_of_ok _ (Work.tree_eq r)] at hgrows ⊢
      rw [Work.bind_of_ok _ (Work.tree_eq r'), htext]
      cases hfound : r.store.tree.readText p with
      | error reason => exact .done (h.add rfl)
      | ok text =>
        have hnotes : ∀ n ∈ Note.extract text, Aims P s l (here, n) := by
          intro n hn
          refine ha (here, n) ?_
          simp only [notesAt, hplace, ← hread, hfound]
          exact List.mem_map_of_mem hn
        rw [hfound] at hgrows
        dsimp only at hgrows ⊢
        generalize Note.extract text = notes at hnotes hgrows ⊢
        cases notes with
        | nil => exact .done (h.add rfl)
        | cons first rest => exact (Repeatable.forM fun n hn => repeatable_note hs (hnotes n hn)).again r r' hr h hgrows

theorem outline_releasedItem (l : Layout) (m : FilePath × Option StorageError) :
    ((releasedItem l m).outcome, (releasedItem l m).unit) = (if m.2.isSome then .fail else .wrote, l.display m.1) := by
  obtain ⟨destination, e⟩ := m
  cases e <;> rfl

theorem outline_released (l : Layout) (released : Released) :
    (released.map (releasedItem l)).map (fun i => (i.outcome, i.unit)) =
      (released.map fun m => (m.1, m.2.isSome)).map fun m => (if m.2 then .fail else .wrote, l.display m.1) := by
  simp only [List.map_map, Function.comp_def, outline_releasedItem]

/-- The enumerations are released as before. -/
theorem repeatable_release (hs : start.tree.Sound) : Repeatable (KeepsTo P start) last size (release s l) := by
  refine repeatable_of_keepsTo hs (fun r _ start h => keepsTo_release h) fun r r' hr h hgrows => ?_
  cases hopen : r.pending.flushed with
  | true =>
    rw [release_of_closed hopen, release_of_closed (h.pending ▸ hopen)]
    exact .done h
  | false =>
    have hopen' : r'.pending.flushed = false := h.pending ▸ hopen
    obtain ⟨⟨result, store⟩, hstore⟩ : ∃ x, r.store.writeEnumerations s.base (todo r) = x := ⟨_, rfl⟩
    obtain ⟨⟨result', store'⟩, hstore'⟩ : ∃ x, r'.store.writeEnumerations s.base (todo r') = x := ⟨_, rfl⟩
    have hlast : (r.store.writeEnumerations s.base (todo r)).2.tree.Grows (fun _ => True) last := by
      rw [hstore]
      cases result with
      | ok released => rwa [release_of_ok hopen hstore] at hgrows
      | error e => rwa [release_of_error hopen hstore] at hgrows
    obtain ⟨hsame, hnext⟩ := h.store.enumerations s.base (todo r) hlast
    have htodo : todo r = todo r' := by rw [todo, todo, h.pending]
    rw [hstore, htodo, hstore'] at hsame hnext
    cases result with
    | ok released =>
      cases result' with
      | error e => cases hsame
      | ok released' =>
        have hmarks : released'.map (fun m => (m.1, m.2.isSome)) = released.map fun m => (m.1, m.2.isSome) :=
          Except.ok.inj hsame
        have hbefore := h.outline
        rw [release_of_ok hopen hstore, release_of_ok hopen' hstore']
        refine .done ⟨hnext, by rw [h.pending], ?_⟩
        rw [Report.outline, Report.outline] at hbefore ⊢
        rw [List.map_append, List.map_append, outline_released, outline_released, hmarks, hbefore]
    | error e =>
      cases result' with
      | ok released' => cases hsame
      | error e' =>
        cases hsame
        rw [release_of_error hopen hstore, release_of_error hopen' hstore']
        exact .stopped _ ⟨hnext, by rw [h.pending], h.outline⟩

end Command.Compile

end NoteSchema
