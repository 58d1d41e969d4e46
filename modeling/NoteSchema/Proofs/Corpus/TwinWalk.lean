import NoteSchema.Proofs.Corpus.Termination
import NoteSchema.Proofs.Corpus.Twin

namespace NoteSchema.Corpus

open Json (Permuted)

/-- What a reference comes to in two corpora of the same documents. -/
inductive SameTurn : Except BundleFailure Turn → Except BundleFailure Turn → Prop
  | error (e : BundleFailure) : SameTurn (.error e) (.error e)
  | stay : SameTurn (.ok .stay) (.ok .stay)
  | back {d e : Loaded} (target : d.Reordered e) (fragment : String) :
      SameTurn (.ok (.back d fragment)) (.ok (.back e fragment))
  | inline {d e : Loaded} {v w : Document} (target : d.Reordered e) (fragment : String) (value : Permuted v w) :
      SameTurn (.ok (.inline d fragment v)) (.ok (.inline e fragment w))

theorem identifiers_eq {ds es : List Loaded} (h : List.Forall₂ Loaded.Reordered ds es) :
    ds.map (·.identifier) = es.map (·.identifier) := by
  induction h with
  | nil => rfl
  | cons head _ ih => rw [List.map_cons, List.map_cons, head.identifier, ih]

theorem pending_reordered {c c' : Corpus} (h : c.Reordered c') (done : List String) {wanted wanted' : List String}
    (hwanted : ∀ i, i ∈ wanted ↔ i ∈ wanted') :
    List.Forall₂ Loaded.Reordered (c.pending done wanted) (c'.pending done wanted') := by
  refine List.rel_filter (fun d e hde => ?_) h
  have hcontains : wanted.contains e.identifier = wanted'.contains e.identifier := by
    rw [Bool.eq_iff_iff, List.contains_iff_mem, List.contains_iff_mem, hwanted]
  dsimp only
  rw [hde.identifier, hcontains]

theorem withoutId_agree {v w : Document} (h : Twin v w) :
    Agree (fun ms ns => Twin (.obj ms) (.obj ns)) (withoutId v) (withoutId w) := by
  cases v with
  | obj ms =>
    obtain ⟨ns, rfl⟩ := h.exists_obj
    exact agree_ok (h.erase (by decide))
  | _ => exact agree_error_left _ _

theorem addDefinitions_agree {ds es : Members String} (h : PermutedMembers ds es) {own own' : Document}
    (ho : Permuted own own') : Agree Permuted (addDefinitions ds own) (addDefinitions es own') := by
  cases own with
  | obj ms =>
    obtain ⟨ns, rfl⟩ := ho.exists_obj
    exact agree_ok (PermutedMembers.addMissing ho h)
  | arr xs =>
    obtain ⟨ys, rfl⟩ := ho.exists_arr
    unfold addDefinitions
    dsimp only
    split
    · split
      · exact agree_ok ho
      · exact agree_error_right _ _
    · exact agree_error_left _ _
  | str s =>
    obtain rfl := ho.eq_str
    unfold addDefinitions
    dsimp only
    split
    · split
      · exact agree_ok ho
      · exact agree_error_right _ _
    · exact agree_error_left _ _
  | _ => exact agree_error_left _ _

theorem withDefinitions_obj (members ms : Members String) :
    withDefinitions members (.obj ms) =
      match Members.find? defs ms with
      | some (.obj ds) =>
        addDefinitions ds ((members.find? defs).getD (.obj [])) >>= fun own => .ok (members.set defs own)
      | _ => .ok members := by
  cases ms <;> rfl

theorem withDefinitions_agree {ms ns : Members String} (h : PermutedMembers ms ns) {tree tree' : Document}
    (ht : Permuted tree tree') : Agree PermutedMembers (withDefinitions ms tree) (withDefinitions ns tree') := by
  cases tree with
  | obj ts =>
    obtain ⟨us, rfl⟩ := ht.exists_obj
    rw [withDefinitions_obj, withDefinitions_obj]
    have hfind := ht.find? defs
    generalize Members.find? defs ts = o, Members.find? defs us = p at hfind ⊢
    cases hfind with
    | none => exact agree_ok h
    | @some v w hvw =>
      cases v with
      | obj ds =>
        obtain ⟨es, rfl⟩ := hvw.exists_obj
        refine (addDefinitions_agree hvw (Permuted.getD (h.find? defs))).bind fun own own' ho => ?_
        exact agree_ok (h.set defs ho)
      | _ =>
        have hw := hvw.isObject_eq
        cases w with
        | obj es => cases hw
        | _ => exact agree_ok h
  | _ =>
    have htree := ht.isObject_eq
    cases tree' with
    | obj us => cases htree
    | _ => exact agree_ok h

section Reordered

variable {c c' : Corpus} {top top' here here' : Loaded} (h : c.Reordered c')

include h

theorem sameTurn (hh : here.Reordered here') (trail : List Key) (ref : String) :
    SameTurn (c.turn trail here ref) (c'.turn trail here' ref) := by
  have hres := h.resolve hh ref
  unfold turn
  generalize c.resolve (some here) ref = o, c'.resolve (some here') ref = p at hres ⊢
  cases hres with
  | none => exact .stay
  | @some x y hxy =>
    obtain ⟨d, fragment⟩ := x
    obtain ⟨e, fragment'⟩ := y
    obtain ⟨hde, rfl⟩ := hxy
    dsimp only at hde ⊢
    rw [← hde.identifier]
    rcases hde.document.follow (Json.Pointer.tokens fragment) with ⟨v, w, hv, hw, hvw⟩ | ⟨failure, hv, hw⟩
    · simp only [Json.Pointer.resolve, hv, hw]
      split
      · exact .back hde fragment
      · exact .inline hde fragment hvw
    · simp only [Json.Pointer.resolve, hv, hw]
      cases failure with
      | nowhere => exact .stay
      | badIndex => exact .error _

variable (hplain : ∀ d ∈ c.documents, PlainDefinitions d.document) (htop : top.Reordered top')

include hplain htop

/-- Walks through values that differ in the order of members only answer with such values and lead back into the same
documents. -/
theorem walk_agree {fr fr' : Frame} (hf : c.Framed fr) (hf' : c'.Framed fr') (htrail : fr.trail = fr'.trail)
    (hh : fr.here.Reordered fr'.here) (hv : Twin fr.value fr'.value) :
    Inlining.Agree Twin (c.walk top fr) (c'.walk top' fr') := by
  induction hf using Framed.induct generalizing fr' with
  | step fr hf ih =>
    rw [walk_eq hf, walk_eq hf']
    refine expand_agree hv fun ref hr s t hst hbare => ?_
    have hr' : ref ∈ refsIn fr'.value := (mem_refsIn_of_sorted_eq hv.same).mpr hr
    have hturn := sameTurn h hh fr.trail ref
    rw [htrail] at hturn
    generalize hx : c.turn fr'.trail fr.here ref = x, hy : c'.turn fr'.trail fr'.here ref = y at hturn
    rw [← htrail] at hx
    cases hturn with
    | error e =>
      rw [replaced_error hx, replaced_error hy]
      exact fun _ _ _ _ he => (nomatch he)
    | stay =>
      rw [replaced_stay hx, replaced_stay hy]
      exact Inlining.agree_pure (hst.keep hbare ref)
    | @back d e hde fragment =>
      rw [replaced_back hx, replaced_back hy, backPointer, backPointer, backTargets, backTargets, hde.identifier,
        htop.identifier, h.leafPointer hde]
      exact Inlining.agree_back (hst.keep hbare _) _
    | @inline d e v w hde fragment hvw =>
      rw [replaced_inline hx, replaced_inline hy]
      have enters := Enters.step hr hx
      have enters' := Enters.step hr' hy
      have hdoc : Json.Pointer.resolve d.document fragment = .ok v := (turn_eq_inline hx).2.1
      have htarget : Twin d.document e.document := ⟨hde.document, hplain d (hf.enters enters).loaded⟩
      have htwin : Twin v w := htarget.follow hdoc hvw
      have hwalk := ih _ enters (hf'.enters enters') (by rw [htrail, hde.identifier]) hde htwin
      exact hwalk.bind fun a b hab => Inlining.agree_pure (hst.withSiblings hab)

theorem inlinedDocument_agree {d e : Loaded} (hd : d ∈ c.documents) (he : e ∈ c'.documents) (hde : d.Reordered e) :
    Inlining.Agree Twin (c.inlinedDocument top d) (c'.inlinedDocument top' e) := by
  rw [inlinedDocument_eq_walk hd, inlinedDocument_eq_walk he]
  have hentry : (entry d).trail = (entry e).trail := by rw [entry, entry, hde.identifier]
  exact walk_agree h hplain htop (framed_entry hd) (framed_entry he) hentry hde ⟨hde.document, hplain d hd⟩

theorem defineAll_agree {ds es : List Loaded} (hall : List.Forall₂ Loaded.Reordered ds es)
    (hds : ∀ d ∈ ds, d ∈ c.documents) (hes : ∀ e ∈ es, e ∈ c'.documents) {tree tree' : Document}
    (ht : Permuted tree tree') :
    Inlining.Agree Permuted (c.defineAll top tree ds) (c'.defineAll top' tree' es) := by
  induction hall generalizing tree tree' with
  | nil => exact Inlining.agree_pure ht
  | @cons d e ds es head _ ih =>
    rw [defineAll, defineAll, ← h.leafPath head]
    refine (inlinedDocument_agree h hplain htop (hds d (by simp)) (hes e (by simp)) head).bind fun v w hvw => ?_
    refine (Inlining.agree_lift (withoutId_agree hvw)).bind fun ms ns hms => ?_
    have hlist : ∀ w ∈ Members.find? defs ms, listsObject w = false := fun w hw => hms.listsObject hw
    have hplaced := place_agree hms.toPermuted hlist (c.leafPath d) ht
    refine (Inlining.agree_lift hplaced.mapError).bind fun tree tree' ht => ?_
    exact ih (fun d hd => hds d (by simp [hd])) (fun e he => hes e (by simp [he])) ht

theorem rounds_agree (n : Nat) (done : List String) {wanted wanted' : List String}
    (hwanted : ∀ i, i ∈ wanted ↔ i ∈ wanted') {tree tree' : Document} (ht : Permuted tree tree') :
    Agree Permuted (c.rounds top n done wanted tree) (c'.rounds top' n done wanted' tree') := by
  induction n generalizing done wanted wanted' tree tree' with
  | zero => exact agree_ok ht
  | succ n ih =>
    have hpending : List.Forall₂ Loaded.Reordered (c.pending done wanted) (c'.pending done wanted') :=
      pending_reordered h done hwanted
    by_cases hp : c.pending done wanted = []
    · have hp' : c'.pending done wanted' = [] := by
        rw [hp] at hpending
        exact List.forall₂_nil_left_iff.mp hpending
      rw [rounds_of_pending_eq_nil _ hp, rounds_of_pending_eq_nil _ hp']
      exact agree_ok ht
    · have hp' : c'.pending done wanted' ≠ [] := by
        intro hp'
        rw [hp'] at hpending
        exact hp (List.forall₂_nil_right_iff.mp hpending)
      have hsame : (c.pending done wanted).map (·.identifier) = (c'.pending done wanted').map (·.identifier) :=
        identifiers_eq hpending
      rw [rounds_succ n hp, rounds_succ n hp', hsame]
      have hpass := defineAll_agree h hplain htop hpending pending_loaded pending_loaded ht
      refine Agree.bind (R := fun a b => Permuted a.1 b.1 ∧ ∀ i, i ∈ a.2 ↔ i ∈ b.2) ?_ fun a b hab => ?_
      · exact fun a b ha hb => hpass a.1 a.2 b.1 b.2 ha hb
      · obtain ⟨next, found⟩ := a
        obtain ⟨next', found'⟩ := b
        exact ih _ (fun i => by rw [List.mem_append, List.mem_append, hwanted i, hab.2 i]) hab.1

/-- Documents with their references replaced are the same, whatever the order of members in the documents of a
corpus. -/
theorem dereferenced_agree (hmem : top ∈ c.documents) (hmem' : top' ∈ c'.documents) :
    Agree Eq (c.dereferenced top) (c'.dereferenced top') := by
  unfold dereferenced
  have hroot := inlinedDocument_agree h hplain htop hmem hmem' htop
  refine Agree.bind (R := fun a b => Twin a.1 b.1 ∧ ∀ i, i ∈ a.2 ↔ i ∈ b.2) ?_ fun a b hab => ?_
  · exact fun a b ha hb => hroot a.1 a.2 b.1 b.2 ha hb
  · obtain ⟨v, found⟩ := a
    obtain ⟨w, found'⟩ := b
    obtain ⟨hvw, hfound⟩ := hab
    cases v with
    | obj ms =>
      obtain ⟨ns, rfl⟩ := hvw.exists_obj
      have hlength : c.documents.length = c'.documents.length := List.Forall₂.length_eq h
      dsimp only
      rw [← hlength]
      refine (rounds_agree h hplain htop _ [] hfound .nil).bind fun tree tree' ht => ?_
      refine (withDefinitions_agree hvw.toPermuted ht).bind fun ms ns hms => ?_
      exact agree_ok hms.same
    | _ => exact agree_error_left _ _

end Reordered

end NoteSchema.Corpus
