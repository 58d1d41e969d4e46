import NoteSchema.Proofs.Corpus.Walk
import Mathlib.Data.List.Dedup
import Mathlib.Data.List.Perm.Subperm

namespace NoteSchema.Corpus

/-- The keys that references of loaded documents name. -/
def links (c : Corpus) : List Key :=
  c.documents.flatMap fun d => (refsIn d.document).filterMap fun ref =>
    (c.resolve (some d) ref).map fun target => (target.1.identifier, target.2)

/-- A trail holds its first key and keys that references name, each of them once. -/
def trailBound (c : Corpus) : Nat := c.links.dedup.length + 1

theorem trailBound_le_budget (c : Corpus) : c.trailBound ≤ c.budget := by
  have hl : c.links.length ≤ (c.documents.flatMap fun d => refsIn d.document).length := by
    unfold links
    induction c.documents with
    | nil => simp
    | cons d ds ih =>
      simp only [List.flatMap_cons, List.length_append]
      exact Nat.add_le_add (List.length_filterMap_le _ _) ih
  have hd := (List.dedup_sublist c.links).length_le
  unfold trailBound budget
  omega

/-- A value of a document that is being inlined, with the trail that leads to it. -/
structure Frame where
  trail : List Key
  here : Loaded
  value : Document

/-- The frame that a walk through a whole document starts from. -/
def entry (d : Loaded) : Frame := ⟨[(d.identifier, "")], d, d.document⟩

/-- One frame enters another when a reference in it is replaced by what it addresses. -/
inductive Enters (c : Corpus) : Frame → Frame → Prop
  | step {fr : Frame} {ref : String} {d : Loaded} {fragment : String} {v : Document}
      (here : ref ∈ refsIn fr.value) (turn : c.turn fr.trail fr.here ref = .ok (.inline d fragment v)) :
      Enters c fr ⟨(d.identifier, fragment) :: fr.trail, d, v⟩

/-- What holds of every frame of a walk. -/
structure Framed (c : Corpus) (fr : Frame) : Prop where
  loaded : fr.here ∈ c.documents
  refs : ∀ ref ∈ refsIn fr.value, ref ∈ refsIn fr.here.document
  once : fr.trail.Nodup
  named : ∀ k ∈ fr.trail.dropLast, k ∈ c.links

theorem framed_entry {c : Corpus} {d : Loaded} (h : d ∈ c.documents) : c.Framed (entry d) :=
  ⟨h, fun _ hr => hr, by simp [entry], by simp [entry]⟩

theorem Framed.length_le {c : Corpus} {fr : Frame} (h : c.Framed fr) : fr.trail.length ≤ c.trailBound := by
  have hn : fr.trail.dropLast.Nodup := h.once.sublist (List.dropLast_sublist _)
  have hs : fr.trail.dropLast ⊆ c.links.dedup := fun k hk => List.mem_dedup.mpr (h.named k hk)
  have hl := (List.subperm_of_subset hn hs).length_le
  simp only [List.length_dropLast] at hl
  unfold trailBound
  omega

theorem resolve_loaded {c : Corpus} {here d : Loaded} {ref fragment : String} (hh : here ∈ c.documents)
    (h : c.resolve (some here) ref = some (d, fragment)) : d ∈ c.documents := by
  unfold resolve at h
  dsimp only at h
  split at h
  next => cases h; exact hh
  next =>
    obtain ⟨d', hd, he⟩ := Option.map_eq_some_iff.mp h
    cases he
    exact List.mem_of_find?_eq_some hd

theorem mem_links {c : Corpus} {here d : Loaded} {ref fragment : String} (hh : here ∈ c.documents)
    (hr : ref ∈ refsIn here.document) (h : c.resolve (some here) ref = some (d, fragment)) :
    (d.identifier, fragment) ∈ c.links := by
  refine List.mem_flatMap.mpr ⟨here, hh, List.mem_filterMap.mpr ⟨ref, hr, ?_⟩⟩
  rw [h]
  rfl

/-- What becomes of a reference: it stays, or it leads to a value, inlined unless its key is on the trail. -/
theorem turn_eq_ok {c : Corpus} {trail : List Key} {here : Loaded} {ref : String} {found : Turn}
    (h : c.turn trail here ref = .ok found) : found = .stay ∨ ∃ d fragment v,
      c.resolve (some here) ref = some (d, fragment) ∧ Json.Pointer.resolve d.document fragment = .ok v ∧
        found = if (d.identifier, fragment) ∈ trail then .back d fragment else .inline d fragment v := by
  unfold turn at h
  split at h
  next => exact .inl (Except.ok.inj h).symm
  next d fragment hr =>
    split at h
    next => exact .inl (Except.ok.inj h).symm
    next => cases h
    next v hv => exact .inr ⟨d, fragment, v, hr, hv, by simpa using (Except.ok.inj h).symm⟩

theorem turn_eq_inline {c : Corpus} {trail : List Key} {here d : Loaded} {ref fragment : String} {v : Document}
    (h : c.turn trail here ref = .ok (.inline d fragment v)) :
    c.resolve (some here) ref = some (d, fragment) ∧ Json.Pointer.resolve d.document fragment = .ok v ∧
      (d.identifier, fragment) ∉ trail := by
  rcases turn_eq_ok h with hstay | ⟨_, _, _, hr, hv, hfound⟩
  · cases hstay
  · split at hfound
    next => cases hfound
    next hout =>
      cases hfound
      exact ⟨hr, hv, hout⟩

theorem turn_eq_back {c : Corpus} {trail : List Key} {here d : Loaded} {ref fragment : String}
    (h : c.turn trail here ref = .ok (.back d fragment)) :
    c.resolve (some here) ref = some (d, fragment) ∧ (d.identifier, fragment) ∈ trail := by
  rcases turn_eq_ok h with hstay | ⟨_, _, _, hr, _, hfound⟩
  · cases hstay
  · split at hfound
    next hin =>
      cases hfound
      exact ⟨hr, hin⟩
    next => cases hfound

theorem Framed.enters {c : Corpus} {fr next : Frame} (h : c.Framed fr) (he : c.Enters fr next) :
    c.Framed next := by
  obtain ⟨hr, ht⟩ := he
  obtain ⟨hres, hv, hnew⟩ := turn_eq_inline ht
  refine ⟨resolve_loaded h.loaded hres, fun ref hw => refsIn_of_follow hv hw,
    List.nodup_cons.mpr ⟨hnew, h.once⟩, ?_⟩
  intro k hk
  cases htrail : fr.trail with
  | nil => simp [htrail] at hk
  | cons k' rest =>
    rw [htrail, List.dropLast_cons_of_ne_nil (by simp)] at hk
    rcases List.mem_cons.mp hk with rfl | hk
    · exact mem_links h.loaded (h.refs _ hr) hres
    · exact h.named k (htrail ▸ hk)

/-- Every walk ends: what holds of a frame when it holds of all that it enters holds of every frame. -/
theorem Framed.induct {c : Corpus} {motive : (fr : Frame) → c.Framed fr → Prop}
    (step : ∀ fr (h : c.Framed fr), (∀ next (he : c.Enters fr next), motive next (h.enters he)) → motive fr h)
    {fr : Frame} (h : c.Framed fr) : motive fr h := by
  induction hn : c.trailBound - fr.trail.length using Nat.strong_induction_on generalizing fr with
  | _ n ih =>
    refine step fr h fun next he => ?_
    have hb := (h.enters he).length_le
    have hl : next.trail.length = fr.trail.length + 1 := by
      cases he
      rfl
    exact ih _ (by omega) (h.enters he) rfl

section Replaced

variable {c : Corpus} {top here : Loaded} {trail : List Key} {ref : String} {siblings : Members String}
  {inline : Loaded → String → Document → Inlining Document}

theorem replaced_stay (h : c.turn trail here ref = .ok .stay) :
    c.replaced top trail here inline ref siblings = .ok (keep ref siblings, []) := by
  rw [replaced, h, Inlining.lift_ok_bind]
  rfl

theorem replaced_back {d : Loaded} {fragment : String} (h : c.turn trail here ref = .ok (.back d fragment)) :
    c.replaced top trail here inline ref siblings =
      .ok (keep (c.backPointer top d fragment) siblings, backTargets top d) := by
  rw [replaced, h, Inlining.lift_ok_bind]
  rfl

theorem replaced_inline {d : Loaded} {fragment : String} {v : Document}
    (h : c.turn trail here ref = .ok (.inline d fragment v)) :
    c.replaced top trail here inline ref siblings =
      inline d fragment v >>= fun w => pure (withSiblings siblings w) := by
  rw [replaced, h, Inlining.lift_ok_bind]

theorem replaced_error {e : BundleFailure} (h : c.turn trail here ref = .error e) :
    c.replaced top trail here inline ref siblings = .error e := by
  rw [replaced, h]
  exact Inlining.bind_of_error _ rfl

theorem replaced_congr {other : Loaded → String → Document → Inlining Document}
    (h : ∀ d fragment v, c.turn trail here ref = .ok (.inline d fragment v) →
      inline d fragment v = other d fragment v) :
    c.replaced top trail here inline ref siblings = c.replaced top trail here other ref siblings := by
  cases ht : c.turn trail here ref with
  | error e => rw [replaced_error ht, replaced_error ht]
  | ok t =>
    cases t with
    | stay => rw [replaced_stay ht, replaced_stay ht]
    | back d fragment => rw [replaced_back ht, replaced_back ht]
    | inline d fragment v => rw [replaced_inline ht, replaced_inline ht, h d fragment v ht]

theorem turn_ne_exhausted : c.turn trail here ref ≠ .error .exhausted := by
  unfold turn
  split
  next => simp
  next => split <;> simp

theorem replaced_ends (h : ∀ d fragment v, c.turn trail here ref = .ok (.inline d fragment v) →
    (inline d fragment v).Ends) : (c.replaced top trail here inline ref siblings).Ends := by
  cases ht : c.turn trail here ref with
  | error e =>
    rw [replaced_error ht]
    intro he
    cases he
    exact turn_ne_exhausted ht
  | ok t =>
    cases t with
    | stay =>
      rw [replaced_stay ht]
      exact Inlining.Ends.pure _
    | back d fragment =>
      rw [replaced_back ht]
      intro he
      cases he
    | inline d fragment v =>
      rw [replaced_inline ht]
      exact (h d fragment v ht).bind fun w => Inlining.Ends.pure _

end Replaced

/-- The walk through the value of a frame. -/
def walk (c : Corpus) (top : Loaded) (fr : Frame) : Inlining Document :=
  expand (c.replaced top fr.trail fr.here (c.inlined top c.budget fr.trail)) fr.value

/-- Any two budgets that the trail leaves room for answer alike. -/
theorem inlined_eq_inlined {c : Corpus} (top : Loaded) {fr : Frame} (h : c.Framed fr) {n m : Nat}
    (hn : c.trailBound ≤ fr.trail.length + n) (hm : c.trailBound ≤ fr.trail.length + m) :
    expand (c.replaced top fr.trail fr.here (c.inlined top n fr.trail)) fr.value =
      expand (c.replaced top fr.trail fr.here (c.inlined top m fr.trail)) fr.value := by
  induction h using Framed.induct generalizing n m with
  | step fr h ih =>
    refine expand_congr fun ref hr siblings => replaced_congr fun d fragment v ht => ?_
    have he : c.Enters fr ⟨(d.identifier, fragment) :: fr.trail, d, v⟩ := .step hr ht
    have hb := (h.enters he).length_le
    simp only [List.length_cons] at hb
    obtain ⟨n, rfl⟩ : ∃ k, n = k + 1 := ⟨n - 1, by omega⟩
    obtain ⟨m, rfl⟩ : ∃ k, m = k + 1 := ⟨m - 1, by omega⟩
    exact ih _ he (by simp only [List.length_cons]; omega) (by simp only [List.length_cons]; omega)

/-- A walk through a frame is one step, whose references are walked in the frames that it enters. -/
theorem walk_eq {c : Corpus} {top : Loaded} {fr : Frame} (h : c.Framed fr) :
    c.walk top fr = expand (c.replaced top fr.trail fr.here fun d fragment v =>
      c.walk top ⟨(d.identifier, fragment) :: fr.trail, d, v⟩) fr.value := by
  refine expand_congr fun ref hr siblings => replaced_congr fun d fragment v ht => ?_
  have hf := h.enters (.step hr ht)
  have hb := c.trailBound_le_budget
  obtain ⟨n, hn⟩ : ∃ n, c.budget = n + 1 := ⟨_, rfl⟩
  have hi := inlined_eq_inlined top hf (n := n) (m := c.budget)
    (by simp only [List.length_cons]; omega) (by omega)
  rw [hn, inlined, hi, walk]

theorem inlinedDocument_eq_walk {c : Corpus} {top d : Loaded} (h : d ∈ c.documents) :
    c.inlinedDocument top d = c.walk top (entry d) := by
  have hb := c.trailBound_le_budget
  obtain ⟨n, hn⟩ : ∃ n, c.budget = n + 1 := ⟨_, rfl⟩
  have hi := inlined_eq_inlined top (framed_entry h) (n := n) (m := c.budget)
    (by simp only [entry, List.length_singleton]; omega) (by omega)
  rw [inlinedDocument, hn, inlined]
  exact hi

theorem walk_ends {c : Corpus} {top : Loaded} {fr : Frame} (h : c.Framed fr) : (c.walk top fr).Ends := by
  induction h using Framed.induct with
  | step fr h ih =>
    rw [walk_eq h]
    refine expand_composes Inlining.composes_ends fun ref hr siblings => ?_
    exact replaced_ends fun d fragment v ht => ih _ (.step hr ht)

end NoteSchema.Corpus
