import NoteSchema.Proofs.Corpus.Frame

namespace NoteSchema.Corpus

variable {c : Corpus} {top : Loaded}

theorem top_mem {name : String} (h : c.top name = .ok top) : top ∈ c.documents := by
  unfold Corpus.top at h
  split at h
  next d hd =>
    cases h
    unfold top? at hd
    split at hd
    next d' hd' =>
      cases hd
      exact List.mem_of_find?_eq_some hd'
    next =>
      split at hd
      next d' hd' =>
        cases hd
        exact List.mem_of_find?_eq_some hd'
      next => exact List.mem_of_head? hd
  next => cases h

/-- The walk that gives up as soon as it meets a trail that `sound` does not accept. -/
def inlinedWhile (c : Corpus) (top : Loaded) (sound : List Key → Bool) :
    Nat → List Key → Loaded → String → Document → Inlining Document
  | 0, _, _, _, _ => Inlining.lift (.error .exhausted)
  | budget + 1, trail, d, fragment, v =>
    let trail := (d.identifier, fragment) :: trail
    if sound trail then expand (c.replaced top trail d (inlinedWhile c top sound budget trail)) v
    else Inlining.lift (.error .exhausted)

/-- Whether a trail holds no key twice and at most one more than the keys that references name. -/
def soundTrail (c : Corpus) (trail : List Key) : Bool :=
  decide (trail.Nodup ∧ trail.length ≤ c.links.dedup.length + 1)

theorem Framed.soundTrail {fr : Frame} (h : c.Framed fr) : c.soundTrail fr.trail = true :=
  decide_eq_true ⟨h.once, h.length_le⟩

theorem inlinedWhile_eq_walk {fr : Frame} (h : c.Framed fr) {n : Nat} (hn : c.trailBound ≤ fr.trail.length + n) :
    expand (c.replaced top fr.trail fr.here (c.inlinedWhile top c.soundTrail n fr.trail)) fr.value =
      c.walk top fr := by
  induction h using Framed.induct generalizing n with
  | step fr h ih =>
    rw [walk_eq h]
    refine expand_congr fun ref hr siblings => replaced_congr fun d fragment v ht => ?_
    have he : c.Enters fr ⟨(d.identifier, fragment) :: fr.trail, d, v⟩ := .step hr ht
    have hb := (h.enters he).length_le
    simp only [List.length_cons] at hb
    obtain ⟨n, rfl⟩ : ∃ k, n = k + 1 := ⟨n - 1, by omega⟩
    rw [inlinedWhile, if_pos (h.enters he).soundTrail]
    exact ih _ he (by simp only [List.length_cons]; omega)

theorem inlinedWhile_eq_inlinedDocument {d : Loaded} (hd : d ∈ c.documents) {n : Nat} (hn : c.trailBound ≤ n) :
    c.inlinedWhile top c.soundTrail n [] d "" d.document = c.inlinedDocument top d := by
  obtain ⟨n, rfl⟩ : ∃ k, n = k + 1 := ⟨n - 1, by unfold trailBound at hn; omega⟩
  have hs : c.soundTrail [(d.identifier, "")] = true := (framed_entry hd).soundTrail
  rw [inlinedDocument_eq_walk hd, inlinedWhile, if_pos hs]
  exact inlinedWhile_eq_walk (framed_entry hd) (by simp only [entry, List.length_singleton]; omega)

theorem inlinedDocument_ends {d : Loaded} (hd : d ∈ c.documents) : (c.inlinedDocument top d).Ends := by
  rw [inlinedDocument_eq_walk hd]
  exact walk_ends (framed_entry hd)

theorem lift_ends {α : Type} {r : Except BundleFailure α} (h : r ≠ .error .exhausted) : (Inlining.lift r).Ends := by
  cases r with
  | ok a => exact Inlining.Ends.pure a
  | error e =>
    intro he
    cases he
    exact h rfl

theorem withoutId_ne_exhausted (v : Document) : withoutId v ≠ .error .exhausted := by
  cases v <;> simp [withoutId]

theorem mapError_fault_ne_exhausted {α : Type} (r : Except Fault α) :
    r.mapError BundleFailure.fault ≠ .error .exhausted := by
  cases r <;> simp [Except.mapError]

theorem defineAll_ends {ds : List Loaded} (hds : ∀ d ∈ ds, d ∈ c.documents) (tree : Document) :
    (c.defineAll top tree ds).Ends := by
  induction ds generalizing tree with
  | nil => exact Inlining.Ends.pure tree
  | cons d rest ih =>
    rw [defineAll]
    refine (inlinedDocument_ends (hds d (by simp))).bind fun v => ?_
    refine (lift_ends (withoutId_ne_exhausted v)).bind fun body => ?_
    refine (lift_ends (mapError_fault_ne_exhausted _)).bind fun tree => ?_
    exact ih (fun d' hd' => hds d' (by simp [hd'])) tree

/-- The documents that are wanted and not defined yet. -/
def pending (c : Corpus) (done wanted : List String) : List Loaded :=
  c.documents.filter fun d => wanted.contains d.identifier && !done.contains d.identifier

/-- The documents that are not defined yet. -/
def undefined (c : Corpus) (done : List String) : List Loaded :=
  c.documents.filter fun d => !done.contains d.identifier

theorem pending_loaded {done wanted : List String} : ∀ d ∈ c.pending done wanted, d ∈ c.documents :=
  fun _ hd => List.mem_of_mem_filter hd

/-- The passes over pending documents, for as long as there are any, in the order in which they define
documents. -/
inductive Completes (c : Corpus) (top : Loaded) :
    List String → List String → Document → List Loaded → Except BundleFailure Document → Prop
  | rest {done wanted : List String} {tree : Document} (none : c.pending done wanted = []) :
      Completes c top done wanted tree [] (.ok tree)
  | fail {done wanted : List String} {tree : Document} {e : BundleFailure}
      (some : c.pending done wanted ≠ []) (pass : c.defineAll top tree (c.pending done wanted) = .error e) :
      Completes c top done wanted tree (c.pending done wanted) (.error e)
  | pass {done wanted found : List String} {tree next : Document} {order : List Loaded}
      {result : Except BundleFailure Document} (some : c.pending done wanted ≠ [])
      (pass : c.defineAll top tree (c.pending done wanted) = .ok (next, found))
      (later : Completes c top (done ++ (c.pending done wanted).map (·.identifier)) (wanted ++ found) next
        order result) :
      Completes c top done wanted tree (c.pending done wanted ++ order) result

theorem rounds_of_pending_eq_nil {done wanted : List String} {tree : Document} (n : Nat)
    (h : c.pending done wanted = []) : c.rounds top n done wanted tree = .ok tree := by
  cases n with
  | zero => rfl
  | succ n =>
    rw [rounds]
    unfold pending at h
    rw [h]

theorem dereferenced_of_inlinedDocument {ns : Members String} (h : c.inlinedDocument top top = .ok (.obj ns, [])) :
    c.dereferenced top = .ok (Json.sorted (.obj ns)) := by
  have hp : c.pending [] [] = [] := by simp [pending]
  unfold dereferenced
  rw [h]
  simp only [bind, Except.bind, rounds_of_pending_eq_nil _ hp]
  rfl

theorem rounds_succ {done wanted : List String} {tree : Document} (n : Nat) (h : c.pending done wanted ≠ []) :
    c.rounds top (n + 1) done wanted tree =
      Except.bind (c.defineAll top tree (c.pending done wanted)) fun (next, found) =>
        c.rounds top n (done ++ (c.pending done wanted).map (·.identifier)) (wanted ++ found) next := by
  conv_lhs => unfold rounds
  unfold pending at h ⊢
  split
  next hn => exact absurd hn h
  next => rfl

/-- A pass leaves none of the documents that it defines undefined, and no other document is defined by it. -/
theorem pending_append_undefined (c : Corpus) (done wanted : List String) :
    (c.pending done wanted ++ c.undefined (done ++ (c.pending done wanted).map (·.identifier))).Subperm
      (c.undefined done) := by
  have hp : c.pending done wanted = (c.undefined done).filter fun d => wanted.contains d.identifier := by
    simp only [pending, undefined, List.filter_filter]
  have hu : c.undefined (done ++ (c.pending done wanted).map (·.identifier)) =
      ((c.undefined done).filter fun d => !wanted.contains d.identifier).filter fun d =>
        !(done ++ (c.pending done wanted).map (·.identifier)).contains d.identifier := by
    simp only [undefined, List.filter_filter]
    refine List.filter_congr fun d hd => ?_
    by_cases hw : wanted.contains d.identifier && !done.contains d.identifier
    · have hm : d.identifier ∈ (c.pending done wanted).map (·.identifier) :=
        List.mem_map.mpr ⟨d, List.mem_filter.mpr ⟨hd, hw⟩, rfl⟩
      simp [hm]
    · simp only [Bool.and_eq_true, Bool.not_eq_true', not_and, Bool.not_eq_false] at hw
      by_cases hn : d.identifier ∈ wanted
      · simp [List.contains_iff_mem.mp (hw (List.contains_iff_mem.mpr hn))]
      · simp +contextual [hn]
  have hs : (c.undefined (done ++ (c.pending done wanted).map (·.identifier))).Sublist
      ((c.undefined done).filter fun d => !wanted.contains d.identifier) := hu ▸ List.filter_sublist
  have hall := (List.filter_append_perm (fun d => wanted.contains d.identifier) (c.undefined done)).subperm
  rw [← hp] at hall
  exact ((List.Sublist.refl _).append hs).subperm.trans hall

/-- There are at most as many passes as documents, and no document is defined twice. -/
theorem completes_rounds (top : Loaded) (n : Nat) (done wanted : List String) (tree : Document)
    (hn : (c.undefined done).length ≤ n) :
    ∃ order, c.Completes top done wanted tree order (c.rounds top n done wanted tree) ∧
      order.Subperm (c.undefined done) := by
  induction n generalizing done wanted tree with
  | zero =>
    have hu : c.undefined done = [] := List.length_eq_zero_iff.mp (by omega)
    have split := pending_append_undefined c done wanted
    rw [hu] at split
    have hp : c.pending done wanted = [] := (List.append_eq_nil_iff.mp (List.subperm_nil.mp split)).1
    exact ⟨[], .rest hp, List.nil_subperm⟩
  | succ n ih =>
    by_cases hp : c.pending done wanted = []
    · rw [rounds_of_pending_eq_nil _ hp]
      exact ⟨[], .rest hp, List.nil_subperm⟩
    · have split := pending_append_undefined c done wanted
      rw [rounds_succ n hp]
      cases hd : c.defineAll top tree (c.pending done wanted) with
      | error e =>
        refine ⟨_, .fail hp hd, (List.sublist_append_left _ _).subperm.trans split⟩
      | ok next =>
        obtain ⟨next, found⟩ := next
        have hl := split.length_le
        simp only [List.length_append] at hl
        have hpos : 0 < (c.pending done wanted).length := List.length_pos_iff.mpr hp
        obtain ⟨order, hc, ho⟩ := ih (done ++ (c.pending done wanted).map (·.identifier))
          (wanted ++ found) next (by omega)
        exact ⟨_, .pass hp hd hc, ((List.subperm_append_left _).mpr ho).trans split⟩

theorem Completes.ends {done wanted : List String} {tree : Document} {order : List Loaded}
    {result : Except BundleFailure Document} (h : c.Completes top done wanted tree order result) :
    result ≠ .error .exhausted := by
  induction h with
  | rest => simp
  | fail _ pass =>
    rintro he
    cases he
    exact defineAll_ends pending_loaded _ pass
  | pass _ _ _ ih => exact ih

theorem undefined_nil (c : Corpus) : c.undefined [] = c.documents := by
  simp [undefined]

theorem addDefinitions_ne_exhausted (definitions : Members String) (own : Document) :
    addDefinitions definitions own ≠ .error .exhausted := by
  unfold addDefinitions
  split
  next => simp
  next => split <;> simp
  next => split <;> simp
  next => simp

theorem withDefinitions_ne_exhausted (members : Members String) (tree : Document) :
    withDefinitions members tree ≠ .error .exhausted := by
  unfold withDefinitions
  split
  next => simp
  next =>
    split
    next ds _ =>
      cases hd : addDefinitions ds ((members.find? defs).getD (.obj [])) with
      | ok own => simp [bind, Except.bind, pure, Except.pure]
      | error e =>
        intro he
        cases he
        exact addDefinitions_ne_exhausted _ _ hd
    next => simp
  next => simp

theorem dereferenced_ne_exhausted (h : top ∈ c.documents) : c.dereferenced top ≠ .error .exhausted := by
  unfold dereferenced
  cases hi : c.inlinedDocument top top with
  | error e =>
    intro he
    cases he
    exact inlinedDocument_ends h hi
  | ok v =>
    obtain ⟨v, found⟩ := v
    cases v with
    | obj members =>
      obtain ⟨order, hc, _⟩ := completes_rounds top c.documents.length [] found (.obj [])
        (by rw [undefined_nil])
      cases hr : c.rounds top c.documents.length [] found (.obj []) with
      | error e =>
        simp only [bind, Except.bind, hr]
        rintro he
        cases he
        exact hc.ends hr
      | ok tree =>
        simp only [bind, Except.bind, hr]
        cases hw : withDefinitions members tree with
        | error e =>
          rintro he
          cases he
          exact withDefinitions_ne_exhausted members tree hw
        | ok ms => simp [pure, Except.pure]
    | _ => simp [bind, Except.bind]

/-- Dereferencing ends on every corpus: a walk never takes up a key twice, so that its trail is never
longer than the keys that references name and one more, however large its budget is; and the loop over
the documents that references lead back into defines each of them at most once. -/
theorem dereference_terminates (c : Corpus) (name : String) :
    c.dereference name ≠ .error .exhausted ∧
    (∀ top, ∀ d ∈ c.documents, (c.inlinedDocument top d).Ends ∧ ∀ budget, c.links.dedup.length + 1 ≤ budget →
      c.inlinedWhile top c.soundTrail budget [] d "" d.document = c.inlinedDocument top d) ∧
    ∀ top found, ∃ order, order.Subperm c.documents ∧
      c.Completes top [] found (.obj []) order (c.rounds top c.documents.length [] found (.obj [])) := by
  refine ⟨?_, ?_, ?_⟩
  · unfold dereference
    cases ht : c.top name with
    | error e =>
      unfold Corpus.top at ht
      split at ht
      next => cases ht
      next =>
        cases ht
        simp [bind, Except.bind]
    | ok top => exact dereferenced_ne_exhausted (top_mem ht)
  · intro top d hd
    exact ⟨inlinedDocument_ends hd, fun budget hb => inlinedWhile_eq_inlinedDocument hd hb⟩
  · intro top found
    obtain ⟨order, hc, ho⟩ := completes_rounds top c.documents.length [] found (.obj [])
      (by rw [undefined_nil])
    exact ⟨order, undefined_nil c ▸ ho, hc⟩

end NoteSchema.Corpus
