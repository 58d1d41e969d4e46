import NoteSchema.Proofs.Corpus.Definitions
import NoteSchema.Proofs.Corpus.Image
import NoteSchema.Proofs.Corpus.Termination

namespace NoteSchema.Corpus

open Json (Distinct)

/-- Neither a document nor an object that a reference addresses has definitions. -/
structure Bare (c : Corpus) : Prop where
  roots : ∀ d ∈ c.documents, d.body.find? defs = none
  targets : ∀ d ∈ c.documents, ∀ ref ∈ refsIn d.document, ∀ t fragment (ms : Members String),
    c.resolve (some d) ref = some (t, fragment) →
      Json.Pointer.resolve t.document fragment = .ok (.obj ms) → ms.find? defs = none

/-- The frames of all walks that dereferencing a document makes: the one through the document itself, and
those through the documents that references lead back into. -/
inductive Opened (c : Corpus) (top : Loaded) : Frame → Prop
  | top : Opened c top (entry top)
  | enters {fr next : Frame} (opened : Opened c top fr) (enters : c.Enters fr next) : Opened c top next
  | back {fr : Frame} {ref : String} {d : Loaded} {fragment : String} (opened : Opened c top fr)
      (here : ref ∈ refsIn fr.value) (turn : c.turn fr.trail fr.here ref = .ok (.back d fragment)) :
      Opened c top (entry d)

/-- A reference that is met leads back to a key. -/
def Closes (c : Corpus) (top d : Loaded) (fragment : String) : Prop :=
  ∃ fr ref, c.Opened top fr ∧ ref ∈ refsIn fr.value ∧ c.turn fr.trail fr.here ref = .ok (.back d fragment)

/-- A reference that names no document of the corpus, or the pointer that a closing reference becomes. -/
def Remains (c : Corpus) (top : Loaded) (ref : String) : Prop :=
  (∃ d ∈ c.documents, c.resolve (some d) ref = none) ∨
    ∃ d fragment, c.Closes top d fragment ∧ ref = c.backPointer top d fragment

/-- A value of a document as the walk through that document comes to it. -/
def entryAt (d : Loaded) (v : Document) : Frame := ⟨[(d.identifier, "")], d, v⟩

variable {c : Corpus} {base : String} {top : Loaded}

theorem framed_entryAt {d : Loaded} {v : Document} {path : List String} (hd : d ∈ c.documents)
    (h : Json.Pointer.follow d.document path = .ok v) : c.Framed (entryAt d v) :=
  ⟨hd, fun _ hr => refsIn_of_follow h hr, by simp [entryAt], by simp [entryAt]⟩

theorem turn_back_loaded {fr : Frame} {ref fragment : String} {d : Loaded} (h : c.Framed fr)
    (ht : c.turn fr.trail fr.here ref = .ok (.back d fragment)) : d ∈ c.documents :=
  resolve_loaded h.loaded (turn_eq_back ht).1

theorem Opened.framed {fr : Frame} (htop : top ∈ c.documents) (h : c.Opened top fr) : c.Framed fr ∧ fr.Inside := by
  induction h with
  | top => exact ⟨framed_entry htop, inside_entry top⟩
  | enters _ he ih => exact ⟨ih.1.enters he, he.inside⟩
  | back _ _ ht ih => exact ⟨framed_entry (turn_back_loaded ih.1 ht), inside_entry _⟩

theorem Closes.loaded {d : Loaded} {fragment : String} (htop : top ∈ c.documents)
    (h : c.Closes top d fragment) : d ∈ c.documents := by
  obtain ⟨fr, ref, ho, _, ht⟩ := h
  exact turn_back_loaded (ho.framed htop).1 ht

theorem Closes.opened {d : Loaded} {fragment : String} (h : c.Closes top d fragment) : c.Opened top (entry d) := by
  obtain ⟨fr, ref, ho, hr, ht⟩ := h
  exact ho.back hr ht

theorem mem_backTargets {d : Loaded} {i : String} :
    i ∈ backTargets top d ↔ d.identifier ≠ top.identifier ∧ i = d.identifier := by
  unfold backTargets
  split <;> simp_all

theorem refsIn_keep {ref r : String} {siblings : Members String} (h : r ∈ refsIn (keep ref siblings)) :
    r = ref ∨ r ∈ refsInMembers siblings := by
  simpa [keep, refsIn, refOf?, Members.find?_cons, refsInMembers] using h

theorem refsIn_withSiblings {r : String} {siblings ms : Members String} (hs : siblings.find? "$ref" = none)
    (h : r ∈ refsIn (withSiblings siblings (.obj ms))) : r ∈ refsIn (.obj ms) ∨ r ∈ refsInMembers siblings := by
  rw [withSiblings, refsIn, List.mem_append] at h
  rcases h with h | h
  · have hm : refOf? ((ms.erase "$id").update siblings) = refOf? ms := by
      unfold refOf?
      rw [Members.find?_update_of_none hs, Members.find?_erase_ne (by decide)]
    rw [hm] at h
    exact Or.inl (List.mem_append_left _ h)
  · obtain ⟨m, hm, h⟩ := mem_refsInMembers.mp h
    rcases Members.mem_update hm with hm | hm
    · exact Or.inl (refsIn_member (Members.erase_sublist.subset hm) h)
    · exact Or.inr (mem_refsInMembers.mpr ⟨m, hm, h⟩)

section Linked

variable (hr : c.Registered base) (hl : c.Linked)

include hr hl

theorem closes_of_mem_returns {fr : Frame} (h : c.Framed fr) (hi : fr.Inside) (ho : c.Opened top fr) {i : String}
    (hmem : i ∈ c.returns top fr) :
    ∃ d ∈ c.documents, d.identifier = i ∧ d.identifier ≠ top.identifier ∧ ∃ fragment, c.Closes top d fragment := by
  induction h using Framed.induct with
  | step fr h ih =>
    obtain ⟨ref, href, hmem⟩ := (mem_returns top hr hl h hi).mp hmem
    unfold answerReturns at hmem
    split at hmem
    next d fragment v ht =>
      have he : c.Enters fr ⟨(d.identifier, fragment) :: fr.trail, d, v⟩ := .step href ht
      exact ih _ he he.inside (ho.enters he) hmem
    next d fragment ht =>
      obtain ⟨hne, rfl⟩ := mem_backTargets.mp hmem
      exact ⟨d, turn_back_loaded h ht, rfl, hne, fragment, fr, ref, ho, href, ht⟩
    next => simp at hmem

theorem opened_of_mem_returns {fr : Frame} (h : c.Framed fr) (hi : fr.Inside) (ho : c.Opened top fr) {i : String}
    (hmem : i ∈ c.returns top fr) :
    ∃ d ∈ c.documents, d.identifier = i ∧ d.identifier ≠ top.identifier ∧ c.Opened top (entry d) := by
  obtain ⟨d, hd, he, hne, fragment, hc⟩ := closes_of_mem_returns hr hl h hi ho hmem
  exact ⟨d, hd, he, hne, hc.opened⟩

/-- What a frame that is entered leads back into, the frame that enters it leads back into as well. -/
theorem returns_of_enters {fr next : Frame} (h : c.Framed fr) (hi : fr.Inside) (he : c.Enters fr next) {i : String}
    (hmem : i ∈ c.returns top next) : i ∈ c.returns top fr := by
  obtain ⟨href, ht⟩ := he
  refine (mem_returns top hr hl h hi).mpr ⟨_, href, ?_⟩
  simpa only [answerReturns, ht] using hmem

theorem returns_of_back {fr : Frame} {ref fragment : String} {d : Loaded} (h : c.Framed fr) (hi : fr.Inside)
    (href : ref ∈ refsIn fr.value) (ht : c.turn fr.trail fr.here ref = .ok (.back d fragment))
    (hne : d.identifier ≠ top.identifier) : d.identifier ∈ c.returns top fr := by
  refine (mem_returns top hr hl h hi).mpr ⟨_, href, ?_⟩
  simpa only [answerReturns, ht] using mem_backTargets.mpr ⟨hne, rfl⟩

theorem remains_of_mem_image {fr : Frame} (h : c.Framed fr) (hi : fr.Inside) (ho : c.Opened top fr) :
    ∀ ref ∈ refsIn (c.image top fr), c.Remains top ref := by
  induction h using Framed.induct with
  | step fr h ih =>
    intro ref hmem
    rw [image_eq_filled top hr hl h hi] at hmem
    refine refsIn_filled (P := c.Remains top) (fun r href siblings hs ref hmem => ?_) ref hmem
    rcases turn_cases hl fr.trail h.loaded (h.refs r href) with ⟨hres, ht⟩ | ⟨d, fragment, ms, _, _, _, ht⟩
    · rw [answer, ht] at hmem
      exact (refsIn_keep hmem).imp_left fun he => Or.inl ⟨fr.here, h.loaded, by rw [he, hres]⟩
    · split at ht
      next =>
        rw [answer, ht] at hmem
        exact (refsIn_keep hmem).imp_left fun he => Or.inr ⟨d, fragment, ⟨fr, r, ho, href, ht⟩, he⟩
      next =>
        rw [answer, ht] at hmem
        have he : c.Enters fr ⟨(d.identifier, fragment) :: fr.trail, d, .obj ms⟩ := .step href ht
        obtain ⟨ns, hns, _⟩ := image_obj top hr hl (h.enters he) he.inside rfl
        simp only [hns] at hmem
        exact (refsIn_withSiblings hs hmem).imp_left fun hmem => ih _ he he.inside (ho.enters he) ref (hns ▸ hmem)

variable (top) in
theorem image_bare (hb : c.Bare) {fr : Frame} {ms : Members String} (h : c.Framed fr) (hi : fr.Inside)
    (hv : fr.value = .obj ms) (hn : ms.find? defs = none) :
    ∃ ns : Members String, c.image top fr = .obj ns ∧ ns.find? defs = none := by
  induction h using Framed.induct generalizing ms with
  | step fr h ih =>
    have hs : (filledMembers (c.answer top fr.trail fr.here) ms).find? defs = none := by
      simp [find?_filledMembers, hn]
    have hk : ∀ ref : String, Members.find? defs (("$ref", Json.str ref) ::
        filledMembers (c.answer top fr.trail fr.here) ms) = none := by
      intro ref
      rw [Members.find?_cons, if_neg (by decide), hs]
    rw [image_eq_filled top hr hl h hi, hv, filled]
    cases href : refOf? ms with
    | none => exact ⟨_, rfl, hs⟩
    | some ref =>
      have hmem : ref ∈ refsIn fr.value := hv ▸ refsIn_self href
      rcases turn_cases hl fr.trail h.loaded (h.refs ref hmem) with ⟨_, ht⟩ | ⟨d, fragment, os, hres, _, hos, ht⟩
      · simp only [answer, ht]
        exact ⟨_, rfl, hk _⟩
      · split at ht
        next =>
          simp only [answer, ht]
          exact ⟨_, rfl, hk _⟩
        next =>
          have he : c.Enters fr ⟨(d.identifier, fragment) :: fr.trail, d, .obj os⟩ := .step hmem ht
          have ho := hb.targets fr.here h.loaded ref (h.refs ref hmem) d fragment os hres hos
          obtain ⟨ns, hns, hnone⟩ := ih _ he he.inside rfl ho
          simp only [answer, ht, hns]
          refine ⟨_, rfl, ?_⟩
          rw [Members.find?_update_of_none hs, Members.find?_erase_ne (by decide), hnone]

end Linked

/-- The members of an object. -/
def objectMembers : Document → Members String
  | .obj ms => ms
  | _ => []

/-- The definition that a document becomes, at its place. -/
def dereferencedDefinition (c : Corpus) (top d : Loaded) : List String × Members String :=
  (c.leafPath d, (objectMembers (c.image top (entry d))).erase "$id")

/-- Passes over pending documents so far: those done are defined, and all that their walks lead back into
is wanted. -/
structure Covered (c : Corpus) (top : Loaded) (done : List Loaded) (wanted : List String) (tree : Document) :
    Prop where
  loaded : ∀ d ∈ done, d ∈ c.documents
  opened : ∀ d ∈ done, c.Opened top (entry d)
  holds : Holds (done.map (c.dereferencedDefinition top)) tree
  wants : ∀ i ∈ wanted, ∃ d ∈ c.documents, d.identifier = i ∧ d.identifier ≠ top.identifier ∧
    c.Opened top (entry d)
  returns : ∀ d, d = top ∨ d ∈ done → ∀ i ∈ c.returns top (entry d), i ∈ wanted

section Defined

variable (hr : c.Registered base) (hcan : c.Canonical base) (hl : c.Linked) (hb : c.Bare)

include hr hl hb

variable (top) in
theorem image_entry {d : Loaded} (hd : d ∈ c.documents) :
    ∃ ns : Members String, c.image top (entry d) = .obj ns ∧ ns.find? defs = none :=
  image_bare top hr hl hb (framed_entry hd) (inside_entry d) rfl (hb.roots d hd)

include hcan in
/-- Defining documents that are not defined yet never fails, and each of them comes to its place. -/
theorem defineAll_holds (done todo : List Loaded) (tree : Document) (hdone : ∀ d ∈ done, d ∈ c.documents)
    (htodo : ∀ d ∈ todo, d ∈ c.documents) (hn : todo.Nodup) (hnew : ∀ d ∈ todo, d ∉ done)
    (h : Holds (done.map (c.dereferencedDefinition top)) tree) :
    ∃ next found, c.defineAll top tree todo = .ok (next, found) ∧
      Holds ((done ++ todo).map (c.dereferencedDefinition top)) next ∧
      ∀ i, i ∈ found ↔ ∃ d ∈ todo, i ∈ c.returns top (entry d) := by
  induction todo generalizing done tree with
  | nil => exact ⟨tree, [], rfl, by simpa using h, by simp⟩
  | cons d rest ih =>
    have hd := htodo d (by simp)
    obtain ⟨ns, hns, hnone⟩ := image_entry top hr hl hb hd
    have hw : c.inlinedDocument top d = .ok (.obj ns, c.returns top (entry d)) := by
      rw [inlinedDocument_eq_walk hd, walk_eq_image top hr hl (framed_entry hd) (inside_entry d), hns]
    have hv : (ns.erase "$id").find? defs = none := by
      rw [Members.find?_erase_ne (by decide), hnone]
    have he : (objectMembers (c.image top (entry d))).erase "$id" = ns.erase "$id" := by rw [hns, objectMembers]
    obtain ⟨mid, hplace, hmid⟩ := h.define hr hcan hdone hd (hnew d (by simp)) (he ▸ hv)
    rw [he] at hplace
    obtain ⟨next, found, hrest, hnext, hf⟩ := ih (d :: done) mid
      (fun e hmem => (List.mem_cons.mp hmem).elim (fun h => h ▸ hd) (hdone e))
      (fun e hmem => htodo e (by simp [hmem])) (List.nodup_cons.mp hn).2
      (fun e hmem hin => (List.mem_cons.mp hin).elim
        (fun h => (List.nodup_cons.mp hn).1 (h ▸ hmem)) (hnew e (by simp [hmem]))) hmid
    refine ⟨next, c.returns top (entry d) ++ found, ?_, ?_, fun i => ?_⟩
    · have hlift : Inlining.lift ((place (ns.erase "$id") (c.leafPath d) tree).mapError BundleFailure.fault) =
          Inlining.lift (.ok mid) := by rw [hplace]; rfl
      rw [defineAll]
      refine Inlining.bind_of_ok hw ?_
      rw [withoutId, Inlining.lift_ok_bind, hlift, Inlining.lift_ok_bind]
      exact hrest
    · refine hnext.of_mem_iff fun e => ?_
      simp only [List.mem_map, List.mem_append, List.mem_cons]
      grind
    · simp [hf]

include hcan in
theorem Covered.pass (htop : top ∈ c.documents) {done : List Loaded} {wanted : List String} {tree : Document}
    (h : c.Covered top done wanted tree) :
    ∃ next found, c.defineAll top tree (c.pending (done.map (·.identifier)) wanted) = .ok (next, found) ∧
      c.Covered top (done ++ c.pending (done.map (·.identifier)) wanted) (wanted ++ found) next := by
  have hpend : ∀ d ∈ c.pending (done.map (·.identifier)) wanted,
      d ∈ c.documents ∧ d.identifier ∈ wanted ∧ d ∉ done := by
    intro d hd
    obtain ⟨hmem, hp⟩ := List.mem_filter.mp hd
    simp only [Bool.and_eq_true, List.contains_iff_mem, Bool.not_eq_true', ← Bool.not_eq_true] at hp
    exact ⟨hmem, hp.1, fun hin => hp.2 (List.mem_map_of_mem hin)⟩
  have hn : (c.pending (done.map (·.identifier)) wanted).Nodup := (List.Nodup.of_map _ hr.nodup).filter _
  obtain ⟨next, found, hdef, hholds, hf⟩ := defineAll_holds hr hcan hl hb done _ tree h.loaded (fun d hd => (hpend d hd).1) hn
    (fun d hd => (hpend d hd).2.2) h.holds
  have hopen : ∀ d ∈ c.pending (done.map (·.identifier)) wanted, c.Opened top (entry d) := by
    intro d hd
    obtain ⟨e, he, hi, _, ho⟩ := h.wants _ (hpend d hd).2.1
    exact hr.ext he (hpend d hd).1 hi ▸ ho
  refine ⟨next, found, hdef, fun d hd => ?_, fun d hd => ?_, hholds, fun i hi => ?_, fun d hd i hi => ?_⟩
  · exact (List.mem_append.mp hd).elim (h.loaded d) fun hd => (hpend d hd).1
  · exact (List.mem_append.mp hd).elim (h.opened d) (hopen d)
  · rcases List.mem_append.mp hi with hi | hi
    · exact h.wants i hi
    · obtain ⟨d, hd, hi⟩ := (hf i).mp hi
      have ho := hopen d hd
      exact opened_of_mem_returns hr hl (ho.framed htop).1 (inside_entry d) ho hi
  · rw [List.mem_append] at hd
    rcases hd with rfl | hd | hd
    · exact List.mem_append_left _ (h.returns d (Or.inl rfl) i hi)
    · exact List.mem_append_left _ (h.returns d (Or.inr hd) i hi)
    · exact List.mem_append_right _ ((hf i).mpr ⟨d, hd, hi⟩)

include hcan in
/-- The passes come to an end at which nothing is wanted that is not defined. -/
theorem Covered.completes (htop : top ∈ c.documents) (done : List Loaded) {wanted : List String} {tree : Document}
    {order : List Loaded} {result : Except BundleFailure Document}
    (hc : c.Completes top (done.map (·.identifier)) wanted tree order result) (h : c.Covered top done wanted tree) :
    ∃ all needed last, result = .ok last ∧ c.Covered top all needed last ∧
      c.pending (all.map (·.identifier)) needed = [] := by
  generalize hids : done.map (·.identifier) = ids at hc
  induction hc generalizing done with
  | rest hnone =>
    rw [← hids] at hnone
    exact ⟨done, _, _, rfl, h, hnone⟩
  | fail _ herr =>
    rw [← hids] at herr
    obtain ⟨next, found, hok, _⟩ := h.pass hr hcan hl hb htop
    cases herr.symm.trans hok
  | pass _ hpass _ ih =>
    rw [← hids] at hpass
    obtain ⟨next, found, hok, hnext⟩ := h.pass hr hcan hl hb htop
    cases hpass.symm.trans hok
    exact ih _ hnext (by rw [List.map_append, ← hids])

end Defined

end NoteSchema.Corpus
