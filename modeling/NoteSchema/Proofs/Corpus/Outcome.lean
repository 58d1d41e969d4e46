import NoteSchema.Proofs.Corpus.Clearance
import NoteSchema.Proofs.Corpus.Closing
import NoteSchema.Proofs.Corpus.Unordered

namespace NoteSchema.Corpus

namespace Inlining

variable {α β : Type}

/-- A computation gives a value of a kind and leads back only where it may, or it ends in a fault that has a cause. -/
def Settles (R : α → Prop) (Q : String → Prop) (cause : Prop) (x : Inlining α) : Prop :=
  (∃ a found, x = .ok (a, found) ∧ R a ∧ ∀ i ∈ found, Q i) ∨ (∃ f, x = .error (.fault f)) ∧ cause

variable {R : α → Prop} {S : β → Prop} {Q : String → Prop} {cause : Prop}
variable {x : Inlining α} {f : α → Inlining β}

theorem Settles.pure {a : α} (h : R a) : Settles R Q cause (Pure.pure a) := Or.inl ⟨a, [], rfl, h, by simp⟩

theorem Settles.fault (f : Fault) (h : cause) : Settles R Q cause (.error (.fault f)) := Or.inr ⟨⟨f, rfl⟩, h⟩

theorem Settles.bind (h : Settles R Q cause x) (hf : ∀ a, R a → Settles S Q cause (f a)) :
    Settles S Q cause (x >>= f) := by
  rcases h with ⟨a, found, hx, ha, hfound⟩ | ⟨⟨e, he⟩, hcause⟩
  · rcases hf a ha with ⟨b, more, hb, hS, hmore⟩ | ⟨⟨e, he⟩, hcause⟩
    · refine Or.inl ⟨b, found ++ more, bind_of_ok hx hb, hS, fun i hi => ?_⟩
      exact (List.mem_append.mp hi).elim (hfound i) (hmore i)
    · refine Or.inr ⟨⟨e, ?_⟩, hcause⟩
      rw [bind_def, hx, Inlining.bind, he]
  · exact Or.inr ⟨⟨e, bind_of_error f he⟩, hcause⟩

theorem composes_settles : Composes fun _ x => Settles (fun _ => True) Q cause x where
  pure _ := .pure trivial
  bind h hf := h.bind fun a _ => hf a

/-- Of the value of a computation it is known that the computation gives it. -/
theorem Settles.self (h : Settles R Q cause x) : Settles (fun a => ∃ found, x = .ok (a, found)) Q cause x := by
  rcases h with ⟨a, found, hx, _, hfound⟩ | hfault
  · exact Or.inl ⟨a, found, hx, ⟨found, hx⟩, hfound⟩
  · exact Or.inr hfault

theorem Settles.because {cause' : Prop} (h : Settles R Q cause x) (hc : cause → cause') : Settles R Q cause' x :=
  h.imp_right fun ⟨hfault, hcause⟩ => ⟨hfault, hc hcause⟩

end Inlining

open Inlining (Settles)

variable {c : Corpus} {base : String} {top : Loaded}

/-- A reference leads back into a document besides the top one. -/
def Revisits (c : Corpus) (top d : Loaded) : Prop :=
  d.identifier ≠ top.identifier ∧ ∃ fragment, c.Closes top d fragment

/-- A reference that is met has a token that looks like an index of a list but names no number. -/
def Misread (c : Corpus) (top : Loaded) : Prop :=
  ∃ fr ref d fragment token, c.Opened top fr ∧ ref ∈ refsIn fr.value ∧
    c.resolve (some fr.here) ref = some (d, fragment) ∧
      Json.Pointer.resolve d.document fragment = .error (.badIndex token)

/-- The value of a frame comes to no object: it is none, or it is replaced by a value that comes to none. -/
inductive EndsBare (c : Corpus) : Frame → Prop
  | value {fr : Frame} (plain : fr.value.isObject = false) : EndsBare c fr
  | reference {fr : Frame} {ms : Members String} {ref : String} {d : Loaded} {fragment : String} {v : Document}
      (value : fr.value = .obj ms) (refers : refOf? ms = some ref)
      (turn : c.turn fr.trail fr.here ref = .ok (.inline d fragment v))
      (ends : EndsBare c ⟨(d.identifier, fragment) :: fr.trail, d, v⟩) : EndsBare c fr

/-- The definition that a document becomes once its references are replaced, at its place. -/
def inlinedDefinition (c : Corpus) (top d : Loaded) : List String × Members String :=
  match c.inlinedDocument top d with
  | .ok (.obj ms, _) => (c.leafPath d, Members.erase "$id" ms)
  | _ => (c.leafPath d, [])

/-- Why a document cannot be made of a corpus by replacing references. -/
inductive Misfit (c : Corpus) (top : Loaded) : Prop
  | misread (index : c.Misread top)
  | bare {d : Loaded} (back : c.Revisits top d) (ends : c.EndsBare (entry d))
  | crossed {d e : Loaded} (first : c.Revisits top d) (second : c.Revisits top e) (apart : d ≠ e)
      (crosses : ¬ Admits (c.inlinedDefinition top d) (c.inlinedDefinition top e))
  | definitions {d : Loaded} {ms : Members String} {found : List String} (back : c.Revisits top d)
      (root : c.inlinedDocument top top = .ok (.obj ms, found)) (undivided : ¬ Divided ms)

theorem turn_eq_error {trail : List Key} {here : Loaded} {ref : String} {e : BundleFailure}
    (h : c.turn trail here ref = .error e) : e = .fault .value ∧ ∃ d fragment token,
      c.resolve (some here) ref = some (d, fragment) ∧
        Json.Pointer.resolve d.document fragment = .error (.badIndex token) := by
  unfold turn at h
  split at h
  next => cases h
  next d fragment hres =>
    split at h
    next => cases h
    next token htoken =>
      cases h
      exact ⟨rfl, d, fragment, token, hres, htoken⟩
    next => cases h

/-- A walk gives a value, unless it meets a token that is misread. -/
theorem walk_settles {fr : Frame} (h : c.Framed fr) (ho : c.Opened top fr) :
    Settles (fun _ => True) (fun i => ∃ d, d.identifier = i ∧ c.Revisits top d) (c.Misread top)
      (c.walk top fr) := by
  induction h using Framed.induct with
  | step fr h ih =>
    rw [walk_eq h]
    refine expand_composes Inlining.composes_settles fun ref href siblings => ?_
    cases hturn : c.turn fr.trail fr.here ref with
    | error e =>
      obtain ⟨rfl, d, fragment, token, hres, htoken⟩ := turn_eq_error hturn
      rw [replaced_error hturn]
      exact .fault .value ⟨fr, ref, d, fragment, token, ho, href, hres, htoken⟩
    | ok t =>
      cases t with
      | stay =>
        rw [replaced_stay hturn]
        exact .pure trivial
      | back d fragment =>
        rw [replaced_back hturn]
        refine Or.inl ⟨_, _, rfl, trivial, fun i hi => ?_⟩
        obtain ⟨hne, rfl⟩ := mem_backTargets.mp hi
        exact ⟨d, rfl, hne, fragment, fr, ref, ho, href, hturn⟩
      | inline d fragment v =>
        rw [replaced_inline hturn]
        have enters : c.Enters fr ⟨(d.identifier, fragment) :: fr.trail, d, v⟩ := .step href hturn
        exact (ih _ enters (ho.enters enters)).bind fun w _ => .pure trivial

theorem Revisits.loaded {d : Loaded} (htop : top ∈ c.documents) (h : c.Revisits top d) : d ∈ c.documents := by
  obtain ⟨_, fragment, hcloses⟩ := h
  exact hcloses.loaded htop

theorem inlinedDocument_settles {d : Loaded} (hd : d ∈ c.documents) (ho : c.Opened top (entry d)) :
    Settles (fun v => ∃ found, c.inlinedDocument top d = .ok (v, found))
      (fun i => ∃ e, e.identifier = i ∧ c.Revisits top e) (c.Misread top) (c.inlinedDocument top d) := by
  have hwalk := walk_settles (framed_entry hd) ho
  rw [← inlinedDocument_eq_walk hd] at hwalk
  exact hwalk.self

theorem isObject_withSiblings (siblings : Members String) (v : Document) :
    (withSiblings siblings v).isObject = v.isObject := by
  cases v <;> rfl

theorem endsBare_obj {fr : Frame} {ms : Members String} (hvalue : fr.value = .obj ms) :
    c.EndsBare fr ↔ ∃ ref d fragment v, refOf? ms = some ref ∧
      c.turn fr.trail fr.here ref = .ok (.inline d fragment v) ∧
        c.EndsBare ⟨(d.identifier, fragment) :: fr.trail, d, v⟩ := by
  constructor
  · intro h
    cases h with
    | value plain =>
      rw [hvalue] at plain
      cases plain
    | reference value refers turn ends =>
      cases hvalue.symm.trans value
      exact ⟨_, _, _, _, refers, turn, ends⟩
  · rintro ⟨ref, d, fragment, v, refers, turn, ends⟩
    exact .reference hvalue refers turn ends

/-- A walk comes to no object exactly if it ends bare. -/
theorem endsBare_iff {fr : Frame} (h : c.Framed fr) {v : Document} {found : List String}
    (hwalk : c.walk top fr = .ok (v, found)) : v.isObject = false ↔ c.EndsBare fr := by
  induction h using Framed.induct generalizing v found with
  | step fr h ih =>
    rw [walk_eq h] at hwalk
    cases hvalue : fr.value with
    | obj ms =>
      rw [hvalue, expand] at hwalk
      rw [endsBare_obj hvalue]
      obtain ⟨siblings, _, _, _, hanswer, _⟩ := Inlining.bind_eq_ok hwalk
      cases href : refOf? ms with
      | none =>
        rw [href] at hanswer
        cases hanswer
        simp [Json.isObject]
      | some ref =>
        simp only [href] at hanswer
        have hmem : ref ∈ refsIn fr.value := hvalue ▸ refsIn_self href
        cases hturn : c.turn fr.trail fr.here ref with
        | error e =>
          rw [replaced_error hturn] at hanswer
          cases hanswer
        | ok t =>
          cases t with
          | stay =>
            rw [replaced_stay hturn] at hanswer
            cases hanswer
            simp [hturn, keep, Json.isObject]
          | back d fragment =>
            rw [replaced_back hturn] at hanswer
            cases hanswer
            simp [hturn, keep, Json.isObject]
          | inline d fragment w =>
            rw [replaced_inline hturn] at hanswer
            obtain ⟨u, _, _, hu, hpure, _⟩ := Inlining.bind_eq_ok hanswer
            cases hpure
            have enters : c.Enters fr ⟨(d.identifier, fragment) :: fr.trail, d, w⟩ := .step hmem hturn
            rw [isObject_withSiblings, ih _ enters hu]
            simp [hturn]
    | _ =>
      have hplain : fr.value.isObject = false := by rw [hvalue]; rfl
      exact iff_of_true (isObject_of_expand hplain hwalk) (.value hplain)

/-- The ways of the documents that are revisited and not defined yet are clear, unless something is amiss. -/
def Open (c : Corpus) (top : Loaded) (done : List String) (tree : Document) : Prop :=
  ¬ c.Misfit top → ∀ d, c.Revisits top d → d.identifier ∉ done →
    Clear (c.inlinedDefinition top d).2 (c.leafPath d) tree

theorem withoutId_settles {d : Loaded} {v : Document} {found : List String} {Q : String → Prop}
    (hd : d ∈ c.documents) (hback : c.Revisits top d) (hv : c.inlinedDocument top d = .ok (v, found)) :
    Settles (fun body => c.inlinedDefinition top d = (c.leafPath d, body)) Q (c.Misfit top)
      (Inlining.lift (withoutId v)) := by
  cases hobject : v.isObject with
  | true =>
    cases v with
    | obj ms => exact .pure (by rw [inlinedDefinition, hv])
    | _ => cases hobject
  | false =>
    have hbare : c.Misfit top := by
      rw [inlinedDocument_eq_walk hd] at hv
      exact .bare hback ((endsBare_iff (framed_entry hd) hv).mp hobject)
    cases v with
    | obj ms => cases hobject
    | _ => exact .fault _ hbare

theorem inlinedDefinition_fst (d : Loaded) : (c.inlinedDefinition top d).1 = c.leafPath d := by
  unfold inlinedDefinition
  split <;> rfl

/-- Of documents that are revisited neither gets in the way of the other, unless something is amiss. -/
theorem admits_of_not_misfit (hfit : ¬ c.Misfit top) {d e : Loaded} (hd : c.Revisits top d) (he : c.Revisits top e)
    (hne : d ≠ e) : Admits (c.inlinedDefinition top d) (c.inlinedDefinition top e) :=
  Classical.byContradiction fun hcross => hfit (.crossed hd he hne hcross)

theorem Open.define {done : List String} {tree : Document} {d : Loaded} {body : Members String} {Q : String → Prop}
    (htop : top ∈ c.documents) (h : c.Open top done tree) (hback : c.Revisits top d) (hnew : d.identifier ∉ done)
    (hbody : c.inlinedDefinition top d = (c.leafPath d, body)) :
    Settles (c.Open top (done ++ [d.identifier])) Q (c.Misfit top)
      (Inlining.lift ((place body (c.leafPath d) tree).mapError .fault)) := by
  have hpath : ∀ {e : Loaded}, c.Revisits top e → c.leafPath e ≠ [] := fun he => leafPath_ne_nil (he.loaded htop)
  cases hplace : place body (c.leafPath d) tree with
  | error f =>
    refine .fault f (Classical.byContradiction fun hfit => ?_)
    have hclear := h hfit d hback hnew
    rw [hbody] at hclear
    obtain ⟨next, hnext⟩ := exists_place (hpath hback) hclear
    cases hplace.symm.trans hnext
  | ok next =>
    refine .pure fun hfit e he hlater => ?_
    rw [List.mem_append, List.mem_singleton, not_or] at hlater
    have hne : d ≠ e := by
      rintro rfl
      exact hlater.2 rfl
    have hxy := admits_of_not_misfit hfit hback he hne
    have hyx := admits_of_not_misfit hfit he hback hne.symm
    have hclear := h hfit e he hlater.1
    have hplaced : (c.inlinedDefinition top e).1 = c.leafPath e := inlinedDefinition_fst e
    rw [← hplaced] at hclear ⊢
    refine hclear.admitted ?_ (x := c.inlinedDefinition top d) ?_ hxy hyx
    · rw [hplaced]
      exact hpath he
    · rw [hbody]
      exact hplace

/-- Documents that are revisited are defined, unless something is amiss. -/
theorem defineAll_settles (htop : top ∈ c.documents) {ds : List Loaded} {done : List String} {tree : Document}
    (hback : ∀ d ∈ ds, c.Revisits top d) (hnodup : (ds.map (·.identifier)).Nodup)
    (hnew : ∀ d ∈ ds, d.identifier ∉ done) (h : c.Open top done tree) :
    Settles (c.Open top (done ++ ds.map (·.identifier))) (fun i => ∃ d, d.identifier = i ∧ c.Revisits top d)
      (c.Misfit top) (c.defineAll top tree ds) := by
  induction ds generalizing done tree with
  | nil =>
    rw [List.map_nil, List.append_nil]
    exact .pure h
  | cons d rest ih =>
    obtain ⟨hfirst, hrest⟩ := List.nodup_cons.mp hnodup
    have hd := hback d List.mem_cons_self
    have hloaded := hd.loaded htop
    have hopened : c.Opened top (entry d) := by
      obtain ⟨_, _, hcloses⟩ := hd
      exact hcloses.opened
    rw [defineAll]
    refine ((inlinedDocument_settles hloaded hopened).because .misread).bind fun v hv => ?_
    obtain ⟨found, hv⟩ := hv
    refine (withoutId_settles hloaded hd hv).bind fun body hbody => ?_
    refine (h.define htop hd (hnew d List.mem_cons_self) hbody).bind fun next hnext => ?_
    have hlater : ∀ e ∈ rest, e.identifier ∉ done ++ [d.identifier] := by
      intro e he hmem
      rcases List.mem_append.mp hmem with hmem | hmem
      · exact hnew e (List.mem_cons_of_mem d he) hmem
      · rw [List.mem_singleton] at hmem
        exact hfirst (List.mem_map.mpr ⟨e, he, hmem⟩)
    have hdefined := ih (fun e he => hback e (List.mem_cons_of_mem d he)) hrest hlater hnext
    rwa [List.append_assoc] at hdefined

/-- The rounds of definitions come to an end, unless something is amiss. -/
theorem rounds_cases (hr : c.Registered base) (htop : top ∈ c.documents) (n : Nat) {done wanted : List String}
    {tree : Document} (hwanted : ∀ i ∈ wanted, ∃ d, d.identifier = i ∧ c.Revisits top d) (h : c.Open top done tree) :
    (∃ last, c.rounds top n done wanted tree = .ok last) ∨
      ∃ f, c.rounds top n done wanted tree = .error (.fault f) ∧ c.Misfit top := by
  induction n generalizing done wanted tree with
  | zero => exact Or.inl ⟨tree, rfl⟩
  | succ n ih =>
    by_cases hnone : c.pending done wanted = []
    · exact Or.inl ⟨tree, rounds_of_pending_eq_nil _ hnone⟩
    · have hpending : ∀ d ∈ c.pending done wanted, c.Revisits top d ∧ d.identifier ∉ done := by
        intro d hd
        obtain ⟨hloaded, hflags⟩ := List.mem_filter.mp hd
        simp only [Bool.and_eq_true, List.contains_iff_mem, Bool.not_eq_true', ← Bool.not_eq_true] at hflags
        obtain ⟨e, he, hback⟩ := hwanted _ hflags.1
        obtain rfl := hr.ext (hback.loaded htop) hloaded he
        exact ⟨hback, hflags.2⟩
      have hnodup : ((c.pending done wanted).map (·.identifier)).Nodup :=
        hr.nodup.sublist (List.filter_sublist.map _)
      rw [rounds_succ n hnone]
      rcases defineAll_settles htop (fun d hd => (hpending d hd).1) hnodup (fun d hd => (hpending d hd).2) h with
        ⟨next, found, hpass, hopen, hfound⟩ | ⟨⟨f, hpass⟩, hmisfit⟩
      · rw [hpass]
        refine ih (fun i hi => ?_) hopen
        exact (List.mem_append.mp hi).elim (hwanted i) (hfound i)
      · rw [hpass]
        exact Or.inr ⟨f, rfl, hmisfit⟩

theorem addDefinitions_cases (definitions : Members String) (own : Document) :
    (∃ v, addDefinitions definitions own = .ok v) ∨
      ∃ f, addDefinitions definitions own = .error (.fault f) ∧ own.isObject = false := by
  unfold addDefinitions
  split
  next => exact Or.inl ⟨_, rfl⟩
  next =>
    split
    · exact Or.inl ⟨_, rfl⟩
    · exact Or.inr ⟨_, rfl, rfl⟩
  next =>
    split
    · exact Or.inl ⟨_, rfl⟩
    · exact Or.inr ⟨_, rfl, rfl⟩
  next hobj _ _ =>
    refine Or.inr ⟨_, rfl, ?_⟩
    cases own with
    | obj ms => exact absurd rfl (hobj ms)
    | _ => rfl

/-- Definitions are added to a document, unless it has some that are no object. -/
theorem withDefinitions_cases (members : Members String) (tree : Document) :
    (∃ ms, withDefinitions members tree = .ok ms) ∨
      ∃ f, withDefinitions members tree = .error (.fault f) ∧ ¬ Divided members := by
  cases tree with
  | obj ts =>
    rw [withDefinitions_obj]
    split
    next ds _ =>
      rcases addDefinitions_cases ds ((members.find? defs).getD (.obj [])) with ⟨own, hown⟩ | ⟨f, hown, hplain⟩
      · rw [hown]
        exact Or.inl ⟨_, rfl⟩
      · rw [hown]
        refine Or.inr ⟨f, rfl, fun hdivided => ?_⟩
        rw [definitions_eq_obj.mpr ⟨hdivided, rfl⟩] at hplain
        cases hplain
    next => exact Or.inl ⟨_, rfl⟩
  | _ => exact Or.inl ⟨_, rfl⟩

/-- The top document is made without references, or it ends bare, or something is amiss. -/
theorem dereferenced_cases (hr : c.Registered base) (htop : top ∈ c.documents) :
    (∃ v, c.dereferenced top = .ok v) ∨
      (c.EndsBare (entry top) ∧ c.dereferenced top = .error (.notObject top.identifier)) ∨
      ∃ f, c.dereferenced top = .error (.fault f) ∧ c.Misfit top := by
  rcases inlinedDocument_settles htop .top with ⟨v, found, hv, _, hfound⟩ | ⟨⟨f, hf⟩, hmisread⟩
  · cases hobject : v.isObject with
    | false =>
      have hbare : c.EndsBare (entry top) := by
        rw [inlinedDocument_eq_walk htop] at hv
        exact (endsBare_iff (framed_entry htop) hv).mp hobject
      refine Or.inr (Or.inl ⟨hbare, ?_⟩)
      unfold dereferenced
      rw [hv]
      cases v with
      | obj ms => cases hobject
      | _ => rfl
    | true =>
      obtain ⟨ms, rfl⟩ : ∃ ms : Members String, v = .obj ms := by
        cases v with
        | obj ms => exact ⟨ms, rfl⟩
        | _ => cases hobject
      by_cases hnone : found = []
      · subst hnone
        exact Or.inl ⟨_, dereferenced_of_inlinedDocument hv⟩
      · obtain ⟨i, hi⟩ := List.exists_mem_of_ne_nil found hnone
        obtain ⟨d, _, hback⟩ := hfound i hi
        have hempty : c.Open top [] (.obj []) := fun _ e he _ => clear_empty (leafPath_ne_nil (he.loaded htop))
        unfold dereferenced
        rw [hv]
        rcases rounds_cases hr htop c.documents.length hfound hempty with ⟨tree, htree⟩ | ⟨f, htree, hmisfit⟩
        · simp only [bind, Except.bind, htree]
          rcases withDefinitions_cases ms tree with ⟨ns, hns⟩ | ⟨f, hns, hundivided⟩
          · rw [hns]
            exact Or.inl ⟨_, rfl⟩
          · rw [hns]
            exact Or.inr (Or.inr ⟨f, rfl, .definitions hback hv hundivided⟩)
        · simp only [bind, Except.bind, htree]
          exact Or.inr (Or.inr ⟨f, rfl, hmisfit⟩)
  · unfold dereferenced
    rw [hf]
    exact Or.inr (Or.inr ⟨f, rfl, .misread hmisread⟩)

/-- A corpus of bodies fails to give a document for what its documents say: it is empty, or the top document ends bare;
any other failure is a fault, which for a bundle comes from documents that get in each other's way, and for a document
without references from something that is amiss with them. -/
theorem failures_have_causes {bodies : List Document} (hbodies : ∀ b ∈ bodies, b.Distinct)
    (h : ofBodies base bodies = .ok c) (dialect : Document) (name : String) :
    ((∃ bundle, c.bundle dialect name = .ok bundle) ∨
      (c.documents = [] ∧ c.bundle dialect name = .error .empty) ∨
      ∃ f, c.bundle dialect name = .error (.fault f) ∧ c.Crossed) ∧
    ((∃ v, c.dereference name = .ok v) ∨
      (c.documents = [] ∧ c.dereference name = .error .empty) ∨
      ∃ top, c.top name = .ok top ∧
        ((c.EndsBare (entry top) ∧ c.dereference name = .error (.notObject top.identifier)) ∨
          ∃ f, c.dereference name = .error (.fault f) ∧ c.Misfit top)) := by
  have hr : c.Registered base := registered_ofBodies hbodies h
  refine ⟨bundle_cases hr dialect name, ?_⟩
  unfold dereference
  cases htop : c.top name with
  | error e =>
    obtain ⟨rfl, hnone⟩ := top_eq_error htop
    exact Or.inr (Or.inl ⟨hnone, rfl⟩)
  | ok top =>
    rcases dereferenced_cases hr (top_mem htop) with hok | hfails
    · exact Or.inl hok
    · exact Or.inr (Or.inr ⟨top, rfl, hfails⟩)

/-- A document with a definition that is no object, and a document below it. -/
def flaggedBodies (name : String) : List Document :=
  [.obj (drawn "A" [(defs, .obj [("B", .bool true)])]), .obj (drawn ("A/" ++ name) [])]

def loadedFlagged (name : String) : Corpus where
  documents := [drawnDocument [] "A" [(defs, .obj [("B", .bool true)])], drawnDocument ["A"] name []]

theorem ofBodies_flagged :
    ofBodies "https://example.org/schemas/" (flaggedBodies "B") = .ok (loadedFlagged "B") ∧
      ofBodies "https://example.org/schemas/" (flaggedBodies "C") = .ok (loadedFlagged "C") := by
  have hltB : (drawnDocument [] "A" [(defs, .obj [("B", .bool true)])]).identifier <
      (drawnDocument ["A"] "B" []).identifier := by decide
  have hltC : (drawnDocument [] "A" [(defs, .obj [("B", .bool true)])]).identifier <
      (drawnDocument ["A"] "C" []).identifier := by decide
  exact ⟨congrArg (fun ds => Except.ok (Corpus.mk ds [])) (inOrder_of_lt hltB),
    congrArg (fun ds => Except.ok (Corpus.mk ds [])) (inOrder_of_lt hltC)⟩

/-- A definition that is no object is in the way of nothing that lies beside it. -/
theorem flagged_not_crossed : ¬ (loadedFlagged "C").Crossed := by
  have hown : (loadedFlagged "C").leafPath (drawnDocument [] "A" [(defs, .obj [("B", .bool true)])]) =
      ["core", "A"] := by decide
  have hbelow : (loadedFlagged "C").leafPath (drawnDocument ["A"] "C" []) = ["core", "A", "C"] := by decide
  rintro ⟨d, hd, e, he, hne, hcross⟩
  refine hcross fun rest hrest => ?_
  rcases List.mem_pair.mp hd with rfl | rfl
  · rcases List.mem_pair.mp he with rfl | rfl
    · exact absurd rfl hne
    · obtain rfl : rest = ["C"] := by simpa [placed, hown, hbelow] using hrest.symm
      refine ⟨⟨_, rfl, Or.inr ⟨[("B", .bool true)], rfl⟩⟩, fun w hw => ?_⟩
      cases hw
  · rcases List.mem_pair.mp he with rfl | rfl
    · simp [placed, hown, hbelow] at hrest
    · exact absurd rfl hne

theorem flagged_bundled : (∀ b ∈ flaggedBodies "C", b.Distinct) ∧
    ofBodies "https://example.org/schemas/" (flaggedBodies "C") = .ok (loadedFlagged "C") ∧
      ∃ bundle, (loadedFlagged "C").bundle .null "A" = .ok bundle := by
  have hbodies : ∀ b ∈ flaggedBodies "C", b.Distinct := by decide
  have hc := ofBodies_flagged.2
  refine ⟨hbodies, hc, ?_⟩
  rcases (failures_have_causes hbodies hc .null "A").1 with hbundle | ⟨hnone, _⟩ | ⟨_, _, hcrossed⟩
  · exact hbundle
  · cases hnone
  · exact absurd hcrossed flagged_not_crossed

/-- A document that refers to the other one. -/
def gridMembers : Members String :=
  [("rows", .obj [("$ref", .str "https://example.org/schemas/core/Row.schema.json")])]

/-- A document that is replaced by the list of its cells, one of which refers to the document again. -/
def rowMembers : Members String :=
  [("$ref", .str "#/cells"),
    ("cells", .arr [.obj [("$ref", .str "https://example.org/schemas/core/Row.schema.json")]])]

/-- A document with a reference to an item of a list whose index is a superscript. -/
def squareMembers : Members String := [("side", .obj [("$ref", .str "#/sides/²")]), ("sides", .arr [.null])]

theorem ofBodies_grid :
    ofBodies "https://example.org/schemas/" [.obj (drawn "Grid" gridMembers), .obj (drawn "Row" rowMembers)] =
      .ok ⟨[drawnDocument [] "Grid" gridMembers, drawnDocument [] "Row" rowMembers], []⟩ := by
  have hlt : (drawnDocument [] "Grid" gridMembers).identifier < (drawnDocument [] "Row" rowMembers).identifier := by
    decide
  exact congrArg (fun ds => Except.ok (Corpus.mk ds [])) (inOrder_of_lt hlt)

theorem ofBodies_square : ofBodies "https://example.org/schemas/" [.obj (drawn "Square" squareMembers)] =
    .ok ⟨[drawnDocument [] "Square" squareMembers], []⟩ :=
  congrArg (fun ds => Except.ok (Corpus.mk ds [])) (List.mergeSort_singleton _)

/-- A definition in the way of another document, a document led back into that comes to a list, and a token that is a
digit but no number end in faults. -/
theorem faults_reached :
    (∃ c, ofBodies "https://example.org/schemas/" (flaggedBodies "B") = .ok c ∧
      c.bundle .null "A" = .error (.fault .operation)) ∧
    (∃ c, ofBodies "https://example.org/schemas/"
        [.obj (drawn "Grid" gridMembers), .obj (drawn "Row" rowMembers)] = .ok c ∧
      c.dereference "Grid" = .error (.fault .kind)) ∧
    ∃ c, ofBodies "https://example.org/schemas/" [.obj (drawn "Square" squareMembers)] = .ok c ∧
      c.dereference "Square" = .error (.fault .value) :=
  ⟨⟨_, ofBodies_flagged.1, rfl⟩, ⟨_, ofBodies_grid, by decide +kernel⟩, ⟨_, ofBodies_square, by decide⟩⟩

end NoteSchema.Corpus
