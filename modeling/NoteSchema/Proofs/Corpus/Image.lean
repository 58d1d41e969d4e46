import NoteSchema.Proofs.Corpus.Filling
import NoteSchema.Proofs.Corpus.Frame
import NoteSchema.Proofs.Corpus.Registered

namespace NoteSchema.Corpus

open Json (Distinct)

/-- Every reference is a text. It names no document of the corpus, or what it addresses there is an
object. -/
structure Linked (c : Corpus) : Prop where
  texts : ∀ d ∈ c.documents, TextRefs d.document
  rooted : ∀ d ∈ c.documents, ∀ ref ∈ refsIn d.document, ∀ t fragment,
    c.resolve (some d) ref = some (t, fragment) →
      Json.Pointer.Rooted fragment ∧ ∃ ms, Json.Pointer.resolve t.document fragment = .ok (.obj ms)

/-- The value of a frame is part of its document. -/
def Frame.Inside (fr : Frame) : Prop := ∃ path, Json.Pointer.follow fr.here.document path = .ok fr.value

theorem inside_entry (d : Loaded) : (entry d).Inside := ⟨[], rfl⟩

variable {c : Corpus} {base : String} {top : Loaded}

theorem Enters.inside {fr next : Frame} (h : c.Enters fr next) : next.Inside := by
  obtain ⟨_, ht⟩ := h
  exact ⟨_, (turn_eq_inline ht).2.1⟩

/-- What a walk answers for a frame. -/
def image (c : Corpus) (top : Loaded) (fr : Frame) : Document :=
  match c.walk top fr with
  | .ok (v, _) => v
  | .error _ => .null

/-- The documents that a walk leads back into. -/
def returns (c : Corpus) (top : Loaded) (fr : Frame) : List String :=
  match c.walk top fr with
  | .ok (_, found) => found
  | .error _ => []

/-- What a walk puts in the place of a reference. -/
def answer (c : Corpus) (top : Loaded) (trail : List Key) (here : Loaded) (ref : String)
    (siblings : Members String) : Document :=
  match c.turn trail here ref with
  | .ok (.inline d fragment v) =>
    withSiblings siblings (c.image top ⟨(d.identifier, fragment) :: trail, d, v⟩)
  | .ok (.back d fragment) => keep (c.backPointer top d fragment) siblings
  | _ => keep ref siblings

/-- The documents that a reference leads back into. -/
def answerReturns (c : Corpus) (top : Loaded) (trail : List Key) (here : Loaded) (ref : String) : List String :=
  match c.turn trail here ref with
  | .ok (.inline d fragment v) => c.returns top ⟨(d.identifier, fragment) :: trail, d, v⟩
  | .ok (.back d _) => backTargets top d
  | _ => []

theorem find?_cons_ref {ref : String} {siblings : Members String} {k : String} {w : Document}
    (hs : siblings.find? "$ref" = none) (h : siblings.find? k = some w) :
    Members.find? k (("$ref", .str ref) :: siblings) = some w := by
  have hk : "$ref" ≠ k := by
    rintro rfl
    simp [hs] at h
  simp [Members.find?_cons, hk, h]

theorem keep_distinct {ref : String} {siblings : Members String} (hd : Distinct (.obj siblings))
    (hs : siblings.find? "$ref" = none) : Distinct (keep ref siblings) := by
  refine .obj (List.nodup_cons.mpr ⟨Members.find?_eq_none_iff.mp hs, hd.nodup⟩) fun m hm => ?_
  rcases List.mem_cons.mp hm with rfl | hm
  · exact .str ref
  · exact hd.member hm

theorem update_distinct {siblings ms : Members String} (hd : Distinct (.obj siblings)) (hm : Distinct (.obj ms)) :
    Distinct (.obj (ms.update siblings)) := by
  refine .obj (Members.nodup_update hm.nodup) fun m h => ?_
  rcases Members.mem_update h with h | h
  · exact hm.member h
  · exact hd.member h

theorem erase_distinct {k : String} {ms : Members String} (hm : Distinct (.obj ms)) : Distinct (.obj (ms.erase k)) :=
  .obj (Members.nodup_erase hm.nodup) fun _ h => hm.member (Members.erase_sublist.subset h)

theorem overlays_keep {f : String → Members String → Document} {ref r : String}
    (h : ∀ siblings, f ref siblings = keep r siblings) : Overlays f ref :=
  fun siblings hd hs => ⟨_, h siblings, keep_distinct hd hs, fun _ _ => find?_cons_ref hs⟩

theorem overlays_update {f : String → Members String → Document} {ref : String} {ms : Members String}
    (hm : Distinct (.obj ms)) (h : ∀ siblings, f ref siblings = .obj (ms.update siblings)) : Overlays f ref := by
  refine fun siblings hd _ => ⟨_, h siblings, update_distinct hd hm, fun k w hw => ?_⟩
  rw [Members.find?_update hd.nodup, hw]
  rfl

theorem overlays_answer {trail : List Key} {here : Loaded} {ref : String}
    (h : ∀ d fragment v, c.turn trail here ref = .ok (.inline d fragment v) →
      ∃ ms, c.image top ⟨(d.identifier, fragment) :: trail, d, v⟩ = .obj ms ∧ Distinct (.obj ms)) :
    Overlays (c.answer top trail here) ref := by
  cases ht : c.turn trail here ref with
  | error e => exact overlays_keep fun siblings => by rw [answer, ht]
  | ok t =>
    cases t with
    | stay => exact overlays_keep fun siblings => by rw [answer, ht]
    | back d fragment => exact overlays_keep fun siblings => by rw [answer, ht]
    | inline d fragment v =>
      obtain ⟨ms, he, hm⟩ := h d fragment v ht
      exact overlays_update (erase_distinct (k := "$id") hm) fun siblings => by
        simp only [answer, ht, he, withSiblings]

section Walked

variable (top) (hr : c.Registered base) (hl : c.Linked)

include hr in
theorem value_distinct {fr : Frame} (h : c.Framed fr) (hi : fr.Inside) : Distinct fr.value := by
  obtain ⟨path, hp⟩ := hi
  exact (hr.distinct fr.here h.loaded).follow hp

include hl in
theorem turn_cases (trail : List Key) {here : Loaded} (hh : here ∈ c.documents) {ref : String}
    (href : ref ∈ refsIn here.document) :
    (c.resolve (some here) ref = none ∧ c.turn trail here ref = .ok .stay) ∨
      ∃ d fragment ms, c.resolve (some here) ref = some (d, fragment) ∧ Json.Pointer.Rooted fragment ∧
        Json.Pointer.resolve d.document fragment = .ok (.obj ms) ∧
        c.turn trail here ref = .ok (if trail.contains (d.identifier, fragment) then .back d fragment
          else .inline d fragment (.obj ms)) := by
  cases hres : c.resolve (some here) ref with
  | none => exact Or.inl ⟨rfl, by simp [turn, hres]⟩
  | some target =>
    obtain ⟨d, fragment⟩ := target
    obtain ⟨hf, ms, hv⟩ := hl.rooted here hh ref href d fragment hres
    exact Or.inr ⟨d, fragment, ms, rfl, hf, hv, by simp [turn, hres, hv]⟩

include hr hl in
/-- A walk never fails: it fills its value in. -/
theorem walk_filled {fr : Frame} (h : c.Framed fr) (hi : fr.Inside) :
    (∀ ref ∈ refsIn fr.value, Overlays (c.answer top fr.trail fr.here) ref) ∧
      ∃ found, c.walk top fr = .ok (filled (c.answer top fr.trail fr.here) fr.value, found) ∧
        ∀ i, i ∈ found ↔ ∃ ref ∈ refsIn fr.value, i ∈ c.answerReturns top fr.trail fr.here ref := by
  induction h using Framed.induct with
  | step fr h ih =>
    -- the frames that this one enters answer with objects, so that members can be laid over them
    have hd := value_distinct hr h hi
    obtain ⟨path, hp⟩ := hi
    have ht : TextRefs fr.value := (hl.texts fr.here h.loaded).follow hp
    have overlays : ∀ ref ∈ refsIn fr.value, Overlays (c.answer top fr.trail fr.here) ref := by
      intro ref href
      refine overlays_answer fun d fragment v hturn => ?_
      have he : c.Enters fr ⟨(d.identifier, fragment) :: fr.trail, d, v⟩ := .step href hturn
      obtain ⟨ho, found, hw, _⟩ := ih _ he he.inside
      obtain ⟨hres, hv, _⟩ := turn_eq_inline hturn
      obtain ⟨_, ms, hv'⟩ := hl.rooted fr.here h.loaded ref (h.refs ref href) d fragment hres
      obtain rfl : v = .obj ms := Except.ok.inj (hv.symm.trans hv')
      have hdv : Distinct (.obj ms) := (hr.distinct d (h.enters he).loaded).follow hv
      obtain ⟨ns, hns, _⟩ := filled_obj hdv ho
      have hn := filled_distinct hdv ho
      rw [image, hw]
      exact ⟨ns, hns, hns ▸ hn⟩
    refine ⟨overlays, ?_⟩
    rw [walk_eq h]
    refine expand_eq_filled hd ht fun ref href siblings => ?_
    rcases turn_cases hl fr.trail h.loaded (h.refs ref href) with ⟨_, hturn⟩ | ⟨d, fragment, ms, _, _, _, hturn⟩
    · rw [replaced_stay hturn, answer, answerReturns, hturn]
    · split at hturn
      next => rw [replaced_back hturn, answer, answerReturns, hturn]
      next =>
        have he : c.Enters fr ⟨(d.identifier, fragment) :: fr.trail, d, .obj ms⟩ := .step href hturn
        obtain ⟨_, found, hw, _⟩ := ih _ he he.inside
        have hb := Inlining.bind_of_ok (f := fun w => pure (withSiblings siblings w)) hw rfl
        rw [replaced_inline hturn, hb, answer, answerReturns, hturn]
        simp only [image, returns, hw, List.append_nil]
        rfl

include hr hl

theorem image_eq_filled {fr : Frame} (h : c.Framed fr) (hi : fr.Inside) :
    c.image top fr = filled (c.answer top fr.trail fr.here) fr.value := by
  obtain ⟨_, found, hw, _⟩ := walk_filled top hr hl h hi
  rw [image, hw]

theorem walk_eq_image {fr : Frame} (h : c.Framed fr) (hi : fr.Inside) :
    c.walk top fr = .ok (c.image top fr, c.returns top fr) := by
  obtain ⟨_, found, hw, _⟩ := walk_filled top hr hl h hi
  rw [image, returns, hw]

theorem mem_returns {fr : Frame} (h : c.Framed fr) (hi : fr.Inside) {i : String} :
    i ∈ c.returns top fr ↔ ∃ ref ∈ refsIn fr.value, i ∈ c.answerReturns top fr.trail fr.here ref := by
  obtain ⟨_, found, hw, hf⟩ := walk_filled top hr hl h hi
  rw [returns, hw]
  exact hf i

theorem image_distinct {fr : Frame} (h : c.Framed fr) (hi : fr.Inside) : Distinct (c.image top fr) := by
  rw [image_eq_filled top hr hl h hi]
  exact filled_distinct (value_distinct hr h hi) (walk_filled top hr hl h hi).1

theorem image_obj {fr : Frame} {ms : Members String} (h : c.Framed fr) (hi : fr.Inside) (hv : fr.value = .obj ms) :
    ∃ ns : Members String, c.image top fr = .obj ns ∧ ∀ k w, k ≠ "$ref" → ms.find? k = some w →
      ns.find? k = some (filled (c.answer top fr.trail fr.here) w) := by
  have hd := value_distinct hr h hi
  have ho := (walk_filled top hr hl h hi).1
  rw [image_eq_filled top hr hl h hi]
  rw [hv] at hd ho ⊢
  exact filled_obj hd ho

end Walked

end NoteSchema.Corpus
