import NoteSchema.Proofs.Corpus.BackPointer
import NoteSchema.Proofs.Corpus.Whole
import NoteSchema.Proofs.Sample.Simulation

namespace NoteSchema.Sample

open Corpus (refsIn)
open Instance (Reordered)
open Json (Distinct sorted)

/-- The schemas of a document: the document itself and what its schemas hold. -/
inductive Stands (root : Document) : Document → Prop
  | root : Stands root root
  | held {ms : Members String} {v : Document} (schema : Stands root (.obj ms)) (holds : Holds ms v) : Stands root v

/-- Every reference of a corpus is the identifier of a document, with nothing beside it, and it is where a
schema is expected: neither in what is copied into an instance nor among the names of properties. Documents
have no definitions, and one for a text says so by its type alone. -/
structure Sampleable (c : Corpus) : Prop where
  alone : ∀ d ∈ c.documents, ∀ o ∈ Json.objects d.document, ∀ w, o.find? "$ref" = some w →
    ∃ e ∈ c.documents, o = [("$ref", .str e.identifier)]
  copied : ∀ d ∈ c.documents, ∀ ms : Members String, Stands d.document (.obj ms) →
    ∀ k ∈ ["const", "enum", "minimum", "exclusiveMinimum"], ∀ v, ms.find? k = some v → refsIn v = []
  named : ∀ d ∈ c.documents, ∀ ms : Members String, Stands d.document (.obj ms) →
    ∀ k ∈ ["required", "properties"], ∀ ps : Members String, ms.find? k = some (.obj ps) → ps.find? "$ref" = none
  bare : ∀ d ∈ c.documents, d.body.find? Corpus.defs = none
  shaped : ∀ d ∈ c.documents, d.body.find? "type" = some (.str "string") →
    ∀ k ∈ ["oneOf", "anyOf", "if"], d.body.find? k = none

section Schemas

variable {c : Corpus}

theorem Sampleable.whole (h : Sampleable c) (hp : ∀ d ∈ c.documents, ∀ ref ∈ refsIn d.document, '#' ∉ ref.toList) :
    c.Whole := by
  refine ⟨fun d hd o ho w hw => ?_, fun d hd ref href => ?_, hp⟩
  · obtain ⟨e, _, rfl⟩ := h.alone d hd o ho w hw
    exact ⟨e.identifier, by simpa [Members.find?_cons] using hw.symm⟩
  · obtain ⟨o, ho, hro⟩ := Corpus.mem_refsIn.mp href
    obtain ⟨w, hw⟩ := Corpus.find?_of_refOf?_eq_some hro
    obtain ⟨e, he, rfl⟩ := h.alone d hd o ho w hw
    exact ⟨e, he, by simpa [Corpus.refOf?, Members.find?_cons] using hro.symm⟩

theorem Stands.inside {root v : Document} (h : Stands root v) : ∀ o ∈ Json.objects v, o ∈ Json.objects root := by
  induction h with
  | root => exact fun _ ho => ho
  | held _ hv ih =>
    intro o ho
    cases hv with
    | property hp hv =>
      exact ih o (Json.objects_of_mem (Members.mem_of_find? hp) (Json.objects_of_mem (Members.mem_of_find? hv) ho))
    | single _ hv => exact ih o (Json.objects_of_mem (Members.mem_of_find? hv) ho)
    | listed _ hl hv =>
      exact ih o (Json.objects_of_mem (Members.mem_of_find? hl) (Json.mem_objectsInItems.mpr ⟨_, hv, ho⟩))

/-- A corpus is sampleable when what is asked of its schemas holds of every object in its documents. -/
theorem Sampleable.of_objects
    (alone : ∀ d ∈ c.documents, ∀ o ∈ Json.objects d.document, Members.find? "$ref" o = none ∨
      ∃ e ∈ c.documents, o = [("$ref", .str e.identifier)])
    (copied : ∀ d ∈ c.documents, ∀ o ∈ Json.objects d.document,
      ∀ k ∈ ["const", "enum", "minimum", "exclusiveMinimum"], refsIn ((Members.find? k o).getD .null) = [])
    (named : ∀ d ∈ c.documents, ∀ o ∈ Json.objects d.document, ∀ k ∈ ["required", "properties"],
      (Members.find? k o).bind (fun v => Members.find? "$ref" (Corpus.objectMembers v)) = none)
    (bare : ∀ d ∈ c.documents, d.body.find? Corpus.defs = none)
    (shaped : ∀ d ∈ c.documents, d.body.find? "type" = some (.str "string") →
      ∀ k ∈ ["oneOf", "anyOf", "if"], d.body.find? k = none) : Sampleable c := by
  refine ⟨fun d hd o ho w hw => ?_, fun d hd ms hms k hk v hv => ?_, fun d hd ms hms k hk ps hps => ?_, bare, shaped⟩
  · exact (alone d hd o ho).resolve_left (by simp [hw])
  · have hrefs := copied d hd ms (hms.inside ms (Json.mem_objects_self ms)) k hk
    rwa [hv] at hrefs
  · have hfree := named d hd ms (hms.inside ms (Json.mem_objects_self ms)) k hk
    rwa [hps] at hfree

theorem resolve_identifier {base : String} (hr : c.Registered base) (hcan : c.Canonical base) {d : Loaded}
    (hd : d ∈ c.documents) (h : '#' ∉ d.identifier.toList) (here : Document) :
    resolve c here d.identifier = .ok (d.document, d.document) := by
  have hne : d.identifier ≠ "" := hcan d hd ▸ d.id.identifier_ne_empty base
  simp [resolve, Reference.cut_of_not_mem h, hne, Corpus.find?_identifier hr hd, Json.Pointer.resolve,
    Json.Pointer.tokens, Json.Pointer.follow]

end Schemas

/-- A value of a walk with its references replaced, put in order. -/
def rendered (c : Corpus) (top : Loaded) (fr : Corpus.Frame) (v : Document) : Document :=
  sorted (Corpus.filled (c.answer top fr.trail fr.here) v)

/-- A value whose objects with a reference are objects of a document. -/
structure Part (d : Loaded) (v : Document) : Prop where
  distinct : Distinct v
  inside : ∀ o ∈ Json.objects v, ∀ w, o.find? "$ref" = some w → o ∈ Json.objects d.document

/-- What leads back to a document that is being inlined leads to the object that stands for it, in the dereferenced
document as it is given out. -/
theorem resolve_backPointer {top e : Loaded} {os : Members String} (hout : c.Output top os) (hclose : c.Closes top e "") :
    ∃ ns : Members String, c.Hosts top e ns ∧
      resolve c (sorted (.obj os)) (c.backPointer top e "") = .ok (sorted (.obj ns), sorted (.obj os)) := by
  obtain ⟨ns, hhost, hpath⟩ := hout.host e "" hclose
  have hfollow := hpath "" (Or.inl rfl)
  rw [Json.Pointer.resolve] at hfollow
  refine ⟨ns, hhost, ?_⟩
  simp only [resolve, Corpus.backPointer_eq, Reference.cut_local, if_true, Json.Pointer.resolve, Json.Pointer.follow_sorted,
    hfollow]
  rfl

theorem Part.item {d : Loaded} {xs : List Document} {x : Document} (h : Part d (.arr xs)) (hx : x ∈ xs) : Part d x :=
  ⟨h.distinct.item hx, fun o ho => h.inside o (Json.mem_objectsInItems.mpr ⟨x, hx, ho⟩)⟩

theorem Part.member {d : Loaded} {ms : Members String} {k : String} {v : Document} (h : Part d (.obj ms))
    (hv : ms.find? k = some v) : Part d v := by
  have hm := Members.mem_of_find? hv
  exact ⟨h.distinct.member hm, fun o ho => h.inside o (Json.objects_of_mem hm ho)⟩

theorem Part.refs {d : Loaded} {v : Document} (h : Part d v) {ref : String} (hr : ref ∈ refsIn v) :
    ref ∈ refsIn d.document := by
  obtain ⟨o, ho, hr⟩ := Corpus.mem_refsIn.mp hr
  obtain ⟨w, hw⟩ := Corpus.find?_of_refOf?_eq_some hr
  exact Corpus.mem_refsIn.mpr ⟨o, h.inside o ho w hw, hr⟩

theorem Stands.part {d : Loaded} {v : Document} (hd : Distinct d.document) (h : Stands d.document v) : Part d v := by
  refine ⟨?_, fun o ho _ _ => h.inside o ho⟩
  induction h with
  | root => exact hd
  | held _ hv ih =>
    cases hv with
    | property hp hv => exact (ih.member (Members.mem_of_find? hp)).member (Members.mem_of_find? hv)
    | single _ hv => exact ih.member (Members.mem_of_find? hv)
    | listed _ hl hv => exact (ih.member (Members.mem_of_find? hl)).item hv

theorem synthesize_eq_some {c : Corpus} {maxDepth schema : Document} {v : Instance} :
    synthesize c maxDepth schema = .ok (some v) ↔
      ∃ depth, ceiling maxDepth = .ok depth ∧ sample c (depth + 1).toNat schema schema = .ok (.value v) := by
  unfold synthesize
  simp only [bind, Except.bind]
  cases hd : ceiling maxDepth with
  | error e => simp
  | ok depth =>
    cases ho : sample c (depth + 1).toNat schema schema with
    | error e => simp [ho]
    | ok o => cases o <;> simp [ho, pure, Except.pure]

section Walks

variable {c : Corpus} {base : String} {top : Loaded}
variable (hr : c.Registered base) (hcan : c.Canonical base) (hs : Sampleable c)
variable (hp : ∀ d ∈ c.documents, ∀ ref ∈ refsIn d.document, '#' ∉ ref.toList) (htop : top ∈ c.documents)

include hr hcan hs hp htop

theorem renders {fr : Corpus.Frame} (ho : c.Opened top fr) : Renders (Part fr.here) (rendered c top fr) := by
  have hf := ho.framed htop
  have hl := (hs.whole hp).linked hr hcan
  have hoverlays := (Corpus.walk_filled top hr hl hf.1 hf.2).1
  rw [(hs.whole hp).opened hr hcan htop ho] at hoverlays
  refine ⟨fun v harr hobj => ?_, ⟨.obj .nil (by simp), ?_⟩, fun v h => h.distinct, fun xs x h hx => h.item hx,
    fun ms k v h hv => h.member hv, fun xs => ?_, fun ms h => ?_, fun ms h hfree => ?_, fun v h hrefs => ?_⟩
  · cases v with
    | arr xs => exact absurd rfl (harr xs)
    | obj ms => exact absurd rfl (hobj ms)
    | null => exact ⟨⟨.null, by simp [Json.objects]⟩, rfl⟩
    | bool b => exact ⟨⟨.bool b, by simp [Json.objects]⟩, rfl⟩
    | number n => exact ⟨⟨.number n, by simp [Json.objects]⟩, rfl⟩
    | str s => exact ⟨⟨.str s, by simp [Json.objects]⟩, rfl⟩
  · simp [Json.objects, Json.objectsInMembers, Members.find?]
  · simp [rendered, Corpus.filled, Corpus.filledItems_eq, sorted, Json.sortedItems_eq]
  · obtain ⟨ns, he, _⟩ := Corpus.filled_obj h.distinct fun ref href => hoverlays ref (h.refs href)
    exact ⟨_, by rw [rendered, he, sorted]⟩
  · have hnone : Corpus.refOf? ms = none := by simp [Corpus.refOf?, hfree]
    refine ⟨_, by rw [rendered, Corpus.filled, hnone, sorted], fun k => ?_, ?_⟩
    · rw [Members.find?_sortMembers, Members.find?_sortedValues, Corpus.filledMembers_eq_map hfree,
        Members.find?_map_snd, Option.map_map]
      rfl
    · refine (Members.keys_sortMembers_perm _).trans (.of_eq ?_)
      rw [Members.keys_sortedValues, Corpus.filledMembers_eq_map hfree]
      simp [Members.keys]
  · rw [rendered, Corpus.filled_eq_self fun o ho => ?_]
    cases hw : o.find? "$ref" with
    | none => rfl
    | some w =>
      obtain ⟨e, _, rfl⟩ := hs.alone fr.here hf.1.loaded o (h.inside o ho w hw) w hw
      have hmem : e.identifier ∈ refsIn v := Corpus.mem_refsIn.mpr ⟨_, ho, rfl⟩
      simp [hrefs] at hmem

omit hcan hp htop in
theorem body_free {d : Loaded} (hd : d ∈ c.documents) : d.body.find? "$ref" = none := by
  cases hw : d.body.find? "$ref" with
  | none => rfl
  | some w =>
    obtain ⟨e, _, hbody⟩ := hs.alone d hd d.body (Json.mem_objects_self _) w hw
    have hid := hr.carried d hd
    rw [hbody] at hid
    simp [Members.find?] at hid

theorem image_members {fr : Corpus.Frame} (ho : c.Opened top fr) : ∃ ims : Members String,
    c.image top fr = .obj ims ∧ ∀ k, (ims.find? k).map sorted = (fr.here.body.find? k).map (rendered c top fr) := by
  have hf := ho.framed htop
  have hfree := body_free hr hs hf.1.loaded
  have hnone : Corpus.refOf? fr.here.body = none := by simp [Corpus.refOf?, hfree]
  refine ⟨fr.here.body.map fun m => (m.1, Corpus.filled (c.answer top fr.trail fr.here) m.2), ?_, fun k => ?_⟩
  · rw [Corpus.image_eq_filled top hr ((hs.whole hp).linked hr hcan) hf.1 hf.2, (hs.whole hp).opened hr hcan htop ho,
      Loaded.document, Corpus.filled, hnone, Corpus.filledMembers_eq_map hfree]
  · rw [Members.find?_map_snd, Option.map_map]
    rfl

/-- A document that lies where its image lies is sampled as its image is. -/
theorem hosts_members {d : Loaded} {ns : Members String} (ho : c.Opened top (Corpus.entry d))
    (h : c.Hosts top d ns) : ∀ k, k ≠ "$id" → k ≠ Corpus.defs →
      (Json.sortMembers (Json.sortedValues ns)).find? k = (d.body.find? k).map (rendered c top (Corpus.entry d)) := by
  intro k hid hdefs
  obtain ⟨ims, hi, hns⟩ := h
  obtain ⟨ms, hms, hlook⟩ := image_members hr hcan hs hp htop ho
  obtain rfl : ims = ms := by simpa [hi] using hms
  have hk : ns.find? k = ims.find? k := by
    rw [← Members.find?_erase_ne (Ne.symm hdefs)]
    rcases hns with hns | hns
    · rw [hns]
    · rw [hns, Members.find?_erase_ne (Ne.symm hid)]
  rw [Members.find?_sortMembers, Members.find?_sortedValues, hk]
  exact hlook k

omit hr hcan hs hp htop in
theorem sample_keywords {n : Nat} {here : Document} {ss : Members String} (h : ss.find? "$ref" = none) :
    sample c (n + 1) here (.obj ss) = ofKeywords (sample c n here) ss := by
  cases ss with
  | nil => rfl
  | cons m ms => simp only [sample, h]

omit hr hcan hs hp htop in
theorem sample_flat {n : Nat} {here v : Document} (h : ∀ os, v ≠ .obj os) :
    sample c (n + 1) here v = .ok .shapeless := by
  cases v with
  | obj ms => exact absurd rfl (h ms)
  | _ => rfl

/-- The object that is nothing but a reference. -/
def link (ref : String) : Document := .obj [("$ref", .str ref)]

omit hr hcan hs hp htop in
theorem sample_link {n : Nat} {here target home : Document} {ref : String}
    (h : resolve c here ref = .ok (target, home)) : sample c (n + 1) here (link ref) = sample c n home target := by
  simp [link, sample, Members.find?, h]

omit hr hcan hs hp htop in
theorem rendered_link {fr : Corpus.Frame} (ref : String) :
    rendered c top fr (link ref) = sorted (c.answer top fr.trail fr.here ref []) := by
  simp [rendered, link, Corpus.filled, Corpus.refOf?, Members.find?_cons, Corpus.filledMembers]

/-- A schema with a reference is nothing but the reference to a document. It leads back to the document, or an
image of the document takes its place. -/
theorem rendered_ref {fr : Corpus.Frame} (ho : c.Opened top fr) {ss : Members String} {w : Document}
    (hpart : Part fr.here (.obj ss)) (hw : ss.find? "$ref" = some w) :
    ∃ e ∈ c.documents, .obj ss = link e.identifier ∧
      (∀ n, sample c (n + 1) fr.here.document (.obj ss) = sample c n e.document e.document) ∧
      ((c.Closes top e "" ∧ rendered c top fr (.obj ss) = link (c.backPointer top e "")) ∨
        ∃ (next : Corpus.Frame) (ts : Members String), c.Opened top next ∧ next.here = e ∧
          rendered c top fr (.obj ss) = .obj ts ∧
          ∀ k, k ≠ "$id" → ts.find? k = (e.body.find? k).map (rendered c top next)) := by
  have hf := (ho.framed htop).1
  obtain ⟨e, he, rfl⟩ := hs.alone _ hf.loaded ss (hpart.inside ss (Json.mem_objects_self ss) w hw) w hw
  have href : e.identifier ∈ refsIn fr.here.document :=
    hpart.refs (Corpus.refsIn_self (by simp [Corpus.refOf?, Members.find?_cons]))
  have hvalue : e.identifier ∈ refsIn fr.value := by
    rw [(hs.whole hp).opened hr hcan htop ho]
    exact href
  obtain ⟨e', he', hid, hturn⟩ := (hs.whole hp).turn hr hcan fr.trail hf.loaded href
  obtain rfl : e = e' := hr.ext he he' hid
  have hsign := hp _ hf.loaded _ href
  refine ⟨e, he, rfl, fun n => sample_link (resolve_identifier hr hcan he hsign _), ?_⟩
  rw [← link, rendered_link]
  split at hturn
  · left
    refine ⟨⟨fr, _, ho, hvalue, hturn⟩, ?_⟩
    simp [Corpus.answer, hturn, Corpus.keep, link, sorted, Json.sortedValues, Json.sortMembers]
  · right
    have hnext : c.Opened top ⟨(e.identifier, "") :: fr.trail, e, e.document⟩ := ho.enters (.step hvalue hturn)
    obtain ⟨ims, hi, hlook⟩ := image_members hr hcan hs hp htop hnext
    refine ⟨_, Json.sortMembers (Json.sortedValues (ims.erase "$id")), hnext, rfl, ?_, fun k hk => ?_⟩
    · simp only [Corpus.answer, hturn, hi]
      rfl
    · rw [Members.find?_sortMembers, Members.find?_sortedValues, Members.find?_erase_ne (Ne.symm hk)]
      exact hlook k

omit hcan hp htop in
theorem sample_ne_shapeless {d : Loaded} (hd : d ∈ c.documents) (ht : d.body.find? "type" = some (.str "string"))
    (n : Nat) : sample c n d.document d.document ≠ .ok .shapeless := by
  cases n with
  | zero => simp [sample]
  | succ n =>
    rw [Loaded.document, sample_keywords (body_free hr hs hd)]
    exact ofKeywords_ne_shapeless ht (hs.shaped d hd ht)

theorem standIn_rendered {fr : Corpus.Frame} (ho : c.Opened top fr) {n : Nat} {v : Document}
    (hv : Stands fr.here.document v) (h : sample c n fr.here.document v = .ok .shapeless) :
    standIn (rendered c top fr v) = standIn v := by
  have hd := (ho.framed htop).1.loaded
  have render := renders hr hcan hs hp htop ho
  have hpart := hv.part (hr.distinct _ hd)
  cases v with
  | obj ss =>
    cases hf : Members.find? "$ref" ss with
    | none =>
      obtain ⟨ns, he, hlook, _⟩ := render.fields ss hpart hf
      rw [he]
      exact standIn_eq render hpart (hlook "type")
    | some w =>
      obtain ⟨e, he, hlink, hsample, hcase⟩ := rendered_ref hr hcan hs hp htop ho hpart hf
      rcases hcase with ⟨_, hback⟩ | ⟨next, ts, hnext, rfl, hts, hlook⟩
      · rw [hback, hlink]
        rfl
      · have hbody := Stands.root.part (hr.distinct _ he)
        rw [hts, standIn_eq (renders hr hcan hs hp htop hnext) hbody (hlook "type" (by decide)), hlink]
        by_cases ht : Members.find? "type" next.here.body = some (.str "string")
        · -- then the document that the reference names has a shape
          cases n with
          | zero => simp [sample] at h
          | succ n => exact absurd (hsample n ▸ h) (sample_ne_shapeless hr hs he ht n)
        · exact standIn_of_type_ne ht
  | arr xs =>
    rw [render.arr]
    rfl
  | _ => rw [(render.leaf _ (by simp) (by simp)).2]

/-- A schema without a reference is sampled as it is rendered, when that holds of what it holds. -/
theorem keywords_follow {fr : Corpus.Frame} (ho : c.Opened top fr) {n m : Nat} (hnm : n ≤ m) {out : Document}
    {ss ts : Members String} (hss : Stands fr.here.document (.obj ss)) (hfree : ss.find? "$ref" = none)
    (hlook : ∀ k, k ≠ "$id" → k ≠ Corpus.defs → ts.find? k = (ss.find? k).map (rendered c top fr))
    (ih : ∀ v, Stands fr.here.document v →
      Follows (sample c n fr.here.document v) (sample c m out (rendered c top fr v))) :
    Follows (sample c (n + 1) fr.here.document (.obj ss)) (sample c (m + 1) out (.obj ts)) := by
  have hd := (ho.framed htop).1.loaded
  have href : ts.find? "$ref" = none := by rw [hlook "$ref" (by decide) (by decide), hfree]; rfl
  have hin : Rendered (Part fr.here) (rendered c top fr) ss ts :=
    ⟨hss.part (hr.distinct _ hd), hfree, hlook, hs.copied _ hd ss hss, hs.named _ hd ss hss⟩
  have along : Along (rendered c top fr) ss (sample c n fr.here.document) (sample c m out) := by
    refine ⟨?_, ?_, fun w hw => ⟨ih w (hss.held hw), standIn_rendered hr hcan hs hp htop ho (hss.held hw)⟩⟩
    · cases n with
      | zero => exact Or.inl fun _ _ => rfl
      | succ n =>
        obtain ⟨m, rfl⟩ : ∃ k, m = k + 1 := ⟨m - 1, by omega⟩
        exact Or.inr fun w hw => ⟨sample_flat hw, sample_flat hw⟩
    · cases n with
      | zero => exact .of_blocked _
      | succ n =>
        obtain ⟨m, rfl⟩ : ∃ k, m = k + 1 := ⟨m - 1, by omega⟩
        exact .refl _
  rw [sample_keywords hfree, sample_keywords href]
  exact ofKeywords_follows (renders hr hcan hs hp htop ho) hin along

/-- A document is sampled as an object with its members rendered, when that holds of its schemas with less
depth. -/
theorem document_follows {fr : Corpus.Frame} (ho : c.Opened top fr) {n m : Nat} (hnm : n ≤ m) {out : Document}
    {ts : Members String}
    (hlook : ∀ k, k ≠ "$id" → k ≠ Corpus.defs → ts.find? k = (fr.here.body.find? k).map (rendered c top fr))
    (ih : ∀ l < n, ∀ m, l ≤ m → ∀ v, Stands fr.here.document v →
      Follows (sample c l fr.here.document v) (sample c m out (rendered c top fr v))) :
    Follows (sample c n fr.here.document fr.here.document) (sample c m out (.obj ts)) := by
  cases n with
  | zero => exact .of_blocked _
  | succ n =>
    obtain ⟨m, rfl⟩ : ∃ k, m = k + 1 := ⟨m - 1, by omega⟩
    have hfree := body_free hr hs (ho.framed htop).1.loaded
    exact keywords_follow hr hcan hs hp htop ho (by omega) .root hfree hlook (ih n (by omega) m (by omega))

/-- What a schema gives, it gives rendered in the dereferenced document as well, where no level of depth is
spent on what was inlined. -/
theorem sample_follows {os : Members String} (hout : c.Output top os) (n : Nat) :
    ∀ m, n ≤ m → ∀ fr, c.Opened top fr → ∀ v, Stands fr.here.document v →
      Follows (sample c n fr.here.document v) (sample c m (sorted (.obj os)) (rendered c top fr v)) := by
  induction n using Nat.strong_induction_on with
  | _ n ih =>
    intro m hnm fr ho v hv
    have hd := (ho.framed htop).1.loaded
    have hpart := hv.part (hr.distinct _ hd)
    have render := renders hr hcan hs hp htop ho
    cases n with
    | zero => exact .of_blocked _
    | succ n =>
      obtain ⟨m, rfl⟩ : ∃ l, m = l + 1 := ⟨m - 1, by omega⟩
      by_cases hobj : ∃ ss, v = .obj ss
      · obtain ⟨ss, rfl⟩ := hobj
        cases hf : Members.find? "$ref" ss with
        | none =>
          obtain ⟨ts, hts, hlook, _⟩ := render.fields ss hpart hf
          rw [hts]
          exact keywords_follow hr hcan hs hp htop ho (by omega) hv hf (fun k _ _ => hlook k)
            (ih n (by omega) m (by omega) fr ho)
        | some w =>
          obtain ⟨e, he, _, hsample, hcase⟩ := rendered_ref hr hcan hs hp htop ho hpart hf
          rw [hsample n]
          -- the reference costs a level; what leads back costs one as well, what was inlined costs none
          rcases hcase with ⟨hclose, hback⟩ | ⟨next, ts, hnext, rfl, hts, hlook⟩
          · obtain ⟨ns, hhost, hres⟩ := resolve_backPointer hout hclose
            rw [hback, sample_link hres]
            exact document_follows hr hcan hs hp htop hclose.opened (by omega)
              (hosts_members hr hcan hs hp htop hclose.opened hhost) fun l hl m hlm => ih l (by omega) m hlm _ hclose.opened
          · rw [hts]
            exact document_follows hr hcan hs hp htop hnext (by omega) (fun k hk _ => hlook k hk)
              fun l hl m hlm => ih l (by omega) m hlm next hnext
      · have hflat : ∀ ss, v ≠ .obj ss := fun ss h => hobj ⟨ss, h⟩
        rw [sample_flat hflat, sample_flat (render.flat hflat)]
        exact .refl _

end Walks

end NoteSchema.Sample

namespace NoteSchema.Corpus

open Sample (Sampleable synthesize)

/-- Sampling commutes with dereferencing: an instance of a document is, up to the order of members, one of the
dereferenced document to the same depth. -/
theorem dereferenced_samples_alike {c : Corpus} {base : String} {d : Loaded} {maxDepth : Document} {v : Instance}
    (hr : c.Registered base) (hcan : c.Canonical base) (hs : Sampleable c)
    (hp : ∀ e ∈ c.documents, ∀ ref ∈ refsIn e.document, '#' ∉ ref.toList) (hd : d ∈ c.documents)
    (hv : synthesize c maxDepth d.document = .ok (some v)) :
    ∃ out, c.dereferenced d = .ok out ∧ ∃ w, synthesize c maxDepth out = .ok (some w) ∧ Instance.Reordered v w := by
  obtain ⟨os, hout, ho⟩ := dereferenced_output hr hcan ((hs.whole hp).linked hr hcan)
    ((hs.whole hp).bare hr hcan hs.bare) hd
  obtain ⟨depth, hdepth, hsample⟩ := Sample.synthesize_eq_some.mp hv
  have hlook := Sample.hosts_members hr hcan hs hp hd .top ho.root
  have hfollows := Sample.document_follows hr hcan hs hp hd .top (Nat.le_refl (depth + 1).toNat) hlook
    fun l _ m hlm => Sample.sample_follows hr hcan hs hp hd ho l m hlm _ .top
  obtain ⟨w, hw, hvw⟩ := hfollows.value v hsample
  exact ⟨_, hout, w, Sample.synthesize_eq_some.mpr ⟨depth, hdepth, hw⟩, hvw⟩

theorem ring_sampleable : Sampleable ring := by
  apply Sampleable.of_objects <;> decide

theorem ring_samples_alike : ∃ out, ring.dereferenced (ringSchema "a" "b" [.str "b"]) = .ok out ∧
    ∃ w, synthesize ring (.int 6) out = .ok (some w) ∧ Instance.Reordered (.obj [(.text "b", .obj [])]) w :=
  dereferenced_samples_alike ring_registered ring_canonical ring_sampleable (by decide) (by simp [ring])
    (by decide : synthesize ring (.int 6) (ringSchema "a" "b" [.str "b"]).document = _)

/-- A document with a member that another document's identifier addresses too. -/
def splitHost : Loaded where
  identifier := "https://example.org/schemas/core/a.json"
  id := ⟨"core", [], "a", .enumeration⟩
  body :=
    [("$id", .str "https://example.org/schemas/core/a.json"),
      ("x.json", .obj [("oneOf", .arr [.int 5]), ("type", .str "string")])]

/-- A document whose identifier reads as another document and a fragment. -/
def splitSchema : Loaded where
  identifier := "https://example.org/schemas/core/a.json#/x.json"
  id := ⟨"core", ["a.json#"], "x", .enumeration⟩
  body :=
    [("$id", .str "https://example.org/schemas/core/a.json#/x.json"),
      ("properties", .obj [("p", .obj [("$ref", .str "https://example.org/schemas/core/a.json#/x.json")])]),
      ("required", .arr [.str "p"]), ("title", .str "H"), ("type", .str "object")]

def split : Corpus where
  documents := [splitHost, splitSchema]

/-- An identifier with a fragment leads elsewhere than to its document, where a text may come without a
shape of its own: then the reference and what takes its place are not sampled alike. -/
theorem split_samples_differ :
    split.Registered "https://example.org/schemas/" ∧ split.Canonical "https://example.org/schemas/" ∧
      Sampleable split ∧ splitSchema ∈ split.documents ∧
      synthesize split (.int 6) splitSchema.document = .ok (some (.obj [(.text "p", .int 0)])) ∧
      ∃ out, split.dereferenced splitSchema = .ok out ∧
        synthesize split (.int 6) out = .ok (some (.obj [(.text "p", .str "")])) ∧
        ¬ Instance.Reordered (.obj [(.text "p", .int 0)]) (.obj [(.text "p", .str "")]) := by
  have hinlined : split.inlinedDocument splitSchema splitSchema = .ok (.obj
      [("$id", .str "https://example.org/schemas/core/a.json#/x.json"),
        ("properties", .obj [("p", .obj [("oneOf", .arr [.int 5]), ("type", .str "string")])]),
        ("required", .arr [.str "p"]), ("title", .str "H"), ("type", .str "object")], []) := by
    decide +kernel
  have hout := dereferenced_of_inlinedDocument hinlined
  rw [Json.sorted_eq_self (by decide)] at hout
  refine ⟨⟨?_, ?_, ?_, ?_⟩, ?_, ?_, by simp [split], ?_, _, hout, ?_, fun h => ?_⟩
  · decide
  · decide
  · decide
  · decide
  · unfold Canonical
    decide
  · apply Sampleable.of_objects <;> decide
  · decide
  · decide
  · cases h.find? "p" with
    | some h =>
      have htext := (h.eq_leaf_iff (u := .int 0) (by simp [Json.int]) (by simp [Json.int])).mp rfl
      cases htext

end NoteSchema.Corpus
