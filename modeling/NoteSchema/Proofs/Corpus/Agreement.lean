import NoteSchema.Proofs.Corpus.BackPointer
import NoteSchema.Proofs.Corpus.Bundled
import Mathlib.Logic.Relation

namespace NoteSchema.Corpus

open Json (Distinct sorted)
open Relation (ReflTransGen TransGen)

/-- An object with the given members laid over it. -/
def laidOver (siblings : Members String) : Document → Document
  | .obj ms => .obj (Members.update ms siblings)
  | v => v

/-- What takes the place of a reference: what it points at if it is local, else the reference itself. -/
def unrolledRef (root : Document) (unroll : Document → Document) (ref : String) (siblings : Members String) :
    Document :=
  match Text.after? "#" ref with
  | none => keep ref siblings
  | some p =>
    match Json.Pointer.resolve root p with
    | .ok v => laidOver siblings (unroll v)
    | .error _ => keep ref siblings

/-- A value with its local references replaced by what they point at in a document, references in that
being replaced as well, down to a depth. -/
def unrolled (root : Document) : Nat → Document → Document
  | 0, _ => .null
  | depth + 1, v => filled (unrolledRef root (unrolled root depth)) v

/-- One key leads to another when what the first one addresses has a reference to the second. -/
def Leads (c : Corpus) (k l : Key) : Prop :=
  ∃ d ∈ c.documents, d.identifier = k.1 ∧ ∃ v, Json.Pointer.resolve d.document k.2 = .ok v ∧
    ∃ ref ∈ refsIn v, ∃ t fragment, c.resolve (some d) ref = some (t, fragment) ∧ l = (t.identifier, fragment)

/-- No key that the top document leads to leads back to itself. -/
def Acyclic (c : Corpus) (top : Loaded) : Prop :=
  ∀ k, ReflTransGen c.Leads (top.identifier, "") k → ¬ TransGen c.Leads k k

variable {c : Corpus} {base : String} {top : Loaded}

/-- The trail of a frame leads from the top document to the key at its head, whose value the frame has. -/
structure Threaded (c : Corpus) (top : Loaded) (fr : Frame) : Prop where
  framed : c.Framed fr
  head : ∃ fragment rest, fr.trail = (fr.here.identifier, fragment) :: rest ∧
    Json.Pointer.resolve fr.here.document fragment = .ok fr.value ∧
    ∀ k ∈ fr.trail, ReflTransGen c.Leads (top.identifier, "") k ∧
      ReflTransGen c.Leads k (fr.here.identifier, fragment)

theorem Threaded.inside {fr : Frame} (h : c.Threaded top fr) : fr.Inside := by
  obtain ⟨_, _, _, hv, _⟩ := h.head
  exact ⟨_, hv⟩

theorem threaded_entry (htop : top ∈ c.documents) : c.Threaded top (entry top) := by
  refine ⟨framed_entry htop, "", [], rfl, rfl, fun k hk => ?_⟩
  obtain rfl : k = (top.identifier, "") := by simpa [entry] using hk
  exact ⟨.refl, .refl⟩

theorem Threaded.enters {fr next : Frame} (h : c.Threaded top fr) (he : c.Enters fr next) :
    c.Threaded top next := by
  obtain ⟨fragment, rest, htrail, hv, hall⟩ := h.head
  have hf := h.framed.enters he
  obtain ⟨href, ht⟩ := he
  rename_i ref d fragment' v
  obtain ⟨hres, hv', _⟩ := turn_eq_inline ht
  have hlead : c.Leads (fr.here.identifier, fragment) (d.identifier, fragment') :=
    ⟨fr.here, h.framed.loaded, rfl, fr.value, hv, ref, href, d, fragment', hres, rfl⟩
  have hstart := (hall (fr.here.identifier, fragment) (by simp [htrail])).1
  refine ⟨hf, fragment', fr.trail, rfl, hv', fun k hk => ?_⟩
  rcases List.mem_cons.mp hk with rfl | hk
  · exact ⟨hstart.tail hlead, .refl⟩
  · exact ⟨(hall k hk).1, (hall k hk).2.tail hlead⟩

/-- Where no key leads back to itself, no reference is closing. -/
theorem Threaded.turn_ne_back {fr : Frame} (h : c.Threaded top fr) (ha : c.Acyclic top) {ref fragment : String}
    {d : Loaded} (href : ref ∈ refsIn fr.value) : c.turn fr.trail fr.here ref ≠ .ok (.back d fragment) := by
  intro ht
  obtain ⟨hres, hmem⟩ := turn_eq_back ht
  obtain ⟨head, rest, _, hv, hall⟩ := h.head
  obtain ⟨hstart, hback⟩ := hall _ hmem
  have hlead : c.Leads (fr.here.identifier, head) (d.identifier, fragment) :=
    ⟨fr.here, h.framed.loaded, rfl, fr.value, hv, ref, href, d, fragment, hres, rfl⟩
  exact ha _ hstart (TransGen.tail' hback hlead)

theorem filledMembers_erase {f : String → Members String → Document} {k : String} (hk : k ≠ "$ref")
    (ms : Members String) : filledMembers f (ms.erase k) = (filledMembers f ms).erase k := by
  induction ms with
  | nil => rfl
  | cons m ms ih =>
    obtain ⟨l, w⟩ := m
    by_cases hl : l = k
    · subst l
      simp [Members.erase, filledMembers, hk]
    · have hlk : (l == k) = false := by simpa using hl
      by_cases hr : l = "$ref"
      · simp [Members.erase, filledMembers, hr, ih, Ne.symm hk]
      · simp [Members.erase, filledMembers, hlk, hr, ih]

/-- An answer from which the identifier goes when it goes from the members beside the reference. -/
def Sheds (f : String → Members String → Document) (ref : String) : Prop :=
  ∀ s ns : Members String, Distinct (.obj s) → s.find? "$ref" = none → f ref s = .obj ns →
    sorted (f ref (s.erase "$id")) = sorted (.obj (ns.erase "$id"))

theorem sheds_keep {f : String → Members String → Document} {ref r : String} (h : ∀ s, f ref s = keep r s) :
    Sheds f ref := by
  intro s ns _ _ hns
  rw [h] at hns ⊢
  cases hns
  simp [keep, Members.erase]

theorem sheds_update {f : String → Members String → Document} {ref : String} {ms : Members String}
    (hm : Distinct (.obj ms)) (hn : ms.find? "$id" = none) (h : ∀ s, f ref s = .obj (ms.update s)) :
    Sheds f ref := by
  intro s ns hs _ hns
  rw [h] at hns ⊢
  cases hns
  have hu : (Members.update ms s).keys.Nodup := Members.nodup_update hm.nodup
  refine Json.sorted_obj_eq (Members.nodup_update hm.nodup) (Members.nodup_erase hu) fun k => ?_
  rw [Members.find?_update (Members.nodup_erase hs.nodup), Members.find?_erase hs.nodup, Members.find?_erase hu,
    Members.find?_update hs.nodup]
  by_cases hk : "$id" = k
  · subst k
    simp [hn]
  · simp [hk]

/-- A document is filled in without its identifier as it is with it, but for the identifier. -/
theorem sorted_filled_erase {f : String → Members String → Document} {ms ns : Members String}
    (hd : Distinct (.obj (filledMembers f ms))) (hs : ∀ ref ∈ refsIn (.obj ms), Sheds f ref)
    (h : filled f (.obj ms) = .obj ns) : sorted (filled f (.obj (ms.erase "$id"))) = sorted (.obj (ns.erase "$id")) := by
  have ho : refOf? (ms.erase "$id") = refOf? ms := by
    unfold refOf?
    rw [Members.find?_erase_ne (by decide)]
  rw [filled] at h
  rw [filled, ho, filledMembers_erase (by decide)]
  cases hr : refOf? ms with
  | none =>
    rw [hr] at h
    cases h
    rfl
  | some ref =>
    rw [hr] at h
    exact hs ref (refsIn_self hr) _ ns hd (by simp [find?_filledMembers]) h

theorem after?_local (p : String) : Text.after? "#" ("#" ++ p) = some p := by
  simp [Text.after?, Text.afterChars?]

theorem after?_of_resolve_eq_none {d : Loaded} {ref : String} (h : c.resolve (some d) ref = none) :
    Text.after? "#" ref = none := by
  cases hp : Text.after? "#" ref with
  | none => rfl
  | some p =>
    have he : ref = "#" ++ p := by
      obtain ⟨cs, hcs, rfl⟩ := Option.map_eq_some_iff.mp hp
      apply String.toList_inj.mp
      cases href : ref.toList with
      | nil => simp [href, Text.afterChars?] at hcs
      | cons a as =>
        have hpart : "#".toList = ['#'] := rfl
        rw [href, hpart, Text.afterChars?] at hcs
        split at hcs
        next ha =>
          cases hcs
          simp [← ha]
        next => cases hcs
    rw [he, resolve_local] at h
    cases h

/-- Two ways to answer a reference: both keep it, or both lay the other members over an object without
identifier, the same one up to the order of its members. -/
inductive Matched (f g : String → Members String → Document) (r ref : String) : Prop
  | keep (left : ∀ s, f r s = keep ref s) (right : ∀ s, g ref s = keep ref s)
  | update {ms ns : Members String} (first : Distinct (.obj ms)) (second : Distinct (.obj ns))
      (same : sorted (.obj ms) = sorted (.obj ns)) (plain : ns.find? "$id" = none)
      (left : ∀ s, f r s = .obj (ms.update s)) (right : ∀ s, g ref s = .obj (ns.update s))

section Matched

variable {f g : String → Members String → Document} {r ref : String}

theorem Matched.overlays (h : Matched f g r ref) : Overlays f r := by
  cases h with
  | keep left _ => exact overlays_keep left
  | update first _ _ _ left _ => exact overlays_update first left

theorem Matched.overlays_right (h : Matched f g r ref) : Overlays g ref := by
  cases h with
  | keep _ right => exact overlays_keep right
  | update _ second _ _ _ right => exact overlays_update second right

theorem Matched.sheds (h : Matched f g r ref) : Sheds g ref := by
  cases h with
  | keep _ right => exact sheds_keep right
  | update _ second _ plain _ right => exact sheds_update second plain right

theorem Matched.alike_left (h : Matched f g r ref) : Alike f f r := by
  cases h with
  | keep left _ => exact alike_keep left left
  | update first _ _ _ left _ => exact alike_update first first rfl left left

theorem Matched.overlays_comp {b : String → String} (h : Matched f g (b ref) ref) :
    Overlays (fun x => f (b x)) ref := h.overlays

theorem Matched.alike {b : String → String} (h : Matched f g (b ref) ref) : Alike (fun x => f (b x)) g ref := by
  cases h with
  | keep left right => exact alike_keep left right
  | update first second same _ left right => exact alike_update first second same left right

/-- A value made local and filled in one way is what it was filled in the other way, without its
identifier. -/
theorem sorted_filled_local {here : Loaded} {ms ns : Members String} {t : Document} (hd : Distinct (.obj ms))
    (htext : TextRefs (.obj ms)) (matched : ∀ ref ∈ refsIn (.obj ms), Matched f g (c.bundledRef here ref) ref)
    (ht : sorted t = sorted (c.bundled here (.obj (ms.erase "$id")))) (hg : filled g (.obj ms) = .obj ns) :
    sorted (filled f t) = sorted (.obj (ns.erase "$id")) := by
  have hd' : Distinct (.obj (ms.erase "$id")) := erase_distinct hd
  have htext' : TextRefs (.obj (ms.erase "$id")) := htext.erase (by decide)
  have matched' : ∀ ref ∈ refsIn (.obj (ms.erase "$id")), Matched f g (c.bundledRef here ref) ref :=
    fun ref href => matched ref (refsIn_erase (by decide) href)
  have inner : ∀ ref ∈ refsIn t, ∃ r ∈ refsIn (.obj (ms.erase "$id")), ref = c.bundledRef here r :=
    fun ref href => refsIn_bundled hd' htext' ((mem_refsIn_of_sorted_eq ht).mpr href)
  have overlays : ∀ ref ∈ refsIn t, Overlays f ref := by
    intro ref href
    obtain ⟨r, hmem, rfl⟩ := inner ref href
    exact (matched' r hmem).overlays
  have alike : ∀ ref ∈ refsIn t, Alike f f ref := by
    intro ref href
    obtain ⟨r, hmem, rfl⟩ := inner ref href
    exact (matched' r hmem).alike_left
  have members : Distinct (.obj (filledMembers g ms)) := filledMembers_distinct hd fun m hm =>
    filled_distinct (hd.member hm) fun ref href => (matched ref (refsIn_member hm href)).overlays_right
  calc sorted (filled f t)
      = sorted (filled f (c.bundled here (.obj (ms.erase "$id")))) :=
        (permuted_filled ⟨.of_sorted_eq ht (bundled_distinct hd'), bundled_distinct hd', ht⟩ overlays overlays alike).same
    _ = sorted (filled (fun ref => f (c.bundledRef here ref)) (.obj (ms.erase "$id"))) := by
        rw [filled_bundled htext']
    _ = sorted (filled g (.obj (ms.erase "$id"))) :=
        (permuted_filled (.refl hd') (fun ref href => (matched' ref href).overlays_comp)
          (fun ref href => (matched' ref href).overlays_right) fun ref href => (matched' ref href).alike).same
    _ = sorted (.obj (ns.erase "$id")) := sorted_filled_erase members (fun ref href => (matched ref href).sheds) hg

end Matched

section Unrolled

variable (hr : c.Registered base) (hl : c.Linked)
variable {bundle : Document} (ha : c.Acyclic top)
  (hbundle : ∀ d ∈ c.documents, ∀ (fragment : String) (os : Members String), Json.Pointer.Rooted fragment →
    Json.Pointer.resolve d.document fragment = .ok (.obj os) →
      Json.Pointer.resolve bundle (c.leafPointer d ++ fragment) = .ok (sorted (c.bundled d (.obj (os.erase "$id")))))

include hr hl ha hbundle

/-- Unrolling the local value of a frame comes to what the walk answers for the frame. -/
theorem sorted_unrolled {fr : Frame} (h : c.Threaded top fr) (depth : Nat)
    (hdepth : c.trailBound < depth + fr.trail.length) {ms ns : Members String} (hv : fr.value = .obj ms)
    (hi : c.image top fr = .obj ns) {t : Document}
    (ht : sorted t = sorted (c.bundled fr.here (.obj (ms.erase "$id")))) :
    sorted (unrolled bundle depth t) = sorted (.obj (ns.erase "$id")) := by
  have hf := h.framed
  induction hf using Framed.induct generalizing depth ms ns t with
  | step fr hf ih =>
    have hlen := hf.length_le
    obtain ⟨depth, rfl⟩ : ∃ n, depth = n + 1 := ⟨depth - 1, by omega⟩
    -- a reference that is inlined enters a frame whose trail is longer, so that one level less is enough
    have matched : ∀ ref ∈ refsIn fr.value, Matched (unrolledRef bundle (unrolled bundle depth))
        (c.answer top fr.trail fr.here) (c.bundledRef fr.here ref) ref := by
      intro ref href
      rcases turn_cases hl fr.trail hf.loaded (hf.refs ref href) with
        ⟨hres, hturn⟩ | ⟨d, fragment, os, hres, hroot, hos, hturn⟩
      · refine .keep (fun s => ?_) fun s => by rw [answer, hturn]
        rw [bundledRef, hres, unrolledRef, after?_of_resolve_eq_none hres]
      · split at hturn
        next => exact absurd hturn (h.turn_ne_back ha href)
        next =>
          have he : c.Enters fr ⟨(d.identifier, fragment) :: fr.trail, d, .obj os⟩ := .step href hturn
          have hnext := h.enters he
          obtain ⟨is, his, _⟩ := image_obj top hr hl hnext.framed he.inside rfl
          have hd := hnext.framed.loaded
          have hsame := ih _ he hnext depth (by simp only [List.length_cons]; omega) rfl his
            (Json.sorted_sorted _)
          obtain ⟨xs, hxs⟩ := Json.obj_of_sorted_eq hsame
          have hdi : Distinct (.obj is) := his ▸ image_distinct top hr hl hnext.framed he.inside
          rw [hxs] at hsame
          refine .update (.of_sorted_eq hsame (erase_distinct hdi)) (erase_distinct hdi) hsame
            (Members.find?_erase_self hdi.nodup) (fun s => ?_) fun s => ?_
          · have hlocal : c.bundledRef fr.here ref = "#" ++ (c.leafPointer d ++ fragment) := by
              simp only [bundledRef, hres, String.append_assoc]
            rw [hlocal, unrolledRef, after?_local]
            simp only [hbundle d hd fragment os hroot hos, hxs, laidOver]
          · simp only [answer, hturn, his, withSiblings]
    have hd : Distinct (.obj ms) := hv ▸ value_distinct hr hf h.inside
    have htext : TextRefs (.obj ms) := by
      obtain ⟨path, hp⟩ := h.inside
      exact hv ▸ (hl.texts fr.here hf.loaded).follow hp
    refine sorted_filled_local hd htext (hv ▸ matched) ht ?_
    rw [← hv, ← image_eq_filled top hr hl hf h.inside, hi]

end Unrolled

theorem Opened.threaded (htop : top ∈ c.documents) (ha : c.Acyclic top) {fr : Frame} (h : c.Opened top fr) :
    c.Threaded top fr := by
  induction h with
  | top => exact threaded_entry htop
  | enters _ he ih => exact ih.enters he
  | back _ href ht ih => exact absurd ht (ih.turn_ne_back ha href)

theorem not_closes (htop : top ∈ c.documents) (ha : c.Acyclic top) {d : Loaded} {fragment : String} :
    ¬ c.Closes top d fragment := by
  rintro ⟨fr, ref, ho, href, ht⟩
  exact (ho.threaded htop ha).turn_ne_back ha href ht

theorem resolve_eq_none {d : Loaded} {ref : String} (h : c.resolve (some d) ref = none) (here : Option Loaded) :
    c.resolve here ref = none := by
  unfold resolve at h ⊢
  dsimp only at h ⊢
  split at h
  next => simp at h
  next hne =>
    rw [if_neg hne]
    exact h

section Dereferenced

variable (hr : c.Registered base) (hl : c.Linked) (htop : top ∈ c.documents) (ha : c.Acyclic top)

include hr hl htop ha

theorem dereferenced_of_acyclic {ns : Members String} (hi : c.image top (entry top) = .obj ns) :
    c.dereferenced top = .ok (sorted (.obj ns)) := by
  have hnone : c.returns top (entry top) = [] := by
    refine List.eq_nil_iff_forall_not_mem.mpr fun i hi => ?_
    obtain ⟨d, _, _, _, fragment, hc⟩ := closes_of_mem_returns hr hl (framed_entry htop) (inside_entry top) .top hi
    exact not_closes htop ha hc
  refine dereferenced_of_inlinedDocument ?_
  rw [inlinedDocument_eq_walk htop, walk_eq_image top hr hl (framed_entry htop) (inside_entry top), hi, hnone]

theorem resolve_of_mem_image {ref : String} (h : ref ∈ refsIn (c.image top (entry top))) (here : Option Loaded) :
    c.resolve here ref = none := by
  rcases remains_of_mem_image hr hl (framed_entry htop) (inside_entry top) .top ref h with
    ⟨d, _, hn⟩ | ⟨d, fragment, hc, _⟩
  · exact resolve_eq_none hn here
  · exact absurd hc (not_closes htop ha)

end Dereferenced

/-- The bundle and the dereferenced document mean the same. Where no reference leads back to itself, the
bundle with its local references replaced, from the one at its root on, is the dereferenced document
without its identifier, and no reference to the corpus is left in either. -/
theorem bundle_unrolls_to_dereferenced {c : Corpus} {base name : String} {top : Loaded} {dialect : Document}
    (hr : c.Registered base) (hcan : c.Canonical base)
    (hroots : ∀ d ∈ c.documents, d.body.find? defs = none) (hids : c.RootIds) (hapart : c.Apart) (hl : c.Linked)
    (htop : c.top name = .ok top) (ha : c.Acyclic top) :
    ∃ (bundle flat : Members String) (ref : String),
      c.bundle dialect name = .ok (.obj bundle) ∧ bundle.find? "$ref" = some (.str ref) ∧
      c.dereference name = .ok (.obj flat) ∧
      (∃ n, ∀ depth, n ≤ depth →
        sorted (unrolled (.obj bundle) depth (.obj [("$ref", .str ref)])) = sorted (.obj (flat.erase "$id")) ∧
        ∀ r ∈ refsIn (unrolled (.obj bundle) depth (.obj [("$ref", .str ref)])), ∀ here, c.resolve here r = none) ∧
      ∀ r ∈ refsIn (.obj flat), ∀ here, c.resolve here r = none := by
  have hmem := top_mem htop
  obtain ⟨bs, tree, hbundle, href, hholds, hnode⟩ := bundle_eq hr hcan hroots dialect htop
  obtain ⟨ns, hns, _⟩ := image_obj top hr hl (framed_entry hmem) (inside_entry top) rfl
  have hd : Distinct (.obj ns) := hns ▸ image_distinct top hr hl (framed_entry hmem) (inside_entry top)
  have hflat : c.dereference name = .ok (sorted (.obj ns)) := by
    simp only [dereference, htop, bind, Except.bind]
    exact dereferenced_of_acyclic hr hl hmem ha hns
  have left : ∀ r ∈ refsIn (.obj (Json.sortMembers (Json.sortedValues ns))), ∀ here, c.resolve here r = none := by
    intro r hmemr here
    refine resolve_of_mem_image hr hl hmem ha (mem_refsIn_sorted.mp ?_) here
    rw [hns]
    exact hmemr
  have hwhole : Json.Pointer.resolve top.document "" = .ok (.obj top.body) := rfl
  have htarget := bundle_resolve hr hl.texts hids hapart hholds hnode hmem (Or.inl rfl) hwhole
  refine ⟨Json.sortMembers (Json.sortedValues bs), Json.sortMembers (Json.sortedValues ns), "#" ++ c.leafPointer top,
    hbundle, ?_, hflat, ⟨c.trailBound + 1, fun depth hdepth => ?_⟩, left⟩
  · rw [Members.find?_sortMembers, Members.find?_sortedValues, href]
    rfl
  · obtain ⟨depth, rfl⟩ : ∃ n, depth = n + 1 := ⟨depth - 1, by omega⟩
    have same := sorted_unrolled hr hl ha (fun d hd fragment os hroot hf =>
      bundle_resolve hr hl.texts hids hapart hholds hnode hd hroot hf) (threaded_entry hmem) depth
      (by simp only [entry, List.length_singleton]; omega) rfl hns (Json.sorted_sorted _)
    obtain ⟨xs, hxs⟩ := Json.obj_of_sorted_eq same
    have root : unrolled (sorted (.obj bs)) (depth + 1) (.obj [("$ref", .str ("#" ++ c.leafPointer top))]) =
        .obj xs := by
      simp only [unrolled, filled, refOf?, Members.find?_cons, beq_self_eq_true, if_true, filledMembers]
      rw [unrolledRef, after?_local]
      rw [String.append_empty] at htarget
      simp only [htarget, entry] at hxs ⊢
      rw [hxs]
      rfl
    rw [hxs] at same
    have plain : sorted (.obj xs) = sorted (.obj ((Json.sortMembers (Json.sortedValues ns)).erase "$id")) := by
      rw [same, Json.sorted_erase hd.nodup]
    rw [sorted] at root
    rw [root]
    refine ⟨plain, fun r hmemr here => left r ?_ here⟩
    exact refsIn_erase (by decide) ((mem_refsIn_of_sorted_eq plain).mpr hmemr)

/-- A schema with a property that is another schema, described anew. -/
def chainHead : Loaded where
  identifier := "https://example.org/schemas/core/a.schema.json"
  id := ⟨"core", [], "a", .schema⟩
  body :=
    [("$id", .str "https://example.org/schemas/core/a.schema.json"), ("title", .str "A"),
      ("properties", .obj [("b", .obj [("$ref", .str "https://example.org/schemas/core/b.schema.json"),
        ("description", .str "The next one.")])])]

def chainEnd : Loaded where
  identifier := "https://example.org/schemas/core/b.schema.json"
  id := ⟨"core", [], "b", .schema⟩
  body := [("$id", .str "https://example.org/schemas/core/b.schema.json"), ("type", .str "integer")]

def chain : Corpus where
  documents := [chainHead, chainEnd]

theorem chain_registered : chain.Registered "https://example.org/schemas/" where
  inOrder := by decide
  carried := by decide
  addressed := by decide
  distinct := by decide

theorem chain_canonical : chain.Canonical "https://example.org/schemas/" := by
  unfold Canonical
  decide

theorem chain_whole : chain.Whole where
  texts := by decide
  named := by decide
  plain := by decide

theorem chain_leads {k l : Key} (h : chain.Leads k l) :
    k.1 = chainHead.identifier ∧ l.1 = chainEnd.identifier := by
  obtain ⟨d, hd, hk, v, hv, ref, href, t, fragment, hres, rfl⟩ := h
  have href := refsIn_of_follow hv href
  obtain ⟨e, he, rfl, hres'⟩ := chain_whole.resolve chain_registered chain_canonical hd href
  obtain rfl : e = t := congrArg Prod.fst (Option.some.inj (hres'.symm.trans hres))
  have refs : ∀ d ∈ chain.documents, ∀ ref ∈ refsIn d.document,
      d.identifier = chainHead.identifier ∧ ref = chainEnd.identifier := by decide
  exact ⟨hk ▸ (refs d hd _ href).1, (refs d hd _ href).2⟩

theorem chain_acyclic : chain.Acyclic chainHead := by
  intro k _ hk
  obtain ⟨l, hl, _⟩ := TransGen.head'_iff.mp hk
  obtain ⟨m, _, hm⟩ := TransGen.tail'_iff.mp hk
  have hne : chainHead.identifier ≠ chainEnd.identifier := by decide
  exact hne ((chain_leads hl).1.symm.trans (chain_leads hm).2)

theorem chain_unrolls : ∃ (bundle flat : Members String) (ref : String),
    chain.bundle .null "A" = .ok (.obj bundle) ∧ bundle.find? "$ref" = some (.str ref) ∧
      chain.dereference "A" = .ok (.obj flat) ∧ ∃ n, ∀ depth, n ≤ depth →
        sorted (unrolled (.obj bundle) depth (.obj [("$ref", .str ref)])) = sorted (.obj (flat.erase "$id")) := by
  have hroots : ∀ d ∈ chain.documents, d.body.find? defs = none := by decide
  have hids : chain.RootIds := by
    unfold RootIds
    decide
  have hapart : chain.Apart := by
    unfold Apart
    decide
  have htop : chain.top "A" = .ok chainHead := by decide
  obtain ⟨bundle, flat, ref, hb, hr, hf, ⟨n, hn⟩, _⟩ := bundle_unrolls_to_dereferenced chain_registered chain_canonical
    hroots hids hapart (chain_whole.linked chain_registered chain_canonical) htop chain_acyclic
  exact ⟨bundle, flat, ref, hb, hr, hf, n, fun depth h => (hn depth h).1⟩

end NoteSchema.Corpus
