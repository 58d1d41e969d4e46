import NoteSchema.Proofs.Corpus.Whole

namespace NoteSchema.Corpus

open Json (Distinct sorted)

/-- One object is another up to the order of its members, definitions that were added to it and an
identifier that it lost. -/
def Resembles (v w : Document) : Prop :=
  ∃ vs ws : Members String, v = .obj vs ∧ w = .obj ws ∧
    (sorted (.obj (vs.erase defs)) = sorted (.obj ws) ∨
      sorted (.obj (vs.erase defs)) = sorted (.obj (ws.erase "$id")))

theorem resembles_sorted {ns ws : Members String} (hn : ns.keys.Nodup)
    (h : ns.erase defs = ws ∨ ns.erase defs = ws.erase "$id") : Resembles (sorted (.obj ns)) (.obj ws) := by
  refine ⟨_, ws, rfl, rfl, ?_⟩
  rw [Json.sorted_erase hn]
  exact h.imp (fun h => by rw [h]) fun h => by rw [h]

/-- An object is the image of a document with definitions added to it, and perhaps without its identifier. -/
def Hosts (c : Corpus) (top d : Loaded) (ns : Members String) : Prop :=
  ∃ ims : Members String, c.image top (entry d) = .obj ims ∧
    (ns.erase defs = ims ∨ ns.erase defs = ims.erase "$id")

section Linked

variable {c : Corpus} {base : String} {top : Loaded}
variable (hr : c.Registered base) (hl : c.Linked) (hb : c.Bare)

include hr hl hb

theorem Hosts.nodup {d : Loaded} {ns : Members String} (h : c.Hosts top d ns) (hd : d ∈ c.documents) :
    ns.keys.Nodup := by
  obtain ⟨ims, hi, ho⟩ := h
  obtain ⟨os, hos, hbare⟩ := image_entry top hr hl hb hd
  obtain rfl : ims = os := by simpa [hi] using hos
  have hdist : Distinct (.obj ims) := hi ▸ image_distinct top hr hl (framed_entry hd) (inside_entry d)
  rcases ho with ho | ho
  · exact Members.nodup_of_erase (ho ▸ hdist.nodup) (ho ▸ hbare)
  · refine Members.nodup_of_erase (ho ▸ Members.nodup_erase hdist.nodup) ?_
    rw [ho, Members.find?_erase_ne (by decide), hbare]

omit hl in
/-- A path to an object below a document leads through neither its definitions nor its identifier. -/
theorem Hosts.follow_below {d : Loaded} {ms ns : Members String} {token : String} {path : List String}
    (h : c.Hosts top d ns) (hd : d ∈ c.documents)
    (hf : Json.Pointer.follow d.document (token :: path) = .ok (.obj ms)) :
    Json.Pointer.follow (.obj ns) (token :: path) = Json.Pointer.follow (c.image top (entry d)) (token :: path) := by
  obtain ⟨ims, hi, ho⟩ := h
  obtain ⟨x, hx, hrest⟩ := Json.Pointer.follow_obj_cons hf
  have hdefs : defs ≠ token := by
    rintro rfl
    simp [hb.roots d hd] at hx
  have hid : "$id" ≠ token := by
    rintro rfl
    cases (hr.carried d hd).symm.trans hx
    cases Json.Pointer.follow_str hrest
  rw [hi, ← Json.Pointer.follow_erase hdefs]
  rcases ho with ho | ho
  · rw [ho]
  · rw [ho, Json.Pointer.follow_erase hid]

/-- Where the image of a document lies, an address leads to the image of what it leads to in the
document. -/
theorem Hosts.resolves {d : Loaded} {fragment : String} {ms ns : Members String} (h : c.Hosts top d ns)
    (hd : d ∈ c.documents) (hf : Json.Pointer.resolve d.document fragment = .ok (.obj ms))
    (hm : ms.find? defs = none) :
    ∃ v, Json.Pointer.resolve (.obj ns) fragment = .ok v ∧
      Resembles (sorted v) (c.image top (entryAt d (.obj ms))) ∧
      (fragment ≠ "" → v = c.image top (entryAt d (.obj ms))) := by
  have hnodup := h.nodup hr hl hb hd
  have hframe := framed_entryAt hd hf
  have hinside : (entryAt d (.obj ms)).Inside := ⟨_, hf⟩
  cases htok : Json.Pointer.tokens fragment with
  | nil =>
    have hempty : fragment = "" := by
      by_contra hne
      simp [Json.Pointer.tokens, hne, Text.splitChars_ne_nil] at htok
    have hroot : Json.obj ms = d.document := by
      rw [Json.Pointer.resolve, htok] at hf
      cases hf
      rfl
    obtain ⟨ims, hi, ho⟩ := h
    have he : c.image top (entryAt d (.obj ms)) = .obj ims := by rw [hroot]; exact hi
    refine ⟨.obj ns, by rw [Json.Pointer.resolve, htok]; rfl, ?_, fun hne => absurd hempty hne⟩
    exact he ▸ resembles_sorted hnodup ho
  | cons token path =>
    have himage : Json.Pointer.resolve (c.image top (entry d)) fragment = .ok (c.image top (entryAt d (.obj ms))) := by
      have ho := (walk_filled top hr hl (framed_entry hd) (inside_entry d)).1
      have hfill := filled_follow (hr.distinct d hd) (hl.texts d hd) ho hf
      rw [image_eq_filled top hr hl (framed_entry hd) (inside_entry d), image_eq_filled top hr hl hframe hinside]
      exact hfill
    rw [Json.Pointer.resolve, htok] at hf himage
    obtain ⟨ws, hws, hnone⟩ := image_bare top hr hl hb hframe hinside rfl hm
    have hwd : Distinct (.obj ws) := hws ▸ image_distinct top hr hl hframe hinside
    refine ⟨c.image top (entryAt d (.obj ms)), ?_, ?_, fun _ => rfl⟩
    · rw [Json.Pointer.resolve, htok, h.follow_below hr hb hd hf, himage]
    · rw [hws]
      exact resembles_sorted hwd.nodup (Or.inl (Members.erase_eq_self hnone))

end Linked

/-- Where a pointer back to a key points to, without the sign in front of it. -/
def backPath (c : Corpus) (top d : Loaded) (fragment : String) : String :=
  if d.identifier = top.identifier then fragment else c.leafPointer d ++ fragment

theorem backPointer_eq (c : Corpus) (top d : Loaded) (fragment : String) :
    c.backPointer top d fragment = "#" ++ c.backPath top d fragment := by
  unfold backPointer backPath
  split
  · rfl
  · rw [String.append_assoc]

/-- What is left of a document once it is dereferenced: a pointer to a key leads to where the document of
the key lies, and no references are left but such pointers and those that name no document. -/
structure Output (c : Corpus) (top : Loaded) (os : Members String) : Prop where
  root : c.Hosts top top os
  host : ∀ d fragment, c.Closes top d fragment → ∃ ns : Members String, c.Hosts top d ns ∧
    ∀ path, Json.Pointer.Rooted path →
      Json.Pointer.resolve (.obj os) (c.backPath top d path) = Json.Pointer.resolve (.obj ns) path
  remains : ∀ ref ∈ refsIn (.obj os), c.Remains top ref

section Dereferenced

variable {c : Corpus} {base : String} {top : Loaded}
variable (hr : c.Registered base) (hcan : c.Canonical base) (hl : c.Linked) (hb : c.Bare)
variable (htop : top ∈ c.documents)

include hr hl htop in
theorem covered_start : c.Covered top [] (c.returns top (entry top)) (.obj []) := by
  refine ⟨by simp, by simp, holds_empty, fun i hi => ?_, fun d hd i hi => ?_⟩
  · exact opened_of_mem_returns hr hl (framed_entry htop) (inside_entry top) .top hi
  · obtain rfl : d = top := by simpa using hd
    exact hi

include hr hl htop in
/-- Once nothing is pending, every document that any walk leads back into is defined. -/
theorem Covered.returns_all {all : List Loaded} {needed : List String} {tree : Document}
    (h : c.Covered top all needed tree) (hnone : c.pending (all.map (·.identifier)) needed = []) {fr : Frame}
    (ho : c.Opened top fr) : ∀ i ∈ c.returns top fr, i ∈ needed ∧ ∃ d ∈ all, d.identifier = i := by
  have defined : ∀ i ∈ needed, ∃ d ∈ all, d.identifier = i := by
    intro i hi
    obtain ⟨d, hd, rfl, _⟩ := h.wants i hi
    by_contra hn
    have hmem : d ∈ c.pending (all.map (·.identifier)) needed := by
      refine List.mem_filter.mpr ⟨hd, ?_⟩
      simpa [hi] using hn
    simp [hnone] at hmem
  suffices hs : ∀ i ∈ c.returns top fr, i ∈ needed from fun i hi => ⟨hs i hi, defined i (hs i hi)⟩
  induction ho with
  | top => exact h.returns top (Or.inl rfl)
  | enters ho he ih =>
    have hf := ho.framed htop
    exact fun i hi => ih i (returns_of_enters hr hl hf.1 hf.2 he hi)
  | @back fr ref d fragment ho href ht ih =>
    have hf := ho.framed htop
    have hd := turn_back_loaded hf.1 ht
    by_cases hne : d.identifier = top.identifier
    · exact h.returns d (Or.inl (hr.ext hd htop hne))
    · obtain ⟨e, he, hi⟩ := defined _ (ih _ (returns_of_back hr hl hf.1 hf.2 href ht hne))
      exact h.returns d (Or.inr (hr.ext (h.loaded e he) hd hi ▸ he))

include hr hl in
theorem remains_of_mem_definition {d : Loaded} {ref : String} (hd : d ∈ c.documents) (ho : c.Opened top (entry d))
    (h : ref ∈ refsIn (.obj (c.dereferencedDefinition top d).2)) : c.Remains top ref := by
  obtain ⟨ns, hns, _⟩ := image_obj top hr hl (framed_entry hd) (inside_entry d) rfl
  refine remains_of_mem_image hr hl (framed_entry hd) (inside_entry d) ho ref ?_
  rw [dereferencedDefinition, hns, objectMembers] at h
  rw [hns]
  exact refsIn_erase (by decide) h

include hr hl hb htop in
/-- Once nothing is pending, a pointer to a key leads to where the document of the key lies. -/
theorem Covered.hosts {all : List Loaded} {needed : List String} {tree : Document} {os : Members String}
    (h : c.Covered top all needed tree) (hnone : c.pending (all.map (·.identifier)) needed = [])
    (hnode : ∀ name path, nodeAt (name :: path) (.obj os) = nodeAt (name :: path) tree) (hos : c.Hosts top top os)
    {d : Loaded} {fragment : String} (hclose : c.Closes top d fragment) :
    ∃ ns : Members String, c.Hosts top d ns ∧ ∀ path, Json.Pointer.Rooted path →
      Json.Pointer.resolve (.obj os) (c.backPath top d path) = Json.Pointer.resolve (.obj ns) path := by
  have hd := hclose.loaded htop
  obtain ⟨fr, ref, ho, href, ht⟩ := hclose
  have hf := ho.framed htop
  unfold backPath
  split
  next hid =>
    obtain rfl : d = top := hr.ext hd htop hid
    exact ⟨os, hos, fun _ _ => rfl⟩
  next hid =>
    have hret := returns_of_back hr hl hf.1 hf.2 href ht hid
    obtain ⟨_, e, he, hei⟩ := h.returns_all hr hl htop hnone ho _ hret
    obtain rfl : e = d := hr.ext (h.loaded e he) hd hei
    obtain ⟨node, hat, hnown⟩ := Option.map_eq_some_iff.mp (h.holds.held _ (List.mem_map_of_mem he))
    obtain ⟨ns, rfl⟩ := (h.holds.folders.nodeAt hat).isObj
    obtain ⟨es, hes, _⟩ := image_entry top hr hl hb hd
    rw [dereferencedDefinition, hes, objectMembers] at hnown
    refine ⟨ns, ⟨es, hes, Or.inr hnown⟩, fun path hroot => ?_⟩
    have hplace : nodeAt (c.leafPath e) (.obj os) = some (.obj ns) := by
      cases hpath : c.leafPath e with
      | nil => exact absurd hpath (leafPath_ne_nil hd)
      | cons name path =>
        rw [hnode, ← hpath]
        exact hat
    rw [Json.Pointer.resolve, leafPointer, tokens_pointerTo _ hroot, Json.Pointer.follow_append,
      follow_tokensTo hplace]
    rfl

include hr hcan hl hb htop in
/-- Dereferencing never fails, and this is what it leaves of a document. -/
theorem dereferenced_output :
    ∃ os : Members String, c.dereferenced top = .ok (sorted (.obj os)) ∧ c.Output top os := by
  obtain ⟨ims, hi, hbare⟩ := image_entry top hr hl hb htop
  obtain ⟨order, hc, _⟩ := completes_rounds top c.documents.length [] (c.returns top (entry top)) (.obj [])
    (by rw [undefined_nil])
  obtain ⟨all, needed, tree, hok, hcov, hnone⟩ :=
    Covered.completes hr hcan hl hb htop [] hc (covered_start hr hl htop)
  obtain ⟨os, hw, hown, hnode, hrefs⟩ := withDefinitions_eq hbare hcov.holds.folders
  have hos : c.Hosts top top os := ⟨ims, hi, Or.inl hown⟩
  refine ⟨os, ?_, hos, fun d fragment hclose => hcov.hosts hr hl hb htop hnone hnode hos hclose, fun ref href => ?_⟩
  · have hd : c.inlinedDocument top top = .ok (.obj ims, c.returns top (entry top)) := by
      rw [inlinedDocument_eq_walk htop, walk_eq_image top hr hl (framed_entry htop) (inside_entry top), hi]
    unfold dereferenced
    rw [hd]
    simp only [bind, Except.bind, hok, hw]
    rfl
  · rcases hrefs _ href with href | href
    · exact remains_of_mem_image hr hl (framed_entry htop) (inside_entry top) .top _ (hi ▸ href)
    · obtain ⟨e, he, href⟩ := hcov.holds.refs _ href
      obtain ⟨d, hd, rfl⟩ := List.mem_map.mp he
      exact remains_of_mem_definition hr hl (hcov.loaded d hd) (hcov.opened d hd) href

end Dereferenced

/-- Dereferencing leaves no dangling pointer: each one in the result was written for a reference that leads
back to a key, and it leads to the image of what the key addresses. -/
theorem dereferenced_pointers_resolve {c : Corpus} {base : String} {top : Loaded} (hr : c.Registered base)
    (hcan : c.Canonical base) (hl : c.Linked) (hb : c.Bare) (htop : top ∈ c.documents) :
    ∃ out, c.dereferenced top = .ok out ∧
      (∀ p, "#" ++ p ∈ refsIn out →
        ∃ d fragment, c.Closes top d fragment ∧ c.backPointer top d fragment = "#" ++ p) ∧
      ∀ d fragment, c.Closes top d fragment → ∃ p n v w found,
        c.backPointer top d fragment = "#" ++ p ∧ Json.Pointer.resolve d.document fragment = .ok n ∧
        Json.Pointer.resolve out p = .ok v ∧ c.walk top (entryAt d n) = .ok (w, found) ∧
        Resembles v w ∧ (fragment ≠ "" → v = sorted w) := by
  obtain ⟨os, hout, ho⟩ := dereferenced_output hr hcan hl hb htop
  refine ⟨_, hout, fun p hp => ?_, fun d fragment hc => ?_⟩
  · rcases ho.remains _ (mem_refsIn_sorted.mp hp) with ⟨d, _, hn⟩ | ⟨d, fragment, hc, he⟩
    · simp [resolve_local] at hn
    · exact ⟨d, fragment, hc, he.symm⟩
  · -- the pointer leads into the document of the key where it lies, and the fragment on from there
    have hd := hc.loaded htop
    obtain ⟨ns, hhost, hpath⟩ := ho.host d fragment hc
    obtain ⟨fr, ref, hopen, href, ht⟩ := hc
    have hf := (hopen.framed htop).1
    have hres := (turn_eq_back ht).1
    obtain ⟨hroot, ms, hn⟩ := hl.rooted fr.here hf.loaded ref (hf.refs ref href) d fragment hres
    have hbare : Members.find? defs ms = none :=
      hb.targets fr.here hf.loaded ref (hf.refs ref href) d fragment ms hres hn
    obtain ⟨v, hv, hlike, hexact⟩ := hhost.resolves hr hl hb hd hn hbare
    have hw := walk_eq_image top hr hl (framed_entryAt hd hn) ⟨_, hn⟩
    refine ⟨c.backPath top d fragment, .obj ms, sorted v, _, _, backPointer_eq c top d fragment, hn, ?_, hw, hlike,
      fun hne => by rw [hexact hne]⟩
    rw [← hpath fragment hroot, Json.Pointer.resolve] at hv
    rw [Json.Pointer.resolve, Json.Pointer.follow_sorted, hv]
    rfl

/-- A schema with a property of its own that is the other schema of the ring. -/
def ringSchema (name other : String) (required : List Document) : Loaded where
  identifier := "https://example.org/schemas/core/" ++ name ++ ".schema.json"
  id := ⟨"core", [], name, .schema⟩
  body :=
    [("$id", .str ("https://example.org/schemas/core/" ++ name ++ ".schema.json")), ("type", .str "object"),
      ("required", .arr required), ("properties",
        .obj [(other, .obj [("$ref", .str ("https://example.org/schemas/core/" ++ other ++ ".schema.json"))])])]

/-- Two schemas each of which refers to the other. -/
def ring : Corpus where
  documents := [ringSchema "a" "b" [.str "b"], ringSchema "b" "a" []]

theorem ring_registered : ring.Registered "https://example.org/schemas/" where
  inOrder := by decide
  carried := by decide
  addressed := by decide
  distinct := by decide

theorem ring_canonical : ring.Canonical "https://example.org/schemas/" := by
  unfold Canonical
  decide

theorem ring_whole : ring.Whole where
  texts := by decide
  named := by decide
  plain := by decide

theorem ring_closes : ring.Closes (ringSchema "a" "b" [.str "b"]) (ringSchema "a" "b" [.str "b"]) "" := by
  have enters : ring.Enters (entry (ringSchema "a" "b" [.str "b"]))
      ⟨[((ringSchema "b" "a" []).identifier, ""), ((ringSchema "a" "b" [.str "b"]).identifier, "")],
        ringSchema "b" "a" [], (ringSchema "b" "a" []).document⟩ :=
    .step (by decide : (ringSchema "b" "a" []).identifier ∈ _) (by decide)
  have here : (ringSchema "a" "b" [.str "b"]).identifier ∈ refsIn (ringSchema "b" "a" []).document := by
    decide
  exact ⟨_, _, .enters .top enters, here, by decide⟩

theorem ring_pointer_resolves :
    ∃ out, ring.dereferenced (ringSchema "a" "b" [.str "b"]) = .ok out ∧ ∃ p v w,
      ring.backPointer (ringSchema "a" "b" [.str "b"]) (ringSchema "a" "b" [.str "b"]) "" = "#" ++ p ∧
        Json.Pointer.resolve out p = .ok v ∧ Resembles v w := by
  have hl := ring_whole.linked ring_registered ring_canonical
  have hb := ring_whole.bare ring_registered ring_canonical (by decide)
  have htop : ringSchema "a" "b" [.str "b"] ∈ ring.documents := by simp [ring]
  obtain ⟨out, hout, _, hresolve⟩ := dereferenced_pointers_resolve ring_registered ring_canonical hl hb htop
  obtain ⟨p, _, v, w, _, hp, _, hv, _, hlike, _⟩ := hresolve _ _ ring_closes
  exact ⟨out, hout, p, v, w, hp, hv, hlike⟩

end NoteSchema.Corpus
