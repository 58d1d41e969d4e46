import NoteSchema.Proofs.Corpus.Walk
import NoteSchema.Proofs.Json.Permuted

namespace NoteSchema.Corpus

open Json (objects sorted Distinct Permuted)

mutual
/-- A value with what `put` answers in place of each object that has a reference. -/
def filled (put : String → Members String → Document) : Document → Document
  | .arr items => .arr (filledItems put items)
  | .obj members =>
    match refOf? members with
    | none => .obj (filledMembers put members)
    | some ref => put ref (filledMembers put members)
  | v => v

def filledItems (put : String → Members String → Document) : List Document → List Document
  | [] => []
  | v :: vs => filled put v :: filledItems put vs

/-- The members of an object besides its reference. -/
def filledMembers (put : String → Members String → Document) : Members String → Members String
  | [] => []
  | (k, v) :: ms => if k = "$ref" then filledMembers put ms else (k, filled put v) :: filledMembers put ms
end

/-- Every reference in a value is a text. -/
def TextRefs (v : Document) : Prop :=
  ∀ o ∈ objects v, ∀ w, o.find? "$ref" = some w → ∃ s, w = .str s

theorem textRefs_iff {v : Document} :
    TextRefs v ↔ ∀ o ∈ objects v, (refOf? o).isSome ∨ o.find? "$ref" = none := by
  refine forall₂_congr fun o _ => ?_
  unfold refOf?
  cases o.find? "$ref" with
  | none => simp
  | some w => cases w <;> simp

instance (v : Document) : Decidable (TextRefs v) := decidable_of_iff _ textRefs_iff.symm

theorem TextRefs.item {items : List Document} (h : TextRefs (.arr items)) {x : Document} (hx : x ∈ items) :
    TextRefs x :=
  fun o ho => h o (Json.mem_objectsInItems.mpr ⟨x, hx, ho⟩)

theorem TextRefs.member {ms : Members String} (h : TextRefs (.obj ms)) {m : String × Document} (hm : m ∈ ms) :
    TextRefs m.2 :=
  fun o ho => h o (Json.objects_of_mem hm ho)

theorem TextRefs.erase {k : String} {ms : Members String} (hk : k ≠ "$ref") (h : TextRefs (.obj ms)) :
    TextRefs (.obj (ms.erase k)) := by
  intro o ho w hw
  rcases List.mem_cons.mp ho with rfl | ho
  · rw [Members.find?_erase_ne hk] at hw
    exact h ms (Json.mem_objects_self ms) w hw
  · obtain ⟨m, hm, ho⟩ := Json.mem_objectsInMembers.mp ho
    exact h.member (Members.erase_sublist.subset hm) o ho w hw

theorem TextRefs.follow {v w : Document} {path : List String} (h : TextRefs v)
    (hw : Json.Pointer.follow v path = .ok w) : TextRefs w :=
  fun o ho => h o (Json.Pointer.objects_of_follow hw ho)

theorem refsIn_member {ms : Members String} {m : String × Document} {ref : String} (hm : m ∈ ms)
    (h : ref ∈ refsIn m.2) : ref ∈ refsIn (.obj ms) :=
  List.mem_append_right _ (mem_refsInMembers.mpr ⟨m, hm, h⟩)

theorem refsIn_item {items : List Document} {x : Document} {ref : String} (hx : x ∈ items)
    (h : ref ∈ refsIn x) : ref ∈ refsIn (.arr items) :=
  mem_refsInItems.mpr ⟨x, hx, h⟩

theorem refsIn_self {ms : Members String} {ref : String} (h : refOf? ms = some ref) : ref ∈ refsIn (.obj ms) :=
  List.mem_append_left _ (by simp [h])

section Members

variable {put : String → Members String → Document}

theorem filledItems_eq (xs : List Document) : filledItems put xs = xs.map (filled put) := by
  induction xs with
  | nil => rfl
  | cons x xs ih => rw [filledItems, ih, List.map_cons]

theorem find?_filledMembers (k : String) (ms : Members String) :
    (filledMembers put ms).find? k = if k = "$ref" then none else (ms.find? k).map (filled put) := by
  induction ms with
  | nil => simp [filledMembers, Members.find?]
  | cons m ms ih =>
    obtain ⟨l, w⟩ := m
    rw [filledMembers]
    by_cases hl : l = "$ref"
    · rw [if_pos hl, ih, Members.find?_cons]
      by_cases hk : k = "$ref"
      · simp [hk]
      · have hlk : l ≠ k := fun he => hk (he ▸ hl)
        simp [hk, hlk]
    · rw [if_neg hl, Members.find?_cons, Members.find?_cons, ih]
      by_cases hk : l = k
      · subst k
        simp [hl]
      · simp [hk]

theorem mem_filledMembers {m : String × Document} {ms : Members String} (h : m ∈ filledMembers put ms) :
    ∃ n ∈ ms, n.1 = m.1 ∧ n.1 ≠ "$ref" ∧ m.2 = filled put n.2 := by
  induction ms with
  | nil => simp [filledMembers] at h
  | cons n ms ih =>
    obtain ⟨l, w⟩ := n
    rw [filledMembers] at h
    split at h
    next =>
      obtain ⟨n, hn, he⟩ := ih h
      exact ⟨n, List.mem_cons_of_mem _ hn, he⟩
    next hl =>
      rcases List.mem_cons.mp h with rfl | h
      · exact ⟨_, List.mem_cons_self, rfl, hl, rfl⟩
      · obtain ⟨n, hn, he⟩ := ih h
        exact ⟨n, List.mem_cons_of_mem _ hn, he⟩

theorem keys_filledMembers (ms : Members String) : (filledMembers put ms).keys.Sublist ms.keys := by
  induction ms with
  | nil => exact List.Sublist.slnil
  | cons m ms ih =>
    obtain ⟨l, w⟩ := m
    rw [filledMembers]
    split
    · exact ih.cons l
    · exact ih.cons_cons l

theorem filledMembers_eq_map {ms : Members String} (h : ms.find? "$ref" = none) :
    filledMembers put ms = ms.map fun m => (m.1, filled put m.2) := by
  induction ms with
  | nil => rfl
  | cons m ms ih =>
    obtain ⟨l, w⟩ := m
    have hl : l ≠ "$ref" := by
      rintro rfl
      simp [Members.find?_cons] at h
    have hms : Members.find? "$ref" ms = none := by simpa [Members.find?_cons, hl] using h
    rw [filledMembers, if_neg hl, List.map_cons, ih hms]

theorem filled_eq_self {v : Document} (h : ∀ o ∈ objects v, o.find? "$ref" = none) : filled put v = v := by
  induction v using Json.inductOn with
  | arr items ih =>
    have hitems : ∀ x ∈ items, filled put x = id x := fun x hx =>
      ih x hx fun o ho => h o (Json.mem_objectsInItems.mpr ⟨x, hx, ho⟩)
    rw [filled, filledItems_eq, List.map_congr_left hitems, List.map_id]
  | obj ms ih =>
    have hself := h ms (Json.mem_objects_self ms)
    have hmembers : ∀ m ∈ ms, (m.1, filled put m.2) = id m := fun m hm => by
      rw [ih m hm fun o ho => h o (Json.objects_of_mem hm ho)]
      rfl
    have href : refOf? ms = none := by simp [refOf?, hself]
    rw [filled, href, filledMembers_eq_map hself, List.map_congr_left hmembers, List.map_id]
  | _ => rfl

end Members

/-- What takes the place of a reference is an object over which the other members are laid. -/
def Overlays (put : String → Members String → Document) (ref : String) : Prop :=
  ∀ siblings : Members String, Distinct (.obj siblings) → siblings.find? "$ref" = none →
    ∃ ms : Members String, put ref siblings = .obj ms ∧ Distinct (.obj ms) ∧
      ∀ k w, siblings.find? k = some w → ms.find? k = some w

section Filled

variable {put : String → Members String → Document}

theorem filledMembers_distinct {ms : Members String} (hd : Distinct (.obj ms))
    (h : ∀ m ∈ ms, Distinct (filled put m.2)) : Distinct (.obj (filledMembers put ms)) := by
  refine .obj (hd.nodup.sublist (keys_filledMembers ms)) fun m hm => ?_
  obtain ⟨n, hn, _, _, he⟩ := mem_filledMembers hm
  exact he ▸ h n hn

theorem filled_distinct {v : Document} (hd : Distinct v) (h : ∀ ref ∈ refsIn v, Overlays put ref) :
    Distinct (filled put v) := by
  induction v using Json.inductOn with
  | arr items ih =>
    rw [filled, filledItems_eq]
    refine .arr fun y hy => ?_
    obtain ⟨x, hx, rfl⟩ := List.mem_map.mp hy
    exact ih x hx (hd.item hx) fun ref hr => h ref (refsIn_item hx hr)
  | obj ms ih =>
    have hs : Distinct (.obj (filledMembers put ms)) := filledMembers_distinct hd fun m hm =>
      ih m hm (hd.member hm) fun ref hr => h ref (refsIn_member hm hr)
    rw [filled]
    cases hr : refOf? ms with
    | none => exact hs
    | some ref =>
      obtain ⟨ns, he, hn, _⟩ := h ref (refsIn_self hr) _ hs (by simp [find?_filledMembers])
      simpa only [he] using hn
  | null => exact .null
  | bool b => exact .bool b
  | number n => exact .number n
  | str s => exact .str s

theorem filled_obj {ms : Members String} (hd : Distinct (.obj ms))
    (h : ∀ ref ∈ refsIn (.obj ms), Overlays put ref) :
    ∃ ns : Members String, filled put (.obj ms) = .obj ns ∧
      ∀ k w, k ≠ "$ref" → ms.find? k = some w → ns.find? k = some (filled put w) := by
  have hf : ∀ k w, k ≠ "$ref" → ms.find? k = some w → (filledMembers put ms).find? k = some (filled put w) := by
    intro k w hk hw
    simp [find?_filledMembers, hk, hw]
  rw [filled]
  cases hr : refOf? ms with
  | none => exact ⟨_, rfl, hf⟩
  | some ref =>
    have hs : Distinct (.obj (filledMembers put ms)) := filledMembers_distinct hd fun m hm =>
      filled_distinct (hd.member hm) fun ref hr => h ref (refsIn_member hm hr)
    obtain ⟨ns, he, _, ho⟩ := h ref (refsIn_self hr) _ hs (by simp [find?_filledMembers])
    exact ⟨ns, he, fun k w hk hw => ho k _ (hf k w hk hw)⟩

/-- What an address leads to in a document is, filled, what the address leads to in the filled document. -/
theorem filled_follow {v : Document} {ms : Members String} {path : List String} (hd : Distinct v)
    (ht : TextRefs v) (h : ∀ ref ∈ refsIn v, Overlays put ref) (hn : Json.Pointer.follow v path = .ok (.obj ms)) :
    Json.Pointer.follow (filled put v) path = .ok (filled put (.obj ms)) := by
  induction path generalizing v with
  | nil =>
    cases hn
    rfl
  | cons token path ih =>
    obtain ⟨x, hx, hn⟩ := Json.Pointer.follow_cons hn
    have next := ih (hd.step hx) (fun o ho => ht o (Json.Pointer.objects_of_step hx ho))
      (fun ref hr => h ref (refsIn_of_step hx hr)) hn
    have step : Json.Pointer.step (filled put v) token = .ok (filled put x) := by
      rcases Json.Pointer.step_cases hx with ⟨os, rfl, hf⟩ | ⟨items, i, rfl, hi, hj, hf⟩
      · -- a reference is a text, which has nothing below it
        have hk : token ≠ "$ref" := by
          rintro rfl
          obtain ⟨s, rfl⟩ := ht os (Json.mem_objects_self os) x hf
          cases Json.Pointer.follow_str hn
        obtain ⟨ns, he, ho⟩ := filled_obj hd h
        rw [he, Json.Pointer.step, ho token x hk hf]
      · rw [filled, filledItems_eq]
        simp [Json.Pointer.step, hi, hj, hf]
    rw [Json.Pointer.follow, step]
    exact next

/-- What holds of the references that come with the answers holds of all references in a filled value. -/
theorem refsIn_filled {v : Document} {P : String → Prop}
    (h : ∀ r ∈ refsIn v, ∀ siblings : Members String, siblings.find? "$ref" = none →
      ∀ ref ∈ refsIn (put r siblings), P ref ∨ ref ∈ refsInMembers siblings) :
    ∀ ref ∈ refsIn (filled put v), P ref := by
  induction v using Json.inductOn with
  | arr items ih =>
    intro ref hr
    rw [filled, filledItems_eq, refsIn] at hr
    obtain ⟨y, hy, hr⟩ := mem_refsInItems.mp hr
    obtain ⟨x, hx, rfl⟩ := List.mem_map.mp hy
    exact ih x hx (fun r hv => h r (refsIn_item hx hv)) ref hr
  | obj ms ih =>
    have hs : ∀ ref ∈ refsInMembers (filledMembers put ms), P ref := by
      intro ref hr
      obtain ⟨m, hm, hr⟩ := mem_refsInMembers.mp hr
      obtain ⟨n, hn, _, _, he⟩ := mem_filledMembers hm
      exact ih n hn (fun r hv => h r (refsIn_member hn hv)) ref (he ▸ hr)
    have hnone : (filledMembers put ms).find? "$ref" = none := by simp [find?_filledMembers]
    intro ref hr
    rw [filled] at hr
    cases ho : refOf? ms with
    | none =>
      rw [ho] at hr
      simp only [refsIn, refOf?, hnone, Option.toList_none, List.nil_append] at hr
      exact hs ref hr
    | some r =>
      rw [ho] at hr
      exact (h r (refsIn_self ho) _ hnone ref hr).elim id (hs ref)
  | _ =>
    intro ref hr
    simp [filled, refsIn] at hr

variable {visit : String → Members String → Inlining Document} {more : String → List String}

theorem expandItems_eq {xs : List Document}
    (h : ∀ x ∈ xs, ∃ found, expand visit x = .ok (filled put x, found) ∧
      ∀ i, i ∈ found ↔ ∃ ref ∈ refsIn x, i ∈ more ref) :
    ∃ found, expandItems visit xs = .ok (xs.map (filled put), found) ∧
      ∀ i, i ∈ found ↔ ∃ ref ∈ refsInItems xs, i ∈ more ref := by
  induction xs with
  | nil => exact ⟨[], rfl, by simp [refsInItems]⟩
  | cons x xs ih =>
    obtain ⟨first, hx, hf⟩ := h x (by simp)
    obtain ⟨later, hxs, hl⟩ := ih fun y hy => h y (by simp [hy])
    refine ⟨first ++ (later ++ []), ?_, fun i => ?_⟩
    · rw [expandItems]
      exact Inlining.bind_of_ok hx (Inlining.bind_of_ok hxs rfl)
    · simp [refsInItems, hf, hl, or_and_right, exists_or]

theorem expandMembers_eq {ms : Members String} (ht : TextRefs (.obj ms)) (hd : Distinct (.obj ms))
    (h : ∀ m ∈ ms, ∃ found, expand visit m.2 = .ok (filled put m.2, found) ∧
      ∀ i, i ∈ found ↔ ∃ ref ∈ refsIn m.2, i ∈ more ref) :
    ∃ found, expandMembers visit ms = .ok (filledMembers put ms, found) ∧
      ∀ i, i ∈ found ↔ ∃ ref ∈ refsInMembers ms, i ∈ more ref := by
  have text : ∀ m ∈ ms, m.1 = "$ref" → refsIn m.2 = [] := by
    rintro ⟨k, v⟩ hm rfl
    obtain ⟨s, rfl⟩ := ht ms (Json.mem_objects_self ms) v (Members.find?_of_mem hd.nodup hm)
    rfl
  clear ht hd
  induction ms with
  | nil => exact ⟨[], rfl, by simp [refsInMembers]⟩
  | cons m ms ih =>
    obtain ⟨k, v⟩ := m
    obtain ⟨later, hms, hl⟩ := ih (fun y hy => h y (by simp [hy])) fun y hy => text y (by simp [hy])
    rw [expandMembers, filledMembers]
    by_cases hk : k = "$ref"
    · refine ⟨later, by rw [if_pos hk, if_pos hk, hms], fun i => ?_⟩
      simp [refsInMembers, hl, text (k, v) (by simp) hk]
    · obtain ⟨first, hv, hf⟩ := h (k, v) (by simp)
      refine ⟨first ++ (later ++ []), ?_, fun i => ?_⟩
      · rw [if_neg hk, if_neg hk]
        exact Inlining.bind_of_ok hv (Inlining.bind_of_ok hms rfl)
      · simp [refsInMembers, hf, hl, or_and_right, exists_or]

/-- A traversal in which every reference gets an answer fills the value in and collects what comes with
the answers. -/
theorem expand_eq_filled {v : Document} (hd : Distinct v) (ht : TextRefs v)
    (h : ∀ ref ∈ refsIn v, ∀ siblings, visit ref siblings = .ok (put ref siblings, more ref)) :
    ∃ found, expand visit v = .ok (filled put v, found) ∧ ∀ i, i ∈ found ↔ ∃ ref ∈ refsIn v, i ∈ more ref := by
  induction v using Json.inductOn with
  | arr items ih =>
    obtain ⟨found, hi, hf⟩ := expandItems_eq fun x hx =>
      ih x hx (hd.item hx) (ht.item hx) fun ref hr => h ref (refsIn_item hx hr)
    refine ⟨found ++ [], ?_, by simpa [refsIn] using hf⟩
    rw [expand, filled, filledItems_eq]
    exact Inlining.bind_of_ok hi rfl
  | obj ms ih =>
    obtain ⟨found, hm, hf⟩ := expandMembers_eq ht hd fun m hm =>
      ih m hm (hd.member hm) (ht.member hm) fun ref hr => h ref (refsIn_member hm hr)
    rw [expand, filled]
    cases hr : refOf? ms with
    | none =>
      refine ⟨found ++ [], Inlining.bind_of_ok hm rfl, ?_⟩
      simpa [refsIn, hr] using hf
    | some ref =>
      refine ⟨found ++ more ref, Inlining.bind_of_ok hm (h ref (refsIn_self hr) _), fun i => ?_⟩
      simp [refsIn, hr, hf, or_comm]
  | _ => exact ⟨[], rfl, by simp [refsIn]⟩

end Filled

section Alike

variable {f g : String → Members String → Document}

theorem refOf?_of_sorted_eq {ms ns : Members String} (h : sorted (.obj ms) = sorted (.obj ns)) :
    refOf? ms = refOf? ns := by
  simp only [sorted, Json.obj.injEq] at h
  rw [← refOf?_sorted ms, ← refOf?_sorted ns, h]

/-- Answers that differ in the order of members only when the members beside a reference do so. -/
def Alike (f g : String → Members String → Document) (ref : String) : Prop :=
  ∀ s t : Members String, Distinct (.obj s) → Distinct (.obj t) → s.find? "$ref" = none →
    t.find? "$ref" = none → sorted (.obj s) = sorted (.obj t) → sorted (f ref s) = sorted (g ref t)

theorem mem_refsIn_of_sorted_eq {v w : Document} {ref : String} (h : sorted v = sorted w) :
    ref ∈ refsIn w ↔ ref ∈ refsIn v := by
  rw [← mem_refsIn_sorted (v := w), ← h, mem_refsIn_sorted]

/-- Values that differ in the order of members only are filled in alike. -/
theorem permuted_filled {v w : Document} (hvw : Permuted v w) (hf : ∀ ref ∈ refsIn v, Overlays f ref)
    (hg : ∀ ref ∈ refsIn v, Overlays g ref) (h : ∀ ref ∈ refsIn v, Alike f g ref) :
    Permuted (filled f v) (filled g w) := by
  revert hf hg h
  refine hvw.induct (fun v harr hobj hf hg h => ?_) (fun xs ys hxy ih hf hg h => ?_) fun ms ns hms ih hf hg h => ?_
  · cases v with
    | arr xs => exact absurd rfl (harr xs)
    | obj ms => exact absurd rfl (hobj ms)
    | _ => exact .refl (by constructor)
  · rw [filled, filled, filledItems_eq, filledItems_eq]
    refine .of_items (List.forall₂_map_left_iff.mpr (List.forall₂_map_right_iff.mpr ?_))
    obtain ⟨hlength, hitem⟩ := List.forall₂_iff_zip.mp ih
    refine List.forall₂_iff_zip.mpr ⟨hlength, fun {x y} hmem => ?_⟩
    have hx := (List.of_mem_zip hmem).1
    exact hitem hmem (fun ref hr => hf ref (refsIn_item hx hr)) (fun ref hr => hg ref (refsIn_item hx hr))
      fun ref hr => h ref (refsIn_item hx hr)
  · have hg' : ∀ ref ∈ refsIn (.obj ns), Overlays g ref := fun ref hr =>
      hg ref ((mem_refsIn_of_sorted_eq hms.same).mp hr)
    have hdf : Distinct (.obj (filledMembers f ms)) := filledMembers_distinct hms.left fun m hm =>
      filled_distinct (hms.left.member hm) fun ref hr => hf ref (refsIn_member hm hr)
    have hdg : Distinct (.obj (filledMembers g ns)) := filledMembers_distinct hms.right fun m hm =>
      filled_distinct (hms.right.member hm) fun ref hr => hg' ref (refsIn_member hm hr)
    have members : Permuted (.obj (filledMembers f ms)) (.obj (filledMembers g ns)) := by
      refine .of_find? hdf.nodup hdg.nodup fun k => ?_
      rw [find?_filledMembers, find?_filledMembers]
      split
      · exact .none
      · cases hx : ms.find? k with
        | none => rw [hms.find?_eq_none_iff.mp hx]; exact .none
        | some x =>
          obtain ⟨y, hy, hxy⟩ := hms.exists_find? hx
          have hm := Members.mem_of_find? hx
          rw [hy]
          exact .some (ih k x y hx hy (fun ref hr => hf ref (refsIn_member hm hr))
            (fun ref hr => hg ref (refsIn_member hm hr)) fun ref hr => h ref (refsIn_member hm hr))
    refine ⟨filled_distinct hms.left hf, filled_distinct hms.right hg', ?_⟩
    rw [filled, filled, ← refOf?_of_sorted_eq hms.same]
    cases hr : refOf? ms with
    | none => exact members.same
    | some ref =>
      exact h ref (refsIn_self hr) _ _ hdf hdg (by simp [find?_filledMembers]) (by simp [find?_filledMembers])
        members.same

theorem alike_keep {ref r : String} (hf : ∀ s, f ref s = keep r s) (hg : ∀ s, g ref s = keep r s) : Alike f g ref :=
  fun s t hs ht hsr _ h => by
    rw [hf, hg]
    exact (Permuted.cons ⟨hs, ht, h⟩ hsr (.refl (.str _))).same

theorem alike_update {ref : String} {ms ns : Members String} (hm : Distinct (.obj ms)) (hn : Distinct (.obj ns))
    (he : sorted (.obj ms) = sorted (.obj ns)) (hf : ∀ s, f ref s = .obj (ms.update s))
    (hg : ∀ s, g ref s = .obj (ns.update s)) : Alike f g ref :=
  fun s t hs ht _ _ h => by
    rw [hf, hg]
    exact (Permuted.update ⟨hm, hn, he⟩ ⟨hs, ht, h⟩).same

end Alike

end NoteSchema.Corpus
