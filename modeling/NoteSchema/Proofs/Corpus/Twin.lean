import NoteSchema.Proofs.Corpus.Filling
import NoteSchema.Proofs.Corpus.Merged

namespace NoteSchema.Corpus

open Json (Distinct Permuted objects)

/-- Whether a value is an object with a reference. -/
def refers : Document → Bool
  | .obj ms => (refOf? ms).isSome
  | _ => false

/-- Whether definitions are no list with an object in it and no reference, which could put such a list there. -/
def isPlain (v : Document) : Bool := !listsObject v && !refers v

/-- Wherever a value has definitions, they are plain. -/
def PlainDefinitions (v : Document) : Prop := ∀ o ∈ objects v, ∀ w ∈ Members.find? defs o, isPlain w

instance (v : Document) : Decidable (PlainDefinitions v) :=
  inferInstanceAs (Decidable (∀ o ∈ objects v, ∀ w ∈ Members.find? defs o, isPlain w))

theorem plainDefinitions_arr {items : List Document} :
    PlainDefinitions (.arr items) ↔ ∀ x ∈ items, PlainDefinitions x := by
  simp only [PlainDefinitions, objects, Json.mem_objectsInItems]
  constructor
  · exact fun h x hx o ho => h o ⟨x, hx, ho⟩
  · rintro h o ⟨x, hx, ho⟩
    exact h x hx o ho

theorem plainDefinitions_obj {ms : Members String} :
    PlainDefinitions (.obj ms) ↔ (∀ w ∈ ms.find? defs, isPlain w) ∧ ∀ m ∈ ms, PlainDefinitions m.2 := by
  constructor
  · intro h
    exact ⟨h ms (Json.mem_objects_self ms), fun m hm o ho => h o (Json.objects_of_mem hm ho)⟩
  · rintro ⟨hown, hmember⟩ o ho
    rcases List.mem_cons.mp ho with rfl | ho
    · exact hown
    · obtain ⟨m, hm, ho⟩ := Json.mem_objectsInMembers.mp ho
      exact hmember m hm o ho

/-- Values that differ in the order of members only, with plain definitions. -/
structure Twin (v w : Document) : Prop extends Permuted v w where
  plain : PlainDefinitions v

namespace Twin

variable {v w : Document} {ms ns ss ts : Members String}

theorem of_items {xs ys : List Document} (h : List.Forall₂ Twin xs ys) : Twin (.arr xs) (.arr ys) := by
  refine ⟨Permuted.of_items (h.imp fun _ _ h => h.toPermuted), plainDefinitions_arr.mpr fun x hx => ?_⟩
  induction h with
  | nil => cases hx
  | cons head _ ih =>
    rcases List.mem_cons.mp hx with rfl | hx
    · exact head.plain
    · exact ih hx

theorem follow {x y : Document} {path : List String} (h : Twin v w) (hx : Json.Pointer.follow v path = .ok x)
    (hxy : Permuted x y) : Twin x y :=
  ⟨hxy, fun o ho => h.plain o (Json.Pointer.objects_of_follow hx ho)⟩

theorem erase (h : Twin (.obj ms) (.obj ns)) {k : String} (hk : k ≠ defs) : Twin (.obj (ms.erase k)) (.obj (ns.erase k)) := by
  obtain ⟨hown, hmember⟩ := plainDefinitions_obj.mp h.plain
  refine ⟨h.toPermuted.erase k, plainDefinitions_obj.mpr ⟨?_, fun m hm => ?_⟩⟩
  · rwa [Members.find?_erase_ne hk]
  · exact hmember m (Members.erase_sublist.subset hm)

theorem update (h : Twin (.obj ms) (.obj ns)) (h' : Twin (.obj ss) (.obj ts)) :
    Twin (.obj (ms.update ss)) (.obj (ns.update ts)) := by
  obtain ⟨hown, hmember⟩ := plainDefinitions_obj.mp h.plain
  obtain ⟨hown', hmember'⟩ := plainDefinitions_obj.mp h'.plain
  refine ⟨h.toPermuted.update h'.toPermuted, plainDefinitions_obj.mpr ⟨fun w hw => ?_, fun m hm => ?_⟩⟩
  · rw [Members.find?_update h'.left.nodup] at hw
    rcases Option.or_eq_some_iff.mp hw with hs | ⟨_, hs⟩
    · exact hown' w hs
    · exact hown w hs
  · exact (Members.mem_update hm).elim (hmember m) (hmember' m)

theorem keep (h : Twin (.obj ss) (.obj ts)) (hs : ss.find? "$ref" = none) (ref : String) :
    Twin (keep ref ss) (Corpus.keep ref ts) := by
  obtain ⟨hown, hmember⟩ := plainDefinitions_obj.mp h.plain
  refine ⟨h.toPermuted.cons hs (.refl (.str ref)), plainDefinitions_obj.mpr ⟨?_, fun m hm => ?_⟩⟩
  · rwa [Members.find?_cons, if_neg (by decide)]
  · rcases List.mem_cons.mp hm with rfl | hm
    · intro o ho
      cases ho
    · exact hmember m hm

theorem withSiblings (h : Twin (.obj ss) (.obj ts)) (hv : Twin v w) :
    Twin (withSiblings ss v) (Corpus.withSiblings ts w) := by
  cases v with
  | obj ms =>
    obtain ⟨ns, rfl⟩ := hv.exists_obj
    exact (hv.erase (k := "$id") (by decide)).update h
  | _ =>
    have hw := hv.isObject_eq
    cases w with
    | obj ns => cases hw
    | _ => exact hv

end Twin

theorem Twin.listsObject {v : Document} {ms ns : Members String} (h : Twin (.obj ms) (.obj ns))
    (hv : ms.find? defs = some v) : listsObject v = false := by
  have hplain := (plainDefinitions_obj.mp h.plain).1 v hv
  simp only [isPlain, Bool.and_eq_true, Bool.not_eq_true'] at hplain
  exact hplain.1

namespace Inlining

variable {α β γ δ : Type}

theorem bind_eq_ok {x : Inlining α} {f : α → Inlining β} {b : β} {gs : List String} (h : x >>= f = .ok (b, gs)) :
    ∃ a fs hs, x = .ok (a, fs) ∧ f a = .ok (b, hs) ∧ gs = fs ++ hs := by
  rw [bind_def] at h
  unfold Inlining.bind at h
  split at h
  next => cases h
  next a fs =>
    split at h
    next => cases h
    next b hs hf =>
      cases h
      exact ⟨a, fs, hs, rfl, hf, rfl⟩

/-- Computations that, when both give a value, give related ones and lead back into the same documents. -/
def Agree (R : α → β → Prop) (x : Inlining α) (y : Inlining β) : Prop :=
  ∀ a fs b gs, x = .ok (a, fs) → y = .ok (b, gs) → R a b ∧ ∀ i, i ∈ fs ↔ i ∈ gs

variable {R : α → β → Prop} {S : γ → δ → Prop} {x : Inlining α} {y : Inlining β}

theorem Agree.symm (h : Agree R x y) : Agree (fun b a => R a b) y x :=
  fun b gs a fs hy hx => (h a fs b gs hx hy).imp_right fun hsame i => (hsame i).symm

theorem agree_back {a : α} {b : β} (h : R a b) (found : List String) :
    Agree R (Inlining.back found a) (Inlining.back found b) := by
  rintro _ _ _ _ ⟨⟩ ⟨⟩
  exact ⟨h, fun _ => Iff.rfl⟩

theorem agree_pure {a : α} {b : β} (h : R a b) : Agree R (Pure.pure a : Inlining α) (Pure.pure b) :=
  agree_back h []

theorem agree_lift {r : Except BundleFailure α} {s : Except BundleFailure β} (h : Corpus.Agree R r s) :
    Agree R (Inlining.lift r) (Inlining.lift s) := by
  cases r with
  | error e => exact fun _ _ _ _ h => nomatch h
  | ok a =>
    cases s with
    | error e => exact fun _ _ _ _ _ h => nomatch h
    | ok b => exact agree_pure (h a b rfl rfl)

theorem Agree.bind {f : α → Inlining γ} {g : β → Inlining δ} (h : Agree R x y)
    (hf : ∀ a b, R a b → Agree S (f a) (g b)) : Agree S (x >>= f) (y >>= g) := by
  intro c fs d gs hc hd
  obtain ⟨a, fa, fc, hx, hfc, rfl⟩ := bind_eq_ok hc
  obtain ⟨b, gb, gd, hy, hgd, rfl⟩ := bind_eq_ok hd
  obtain ⟨hab, hsame⟩ := h a fa b gb hx hy
  obtain ⟨hcd, hsame'⟩ := hf a b hab c fc d gd hfc hgd
  exact ⟨hcd, fun i => by rw [List.mem_append, List.mem_append, hsame i, hsame' i]⟩

end Inlining

section Expand

variable {visit f g : String → Members String → Inlining Document}

/-- Members with their references replaced, one by one. -/
structure Expanded (visit : String → Members String → Inlining Document) (ms out : Members String)
    (found : List String) : Prop where
  keys : out.keys.Sublist ms.keys
  bare : out.find? "$ref" = none
  each : ∀ k x, k ≠ "$ref" → ms.find? k = some x →
    ∃ y fs, expand visit x = .ok (y, fs) ∧ out.find? k = some y ∧ ∀ i ∈ fs, i ∈ found
  back : ∀ i ∈ found, ∃ k x y fs, k ≠ "$ref" ∧ ms.find? k = some x ∧ expand visit x = .ok (y, fs) ∧ i ∈ fs

theorem expanded {ms out : Members String} {found : List String} (hn : ms.keys.Nodup)
    (h : expandMembers visit ms = .ok (out, found)) : Expanded visit ms out found := by
  induction ms generalizing out found with
  | nil =>
    cases h
    exact ⟨List.Sublist.refl _, rfl, fun _ _ _ hx => (nomatch hx), fun _ hi => (nomatch hi)⟩
  | cons m ms ih =>
    obtain ⟨l, v⟩ := m
    obtain ⟨hl, hn⟩ := List.nodup_cons.mp hn
    rw [expandMembers] at h
    split at h
    next href =>
      have rest := ih hn h
      refine ⟨rest.keys.cons l, rest.bare, fun k x hk hx => ?_, fun i hi => ?_⟩
      · rw [Members.find?_cons, if_neg (by simpa [href] using hk.symm)] at hx
        exact rest.each k x hk hx
      · obtain ⟨k, x, y, fs, hk, hx, hy⟩ := rest.back i hi
        refine ⟨k, x, y, fs, hk, ?_, hy⟩
        rwa [Members.find?_cons, if_neg (by simpa [href] using hk.symm)]
    next href =>
      obtain ⟨w, fs, _, hw, hrest, rfl⟩ := Inlining.bind_eq_ok h
      obtain ⟨ns, gs, _, hns, hout, rfl⟩ := Inlining.bind_eq_ok hrest
      cases hout
      have rest := ih hn hns
      refine ⟨rest.keys.cons_cons l, ?_, fun k x hk hx => ?_, fun i hi => ?_⟩
      · rw [Members.find?_cons, if_neg (by simpa using href)]
        exact rest.bare
      · rw [Members.find?_cons] at hx ⊢
        split at hx
        next hkl =>
          obtain rfl := Option.some.inj hx
          exact ⟨w, fs, hw, if_pos hkl, fun i hi => by simp [hi]⟩
        next hkl =>
          obtain ⟨y, fs', hy, hfind, hsub⟩ := rest.each k x hk hx
          exact ⟨y, fs', hy, (if_neg hkl).trans hfind, fun i hi => by simp [hsub i hi]⟩
      · simp only [List.append_nil, List.mem_append] at hi
        rcases hi with hi | hi
        · exact ⟨l, v, w, fs, href, by simp [Members.find?_cons], hw, hi⟩
        · obtain ⟨k, x, y, fs', hk, hx, hy⟩ := rest.back i hi
          have hlk : l ≠ k := by
            rintro rfl
            exact hl (Members.find?_isSome_iff.mp (by simp [hx]))
          exact ⟨k, x, y, fs', hk, by simp [Members.find?_cons, hlk, hx], hy⟩

theorem Expanded.exists_member {ms out : Members String} {found : List String} (h : Expanded visit ms out found)
    {k : String} {y : Document} (hy : out.find? k = some y) :
    ∃ x fs, k ≠ "$ref" ∧ ms.find? k = some x ∧ expand visit x = .ok (y, fs) := by
  have hk : k ≠ "$ref" := by
    rintro rfl
    cases h.bare.symm.trans hy
  have hmem : k ∈ out.keys := Members.find?_isSome_iff.mp (by simp [hy])
  obtain ⟨x, hx⟩ := Option.isSome_iff_exists.mp (Members.find?_isSome_iff.mpr (h.keys.subset hmem))
  obtain ⟨y', fs, he, hy', _⟩ := h.each k x hk hx
  obtain rfl := Option.some.inj (hy.symm.trans hy')
  exact ⟨x, fs, hk, hx, he⟩

theorem mem_of_expandItems {xs ys : List Document} {found : List String} (h : expandItems visit xs = .ok (ys, found))
    {y : Document} (hy : y ∈ ys) : ∃ x ∈ xs, ∃ fs, expand visit x = .ok (y, fs) := by
  induction xs generalizing ys found with
  | nil =>
    cases h
    cases hy
  | cons x xs ih =>
    rw [expandItems] at h
    obtain ⟨w, fs, _, hw, h, _⟩ := Inlining.bind_eq_ok h
    obtain ⟨zs, _, _, hzs, h, _⟩ := Inlining.bind_eq_ok h
    cases h
    rcases List.mem_cons.mp hy with rfl | hy
    · exact ⟨x, by simp, fs, hw⟩
    · obtain ⟨x', hx', he⟩ := ih hzs hy
      exact ⟨x', by simp [hx'], he⟩

theorem isObject_of_expand {v w : Document} {found : List String} (hv : v.isObject = false)
    (h : expand visit v = .ok (w, found)) : w.isObject = false := by
  cases v with
  | obj ms => cases hv
  | arr xs =>
    rw [expand] at h
    obtain ⟨_, _, _, _, h, _⟩ := Inlining.bind_eq_ok h
    cases h
    rfl
  | _ =>
    cases h
    rfl

/-- Plain definitions stay plain. -/
theorem isPlain_of_expand {v w : Document} {found : List String} (hv : isPlain v)
    (hd : ∀ ms : Members String, v = .obj ms → ms.keys.Nodup) (h : expand visit v = .ok (w, found)) : isPlain w := by
  cases v with
  | obj ms =>
    have hr : refOf? ms = none := by simpa [isPlain, listsObject, refers] using hv
    rw [expand] at h
    obtain ⟨siblings, _, _, hs, h, _⟩ := Inlining.bind_eq_ok h
    rw [hr] at h
    cases h
    have hbare := (expanded (hd ms rfl) hs).bare
    simp [isPlain, listsObject, refers, refOf?, hbare]
  | arr xs =>
    have hx : ∀ x ∈ xs, x.isObject = false := by simpa [isPlain, listsObject, refers] using hv
    rw [expand] at h
    obtain ⟨ys, _, _, hys, h, _⟩ := Inlining.bind_eq_ok h
    cases h
    have hy : ∀ y ∈ ys, y.isObject = false := by
      intro y hy
      obtain ⟨x, hmem, fs, he⟩ := mem_of_expandItems hys hy
      exact isObject_of_expand (hx x hmem) he
    simpa [isPlain, listsObject, refers] using hy
  | _ =>
    cases h
    rfl

theorem expandItems_agree {xs ys : List Document}
    (h : List.Forall₂ (fun x y => Inlining.Agree Twin (expand f x) (expand g y)) xs ys) :
    Inlining.Agree (List.Forall₂ Twin) (expandItems f xs) (expandItems g ys) := by
  induction h with
  | nil => exact Inlining.agree_pure .nil
  | cons head _ ih => exact head.bind fun v w hvw => ih.bind fun vs ws hall => Inlining.agree_pure (.cons hvw hall)

section Pair

variable {ms ns s t : Members String} {fs gs : List String} {R : Document → Document → Prop}

/-- What became of the members of one name in two objects with the same names. -/
theorem Expanded.exists_twin (right : Expanded g ns t gs) (h : ∀ k x, ms.find? k = some x → ∃ y, ns.find? k = some y)
    (each : ∀ k x y, ms.find? k = some x → ns.find? k = some y → Inlining.Agree R (expand f x) (expand g y))
    {k : String} {x y : Document} {fx : List String} (hk : k ≠ "$ref") (hx : ms.find? k = some x)
    (hy : expand f x = .ok (y, fx)) : ∃ y', t.find? k = some y' ∧ R y y' ∧ ∀ i ∈ fx, i ∈ gs := by
  obtain ⟨x', hx'⟩ := h k x hx
  obtain ⟨y', gx, hy', hty, hgx⟩ := right.each k x' hk hx'
  obtain ⟨hrel, hsame⟩ := each k x x' hx hx' y fx y' gx hy hy'
  exact ⟨y', hty, hrel, fun i hi => hgx i ((hsame i).mp hi)⟩

/-- What is found in an object is found in another one, if it has all the names and its members agree with those. -/
theorem Expanded.found_subset (left : Expanded f ms s fs) (right : Expanded g ns t gs)
    (h : ∀ k x, ms.find? k = some x → ∃ y, ns.find? k = some y)
    (each : ∀ k x y, ms.find? k = some x → ns.find? k = some y → Inlining.Agree R (expand f x) (expand g y)) :
    ∀ i ∈ fs, i ∈ gs := by
  intro i hi
  obtain ⟨k, x, y, fx, hk, hx, he, hi⟩ := left.back i hi
  obtain ⟨_, _, _, hsub⟩ := right.exists_twin h each hk hx he
  exact hsub i hi

end Pair

theorem expandMembers_agree {ms ns : Members String} (h : Twin (.obj ms) (.obj ns))
    (each : ∀ k x y, ms.find? k = some x → ns.find? k = some y → Inlining.Agree Twin (expand f x) (expand g y)) :
    Inlining.Agree (fun s t => Twin (.obj s) (.obj t) ∧ Members.find? "$ref" s = none) (expandMembers f ms)
      (expandMembers g ns) := by
  intro s fs t gs hs ht
  have left := expanded h.left.nodup hs
  have right := expanded h.right.nodup ht
  have hns : (Members.keys s).Nodup := h.left.nodup.sublist left.keys
  have hnt : (Members.keys t).Nodup := h.right.nodup.sublist right.keys
  have hthere (k : String) (x : Document) (hx : ms.find? k = some x) : ∃ y, ns.find? k = some y :=
    (h.exists_find? hx).imp fun _ hy => hy.1
  have hback (k : String) (y : Document) (hy : ns.find? k = some y) : ∃ x, ms.find? k = some x :=
    (h.symm.exists_find? hy).imp fun _ hx => hx.1
  have permuted : Permuted (.obj s) (.obj t) := by
    refine .of_find? hns hnt fun k => ?_
    cases hsk : Members.find? k s with
    | some y =>
      obtain ⟨x, fx, hk, hx, hy⟩ := left.exists_member hsk
      obtain ⟨y', hty, htwin, _⟩ := right.exists_twin hthere each hk hx hy
      rw [hty]
      exact .some htwin.toPermuted
    | none =>
      cases htk : Members.find? k t with
      | none => exact .none
      | some y' =>
        obtain ⟨x', _, hk, hx', _⟩ := right.exists_member htk
        obtain ⟨x, hx⟩ := hback k x' hx'
        obtain ⟨y, _, _, hsy, _⟩ := left.each k x hk hx
        cases hsk.symm.trans hsy
  obtain ⟨hown, _⟩ := plainDefinitions_obj.mp h.plain
  have own : ∀ w ∈ Members.find? defs s, isPlain w := by
    intro w hw
    obtain ⟨x, fx, _, hx, he⟩ := left.exists_member hw
    refine isPlain_of_expand (hown x hx) (fun os hos => ?_) he
    exact (hos ▸ h.left.member (Members.mem_of_find? hx)).nodup
  have member : ∀ m ∈ s, PlainDefinitions m.2 := by
    intro m hm
    obtain ⟨x, fx, hk, hx, he⟩ := left.exists_member (Members.find?_of_mem hns hm)
    obtain ⟨_, _, htwin, _⟩ := right.exists_twin hthere each hk hx he
    exact htwin.plain
  have back : ∀ i ∈ gs, i ∈ fs :=
    right.found_subset left hback fun k y x hy hx => (each k x y hx hy).symm
  exact ⟨⟨⟨permuted, plainDefinitions_obj.mpr ⟨own, member⟩⟩, left.bare⟩,
    fun i => ⟨left.found_subset right hthere each i, back i⟩⟩

/-- Values that differ in the order of members only are expanded to such values. -/
theorem expand_agree {v w : Document} (h : Twin v w)
    (hf : ∀ ref ∈ refsIn v, ∀ s t : Members String, Twin (.obj s) (.obj t) → s.find? "$ref" = none →
      Inlining.Agree Twin (f ref s) (g ref t)) : Inlining.Agree Twin (expand f v) (expand g w) := by
  obtain ⟨hvw, hplain⟩ := h
  revert hplain hf
  refine hvw.induct (fun v harr hobj hf hplain => ?_) (fun xs ys hxy ih hf hplain => ?_)
    fun ms ns hms ih hf hplain => ?_
  · cases v with
    | arr xs => exact absurd rfl (harr xs)
    | obj ms => exact absurd rfl (hobj ms)
    | _ => exact Inlining.agree_pure ⟨.refl (by constructor), hplain⟩
  · obtain ⟨hlength, hitem⟩ := List.forall₂_iff_zip.mp ih
    have items : List.Forall₂ (fun x y => Inlining.Agree Twin (expand f x) (expand g y)) xs ys := by
      refine List.forall₂_iff_zip.mpr ⟨hlength, fun {x y} hmem => ?_⟩
      have hx := (List.of_mem_zip hmem).1
      exact hitem hmem (fun ref hr => hf ref (refsIn_item hx hr)) (plainDefinitions_arr.mp hplain x hx)
    rw [expand, expand]
    refine (expandItems_agree items).bind fun vs ws hvs => Inlining.agree_pure (.of_items hvs)
  · have hmember := (plainDefinitions_obj.mp hplain).2
    rw [expand, expand, ← refOf?_of_sorted_eq hms.same]
    refine (expandMembers_agree ⟨hms, hplain⟩ fun k x y hx hy => ?_).bind fun s t h => ?_
    · have hm := Members.mem_of_find? hx
      exact ih k x y hx hy (fun ref hr => hf ref (refsIn_member hm hr)) (hmember _ hm)
    · obtain ⟨hst, hbare⟩ := h
      cases href : refOf? ms with
      | none => exact Inlining.agree_pure hst
      | some ref => exact hf ref (refsIn_self href) s t hst hbare

end Expand

end NoteSchema.Corpus
