import NoteSchema.Proofs.Itemwise
import NoteSchema.Proofs.Sample.Follows

namespace NoteSchema.Sample

open Instance (Reordered)
open Json (Distinct sorted)

/-- Two ways to sample, the second one of which follows the first on what a schema holds. A value that is no
object is no schema for either. -/
structure Along (φ : Document → Document) (ss : Members String) (f g : Document → Result) : Prop where
  flat : (∀ w, (∀ os, w ≠ .obj os) → f w = .ok .blocked) ∨
    ∀ w, (∀ os, w ≠ .obj os) → f w = .ok .shapeless ∧ g w = .ok .shapeless
  absent : Follows (f (.obj [])) (g (.obj []))
  held : ∀ w, Holds ss w → Follows (f w) (g (φ w)) ∧ (f w = .ok .shapeless → standIn (φ w) = standIn w)

theorem propertySchema_cases {members : Members String} {name schema : Document} {key : Key}
    (h : propertySchema (.obj members) name = .ok (key, schema)) :
    (∃ s, name = .str s ∧ key = .text s ∧ schema = (members.find? s).getD (.obj [])) ∨
      ((∀ xs, name ≠ .arr xs) ∧ (∀ ms, name ≠ .obj ms) ∧ schema = .obj [] ∧
        ∀ others, propertySchema (.obj others) name = .ok (key, .obj [])) := by
  cases name with
  | str s =>
    cases h
    exact Or.inl ⟨s, rfl, rfl, rfl⟩
  | arr xs => simp [propertySchema, Key.ofDocument?] at h
  | obj ms => simp [propertySchema, Key.ofDocument?] at h
  | _ =>
    cases h
    exact Or.inr ⟨by simp, by simp, rfl, fun _ => rfl⟩

/-- A required name gives a member. -/
def Gives (f : Document → Result) (properties name : Document) (m : Key × Instance) : Prop :=
  ∃ schema o, propertySchema properties name = .ok (m.1, schema) ∧ f schema = .ok o ∧
    filled schema o = some m.2

/-- The members for required names are those that the names give, set one after another. -/
theorem requiredMembers_eq_ok {f : Document → Result} {properties : Document} {names : List Document}
    {ms : Members Key} {v : Instance} :
    requiredMembers f properties ms names = .ok (.value v) ↔
      ∃ more, List.Forall₂ (Gives f properties) names more ∧ v = .obj (ms.update more) := by
  induction names generalizing ms with
  | nil =>
    simp only [requiredMembers, List.forall₂_nil_left_iff, exists_eq_left]
    exact ⟨fun h => by cases h; rfl, fun h => by rw [h]; rfl⟩
  | cons name names ih =>
    simp only [requiredMembers, bind, Except.bind]
    constructor
    · intro h
      split at h
      next => cases h
      next key hp =>
        split at h
        next => cases h
        next o ho =>
          split at h
          next => cases h
          next x hx =>
            obtain ⟨more, hm, hv⟩ := ih.mp h
            exact ⟨(key.1, x) :: more, .cons ⟨key.2, o, hp, ho, hx⟩ hm, hv⟩
    · rintro ⟨more, hm, rfl⟩
      cases hm with
      | @cons _ m _ more hg hm =>
        obtain ⟨schema, o, hp, ho, hx⟩ := hg
        simp only [hp, ho, hx]
        exact ih.mpr ⟨more, hm, rfl⟩

theorem requiredMembers_ne_shapeless {f : Document → Result} {properties : Document} {names : List Document}
    {ms : Members Key} : requiredMembers f properties ms names ≠ .ok .shapeless := by
  induction names generalizing ms with
  | nil => simp [requiredMembers]
  | cons name names ih =>
    simp only [requiredMembers, bind, Except.bind]
    split
    next => simp
    next =>
      split
      next => simp
      next =>
        split
        next => simp [pure, Except.pure]
        next => exact ih

variable {P : Document → Prop} {φ : Document → Document} {ss ts : Members String} {f g : Document → Result}
variable (h : Renders P φ) (r : Rendered P φ ss ts) (a : Along φ ss f g)

include h a

theorem Along.filled {w : Document} (hw : Holds ss w ∨ w = .obj []) {o : Outcome} {x : Instance}
    (ho : f w = .ok o) (hx : Sample.filled w o = some x) :
    ∃ o' y, g (φ w) = .ok o' ∧ Sample.filled (φ w) o' = some y ∧ Reordered x y := by
  have hfollows : Follows (f w) (g (φ w)) ∧ (f w = .ok .shapeless → standIn (φ w) = standIn w) := by
    rcases hw with hw | rfl
    · exact a.held w hw
    · rw [h.empty]
      exact ⟨a.absent, fun _ => rfl⟩
  cases o with
  | value v =>
    obtain ⟨y, hy, hr⟩ := hfollows.1.value v ho
    obtain rfl : v = x := Option.some.inj hx
    exact ⟨_, y, hy, rfl, hr⟩
  | shapeless =>
    obtain rfl : standIn w = x := Option.some.inj hx
    exact ⟨_, _, hfollows.1.shapeless ho, rfl, hfollows.2 ho ▸ .refl _⟩
  | blocked => cases hx

include r

theorem ofArray_follows : Follows (ofArray f ss) (ofArray g ts) := by
  have hitems : (ts.find? "items").getD (.obj []) = φ ((ss.find? "items").getD (.obj [])) := by
    rw [r.look "items" (by decide) (by decide)]
    cases ss.find? "items" with
    | none => exact h.empty.symm
    | some v => rfl
  have hheld : Holds ss ((ss.find? "items").getD (.obj [])) ∨ (ss.find? "items").getD (.obj []) = .obj [] := by
    cases hi : ss.find? "items" with
    | none => exact Or.inr rfl
    | some v => exact Or.inl (.single (by simp) hi)
  unfold ofArray
  rw [r.getD_null h (k := "minItems") (by decide) (by decide), hitems]
  simp only [bind, Except.bind]
  cases hc : itemCount ((ss.find? "minItems").getD .null) with
  | error e => exact .of_error e _
  | ok count =>
    rw [h.itemCount hc]
    dsimp only
    cases ho : f ((ss.find? "items").getD (.obj [])) with
    | error e => exact .of_error e _
    | ok o =>
      dsimp only
      cases hx : Sample.filled ((ss.find? "items").getD (.obj [])) o with
      | none => exact .of_blocked _
      | some x =>
        obtain ⟨o', y, hg, hy, hr⟩ := a.filled h hheld ho hx
        simp only [hg, hy]
        exact .of_value (.arr (List.forall₂_iff_get.mpr ⟨by simp, fun i hi hj => by simpa using hr⟩))

omit a in
theorem properties_rendered {members : Members String} (hm : (ss.find? "properties").getD (.obj []) = .obj members) :
    (∃ ns : Members String, (ts.find? "properties").getD (.obj []) = .obj ns ∧
      ∀ k, ns.find? k = (members.find? k).map φ) ∧ ∀ k v, members.find? k = some v → Holds ss v := by
  rw [r.look "properties" (by decide) (by decide)]
  cases hp : ss.find? "properties" with
  | none =>
    rw [hp] at hm
    cases hm
    exact ⟨⟨[], rfl, fun _ => rfl⟩, fun k v hv => by simp [Members.find?] at hv⟩
  | some d =>
    rw [hp] at hm
    obtain rfl : d = .obj members := hm
    obtain ⟨ns, he, hns, _⟩ := h.fields members (h.member ss _ _ r.part hp) (r.named "properties" (by simp) members hp)
    exact ⟨⟨ns, he, hns⟩, fun k v hv => .property hp hv⟩

theorem gives_rendered {name : Document} {m : Key × Instance}
    (hm : Gives f ((ss.find? "properties").getD (.obj [])) name m) :
    φ name = name ∧ ∃ n, Gives g ((ts.find? "properties").getD (.obj [])) name n ∧ m.1 = n.1 ∧ Reordered m.2 n.2 := by
  obtain ⟨schema, o, hp, ho, hx⟩ := hm
  obtain ⟨members, hmem⟩ : ∃ members : Members String, (ss.find? "properties").getD (.obj []) = .obj members := by
    cases hd : (ss.find? "properties").getD (.obj []) with
    | obj members => exact ⟨members, rfl⟩
    | _ => simp [hd, propertySchema] at hp
  obtain ⟨⟨ns, hns, hlook⟩, hholds⟩ := properties_rendered h r hmem
  rw [hmem] at hp
  rcases propertySchema_cases hp with ⟨s, rfl, hkey, rfl⟩ | ⟨harr, hobj, rfl, hany⟩
  · have hheld : Holds ss ((members.find? s).getD (.obj [])) ∨ (members.find? s).getD (.obj []) = .obj [] := by
      cases hv : members.find? s with
      | none => exact Or.inr rfl
      | some v => exact Or.inl (hholds s v hv)
    obtain ⟨o', y, hg, hy, hr⟩ := a.filled h hheld ho hx
    have hschema : (ns.find? s).getD (.obj []) = φ ((members.find? s).getD (.obj [])) := by
      rw [hlook]
      cases members.find? s with
      | none => exact h.empty.symm
      | some v => rfl
    refine ⟨h.str s, (.text s, y), ⟨_, o', ?_, hg, hy⟩, hkey, hr⟩
    rw [hns, ← hschema]
    rfl
  · obtain ⟨o', y, hg, hy, hr⟩ := a.filled h (Or.inr rfl) ho hx
    rw [h.empty] at hg hy
    refine ⟨(h.leaf name harr hobj).2, (m.1, y), ⟨.obj [], o', ?_, hg, hy⟩, rfl, hr⟩
    rw [hns]
    exact hany ns

omit h a r in
theorem reordered_of_gives {R : Document → Key × Instance → Prop} {names : List Document} {more : Members Key}
    (hall : List.Forall₂ (fun name m => ∃ n, R name n ∧ m.1 = n.1 ∧ Reordered m.2 n.2) names more) :
    ∃ others : Members Key, List.Forall₂ R names others ∧ others.keys = more.keys ∧ Reordered (.obj more) (.obj others) := by
  induction hall with
  | nil => exact ⟨[], .nil, rfl, .refl _⟩
  | @cons name m names more hm _ ih =>
    obtain ⟨n, hr, hk, hv⟩ := hm
    obtain ⟨others, ho, hkeys, hre⟩ := ih
    obtain ⟨k, x⟩ := m
    obtain ⟨l, y⟩ := n
    obtain rfl : k = l := hk
    refine ⟨(k, y) :: others, .cons hr ho, by simp [hkeys], ?_⟩
    exact (hre.append_left [(k, x)]).trans (.member [] others k hv)

omit h a r in
theorem keys_of_gives {properties : Document} {ks : List String} {more : Members Key}
    (hall : List.Forall₂ (Gives f properties) (ks.map Json.str) more) : more.keys = ks.map Key.text := by
  induction ks generalizing more with
  | nil =>
    cases hall
    rfl
  | cons k ks ih =>
    cases hall with
    | @cons _ m _ more hm hrest =>
      obtain ⟨schema, o, hp, _⟩ := hm
      cases properties with
      | obj members =>
        have hk : Key.text k = m.1 := congrArg Prod.fst (Except.ok.inj hp)
        rw [List.map_cons, ← ih hrest, hk]
        rfl
      | _ => simp [propertySchema] at hp

omit r a in
/-- The names that a schema requires are rendered as they are, or they are those of an object in another
order. -/
theorem parts_rendered {d : Document} {names : List Document}
    (hd : ∀ ps : Members String, d = .obj ps → P d ∧ ps.find? "$ref" = none) (hp : parts d = .ok names)
    (hfix : ∀ name ∈ names, φ name = name) :
    ∃ others, parts (φ d) = .ok others ∧ (others = names ∨
      ∃ ks : List String, ks.Nodup ∧ names = ks.map Json.str ∧ names.Perm others) := by
  cases d with
  | arr items =>
    cases hp
    exact ⟨_, by rw [h.arr]; rfl, Or.inl ((List.map_congr_left hfix).trans (List.map_id _))⟩
  | str s => exact ⟨names, by rw [h.str, hp], Or.inl rfl⟩
  | obj ps =>
    cases hp
    obtain ⟨hpart, hfree⟩ := hd ps rfl
    obtain ⟨ns, he, _, hperm⟩ := h.fields ps hpart hfree
    refine ⟨_, by rw [he]; rfl, Or.inr ⟨Members.keys ps, (h.distinct _ hpart).nodup, ?_, ?_⟩⟩
    · simp [Members.keys]
    · simpa [Members.keys, Function.comp_def] using (hperm.map Json.str).symm
  | _ => cases hp

theorem ofObject_follows : Follows (ofObject f ss) (ofObject g ts) := by
  have hrequired : (ts.find? "required").getD (.arr []) = φ ((ss.find? "required").getD (.arr [])) := by
    rw [r.look "required" (by decide) (by decide)]
    cases ss.find? "required" with
    | none => simp [h.arr]
    | some v => rfl
  unfold ofObject
  simp only [bind, Except.bind]
  cases hp : parts ((ss.find? "required").getD (.arr [])) with
  | error e => exact .of_error e _
  | ok names =>
    refine ⟨fun v hv => ?_, fun hs => absurd hs requiredMembers_ne_shapeless⟩
    obtain ⟨more, hmore, rfl⟩ := requiredMembers_eq_ok.mp hv
    have hgives := hmore.imp fun name m hm => gives_rendered h r a hm
    obtain ⟨others, hothers, hkeys, hre⟩ := reordered_of_gives (hgives.imp fun _ _ hm => hm.2)
    have hpart : ∀ ps : Members String, (ss.find? "required").getD (.arr []) = .obj ps →
        P ((ss.find? "required").getD (.arr [])) ∧ ps.find? "$ref" = none := by
      intro ps hps
      cases hf : ss.find? "required" with
      | none => simp [hf] at hps
      | some d =>
        rw [hf] at hps
        obtain rfl : d = .obj ps := hps
        exact ⟨h.member ss _ _ r.part hf, r.named "required" (by simp) ps hf⟩
    have hfix : ∀ name ∈ names, φ name = name := by
      intro name hname
      obtain ⟨m, _, hm⟩ := forall₂_mem_left hgives hname
      exact hm.1
    obtain ⟨names', hp', hnames⟩ := parts_rendered h hpart hp hfix
    rw [hrequired, hp']
    dsimp only
    -- the names of an object come in another order once it is rendered, and so do the members they give
    rcases hnames with rfl | ⟨ks, hks, rfl, hperm⟩
    · exact ⟨_, requiredMembers_eq_ok.mpr ⟨others, hothers, rfl⟩, hre.update_right []⟩
    · obtain ⟨all, hall, hall'⟩ := List.perm_comp_forall₂ hperm.symm hothers
      refine ⟨_, requiredMembers_eq_ok.mpr ⟨all, hall, rfl⟩, (hre.trans (.of_perm hall'.symm ?_ ?_)).update_right []⟩
      · rw [hkeys, keys_of_gives hmore]
        exact hks.map fun _ _ => Key.text.inj
      · intro k hk
        rw [hkeys, keys_of_gives hmore] at hk
        obtain ⟨s, _, rfl⟩ := List.mem_map.mp hk
        exact ⟨s, rfl⟩

omit h a r in
theorem merged_follows {branches : List Document} (hb : ∀ b ∈ branches, Follows (f b) (g (φ b))) {ms ns : Members Key}
    (hm : Reordered (.obj ms) (.obj ns)) : Follows (merged f ms branches) (merged g ns (branches.map φ)) := by
  induction branches generalizing ms ns with
  | nil => exact .of_value hm
  | cons b branches ih =>
    have hfirst := hb b (by simp)
    have hrest : ∀ {ms ns : Members Key}, Reordered (.obj ms) (.obj ns) →
        Follows (merged f ms branches) (merged g ns (branches.map φ)) := ih fun b' hb' => hb b' (by simp [hb'])
    simp only [List.map_cons, merged, bind, Except.bind]
    cases hf : f b with
    | error e => exact .of_error e _
    | ok o =>
      cases o with
      | blocked => exact .of_blocked _
      | shapeless =>
        rw [hfirst.shapeless hf]
        exact hrest hm
      | value v =>
        obtain ⟨w, hg, hvw⟩ := hfirst.value v hf
        rw [hg]
        cases v with
        | obj more =>
          obtain ⟨others, rfl⟩ := hvw.isObj.mp ⟨more, rfl⟩
          exact hrest (hm.update hvw)
        | _ =>
          cases w with
          | obj others => exact absurd (hvw.isObj.mpr ⟨others, rfl⟩) (by simp)
          | _ => exact hrest hm

omit h r in
theorem merged_flat {branches others : List Document} (hb : ∀ b ∈ branches, ∀ os, b ≠ .obj os)
    (ho : ∀ b ∈ others, ∀ os, b ≠ .obj os) (hnil : branches = [] → others = []) :
    Follows (merged f [] branches) (merged g [] others) := by
  have shapeless : ∀ (k : Document → Result) (bs : List Document), (∀ b ∈ bs, k b = .ok .shapeless) →
      merged k [] bs = .ok (.value (.obj [])) := by
    intro k bs hk
    induction bs with
    | nil => rfl
    | cons b bs ih =>
      simp only [merged, bind, Except.bind, hk b (by simp)]
      exact ih fun b' hb' => hk b' (by simp [hb'])
  rcases a.flat with hf | hf
  · cases branches with
    | nil =>
      rw [hnil rfl]
      exact .of_value (.refl _)
    | cons b branches =>
      simp only [merged, bind, Except.bind, hf b (hb b (by simp))]
      exact .of_blocked _
  · rw [shapeless f branches fun b hmem => (hf b (hb b hmem)).1, shapeless g others fun b hmem => (hf b (ho b hmem)).2]
    exact .of_value (.refl _)

theorem allOf_follows {b : Document} (hb : ss.find? "allOf" = some b) :
    Follows (parts b >>= merged f []) (parts (φ b) >>= merged g []) := by
  simp only [bind, Except.bind]
  cases b with
  | arr items =>
    rw [h.arr]
    exact merged_follows (fun x hx => (a.held x (.listed (by simp) hb hx)).1) (.refl _)
  | str s =>
    rw [h.str]
    refine merged_flat a (fun x hx os => ?_) (fun x hx os => ?_) id
    all_goals
      obtain ⟨ch, _, rfl⟩ := List.mem_map.mp hx
      simp
  | obj ms =>
    obtain ⟨ns, he⟩ := h.obj ms (h.member ss _ _ r.part hb)
    rw [he]
    refine merged_flat a (fun x hx os => ?_) (fun x hx os => ?_) fun hnil => ?_
    · obtain ⟨m, _, rfl⟩ := List.mem_map.mp hx
      simp
    · obtain ⟨m, _, rfl⟩ := List.mem_map.mp hx
      simp
    · obtain rfl : ms = [] := List.map_eq_nil_iff.mp hnil
      rw [h.empty] at he
      cases he
      rfl
  | _ => exact .of_error _ _

theorem ofType_follows : Follows (ofType f ss) (ofType g ts) := by
  obtain ⟨ht, hp⟩ := typeOf_eq h r
  unfold ofType
  rw [ht]
  cases hs : typeOf ss with
  | str s =>
    rw [h.str]
    split
    next => exact ofObject_follows h r a
    next => exact ofArray_follows h r a
    next => exact ofNumber_follows h r
    next => exact ofNumber_follows h r
    next => exact .refl _
    next => exact .refl _
    next => exact ofString_follows h r
    next => exact .refl _
  | arr xs =>
    rw [h.arr]
    exact .refl _
  | obj ms =>
    obtain ⟨ns, he⟩ := h.obj ms (hs ▸ hp)
    rw [he]
    exact .refl _
  | _ =>
    rw [(h.leaf _ (by simp) (by simp)).2]
    exact .refl _

omit a in
theorem present?_eq_none {k : String} (hid : k ≠ "$id") (hdefs : k ≠ Corpus.defs) (hk : present? ss k = none) :
    present? ts k = none := by
  unfold present? at hk ⊢
  rw [r.look k hid hdefs]
  cases hv : ss.find? k with
  | none => rfl
  | some v =>
    rw [hv] at hk
    have hf : v.truthy = false := by simpa [Option.filter] using hk
    simp [Option.filter, h.falsy hf]

omit a in
theorem present?_eq_some {k : String} (hid : k ≠ "$id") (hdefs : k ≠ Corpus.defs) {v x : Document}
    (hk : present? ss k = some v) (hx : first v = .ok x) :
    present? ts k = some (φ v) ∧ first (φ v) = .ok (φ x) ∧
      (ss.find? k = some v ∧ ((∃ items, v = .arr items ∧ x ∈ items) ∨ ∃ s, x = .str s)) := by
  obtain ⟨hv, ht⟩ := Option.filter_eq_some_iff.mp hk
  unfold present?
  rw [r.look k hid hdefs, hv]
  cases v with
  | arr items =>
    cases items with
    | nil => cases hx
    | cons y items =>
      cases hx
      refine ⟨?_, ?_, rfl, Or.inl ⟨_, rfl, by simp⟩⟩
      · simp [h.arr, Option.filter, Json.truthy]
      · rw [h.arr]
        rfl
  | str s =>
    have hchar : ∃ t, x = .str t := by
      simp only [first] at hx
      split at hx
      next =>
        cases hx
        exact ⟨_, rfl⟩
      next => cases hx
    obtain ⟨t, rfl⟩ := hchar
    refine ⟨by simpa [Option.filter, h.str] using ht, ?_, rfl, Or.inr ⟨t, rfl⟩⟩
    rw [h.str, h.str]
    exact hx
  | _ => cases hx

omit h r in
theorem Along.text (s : String) : Follows (f (.str s)) (g (.str s)) := by
  rcases a.flat with hf | hf
  · rw [hf (.str s) (by simp)]
    exact .of_blocked _
  · rw [(hf (.str s) (by simp)).1, (hf (.str s) (by simp)).2]
    exact .refl _

theorem first_follows {k : String} (hk : k ∈ ["oneOf", "anyOf"]) {v x : Document} (hv : present? ss k = some v)
    (hx : first v = .ok x) : ∃ w y, present? ts k = some w ∧ first w = .ok y ∧ Follows (f x) (g y) := by
  have hid : k ≠ "$id" := by
    rintro rfl
    simp at hk
  have hdefs : k ≠ Corpus.defs := by
    rintro rfl
    simp [Corpus.defs] at hk
  obtain ⟨hp, hfirst, hfind, hcase⟩ := present?_eq_some h r hid hdefs hv hx
  refine ⟨_, _, hp, hfirst, ?_⟩
  rcases hcase with ⟨items, rfl, hmem⟩ | ⟨s, rfl⟩
  · exact (a.held x (.listed (List.mem_cons_of_mem _ hk) hfind hmem)).1
  · rw [h.str]
    exact a.text s

omit a in
theorem enum_follows {v x : Document} (hv : present? ss "enum" = some v) (hx : first v = .ok x) :
    ∃ w y, present? ts "enum" = some w ∧ first w = .ok y ∧ Follows (document x) (document y) := by
  obtain ⟨hp, hfirst, hfind, hcase⟩ := present?_eq_some h r (by decide) (by decide) hv hx
  refine ⟨_, _, hp, hfirst, ?_⟩
  rcases hcase with ⟨items, rfl, hmem⟩ | ⟨s, rfl⟩
  · have hpart := h.member ss _ _ r.part hfind
    refine h.document (h.item items x hpart hmem) (List.eq_nil_iff_forall_not_mem.mpr fun ref href => ?_)
    have hall : ref ∈ Corpus.refsIn (.arr items) := Corpus.mem_refsInItems.mpr ⟨x, hmem, href⟩
    rw [r.copied "enum" (by simp) _ hfind] at hall
    cases hall
  · rw [h.str]
    exact .refl _

omit a in
theorem Holds.part {w : Document} (hw : Holds ss w) : P w := by
  cases hw with
  | property hp hv => exact h.member _ _ _ (h.member ss _ _ r.part hp) hv
  | single _ hv => exact h.member ss _ _ r.part hv
  | listed _ hl hm => exact h.item _ _ (h.member ss _ _ r.part hl) hm

omit a in
theorem branch_eq : branch ts = φ (branch ss) ∧ (branch ss = .null ∨ Holds ss (branch ss)) := by
  unfold branch
  rw [r.look "then" (by decide) (by decide), r.look "else" (by decide) (by decide)]
  cases hthen : ss.find? "then" with
  | some d => exact ⟨rfl, Or.inr (.single (k := "then") (by simp) hthen)⟩
  | none =>
    cases helse : ss.find? "else" with
    | some d => exact ⟨rfl, Or.inr (.single (k := "else") (by simp) helse)⟩
    | none => exact ⟨h.null.symm, Or.inl rfl⟩

theorem branch_follows :
    Follows (match branch ss with
        | .null => .ok (.value (.obj []))
        | d => f d)
      (match branch ts with
        | .null => .ok (.value (.obj []))
        | d => g d) := by
  obtain ⟨he, hheld⟩ := branch_eq h r
  rw [he]
  rcases hheld with hn | hheld
  · rw [hn, h.null]
    exact .refl _
  · have hfollows := (a.held _ hheld).1
    cases hb : branch ss with
    | null =>
      rw [h.null]
      exact .refl _
    | obj ms =>
      obtain ⟨ns, hns⟩ := h.obj ms (hb ▸ hheld.part h r)
      rw [hb, hns] at hfollows
      rw [hns]
      exact hfollows
    | arr xs =>
      rw [hb, h.arr] at hfollows
      rw [h.arr]
      exact hfollows
    | _ =>
      rw [hb, (h.leaf _ (by simp) (by simp)).2] at hfollows
      rw [(h.leaf _ (by simp) (by simp)).2]
      exact hfollows

omit a in
theorem alternatives_eq_none (hnone : (present? ss "oneOf" <|> present? ss "anyOf") = none) :
    (present? ts "oneOf" <|> present? ts "anyOf") = none := by
  obtain ⟨hone, hany⟩ := (Option.orElse_eq_none _ _).mp hnone
  rw [present?_eq_none h r (by decide) (by decide) hone, present?_eq_none h r (by decide) (by decide) hany]
  rfl

theorem alternatives_follow {v x : Document} (hv : (present? ss "oneOf" <|> present? ss "anyOf") = some v)
    (hx : first v = .ok x) :
    ∃ w y, (present? ts "oneOf" <|> present? ts "anyOf") = some w ∧ first w = .ok y ∧ Follows (f x) (g y) := by
  cases hone : present? ss "oneOf" with
  | some u =>
    rw [hone] at hv
    obtain rfl : u = v := Option.some.inj hv
    obtain ⟨w, y, hw, hy, hfollows⟩ := first_follows h r a (by simp) hone hx
    exact ⟨w, y, by rw [hw]; rfl, hy, hfollows⟩
  | none =>
    rw [hone] at hv
    obtain ⟨w, y, hw, hy, hfollows⟩ := first_follows h r a (by simp) (k := "anyOf") hv hx
    exact ⟨w, y, by rw [present?_eq_none h r (by decide) (by decide) hone, hw]; rfl, hy, hfollows⟩

theorem ofKeywords_follows : Follows (ofKeywords f ss) (ofKeywords g ts) := by
  unfold ofKeywords
  rw [r.look "allOf" (by decide) (by decide)]
  cases hall : ss.find? "allOf" with
  | some b => exact allOf_follows h r a hall
  | none =>
    dsimp only [Option.map_none]
    cases hone : (present? ss "oneOf" <|> present? ss "anyOf") with
    | some v =>
      dsimp only [bind, Except.bind]
      cases hx : first v with
      | error e => exact .of_error e _
      | ok x =>
        obtain ⟨w, y, hw, hy, hfollows⟩ := alternatives_follow h r a hone hx
        simp only [hw, hy]
        exact hfollows
    | none =>
      rw [alternatives_eq_none h r hone]
      dsimp only
      rw [r.has_eq (k := "if") (by decide) (by decide)]
      split
      next => exact branch_follows h r a
      next =>
        rw [r.look "const" (by decide) (by decide)]
        cases hc : ss.find? "const" with
        | some d => exact h.document (h.member ss _ d r.part hc) (r.copied "const" (by simp) d hc)
        | none =>
          dsimp only [Option.map_none]
          cases henum : present? ss "enum" with
          | some v =>
            dsimp only [bind, Except.bind]
            cases hx : first v with
            | error e => exact .of_error e _
            | ok x =>
              obtain ⟨w, y, hw, hy, hfollows⟩ := enum_follows h r henum hx
              simp only [hw, hy]
              exact hfollows
          | none =>
            rw [present?_eq_none h r (by decide) (by decide) henum]
            exact ofType_follows h r a

end NoteSchema.Sample
