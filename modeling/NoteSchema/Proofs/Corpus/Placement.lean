import NoteSchema.Proofs.Corpus.Definitions

namespace NoteSchema.Corpus

/-- Definitions, if there are any, are an object. -/
def Divided (ms : Members String) : Prop :=
  Members.find? defs ms = none ∨ ∃ ds : Members String, Members.find? defs ms = some (.obj ds)

theorem Divided.eq_children {ms : Members String} {w : Document} (h : Divided ms)
    (hw : Members.find? defs ms = some w) : w = .obj (children (.obj ms)) := by
  rcases h with hn | ⟨ds, hs⟩
  · cases hn.symm.trans hw
  · obtain rfl := Option.some.inj (hs.symm.trans hw)
    simp [children, hs]

/-- A value once documents have landed below it. Beside its definitions it is as it was, each of them is there, and
others only where documents land. Nothing is said of a value whose place a document takes. -/
inductive Extends : (List String → Prop) → Document → Document → Prop
  | same (lands : List String → Prop) (v : Document) : Extends lands v v
  | taken {lands : List String → Prop} (here : lands []) (v w : Document) : Extends lands v w
  | grown {lands : List String → Prop} {ms ns : Members String} (divided : Divided ms)
      (beside : own (.obj ns) = own (.obj ms)) (new : Members.find? defs ns = some (.obj (children (.obj ns))))
      (kept : ∀ k x, (children (.obj ms)).find? k = some x → ((children (.obj ns)).find? k).isSome)
      (added : ∀ k, ((children (.obj ns)).find? k).isSome → ((children (.obj ms)).find? k).isSome ∨ ∃ q, lands (k :: q))
      (each : ∀ k x y, (children (.obj ms)).find? k = some x → (children (.obj ns)).find? k = some y →
        Extends (fun q => lands (k :: q)) x y) : Extends lands (.obj ms) (.obj ns)

/-- Every definition of the first members is one of the second, and others are where documents land. -/
structure Widens (lands : List String → Prop) (ds es : Members String) : Prop where
  kept : ∀ k x, ds.find? k = some x → ∃ y, es.find? k = some y ∧ Extends (fun q => lands (k :: q)) x y
  added : ∀ k, (es.find? k).isSome → (ds.find? k).isSome ∨ ∃ q, lands (k :: q)

section Extends

variable {lands : List String → Prop}

theorem widens_refl (ds : Members String) : Widens lands ds ds where
  kept _ x hx := ⟨x, hx, .same _ x⟩
  added _ h := Or.inl h

theorem Extends.of_widens {ms ns : Members String} (divided : Divided ms)
    (beside : own (.obj ns) = own (.obj ms)) (new : Members.find? defs ns = some (.obj (children (.obj ns))))
    (h : Widens lands (children (.obj ms)) (children (.obj ns))) : Extends lands (.obj ms) (.obj ns) := by
  refine .grown divided beside new (fun k x hx => ?_) h.added fun k x y hx hy => ?_
  · obtain ⟨y, hy, _⟩ := h.kept k x hx
    exact Option.isSome_iff_exists.mpr ⟨y, hy⟩
  · obtain ⟨z, hz, hext⟩ := h.kept k x hx
    obtain rfl := Option.some.inj (hy.symm.trans hz)
    exact hext

/-- What became of a value whose place no document takes. -/
theorem Extends.cases {v : Document} {ns : Members String} (h : Extends lands v (.obj ns)) (hl : ¬ lands [])
    (hd : Divided ns) :
    ∃ ms : Members String, v = .obj ms ∧ Divided ms ∧ own (.obj ns) = own (.obj ms) ∧
      Widens lands (children (.obj ms)) (children (.obj ns)) := by
  cases h with
  | same => exact ⟨ns, rfl, hd, rfl, widens_refl _⟩
  | taken here => exact absurd here hl
  | grown divided beside _ kept added each =>
    refine ⟨_, rfl, divided, beside, fun k x hx => ?_, added⟩
    obtain ⟨y, hy⟩ := Option.isSome_iff_exists.mp (kept k x hx)
    exact ⟨y, hy, each k x y hx hy⟩

theorem Extends.own {v w : Document} (h : Extends lands v w) (hl : ¬ lands []) : own w = own v := by
  cases h with
  | same => rfl
  | taken here => exact absurd here hl
  | grown _ beside => exact beside

theorem Extends.obj {ms : Members String} {w : Document} (h : Extends lands (.obj ms) w) (hl : ¬ lands []) :
    ∃ ns : Members String, w = .obj ns := by
  cases h with
  | same => exact ⟨ms, rfl⟩
  | taken here => exact absurd here hl
  | grown => exact ⟨_, rfl⟩

end Extends

/-- What becomes of a document at its place: it is there as it is, or its definitions are joined by others. -/
def Landed (value others leaf : Members String) : Prop :=
  leaf = value ∨ ∃ ds names, asMembers ((value.find? defs).getD (.obj [])) = .ok (ds, names) ∧
    leaf = value.set defs (.obj (addMissing ds others))

theorem membersOf_eq_children {ms present : Members String}
    (h : membersOf ((ms.find? defs).getD (.obj [])) = .ok present) : Divided ms ∧ present = children (.obj ms) := by
  cases hf : Members.find? defs ms with
  | none =>
    simp only [hf, Option.getD_none, membersOf, Except.ok.injEq] at h
    exact ⟨Or.inl hf, by simp [children, hf, h]⟩
  | some w =>
    cases w with
    | obj ds =>
      simp only [hf, Option.getD_some, membersOf, Except.ok.injEq] at h
      exact ⟨Or.inr ⟨ds, hf⟩, by simp [children, hf, h]⟩
    | _ => simp [hf, membersOf] at h

theorem landed_join {value leaf : Members String} {present : Document} (h : join value present = .ok leaf) :
    Landed value (children present) leaf := by
  obtain ⟨ds, names, ms, others, hds, hms, hothers, _, rfl⟩ := join_eq_ok.mp h
  obtain rfl : present = .obj ms := by
    cases present with
    | obj ps => exact congrArg Json.obj (Except.ok.inj hms)
    | _ => cases hms
  obtain ⟨_, rfl⟩ := membersOf_eq_children hothers
  split
  next => exact Or.inl rfl
  next => exact Or.inr ⟨ds, names, hds, rfl⟩

theorem Landed.own {value others leaf : Members String} (h : Landed value others leaf) :
    Corpus.own (.obj leaf) = Corpus.own (.obj value) := by
  rcases h with rfl | ⟨_, _, _, rfl⟩
  · rfl
  · exact Members.erase_set_self

/-- A definition at the place of a document is one of its own, or it was there. -/
theorem Landed.definition {value others leaf : Members String} (h : Landed value others leaf) {k : String}
    {x : Document} (hx : (children (.obj leaf)).find? k = some x) :
    (Divided value → (children (.obj value)).find? k = some x) ∨ others.find? k = some x := by
  rcases h with rfl | ⟨ds, names, hds, rfl⟩
  · exact Or.inl fun _ => hx
  · have hall : children (.obj (value.set defs (.obj (addMissing ds others)))) = addMissing ds others := by
      simp [children, Members.find?_set]
    rw [hall, find?_addMissing] at hx
    cases hk : ds.find? k with
    | none => exact Or.inr (by simpa [hk] using hx)
    | some y =>
      obtain rfl : y = x := by simpa [hk] using hx
      refine Or.inl fun hdiv => ?_
      rcases hdiv with hn | ⟨es, hs⟩
      · simp only [hn, Option.getD_none, asMembers, Except.ok.injEq, Prod.mk.injEq] at hds
        simp [← hds.1, Members.find?] at hk
      · simp only [hs, Option.getD_some, asMembers, Except.ok.injEq, Prod.mk.injEq] at hds
        simpa [children, hs, hds.1] using hk

/-- One step of putting a document at a path: below a node whose definitions are an object, the document lands
or is put further below. -/
theorem place_cases {value : Members String} {name : String} {rest : List String} {tree next : Document}
    (h : place value (name :: rest) tree = .ok next) :
    ∃ (ms : Members String) (child : Document), tree = .obj ms ∧ Divided ms ∧ next = graft ms name child ∧
      (rest = [] ∧ (∃ leaf, child = .obj leaf ∧ Landed value (children (below name ms)) leaf ∧
          ((children (.obj ms)).find? name = none → leaf = value)) ∨
        rest ≠ [] ∧ place value rest (below name ms) = .ok child) := by
  obtain ⟨ms, rfl⟩ : ∃ ms : Members String, tree = .obj ms := by
    cases tree with
    | obj ms => exact ⟨ms, rfl⟩
    | _ => cases rest <;> simp [place, bind, Except.bind, membersOf] at h
  have ho : membersOf (.obj ms) = .ok ms := rfl
  cases hp : membersOf ((ms.find? defs).getD (.obj [])) with
  | error e => cases rest <;> simp [place, bind, Except.bind, ho, hp] at h
  | ok present =>
    obtain ⟨hd, rfl⟩ := membersOf_eq_children hp
    cases rest with
    | nil =>
      obtain ⟨leaf, rfl, hl⟩ : ∃ leaf, next = graft ms name (.obj leaf) ∧
          Landed value (children (below name ms)) leaf ∧ ((children (.obj ms)).find? name = none → leaf = value) := by
        simp only [place, bind, Except.bind, ho, hp, pure, Except.pure] at h
        split at h
        next => exact ⟨value, (Except.ok.inj h).symm, Or.inl rfl, fun _ => rfl⟩
        next => exact ⟨value, (Except.ok.inj h).symm, Or.inl rfl, fun _ => rfl⟩
        next other _ hother =>
          cases hj : join value other with
          | error e => simp [hj] at h
          | ok leaf =>
            simp only [hj] at h
            rw [below, hother, Option.getD_some]
            refine ⟨leaf, (Except.ok.inj h).symm, landed_join hj, fun hnone => absurd hnone (Option.some_ne_none other)⟩
      exact ⟨ms, .obj leaf, rfl, hd, rfl, Or.inl ⟨rfl, leaf, rfl, hl⟩⟩
    | cons second rest =>
      simp only [place, bind, Except.bind, ho, hp, pure, Except.pure] at h
      split at h
      next => cases h
      next child hc => exact ⟨ms, child, rfl, hd, (Except.ok.inj h).symm, Or.inr ⟨by simp, hc⟩⟩

theorem nodeAt_empty {path : List String} (hp : path ≠ []) : nodeAt path (.obj []) = none := by
  cases path with
  | nil => exact absurd rfl hp
  | cons name path => simp [nodeAt, children, Members.find?]

/-- The node at the path of a document is the document, with the definitions that were there. -/
theorem nodeAt_place_self {value : Members String} {path : List String} {tree next : Document}
    (h : place value path tree = .ok next) (hp : path ≠ []) :
    ∃ others leaf, nodeAt path next = some (.obj leaf) ∧ Landed value others leaf ∧
      (nodeAt path tree = none → leaf = value) := by
  induction path generalizing tree next with
  | nil => exact absurd rfl hp
  | cons name rest ih =>
    obtain ⟨ms, child, rfl, _, rfl, hcase⟩ := place_cases h
    simp only [nodeAt_graft, if_true]
    rcases hcase with ⟨rfl, leaf, rfl, hl, hfresh⟩ | ⟨hr, hc⟩
    · refine ⟨_, leaf, rfl, hl, fun hnone => hfresh ?_⟩
      simpa [nodeAt] using hnone
    · obtain ⟨others, leaf, hleaf, hl, hfresh⟩ := ih hc hr
      refine ⟨others, leaf, hleaf, hl, fun hnone => hfresh ?_⟩
      rw [nodeAt_below hr]
      exact hnone

theorem below_of_nodeAt {ms : Members String} {name : String} {path : List String} {v : Document}
    (h : nodeAt (name :: path) (.obj ms) = some v) : nodeAt path (below name ms) = some v := by
  obtain ⟨x, hx, hv⟩ := Option.bind_eq_some_iff.mp h
  rw [below, hx]
  exact hv

/-- A node that the path of a document does not lead to stays, unless the path leads through it: then the
document is put below it. -/
theorem nodeAt_place {value : Members String} {path p : List String} {tree next v : Document}
    (h : place value path tree = .ok next) (hv : nodeAt p tree = some v) (hp : ¬ path <+: p) :
    nodeAt p next = some v ∨ ∃ q w, path = p ++ q ∧ nodeAt p next = some w ∧ place value q v = .ok w := by
  induction p generalizing path tree next with
  | nil =>
    obtain rfl := Option.some.inj hv
    exact Or.inr ⟨path, next, rfl, rfl, h⟩
  | cons other p ih =>
    cases path with
    | nil => exact absurd List.nil_prefix hp
    | cons name rest =>
      obtain ⟨ms, child, rfl, _, rfl, hcase⟩ := place_cases h
      rw [nodeAt_graft]
      by_cases hn : name = other
      · subst other
        rw [if_pos rfl]
        rcases hcase with ⟨rfl, _⟩ | ⟨hr, hc⟩
        · exact absurd (by simp) hp
        · rcases ih hc (below_of_nodeAt hv) (by simpa using hp) with hsame | ⟨q, w, rfl, hw, hq⟩
          · exact Or.inl hsame
          · exact Or.inr ⟨q, w, rfl, hw, hq⟩
      · rw [if_neg hn]
        exact Or.inl hv

/-- A node that is there once a document is put at its path was there, lies on the path, or is a definition of the
document. -/
theorem nodeAt_of_place {value : Members String} {path p : List String} {tree next v : Document}
    (h : place value path tree = .ok next) (hv : nodeAt p next = some v) :
    (nodeAt p tree).isSome ∨ p <+: path ∨
      ∃ q, p = path ++ q ∧ (Divided value → (nodeAt q (.obj value)).isSome) := by
  induction path generalizing p tree next with
  | nil =>
    obtain rfl : tree = next := by simpa [place] using h
    exact Or.inl (Option.isSome_iff_exists.mpr ⟨v, hv⟩)
  | cons name rest ih =>
    cases p with
    | nil => exact Or.inr (Or.inl List.nil_prefix)
    | cons other p =>
      obtain ⟨ms, child, rfl, _, rfl, hcase⟩ := place_cases h
      rw [nodeAt_graft] at hv
      by_cases hn : name = other
      · subst other
        rw [if_pos rfl] at hv
        cases p with
        | nil => exact Or.inr (Or.inl (by simp))
        | cons k p =>
          rw [← nodeAt_below (by simp : k :: p ≠ [])]
          rcases hcase with ⟨rfl, leaf, rfl, hl, _⟩ | ⟨hr, hc⟩
          · obtain ⟨x, hx, hrest⟩ := Option.bind_eq_some_iff.mp hv
            rcases hl.definition hx with hown | hother
            · refine Or.inr (Or.inr ⟨k :: p, rfl, fun hdiv => ?_⟩)
              exact Option.isSome_iff_exists.mpr ⟨v, Option.bind_eq_some_iff.mpr ⟨x, hown hdiv, hrest⟩⟩
            · exact Or.inl (Option.isSome_iff_exists.mpr ⟨v, Option.bind_eq_some_iff.mpr ⟨x, hother, hrest⟩⟩)
          · rcases ih hc hv with hwas | hon | ⟨q, hq, hown⟩
            · exact Or.inl hwas
            · exact Or.inr (Or.inl (by simpa using hon))
            · exact Or.inr (Or.inr ⟨q, by simp [hq], hown⟩)
      · rw [if_neg hn] at hv
        exact Or.inl (Option.isSome_iff_exists.mpr ⟨v, hv⟩)

/-- A value is still extended when a document lands below it. -/
theorem Extends.place {lands : List String → Prop} {value : Members String} {path : List String}
    {v tree next : Document} (hx : Extends lands v tree) (h : place value path tree = .ok next) (hp : path ≠ [])
    (hl : lands path) : Extends lands v next := by
  induction path generalizing lands v tree next with
  | nil => exact absurd rfl hp
  | cons name rest ih =>
    by_cases hhere : lands []
    · exact .taken hhere v next
    · obtain ⟨ms, child, rfl, hd, rfl, hcase⟩ := place_cases h
      obtain ⟨vs, rfl, hdiv, hown, hwide⟩ := hx.cases hhere hd
      have hnext : graft ms name child = .obj (ms.set defs (.obj ((children (.obj ms)).set name child))) := rfl
      rw [hnext]
      refine .of_widens hdiv ?_ (by simp [children, Members.find?_set]) ?_
      · rw [← hnext, own_graft, hown]
      · rw [← hnext, children_graft]
        refine ⟨fun k x hk => ?_, fun k hk => ?_⟩
        · rw [Members.find?_set]
          by_cases hkn : name = k
          · subst k
            refine ⟨child, by simp, ?_⟩
            rcases hcase with ⟨rfl, _⟩ | ⟨hr, hc⟩
            · exact .taken hl x child
            · obtain ⟨y, hy, hxy⟩ := hwide.kept name x hk
              rw [Corpus.below, hy, Option.getD_some] at hc
              exact ih hxy hc hr hl
          · simpa [hkn] using hwide.kept k x hk
        · rw [Members.find?_set] at hk
          by_cases hkn : name = k
          · subst k
            exact Or.inr ⟨rest, hl⟩
          · exact hwide.added k (by simpa [hkn] using hk)

/-- A value that was found at a path, and what is there once documents have landed: the value itself, unless the path
leads to a definition, or to all definitions at once. -/
def Enlarged (lands : List String → Prop) (path : List String) (x y : Document) : Prop :=
  y = x ∨ (∃ q, path = tokensTo q ∧ Extends (fun p => lands (q ++ p)) x y) ∨
    ∃ (q : List String) (ds es : Members String),
      path = tokensTo q ++ [defs] ∧ x = .obj ds ∧ y = .obj es ∧ Widens (fun p => lands (q ++ p)) ds es

theorem Enlarged.below {lands : List String → Prop} {name : String} {path : List String} {x y : Document}
    (h : Enlarged (fun q => lands (name :: q)) path x y) : Enlarged lands (defs :: name :: path) x y := by
  rcases h with rfl | ⟨q, rfl, hx⟩ | ⟨q, ds, es, rfl, rfl, rfl, hw⟩
  · exact Or.inl rfl
  · exact Or.inr (Or.inl ⟨name :: q, by simp [tokensTo], hx⟩)
  · exact Or.inr (Or.inr ⟨name :: q, ds, es, by simp [tokensTo], rfl, rfl, hw⟩)

theorem follow_of_own {ms ns : Members String} (h : own (.obj ns) = own (.obj ms)) {token : String}
    (hk : token ≠ defs) (path : List String) :
    Json.Pointer.follow (.obj ns) (token :: path) = Json.Pointer.follow (.obj ms) (token :: path) := by
  have hfound := congrArg (Members.find? token) h
  simp only [own, Members.find?_erase_ne (Ne.symm hk)] at hfound
  simp only [Json.Pointer.follow, Json.Pointer.step, hfound]

/-- Whatever a path leads to in a value, it leads to in what extends the value, unless a document lands on its
way. -/
theorem Extends.follow {lands : List String → Prop} {v w x : Document} {path : List String} (h : Extends lands v w)
    (hfree : ∀ q, lands q → ¬ tokensTo q <+: path) (hx : Json.Pointer.follow v path = .ok x) :
    ∃ y, Json.Pointer.follow w path = .ok y ∧ Enlarged lands path x y := by
  induction h generalizing path with
  | same _ v => exact ⟨x, hx, Or.inl rfl⟩
  | taken here => exact absurd List.nil_prefix (hfree [] here)
  | @grown lands ms ns divided beside new kept added each ih =>
    cases path with
    | nil =>
      cases hx
      exact ⟨_, rfl, Or.inr (Or.inl ⟨[], rfl, .grown divided beside new kept added each⟩)⟩
    | cons token path =>
      by_cases hk : token = defs
      · subst hk
        obtain ⟨d, hd, hx⟩ := Json.Pointer.follow_obj_cons hx
        obtain rfl := divided.eq_children hd
        cases path with
        | nil =>
          cases hx
          refine ⟨.obj (children (.obj ns)), by simp [Json.Pointer.follow, Json.Pointer.step, new],
            Or.inr (Or.inr ⟨[], _, _, rfl, rfl, rfl, fun k z hz => ?_, added⟩)⟩
          obtain ⟨u, hu⟩ := Option.isSome_iff_exists.mp (kept k z hz)
          exact ⟨u, hu, each k z u hz hu⟩
        | cons name path =>
          obtain ⟨z, hz, hx⟩ := Json.Pointer.follow_obj_cons hx
          obtain ⟨u, hu⟩ := Option.isSome_iff_exists.mp (kept name z hz)
          have hbelow : ∀ q, lands (name :: q) → ¬ tokensTo q <+: path := fun q hq hpre =>
            hfree (name :: q) hq (by simpa [tokensTo] using hpre)
          obtain ⟨y, hy, hxy⟩ := ih name z u hz hu hbelow hx
          exact ⟨y, by simpa [Json.Pointer.follow, Json.Pointer.step, new, hu] using hy, hxy.below⟩
      · exact ⟨x, (follow_of_own beside hk path).trans hx, Or.inl rfl⟩

end NoteSchema.Corpus
