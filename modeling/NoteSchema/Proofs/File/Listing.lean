import NoteSchema.Corpus.Load
import NoteSchema.Proofs.File.Kept
import NoteSchema.Proofs.File.Path

namespace NoteSchema

namespace FilePath

variable {place names below : List String}

theorem eq_append_of_below? (h : below? place names = some below) : names = place ++ below := by
  induction place generalizing names with
  | nil =>
    cases h
    rfl
  | cons first place ih =>
    cases names with
    | nil => cases h
    | cons head names =>
      rw [below?] at h
      split at h
      next hhead => rw [ih h, hhead, List.cons_append]
      next => cases h

theorem below?_append (place names : List String) : below? place (place ++ names) = some names := by
  induction place with
  | nil => rfl
  | cons name place ih => simpa [below?] using ih

end FilePath

namespace FileTree

variable {t : FileTree} {p : FilePath} {place q : Place} {names : List String} {e : Entry}

theorem find?_of_mem (h : (place, e) ∈ t.entries) : ∃ e', t.find? place = some e' := by
  have hlookup : ∀ entries : List (Place × Entry), (place, e) ∈ entries → ∃ e', lookup place entries = some e' := by
    intro entries hin
    induction entries with
    | nil => cases hin
    | cons entry rest ih =>
      obtain ⟨p, first⟩ := entry
      by_cases hp : p = place
      · exact ⟨first, by simp [lookup, hp]⟩
      · obtain ⟨e', he'⟩ := ih ((List.mem_cons.mp hin).resolve_left fun heq => hp (congrArg Prod.fst heq).symm)
        exact ⟨e', by simp [lookup, hp, he']⟩
  unfold find?
  split
  next => exact ⟨_, rfl⟩
  next => exact hlookup t.entries h

theorem mem_of_find? (hne : place ≠ []) (h : t.find? place = some e) : (place, e) ∈ t.entries := by
  rw [find?, if_neg hne] at h
  exact mem_of_lookup h

/-- What lies below a folder stands at its place, and nothing else does. -/
theorem mem_below (hroot : t.locate p = .ok (place, .folder)) :
    (names, e) ∈ t.below p ↔ names ≠ [] ∧ (place ++ names, e) ∈ t.entries := by
  unfold below
  simp only [hroot, List.mem_filterMap]
  constructor
  · rintro ⟨⟨at_, e'⟩, hentry, hfound⟩
    dsimp only at hfound
    split at hfound
    next => cases hfound
    next => cases hfound
    next hne hat =>
      cases hfound
      exact ⟨hne, FilePath.eq_append_of_below? hat ▸ hentry⟩
  · rintro ⟨hne, hentry⟩
    refine ⟨_, hentry, ?_⟩
    dsimp only
    rw [FilePath.below?_append]
    cases names with
    | nil => exact absurd rfl hne
    | cons name names => rfl

/-- Where a path leads below a root is below the place of the root. -/
theorem placeOf_below (root : FilePath) (h : ".." ∉ names) :
    t.placeOf (root ++ ⟨.relative, names⟩) = t.placeOf root ++ names := by
  have happend : root ++ ⟨.relative, names⟩ = ⟨root.anchor, root.names ++ names⟩ := rfl
  rw [happend, placeOf, placeOf, endOf_append, endOf_plain h]

end FileTree

namespace Layout

variable {l : Layout} {t : FileTree} {p : FilePath} {folder segment name : String} {front : List String} {e : Entry}
  {keep : String → Entry → Bool}

/-- Components below a root that a listing of a folder looks at. -/
def listedNames (segment folder : String) (front : List String) (name : String) : List String :=
  segment :: folder :: (front ++ [name])

/-- A source with a location is in its subpath of the folder of sources of its segment. -/
theorem absolute_of_locationOf {here : Location} (h : l.locationOf p = .ok here) :
    ∃ name, p.absolute l.cwd = l.root.absolute l.cwd ++ listedNames here.segment sourceFolder here.subpath name := by
  unfold locationOf at h
  split at h
  next => cases h
  next segment folder more hrelative =>
    split at h
    next hfits =>
      cases h
      obtain ⟨rfl, hne⟩ := hfits
      rw [FilePath.relativeTo?] at hrelative
      split at hrelative
      next => cases hrelative
      next =>
        refine ⟨more.getLast hne, ?_⟩
        rw [listedNames, List.dropLast_concat_getLast hne]
        exact FilePath.eq_append_of_below? hrelative
    next => cases h
  next => cases h

/-- What is listed stands in the folder of the given name below a segment. -/
theorem locate_of_mem_listing (h : t.Sound) (hp : p ∈ l.listing t folder keep) :
    ∃ segment front name e e', p = l.root ++ ⟨.relative, listedNames segment folder front name⟩ ∧ keep name e = true ∧
      (t.placeOf l.root ++ listedNames segment folder front name, e) ∈ t.entries ∧
      t.locate p = .ok (t.placeOf l.root ++ listedNames segment folder front name, e') := by
  obtain ⟨⟨names, e⟩, hbelow, hkeep⟩ := List.mem_filterMap.mp (List.mem_mergeSort.mp hp)
  dsimp only at hkeep
  split at hkeep
  next segment second third more =>
    split at hkeep
    next hfits =>
      cases hkeep
      obtain ⟨front, name, hmore⟩ : ∃ front name, third :: more = front ++ [name] :=
        ⟨_, _, (List.dropLast_concat_getLast (List.cons_ne_nil third more)).symm⟩
      have hlast : (segment :: second :: third :: more).getLast?.getD "" = name := by
        rw [hmore, ← List.cons_append, ← List.cons_append, List.getLast?_concat, Option.getD_some]
      rw [hlast, Bool.and_eq_true, decide_eq_true_eq] at hfits
      obtain ⟨rfl, hkeep⟩ := hfits
      rw [hmore] at hbelow ⊢
      cases hroot : t.locate l.root with
      | error c => simp [FileTree.below, hroot] at hbelow
      | ok found =>
        obtain ⟨place, root⟩ := found
        cases root with
        | file content => simp [FileTree.below, hroot] at hbelow
        | folder =>
          obtain ⟨_, hentry⟩ := (FileTree.mem_below hroot).mp hbelow
          obtain ⟨e', hfind⟩ := FileTree.find?_of_mem hentry
          obtain ⟨hstands, rfl⟩ := FileTree.stands_of_follow hroot
          refine ⟨segment, front, name, e, e', rfl, hkeep, hentry, ?_⟩
          have hfollow : t.locate (l.root ++ ⟨.relative, listedNames segment second front name⟩) =
              (t.follow (t.start l.root) .folder l.root.names).bind fun found =>
                t.follow found.1 found.2 (listedNames segment second front name) := FileTree.follow_append
          exact hfollow.trans (by
            rw [FileTree.follow_of_stands hstands]
            exact h.follow_below ((h.origin l.root.anchor).endOf hstands).find? hfind)
    next => cases hkeep
  next => cases hkeep

/-- What stands in the folder of the given name below a segment is listed, if it is kept. -/
theorem mem_listing_of_locate {q : Place}
    (hl : t.locate (l.root ++ ⟨.relative, listedNames segment folder front name⟩) = .ok (q, e)) (hq : t.find? q = some e)
    (hplace : q = t.placeOf l.root ++ listedNames segment folder front name) (hkeep : keep name e = true) :
    l.root ++ ⟨.relative, listedNames segment folder front name⟩ ∈ l.listing t folder keep := by
  have hfollow : t.locate (l.root ++ ⟨.relative, listedNames segment folder front name⟩) =
      (t.follow (t.start l.root) .folder l.root.names).bind fun found =>
        t.follow found.1 found.2 (listedNames segment folder front name) := FileTree.follow_append
  rw [hl] at hfollow
  have hroot : t.locate l.root = .ok (t.placeOf l.root, .folder) := by
    cases hr : t.follow (t.start l.root) .folder l.root.names with
    | error c =>
      rw [hr] at hfollow
      cases hfollow
    | ok found =>
      obtain ⟨place, root⟩ := found
      rw [hr] at hfollow
      cases root with
      | file content =>
        have hstop : t.follow place (.file content) (listedNames segment folder front name) = .error .notFolder :=
          FileTree.follow_file content (List.cons_ne_nil segment _)
        exact absurd (hfollow.trans hstop) (by simp)
      | folder =>
        obtain ⟨_, rfl⟩ := FileTree.stands_of_follow hr
        exact hr
  subst hplace
  have hentry := FileTree.mem_of_find? (by simp [listedNames]) hq
  have hbelow := (FileTree.mem_below hroot).mpr ⟨List.cons_ne_nil segment _, hentry⟩
  refine List.mem_mergeSort.mpr (List.mem_filterMap.mpr ⟨_, hbelow, ?_⟩)
  obtain ⟨third, more, hmore⟩ := List.exists_cons_of_ne_nil (show front ++ [name] ≠ [] by simp)
  have hlast : (segment :: folder :: third :: more).getLast?.getD "" = name := by
    rw [← hmore, ← List.cons_append, ← List.cons_append, List.getLast?_concat, Option.getD_some]
  simp only [listedNames, hmore, hlast, hkeep, decide_true, Bool.and_self, if_true]

end Layout

end NoteSchema
