import NoteSchema.Proofs.Command.Destination
import NoteSchema.Proofs.File.Listing

namespace NoteSchema

namespace FilePath

theorem suffix_of_ending {ending : List Char} (hpoint : '.' ∉ ending) (hne : ending ≠ []) {start : List Char}
    (hstart : start ≠ []) :
    suffix ⟨.relative, [String.ofList (start ++ '.' :: ending)]⟩ = String.ofList ('.' :: ending) := by
  have htake : ((start ++ '.' :: ending).reverse.takeWhile (· ≠ '.')).reverse = ending := by
    have hplain : ∀ c ∈ ending.reverse, decide (c ≠ '.') = true := by
      intro c hc
      rw [List.mem_reverse] at hc
      exact decide_eq_true fun he => hpoint (he ▸ hc)
    rw [List.reverse_append, List.reverse_cons, List.append_assoc, List.takeWhile_append_of_pos hplain]
    simp
  have hlong : ending.length + 1 < (start ++ '.' :: ending).length := by
    have hpos := List.length_pos_iff.mpr hstart
    rw [List.length_append, List.length_cons]
    omega
  unfold suffix name
  rw [List.getLast?_singleton, Option.getD_some, String.toList_ofList]
  simp only [htake]
  rw [if_pos ⟨hlong, hne⟩]

end FilePath

namespace Layout

variable {l : Layout} {t : FileTree} {p : FilePath}

theorem locate_of_mem_sources (h : t.Sound) (hp : p ∈ l.sources t) :
    ∃ front name e, t.locate p = .ok (front ++ [name], e) ∧
      Text.small (FilePath.suffix ⟨.relative, [name]⟩) = sourceSuffix := by
  obtain ⟨segment, front, name, _, e, _, hkeep, _, hlocate⟩ := locate_of_mem_listing h hp
  refine ⟨t.placeOf l.root ++ segment :: sourceFolder :: front, name, e, ?_, ?_⟩
  · rw [hlocate]
    simp [listedNames]
  · simpa using (Bool.and_eq_true_iff.mp hkeep).2

end Layout

namespace Command.Compile

open Hint (Note)

variable {s : Settings} {l : Layout} {t : FileTree} {p : FilePath} {notes : List (Location × Note)}

def schemaPlaces (s : Settings) (l : Layout) (t : FileTree) (notes : List (Location × Note)) : List Place :=
  (schemaPathsOf s l notes).map t.placeOf

theorem schemaPlace_ends {place : Place} (h : place ∈ schemaPlaces s l t notes) :
    ∃ front start, place = front ++ [start ++ "." ++ ArtifactKind.schema.suffix] := by
  obtain ⟨d, hd, rfl⟩ := List.mem_map.mp h
  obtain ⟨⟨here, n⟩, _, hd⟩ := List.mem_filterMap.mp hd
  obtain ⟨b, _, rfl⟩ := Option.map_eq_some_iff.mp hd
  obtain ⟨front, start, hnames⟩ := FilePath.append_ofStrings ("." ++ ArtifactKind.schema.suffix) (by decide) (by decide)
    l.root (here.segment :: ArtifactKind.schema.folder :: here.subpath) b.name
  have hpath : (l.artifactPath (Schema.idOf here b)).names = front ++ [start ++ "." ++ ArtifactKind.schema.suffix] := by
    rw [String.append_assoc, ← hnames, ← String.append_assoc]
    rfl
  have hup : start ++ "." ++ ArtifactKind.schema.suffix ≠ ".." := by
    rw [String.append_assoc]
    exact (FilePath.ne_of_long (by decide) start).2.2
  exact ⟨FileTree.endOf (t.origin (l.artifactPath (Schema.idOf here b)).anchor) front, start, by
    rw [FileTree.placeOf, hpath, FileTree.endOf_concat, FileTree.onward_name hup]⟩

/-- A source that a run of some notes finds as it was: it is there, and no schema is written in its place. -/
def Undisturbed (s : Settings) (l : Layout) (t : FileTree) (notes : List (Location × Note)) (p : FilePath) : Prop :=
  ∃ q e, t.locate p = .ok (q, e) ∧ q ∉ schemaPlaces s l t notes

/-- No schema is written in the place of a source of the corpus. -/
theorem undisturbed_of_mem_sources (h : t.Sound) (hp : p ∈ l.sources t) : Undisturbed s l t notes p := by
  obtain ⟨front, name, e, hlocate, hsuffix⟩ := Layout.locate_of_mem_sources h hp
  refine ⟨_, e, hlocate, fun hplace => ?_⟩
  obtain ⟨_, start, hsame⟩ := schemaPlace_ends hplace
  obtain ⟨_, rfl⟩ := List.append_singleton_inj.mp hsame
  have hname : start ++ "." ++ ArtifactKind.schema.suffix =
      String.ofList (start.toList ++ ".schema".toList ++ '.' :: "json".toList) := by
    rw [← String.toList_inj]
    simp [ArtifactKind.suffix]
  rw [hname, FilePath.suffix_of_ending (by decide) (by decide) (by simp)] at hsuffix
  revert hsuffix
  decide

end Command.Compile

end NoteSchema
