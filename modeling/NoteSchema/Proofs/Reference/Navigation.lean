import Mathlib.Data.List.Basic
import NoteSchema.Proofs.Reference.Named
import NoteSchema.Proofs.Text.Split

namespace NoteSchema

namespace Reference

/-- A part that names nothing but leads on: to where one is, or one step up. -/
def isNavigation (part : String) : Bool := part == "." || part == ".."

end Reference

/-- The identifier of an artifact goes on below a segment under the base, and by names only. -/
def ArtifactId.LiesIn (base segment : String) (id : ArtifactId) : Prop :=
  ∃ more : List String, more ≠ [] ∧
    id.identifier base = base ++ Text.join "/" (segment :: more) ++ "." ++ id.kind.suffix ∧
    ∀ part ∈ more, part ≠ "" ∧ '/' ∉ part.toList ∧ Reference.isNavigation part = false

namespace Reference

variable {base path : String} {here : Location} {kind : ArtifactKind} {target : Target} {id : ArtifactId}

/-- The parts of a path that an address takes over as they are written: all of them, but for a path relative to the
document, whose navigation is followed. -/
def writtenParts (base : String) (kind : ArtifactKind) (path : String) : List String :=
  match PathKind.ofPath path with
  | .absoluteUrl => Text.split '/' (stemOf kind ((Text.after? base (cut path).1).getD "")).1
  | .documentRelative => []
  | .bare => Text.split '/' path
  | _ => Text.split '/' (String.ofList (path.toList.drop 1))

theorem climb?_idle {name : String} (hname : name = "" ∨ name = ".") (stack : List String) : climb? stack name = some stack := by
  simp [climb?, hname]

theorem climb?_name {name : String} (hname : name ≠ "" ∧ name ≠ "." ∧ name ≠ "..") (stack : List String) :
    climb? stack name = some (name :: stack) := by
  simp [climb?, hname]

theorem climbAll?_append (stack xs ys : List String) :
    climbAll? stack (xs ++ ys) = (climbAll? stack xs).bind (climbAll? · ys) := by
  induction xs generalizing stack with
  | nil => rfl
  | cons x xs ih =>
    rw [List.cons_append, climbAll?, climbAll?]
    cases climb? stack x with
    | none => rfl
    | some next => exact ih next

theorem mem_of_climb? {stack next : List String} {name part : String} (h : climb? stack name = some next)
    (hpart : part ∈ next) : part ∈ stack ∨ part = name ∧ name ≠ "" ∧ name ≠ "." ∧ name ≠ ".." := by
  unfold climb? at h
  split at h
  next =>
    cases h
    exact .inl hpart
  next hnamed =>
    split at h
    next =>
      split at h
      next => cases h
      next top rest =>
        cases h
        exact .inl (List.mem_cons_of_mem top hpart)
    next hup =>
      cases h
      rcases List.mem_cons.mp hpart with rfl | hpart
      · exact .inr ⟨rfl, not_or.mp hnamed |>.1, not_or.mp hnamed |>.2, hup⟩
      · exact .inl hpart

/-- Whatever a path climbs through, what it adds to the stack are parts of it that lead on by name. -/
theorem mem_of_climbAll? {names stack result : List String} {part : String} (h : climbAll? stack names = some result)
    (hpart : part ∈ result) : part ∈ stack ∨ part ∈ names ∧ part ≠ "" ∧ part ≠ "." ∧ part ≠ ".." := by
  induction names generalizing stack with
  | nil =>
    cases h
    exact .inl hpart
  | cons name names ih =>
    rw [climbAll?] at h
    split at h
    next next hnext =>
      rcases ih h with hin | ⟨hin, hnamed⟩
      · rcases mem_of_climb? hnext hin with hin | ⟨rfl, hnamed⟩
        · exact .inl hin
        · exact .inr ⟨List.mem_cons_self, hnamed⟩
      · exact .inr ⟨List.mem_cons_of_mem name hin, hnamed⟩
    next => cases h

theorem mem_of_normalize {more : List String} {part : String} (h : normalize path = .ok more) (hpart : part ∈ more) :
    part ∈ Text.split '/' path ∧ part ≠ "" ∧ part ≠ "." ∧ part ≠ ".." := by
  unfold normalize at h
  split at h
  next stack hstack =>
    cases h
    exact (mem_of_climbAll? hstack (List.mem_reverse.mp hpart)).resolve_left List.not_mem_nil
  next => cases h

theorem isNavigation_of_normalize {more : List String} (h : normalize path = .ok more) :
    ∀ part ∈ more, isNavigation part = false := by
  intro part hpart
  obtain ⟨_, _, hdot, hup⟩ := mem_of_normalize h hpart
  simp [isNavigation, hdot, hup]

/-- Where a document lies, in folders that are named. -/
def Location.Named (here : Location) : Prop := ∀ part ∈ here.segment :: here.subpath, isNavigation part = false

/-- What a path means navigates only where the path is taken as written. -/
theorem navigates_partsOf {form : PathKind} {parts : List String} (hhere : Location.Named here)
    (hform : PathKind.ofPath path = form) (hweb : form ≠ .absoluteUrl) (h : partsOf here form path = .ok parts) :
    (∃ part ∈ parts, isNavigation part = true) ↔ ∃ part ∈ writtenParts base kind path, isNavigation part = true := by
  have hown : isNavigation here.segment = false := hhere here.segment List.mem_cons_self
  unfold partsOf at h
  unfold writtenParts
  rw [hform]
  cases form with
  | absoluteUrl => exact absurd rfl hweb
  | documentRelative =>
    dsimp only at h
    split at h
    next more hmore =>
      cases h
      have hnone := isNavigation_of_normalize hmore
      simpa [hown] using hnone
    next => cases h
  | bare =>
    cases h
    have hfolders : ∀ part ∈ here.subpath, isNavigation part = false :=
      fun part hpart => hhere part (List.mem_cons_of_mem _ hpart)
    constructor
    · rintro ⟨part, hpart, hnav⟩
      rcases List.mem_cons.mp hpart with rfl | hpart
      · simp [hown] at hnav
      · rcases List.mem_append.mp hpart with hpart | hpart
        · simp [hfolders part hpart] at hnav
        · exact ⟨part, hpart, hnav⟩
    · rintro ⟨part, hpart, hnav⟩
      exact ⟨part, List.mem_cons_of_mem _ (List.mem_append_right _ hpart), hnav⟩
  | _ =>
    cases h
    exact Iff.rfl

/-- Paths from where a document lies name artifacts of its segment. -/
theorem segment_of_partsOf {form : PathKind} {parts : List String} (hform : form = .documentRelative ∨ form = .bare)
    (h : partsOf here form path = .ok parts) : ∃ more, parts = here.segment :: more := by
  unfold partsOf at h
  rcases hform with rfl | rfl
  · dsimp only at h
    split at h
    next more _ =>
      cases h
      exact ⟨more, rfl⟩
    next => cases h
  · cases h
    exact ⟨here.subpath ++ Text.split '/' path, rfl⟩

theorem liesIn_of_named (hparts : ∀ part ∈ id.namespaceParts, isSegment part = true)
    (hnames : ∀ part ∈ id.namespaceParts, isNavigation part = false) : id.LiesIn base id.segment := by
  refine ⟨id.subpath ++ [id.name], by simp, ?_, ?_⟩
  · simp only [ArtifactId.identifier, ArtifactId.toString, ArtifactId.namespaceParts, String.append_assoc]
  · intro part hpart
    have hmem : part ∈ id.namespaceParts := List.mem_cons_of_mem _ hpart
    exact ⟨ne_empty_of_isSegment (hparts part hmem), not_slash_of_isSegment (hparts part hmem), hnames part hmem⟩

/-- An address that a path names has a part that navigates exactly if the path is written with one where its parts are
taken over as they are, which a path relative to the document never does. A path relative to the document or bare names
an artifact of the document's own segment; its identifier stays in it unless the path is written so. -/
theorem resolved_navigates_iff (hhere : Location.Named here) (h : resolve base here path kind = .ok target)
    (hid : target.artifact = some id) :
    ((∃ part ∈ id.namespaceParts, isNavigation part = true) ↔
      ∃ part ∈ writtenParts base kind (Text.trim path), isNavigation part = true) ∧
    (PathKind.ofPath (Text.trim path) = .documentRelative ∨ PathKind.ofPath (Text.trim path) = .bare →
      id.segment = here.segment ∧
      ((∀ part ∈ writtenParts base kind (Text.trim path), isNavigation part = false) →
        id.LiesIn base here.segment)) := by
  have hnames := names_of_resolve h hid
  have hsegments := hnames.isSegment
  cases hnames with
  | @url rest stem own hform hrest hstem hid' =>
    have hparts := (parts_of_artifactOf hid').1
    have hwritten : writtenParts base kind (Text.trim path) = Text.split '/' stem := by
      simp only [writtenParts, hform, hrest, Option.getD_some, hstem]
    refine ⟨?_, fun hplaced => ?_⟩
    · rw [hparts, hwritten]
      constructor
      · rintro ⟨part, hpart, hnav⟩
        exact ⟨part, (List.mem_filter.mp hpart).1, hnav⟩
      · rintro ⟨part, hpart, hnav⟩
        have hne : part ≠ "" := by
          rintro rfl
          exact absurd hnav (by decide)
        exact ⟨part, List.mem_filter.mpr ⟨hpart, by simpa using hne⟩, hnav⟩
    · rw [hform] at hplaced
      rcases hplaced with hplaced | hplaced <;> cases hplaced
  | @placed parts hform hparts hid' =>
    have hids := (parts_of_artifactOf hid').1
    have hnavigates : (∃ part ∈ parts, isNavigation part = true) ↔
        ∃ part ∈ writtenParts base kind (Text.trim path), isNavigation part = true :=
      navigates_partsOf hhere rfl hform hparts
    refine ⟨by rw [hids, hnavigates], fun hplaced => ?_⟩
    obtain ⟨more, hmore⟩ := segment_of_partsOf hplaced hparts
    have hsegment : id.segment = here.segment := by
      have hcons : id.segment :: (id.subpath ++ [id.name]) = here.segment :: more := hids.trans hmore
      exact (List.cons.inj hcons).1
    refine ⟨hsegment, fun hplain => ?_⟩
    rw [← hsegment]
    refine liesIn_of_named hsegments fun part hpart => ?_
    cases hnav : isNavigation part with
    | false => rfl
    | true =>
      obtain ⟨other, hother, hyes⟩ := hnavigates.mp ⟨part, hids ▸ hpart, hnav⟩
      rw [hplain other hother] at hyes
      cases hyes

theorem rail_resolved :
    Location.Named ⟨"travel", ["booking", "air"]⟩ ∧
      resolve "https://example.org/" ⟨"travel", ["booking", "air"]⟩ "./cabin/../../rail/Seat" .schema =
        .ok ⟨"https://example.org/travel/booking/rail/Seat.schema.json",
          some ⟨"travel", ["booking", "rail"], "Seat", .schema⟩, .documentRelative, false⟩ ∧
      (ArtifactId.mk "travel" ["booking", "rail"] "Seat" .schema).LiesIn "https://example.org/" "travel" := by
  have hhere : Location.Named ⟨"travel", ["booking", "air"]⟩ := by
    unfold Location.Named
    decide
  have h : resolve "https://example.org/" ⟨"travel", ["booking", "air"]⟩ "./cabin/../../rail/Seat" .schema =
      .ok ⟨"https://example.org/travel/booking/rail/Seat.schema.json",
        some ⟨"travel", ["booking", "rail"], "Seat", .schema⟩, .documentRelative, false⟩ := by decide
  exact ⟨hhere, h, ((resolved_navigates_iff hhere h rfl).2 (.inl (by decide))).2 (by decide)⟩

/-- Steps up are kept in the address of a bare path and of a rooted one, so that the identifier leads out of the
segment. -/
theorem seat_leads_out :
    Location.Named ⟨"travel", ["booking"]⟩ ∧
      resolve "https://example.org/" ⟨"travel", ["booking"]⟩ "cabin/../../../core/Seat" .schema =
        .ok ⟨"https://example.org/travel/booking/cabin/../../../core/Seat.schema.json",
          some ⟨"travel", ["booking", "cabin", "..", "..", "..", "core"], "Seat", .schema⟩, .bare, false⟩ ∧
      resolve "https://example.org/" ⟨"travel", ["booking"]⟩ "/core/./Seat" .schema =
        .ok ⟨"https://example.org/core/./Seat.schema.json", some ⟨"core", ["."], "Seat", .schema⟩, .namespaceRooted,
          false⟩ := by
  refine ⟨?_, by decide, by decide⟩
  unfold Location.Named
  decide

end Reference

end NoteSchema
