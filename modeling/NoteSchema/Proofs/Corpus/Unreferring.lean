import NoteSchema.Proofs.Corpus.Filling
import NoteSchema.Proofs.Corpus.Termination

namespace NoteSchema

namespace Json

/-- No object in a value has a member of the name. -/
def Lacks (k : String) (v : Document) : Prop := ∀ o ∈ objects v, Members.find? k o = none

instance (k : String) (v : Document) : Decidable (Lacks k v) :=
  inferInstanceAs (Decidable (∀ o ∈ objects v, Members.find? k o = none))

variable {k : String}

theorem lacks_arr {items : List Document} : Lacks k (.arr items) ↔ ∀ x ∈ items, Lacks k x := by
  simp only [Lacks, objects, mem_objectsInItems]
  constructor
  · exact fun h x hx o ho => h o ⟨x, hx, ho⟩
  · rintro h o ⟨x, hx, ho⟩
    exact h x hx o ho

theorem lacks_obj {ms : Members String} :
    Lacks k (.obj ms) ↔ Members.find? k ms = none ∧ ∀ m ∈ ms, Lacks k m.2 := by
  constructor
  · intro h
    exact ⟨h ms (mem_objects_self ms), fun m hm o ho => h o (objects_of_mem hm ho)⟩
  · rintro ⟨hself, hmember⟩ o ho
    rcases List.mem_cons.mp ho with rfl | ho
    · exact hself
    · obtain ⟨m, hm, ho⟩ := mem_objectsInMembers.mp ho
      exact hmember m hm o ho

/-- Putting members in order neither adds nor takes away a name. -/
theorem lacks_sorted {v : Document} : Lacks k (sorted v) ↔ Lacks k v := by
  induction v using inductOn with
  | arr items ih =>
    rw [sorted, sortedItems_eq, lacks_arr, lacks_arr]
    constructor
    · exact fun h x hx => (ih x hx).mp (h _ (List.mem_map_of_mem hx))
    · intro h y hy
      obtain ⟨x, hx, rfl⟩ := List.mem_map.mp hy
      exact (ih x hx).mpr (h x hx)
  | obj ms ih =>
    have hself : Members.find? k (sortMembers (sortedValues ms)) = none ↔ Members.find? k ms = none := by
      rw [Members.find?_sortMembers, Members.find?_sortedValues, Option.map_eq_none_iff]
    rw [sorted, lacks_obj, lacks_obj, hself]
    refine and_congr_right fun _ => ?_
    simp only [sortMembers, List.mem_mergeSort, sortedValues_eq]
    constructor
    · exact fun h m hm => (ih m hm).mp (h _ (List.mem_map_of_mem hm))
    · intro h n hn
      obtain ⟨m, hm, rfl⟩ := List.mem_map.mp hn
      exact (ih m hm).mpr (h m hm)
  | _ => rfl

end Json

namespace Corpus

open Json (objects sorted Lacks)

variable {c : Corpus} {top : Loaded} {name : String}

/-- A value without its members called `$ref`, at any depth. -/
def withoutRefs : Document → Document := filled fun _ siblings => .obj siblings

theorem withoutRefs_obj (ms : Members String) :
    withoutRefs (.obj ms) = .obj (filledMembers (fun _ siblings => .obj siblings) ms) := by
  unfold withoutRefs
  rw [filled]
  cases refOf? ms with
  | none => rfl
  | some ref => rfl

theorem lacks_withoutRefs (v : Document) : Lacks "$ref" (withoutRefs v) := by
  induction v using Json.inductOn with
  | arr items ih =>
    unfold withoutRefs
    rw [filled, filledItems_eq, Json.lacks_arr]
    intro y hy
    obtain ⟨x, hx, rfl⟩ := List.mem_map.mp hy
    exact ih x hx
  | obj ms ih =>
    rw [withoutRefs_obj, Json.lacks_obj]
    refine ⟨by rw [find?_filledMembers, if_pos rfl], fun m hm => ?_⟩
    obtain ⟨n, hn, _, _, hvalue⟩ := mem_filledMembers hm
    rw [hvalue]
    exact ih n hn
  | _ =>
    intro o ho
    cases ho

/-- A value loses nothing with its members called `$ref` exactly if it has none. -/
theorem sorted_withoutRefs_iff (v : Document) : sorted (withoutRefs v) = sorted v ↔ Lacks "$ref" v := by
  constructor
  · intro h
    have hlacks : Lacks "$ref" (sorted (withoutRefs v)) := Json.lacks_sorted.mpr (lacks_withoutRefs v)
    rw [h] at hlacks
    exact Json.lacks_sorted.mp hlacks
  · intro h
    have hself : withoutRefs v = v := filled_eq_self h
    rw [hself]

section Expand

variable {visit : String → Members String → Inlining Document}

theorem expandItems_unreferring {xs : List Document}
    (h : ∀ x ∈ xs, expand visit x = .ok (withoutRefs x, [])) :
    expandItems visit xs = .ok (xs.map withoutRefs, []) := by
  induction xs with
  | nil => rfl
  | cons x xs ih =>
    have hx := h x List.mem_cons_self
    have hxs := ih fun y hy => h y (List.mem_cons_of_mem x hy)
    rw [expandItems]
    exact Inlining.bind_of_ok hx (Inlining.bind_of_ok hxs rfl)

theorem expandMembers_unreferring {ms : Members String}
    (h : ∀ m ∈ ms, expand visit m.2 = .ok (withoutRefs m.2, [])) :
    expandMembers visit ms = .ok (filledMembers (fun _ siblings => .obj siblings) ms, []) := by
  induction ms with
  | nil => rfl
  | cons m ms ih =>
    obtain ⟨k, v⟩ := m
    have hv := h (k, v) List.mem_cons_self
    have hms := ih fun n hn => h n (List.mem_cons_of_mem _ hn)
    rw [expandMembers, filledMembers]
    split
    · exact hms
    · exact Inlining.bind_of_ok hv (Inlining.bind_of_ok hms rfl)

/-- A traversal that meets no reference asks for no answer, and leaves out what is called like one. -/
theorem expand_unreferring {v : Document} (h : ∀ o ∈ objects v, refOf? o = none) :
    expand visit v = .ok (withoutRefs v, []) := by
  induction v using Json.inductOn with
  | arr items ih =>
    have hitems := expandItems_unreferring fun x hx =>
      ih x hx fun o ho => h o (Json.mem_objectsInItems.mpr ⟨x, hx, ho⟩)
    unfold withoutRefs
    rw [expand, filled, filledItems_eq]
    exact Inlining.bind_of_ok hitems rfl
  | obj ms ih =>
    have hmembers := expandMembers_unreferring fun m hm => ih m hm fun o ho => h o (Json.objects_of_mem hm ho)
    rw [withoutRefs_obj, expand, h ms (Json.mem_objects_self ms)]
    exact Inlining.bind_of_ok hmembers rfl
  | _ => rfl

end Expand

theorem inlinedDocument_unreferring {d : Loaded} (h : ∀ o ∈ objects d.document, refOf? o = none) :
    c.inlinedDocument top d = .ok (withoutRefs d.document, []) := by
  obtain ⟨n, hn⟩ : ∃ n, c.budget = n + 1 := ⟨_, rfl⟩
  rw [inlinedDocument, hn, inlined]
  exact expand_unreferring h

/-- Dereferencing a document in which no object has a reference gives the document in order, without the members that
are called `$ref` and are no text; it is the document itself exactly if there are none. -/
theorem dereference_unreferring (htop : c.top name = .ok top)
    (hrefs : ∀ o ∈ objects top.document, ∀ s, Members.find? "$ref" o ≠ some (.str s)) :
    c.dereference name = .ok (sorted (withoutRefs top.document)) ∧
      (c.dereference name = .ok (sorted top.document) ↔ Lacks "$ref" top.document) := by
  have hnone : ∀ o ∈ objects top.document, refOf? o = none := by
    intro o ho
    unfold refOf?
    split
    next s hs => exact absurd hs (hrefs o ho s)
    next => rfl
  have hvalue : c.inlinedDocument top top = .ok (withoutRefs top.document, []) := inlinedDocument_unreferring hnone
  have hroot : withoutRefs top.document = .obj (filledMembers (fun _ siblings => .obj siblings) top.body) :=
    withoutRefs_obj top.body
  have hresult : c.dereference name = .ok (sorted (withoutRefs top.document)) := by
    rw [hroot] at hvalue ⊢
    unfold dereference
    rw [htop]
    exact dereferenced_of_inlinedDocument hvalue
  refine ⟨hresult, ?_⟩
  rw [hresult, Except.ok.injEq]
  exact sorted_withoutRefs_iff top.document

/-- A document with a property that is called like a reference. -/
def linkBody : Members String :=
  [("$id", .str "https://example.org/schemas/core/Link.schema.json"),
    ("properties", .obj [("$ref", .obj [("type", .str "string")]), ("text", .obj [("type", .str "string")])])]

def link : Loaded where
  identifier := "https://example.org/schemas/core/Link.schema.json"
  id := ⟨"core", [], "Link", .schema⟩
  body := linkBody

theorem link_refs : ∀ o ∈ objects link.document, ∀ s, Members.find? "$ref" o ≠ some (.str s) := by
  have hnone : ∀ o ∈ objects link.document, refOf? o = none := by decide
  intro o ho s hs
  have href := hnone o ho
  rw [refOf?, hs] at href
  cases href

theorem link_dereferenced :
    Corpus.top ⟨[link], []⟩ "Link" = .ok link ∧
      Corpus.dereference ⟨[link], []⟩ "Link" = .ok (sorted (withoutRefs link.document)) := by
  have htop : Corpus.top ⟨[link], []⟩ "Link" = .ok link := by decide
  exact ⟨htop, (dereference_unreferring htop link_refs).1⟩

/-- The property is lost though it is no reference. -/
theorem link_loses_property : ∃ c out,
    ofBodies "https://example.org/schemas/" [.obj linkBody] = .ok c ∧ c.top "Link" = .ok link ∧
    (∀ o ∈ objects link.document, ∀ s, Members.find? "$ref" o ≠ some (.str s)) ∧
    c.dereference "Link" = .ok out ∧ out ≠ sorted link.document ∧
    Json.Pointer.follow link.document ["properties", "$ref"] = .ok (.obj [("type", .str "string")]) ∧
    Json.Pointer.follow out ["properties", "$ref"] = .error (.nowhere "$ref") := by
  have hload : ofBodies "https://example.org/schemas/" [.obj linkBody] = .ok ⟨[link], []⟩ :=
    congrArg (fun ds => Except.ok (Corpus.mk ds [])) (List.mergeSort_singleton link)
  have hlost : Json.Pointer.follow (sorted (withoutRefs link.document)) ["properties", "$ref"] =
      .error (.nowhere "$ref") := by
    rw [Json.Pointer.follow_sorted]
    rfl
  have hkept : Json.Pointer.follow (sorted link.document) ["properties", "$ref"] =
      .ok (sorted (.obj [("type", .str "string")])) := by
    rw [Json.Pointer.follow_sorted]
    rfl
  refine ⟨_, _, hload, by decide, link_refs, rfl, ?_, rfl, hlost⟩
  intro hsame
  rw [← hsame] at hkept
  cases hlost.symm.trans hkept

end Corpus

end NoteSchema
