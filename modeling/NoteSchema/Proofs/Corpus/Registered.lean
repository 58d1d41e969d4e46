import NoteSchema.Corpus.Load
import NoteSchema.Proofs.Json.Order
import Mathlib.Data.String.Basic

namespace NoteSchema.Corpus

/-- What holds of a corpus however it was made: its documents come in the order of their identifiers,
each carries its own, and no object in them has two members of one name. -/
structure Registered (base : String) (c : Corpus) : Prop where
  inOrder : c.documents.Pairwise fun a b => a.identifier < b.identifier
  carried : ∀ d ∈ c.documents, d.body.find? "$id" = some (.str d.identifier)
  addressed : ∀ d ∈ c.documents, ArtifactId.ofIdentifier? base d.identifier = some d.id
  distinct : ∀ d ∈ c.documents, d.document.Distinct

/-- Every identifier is spelled as the address that it names. -/
def Canonical (base : String) (c : Corpus) : Prop :=
  ∀ d ∈ c.documents, d.identifier = d.id.identifier base

variable {base : String} {c : Corpus}

theorem Registered.nodup (h : c.Registered base) : (c.documents.map (·.identifier)).Nodup :=
  List.pairwise_map.mpr (h.inOrder.imp fun hlt => ne_of_lt hlt)

theorem Registered.ext {d e : Loaded} (h : c.Registered base) (hd : d ∈ c.documents) (he : e ∈ c.documents)
    (hi : d.identifier = e.identifier) : d = e :=
  List.inj_on_of_nodup_map h.nodup hd he hi

/-- A document that was made from a body with its identifier. -/
def Made (base : String) (d : Loaded) : Prop :=
  d.body.find? "$id" = some (.str d.identifier) ∧
    ArtifactId.ofIdentifier? base d.identifier = some d.id ∧ d.document.Distinct

theorem made_ofBody {body : Document} {d : Loaded} (hb : body.Distinct) (h : ofBody base body = .ok d) :
    Made base d := by
  unfold ofBody at h
  split at h
  next ms =>
    split at h
    next => cases h
    next identifier hi =>
      split at h
      next id hid =>
        cases h
        exact ⟨hi, hid, hb⟩
      next => cases h
    next => cases h
  next => cases h

theorem mem_put {d e : Loaded} {ds : List Loaded} (h : e ∈ put d ds) : e = d ∨ e ∈ ds := by
  induction ds with
  | nil => exact Or.inl (by simpa [put] using h)
  | cons x xs ih =>
    rw [put] at h
    split at h
    · exact (List.mem_cons.mp h).imp id (List.mem_cons_of_mem x)
    · rcases List.mem_cons.mp h with rfl | h
      · exact Or.inr (by simp)
      · exact (ih h).imp id (List.mem_cons_of_mem x)

theorem nodup_put {d : Loaded} {ds : List Loaded} (h : (ds.map (·.identifier)).Nodup) :
    ((put d ds).map (·.identifier)).Nodup := by
  induction ds with
  | nil => simp [put]
  | cons x xs ih =>
    simp only [List.map_cons, List.nodup_cons] at h
    rw [put]
    split
    next hx => simpa [← hx] using h
    next hx =>
      simp only [List.map_cons, List.nodup_cons]
      refine ⟨fun hm => ?_, ih h.2⟩
      obtain ⟨e, he, hi⟩ := List.mem_map.mp hm
      rcases mem_put he with rfl | he
      · exact hx hi.symm
      · exact h.1 (List.mem_map.mpr ⟨e, he, hi⟩)

theorem addBodies_made {ds out : List Loaded} {bodies : List Document} (hb : ∀ b ∈ bodies, b.Distinct)
    (hds : ∀ d ∈ ds, Made base d) (hn : (ds.map (·.identifier)).Nodup)
    (h : addBodies base ds bodies = .ok out) :
    (∀ d ∈ out, Made base d) ∧ (out.map (·.identifier)).Nodup := by
  induction bodies generalizing ds with
  | nil =>
    cases h
    exact ⟨hds, hn⟩
  | cons body rest ih =>
    rw [addBodies] at h
    split at h
    next d hd =>
      refine ih (fun b hm => hb b (by simp [hm])) (fun e he => ?_) (nodup_put hn) h
      rcases mem_put he with rfl | he
      · exact made_ofBody (hb body (by simp)) hd
      · exact hds e he
    next => cases h

theorem registered_of_made {ds : List Loaded} {failures : List (FilePath × String)}
    (hm : ∀ d ∈ ds, Made base d) (hn : (ds.map (·.identifier)).Nodup) :
    Registered base ⟨Corpus.inOrder ds, failures⟩ := by
  have perm := List.mergeSort_perm ds fun a b => decide (a.identifier ≤ b.identifier)
  have made (d : Loaded) (hd : d ∈ Corpus.inOrder ds) : Made base d := hm d (perm.mem_iff.mp hd)
  have sorted : (Corpus.inOrder ds).Pairwise fun a b => a.identifier ≤ b.identifier :=
    Text.pairwise_mergeSort_key (·.identifier) ds
  have once : (Corpus.inOrder ds).Pairwise fun a b => a.identifier ≠ b.identifier :=
    List.pairwise_map.mp ((perm.map Loaded.identifier).nodup_iff.mpr hn)
  refine ⟨?_, fun d hd => (made d hd).1, fun d hd => (made d hd).2.1, fun d hd => (made d hd).2.2⟩
  exact (sorted.and once).imp fun ⟨hle, hne⟩ => lt_of_le_of_ne hle hne

theorem addBodies_of_ofBodies {bodies : List Document} (h : ofBodies base bodies = .ok c) :
    ∃ ds, addBodies base [] bodies = .ok ds ∧ c = { documents := inOrder ds } := by
  unfold ofBodies at h
  cases ha : addBodies base [] bodies with
  | error e =>
    rw [ha] at h
    cases h
  | ok ds =>
    rw [ha] at h
    exact ⟨ds, rfl, (Except.ok.inj h).symm⟩

/-- A corpus of bodies in which no object has two members of one name. -/
theorem registered_ofBodies {bodies : List Document} (hb : ∀ b ∈ bodies, b.Distinct)
    (h : ofBodies base bodies = .ok c) : c.Registered base := by
  obtain ⟨ds, ha, rfl⟩ := addBodies_of_ofBodies h
  obtain ⟨hm, hn⟩ := addBodies_made hb (by simp) (by simp) ha
  exact registered_of_made hm hn

theorem inOrder_of_pairwise {ds : List Loaded} (h : ds.Pairwise fun d e => d.identifier < e.identifier) :
    Corpus.inOrder ds = ds :=
  List.mergeSort_of_pairwise (h.imp fun hlt => decide_eq_true hlt.le)

end NoteSchema.Corpus
