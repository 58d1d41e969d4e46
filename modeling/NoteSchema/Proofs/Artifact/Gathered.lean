import NoteSchema.Artifact.Pending
import NoteSchema.Proofs.Artifact.Values
import NoteSchema.Proofs.Json.Order
import Mathlib.Data.List.Induction

namespace NoteSchema

namespace Pending

/-- Takes requests one after another. -/
def requestAll (p : Pending) : List Emission → Except Closed Pending
  | [] => .ok p
  | r :: rest => do
    let (_, p) ← p.request r
    p.requestAll rest

/-- What is pending after requests that are taken until one is refused. -/
def requested (p : Pending) : List Emission → Pending
  | [] => p
  | r :: rest =>
    match p.request r with
    | .ok (_, p) => p.requested rest
    | .error .closed => p

/-- The enumerations that are requested for a destination, in order. -/
def requestsFor (destination : FilePath) (requests : List Emission) : List Enumeration :=
  (requests.filter fun r => decide (r.destination = destination)).map (·.enumeration)

end Pending

namespace Enumeration

/-- An enumeration that one more request adds to what is there for its destination. -/
def absorb : Option Enumeration → Enumeration → Option Enumeration
  | none, e => some e
  | some prior, e => some (prior.merge e)

/-- What requests for one destination come to. -/
def absorbed (prior : Option Enumeration) (requests : List Enumeration) : Option Enumeration :=
  requests.foldl absorb prior

end Enumeration

namespace Pending

open Enumeration (absorb absorbed)

section Step

variable {p p' : Pending} {r : Emission}

theorem find?_add (destination d : FilePath) (e : Enumeration) (entries : List (FilePath × Enumeration)) :
    find? d (add destination e entries) =
      if destination = d then absorb (find? d entries) e else find? d entries := by
  induction entries with
  | nil =>
    by_cases h : destination = d
    · simp [add, find?, h, absorb]
    · simp [add, find?, h]
  | cons m rest ih =>
    obtain ⟨k, prior⟩ := m
    by_cases hk : k = destination
    · subst k
      by_cases h : destination = d <;> simp [add, find?, h, absorb]
    · by_cases h : destination = d
      · subst h
        simp [add, find?, hk, ih]
      · simp [add, find?, hk, h, ih]

theorem map_fst_add (d : FilePath) (e : Enumeration) (entries : List (FilePath × Enumeration)) :
    (add d e entries).map (·.1) = if d ∈ entries.map (·.1) then entries.map (·.1) else entries.map (·.1) ++ [d] := by
  induction entries with
  | nil => rfl
  | cons m rest ih =>
    obtain ⟨k, prior⟩ := m
    by_cases hk : k = d
    · subst hk
      simp [add]
    · simp only [add, hk, if_false, List.map_cons, ih, List.mem_cons, Ne.symm hk, false_or]
      split <;> rfl

/-- An open registry records each request. -/
theorem request_eq_ok (henabled : p.enabled = true) (hopen : p.flushed = false) :
    p.request r = .ok (true, { p with entries := add r.destination r.enumeration p.entries }) := by
  simp [request, henabled, hopen]

/-- A request changes what is there for its destination alone. -/
theorem get?_add (d : FilePath) :
    { p with entries := add r.destination r.enumeration p.entries }.get? d =
      if r.destination = d then absorb (p.get? d) r.enumeration else p.get? d :=
  find?_add r.destination d r.enumeration p.entries

end Step

section Takes

variable {p p' : Pending} {requests : List Emission}

/-- Requests that come to what is pending: no destination is there twice, and none that was not asked for. -/
structure Takes (p : Pending) (requests : List Emission) (p' : Pending) : Prop where
  enabled : p'.enabled = p.enabled
  flushed : p'.flushed = p.flushed
  keys : ∀ d ∈ p'.entries.map (·.1), d ∈ p.entries.map (·.1) ∨ ∃ e ∈ requests, e.destination = d
  nodup : (p.entries.map (·.1)).Nodup → (p'.entries.map (·.1)).Nodup

theorem takes_request {e : Emission} {taken : Bool × Pending} (h : p.request e = .ok taken) : p.Takes [e] taken.2 := by
  unfold request at h
  split at h
  next =>
    cases h
    exact ⟨rfl, rfl, fun d hd => .inl hd, id⟩
  next =>
    split at h
    next => cases h
    next =>
      cases h
      refine ⟨rfl, rfl, fun d hd => ?_, fun hn => ?_⟩
      · rw [map_fst_add] at hd
        split at hd
        next => exact .inl hd
        next =>
          rcases List.mem_append.mp hd with hd | hd
          · exact .inl hd
          · exact .inr ⟨e, List.mem_singleton_self e, (List.mem_singleton.mp hd).symm⟩
      · rw [map_fst_add]
        split
        next => exact hn
        next hnew =>
          refine List.nodup_append.mpr ⟨hn, by simp, fun d hd d' hd' => ?_⟩
          obtain rfl := List.mem_singleton.mp hd'
          exact fun he => hnew (he ▸ hd)

theorem Takes.trans {p'' : Pending} {more : List Emission} (h : p.Takes requests p') (h' : p'.Takes more p'') :
    p.Takes (requests ++ more) p'' where
  enabled := h'.enabled.trans h.enabled
  flushed := h'.flushed.trans h.flushed
  nodup := h'.nodup ∘ h.nodup
  keys d hd := by
    rcases h'.keys d hd with hd | ⟨e, he, rfl⟩
    · rcases h.keys d hd with hd | ⟨e, he, rfl⟩
      · exact .inl hd
      · exact .inr ⟨e, List.mem_append_left _ he, rfl⟩
    · exact .inr ⟨e, List.mem_append_right _ he, rfl⟩

theorem Takes.none : p.Takes requests p where
  enabled := rfl
  flushed := rfl
  keys _ hd := .inl hd
  nodup := id

end Takes

section Requested

variable {p p' : Pending} {r : Emission} {requests : List Emission}

theorem requested_of_error {reason : Closed} (h : p.request r = .error reason) : p.requested (r :: requests) = p := by
  rw [requested, h]

theorem requested_of_ok {taken : Bool × Pending} (h : p.request r = .ok taken) :
    p.requested (r :: requests) = taken.2.requested requests := by
  rw [requested, h]

/-- What is kept while one request after another is taken, is kept by all of them. -/
theorem requested_keeps {P : Pending → Prop}
    (hstep : ∀ e ∈ requests, ∀ p taken, P p → p.request e = .ok taken → P taken.2) (h : P p) :
    P (p.requested requests) := by
  induction requests generalizing p with
  | nil => exact h
  | cons e rest ih =>
    cases hr : p.request e with
    | error reason => rwa [requested_of_error hr]
    | ok taken =>
      rw [requested_of_ok hr]
      exact ih (fun e he => hstep e (List.mem_cons_of_mem _ he)) (hstep e List.mem_cons_self _ _ h hr)

theorem takes_requested (p : Pending) (requests : List Emission) : p.Takes requests (p.requested requests) := by
  induction requests generalizing p with
  | nil => exact .none
  | cons e rest ih =>
    cases hr : p.request e with
    | error reason =>
      rw [requested_of_error hr]
      exact .none
    | ok taken =>
      rw [requested_of_ok hr]
      exact (takes_request hr).trans (ih taken.2)

/-- Requests none of which is refused are all taken. -/
theorem requested_of_requestAll (h : p.requestAll requests = .ok p') : p.requested requests = p' := by
  induction requests generalizing p with
  | nil =>
    cases h
    rfl
  | cons e rest ih =>
    rw [requestAll] at h
    cases hr : p.request e with
    | error reason =>
      rw [hr] at h
      cases h
    | ok taken =>
      rw [hr] at h
      rw [requested_of_ok hr]
      exact ih h

end Requested

theorem requestsFor_cons (d : FilePath) (r : Emission) (rest : List Emission) :
    requestsFor d (r :: rest) =
      if r.destination = d then r.enumeration :: requestsFor d rest else requestsFor d rest := by
  by_cases h : r.destination = d <;> simp [requestsFor, h]

/-- A run of requests is recorded, and there is for each destination what the requests for it come to. -/
theorem exists_requestAll {p : Pending} (henabled : p.enabled = true) (hopen : p.flushed = false)
    (requests : List Emission) :
    ∃ p', p.requestAll requests = .ok p' ∧ ∀ d, p'.get? d = absorbed (p.get? d) (requestsFor d requests) := by
  induction requests generalizing p with
  | nil => exact ⟨p, rfl, fun d => rfl⟩
  | cons r rest ih =>
    obtain ⟨p', hp', hget⟩ := ih (p := { p with entries := add r.destination r.enumeration p.entries })
      henabled hopen
    refine ⟨p', ?_, fun d => ?_⟩
    · rw [requestAll, request_eq_ok henabled hopen]
      exact hp'
    · rw [hget, get?_add, requestsFor_cons]
      split <;> rfl

end Pending

namespace Enumeration

open Json (Apart Held SameValues firsts)

/-- An enumeration is what requests come to: it has the first values of all of them, the id of the first one, the type
of the last one, and of the rest what was stated last. -/
structure Gathers (requests : List Enumeration) (e : Enumeration) : Prop where
  id : (requests.head?).map (·.id) = some e.id
  values : e.values = firsts (requests.flatMap (·.values))
  valueType : (requests.getLast?).map (·.valueType) = some e.valueType
  title : e.title = ((requests.map (·.title)).filter (· ≠ "")).getLast?.getD ""
  names : e.names = (requests.filterMap (·.names)).getLast?
  descriptions : e.descriptions = (requests.filterMap (·.descriptions)).getLast?
  description : e.description = (requests.filterMap (·.description)).getLast?
  sourcePath : e.sourcePath = (requests.filterMap (·.sourcePath)).getLast?

theorem gathers_single {e : Enumeration} (h : Apart e.values) : Gathers [e] e where
  id := rfl
  values := by simp [firsts_of_apart h]
  valueType := rfl
  title := by
    by_cases ht : e.title = ""
    · simp [ht]
    · simp [ht]
  names := by cases hn : e.names <;> simp [hn]
  descriptions := by cases hn : e.descriptions <;> simp [hn]
  description := by cases hn : e.description <;> simp [hn]
  sourcePath := by cases hn : e.sourcePath <;> simp [hn]

/-- What the last of some stated values is, when one more may be stated. -/
theorem getLast?_filterMap_concat {α β : Type} (f : α → Option β) (xs : List α) (x : α) :
    ((xs ++ [x]).filterMap f).getLast? = (f x <|> (xs.filterMap f).getLast?) := by
  rw [List.filterMap_append, List.getLast?_append]
  cases hx : f x <;> simp [hx]

theorem Gathers.merge {requests : List Enumeration} {e f : Enumeration} (h : Gathers requests e) :
    Gathers (requests ++ [f]) (e.merge f) where
  id := by
    have hid := h.id
    cases requests with
    | nil => cases hid
    | cons r rest => exact hid
  values := by
    have hvalues : (e.merge f).values = mergeValues e.values f.values := rfl
    rw [hvalues, h.values, List.flatMap_append, firsts_append, List.flatMap_singleton]
  valueType := by simp [Enumeration.merge]
  title := by
    have htitle : (e.merge f).title = if f.title = "" then e.title else f.title := rfl
    rw [htitle, h.title, List.map_append, List.filter_append, List.getLast?_append]
    by_cases ht : f.title = "" <;> simp [ht]
  names := by
    rw [getLast?_filterMap_concat, ← h.names]
    rfl
  descriptions := by
    rw [getLast?_filterMap_concat, ← h.descriptions]
    rfl
  description := by
    rw [getLast?_filterMap_concat, ← h.description]
    rfl
  sourcePath := by
    rw [getLast?_filterMap_concat, ← h.sourcePath]
    rfl

/-- What is there after some requests is what they come to. -/
theorem exists_gathers {requests : List Enumeration} (h : ∀ e ∈ requests, Apart e.values) (hne : requests ≠ []) :
    ∃ e, absorbed none requests = some e ∧ Gathers requests e := by
  -- from the last request backwards, since what is there is merged with the request that comes after it
  induction requests using List.reverseRecOn with
  | nil => exact absurd rfl hne
  | append_singleton requests f ih =>
    have hsplit : absorbed none (requests ++ [f]) = absorb (absorbed none requests) f := List.foldl_append
    by_cases hrequests : requests = []
    · subst hrequests
      exact ⟨f, rfl, gathers_single (h f (by simp))⟩
    · obtain ⟨e, he, hg⟩ := ih (fun e he => h e (List.mem_append_left [f] he)) hrequests
      exact ⟨e.merge f, by rw [hsplit, he]; rfl, hg.merge⟩

theorem gathers_of_absorbed {requests : List Enumeration} {e : Enumeration} (h : ∀ e ∈ requests, Apart e.values)
    (he : absorbed none requests = some e) : Gathers requests e := by
  have hne : requests ≠ [] := by
    rintro rfl
    cases he
  obtain ⟨f, hf, hg⟩ := exists_gathers h hne
  obtain rfl : e = f := Option.some.inj (he.symm.trans hf)
  exact hg

theorem Gathers.apart {requests : List Enumeration} {e : Enumeration} (h : Gathers requests e) : Apart e.values := by
  rw [h.values]
  exact apart_firsts _

theorem Gathers.held {requests : List Enumeration} {e f : Enumeration} (h : Gathers requests e) (hf : f ∈ requests)
    {v : Document} (hv : v ∈ f.values) : Held v e.values := by
  rw [h.values]
  exact held_firsts (List.mem_flatMap.mpr ⟨f, hf, hv⟩)

/-- The same requests in another order come to the same values. -/
theorem Gathers.sameValues {requests others : List Enumeration} {e f : Enumeration} (h : Gathers requests e)
    (k : Gathers others f) (hperm : requests.Perm others) : SameValues e.values f.values := by
  rw [h.values, k.values]
  exact sameValues_firsts fun v => (hperm.flatMap_right _).mem_iff

end Enumeration

namespace Pending

open Enumeration (Gathers absorbed)
open Json (Apart Held SameValues)

theorem apart_requestsFor {requests : List Emission} (h : ∀ r ∈ requests, Apart r.enumeration.values)
    (d : FilePath) : ∀ e ∈ requestsFor d requests, Apart e.values := by
  intro e he
  obtain ⟨r, hr, rfl⟩ := List.mem_map.mp he
  exact h r (List.mem_of_mem_filter hr)

/-- After a run of requests there is for each destination what the requests for it come to. -/
theorem exists_gathered {requests : List Emission} (h : ∀ r ∈ requests, Apart r.enumeration.values) :
    ∃ p, requestAll { enabled := true } requests = .ok p ∧ ∀ d, p.get? d = absorbed none (requestsFor d requests) ∧
      (p.get? d = none ↔ requestsFor d requests = []) ∧
        ∀ e, p.get? d = some e → Gathers (requestsFor d requests) e := by
  obtain ⟨p, hp, hget⟩ := exists_requestAll (p := { enabled := true }) rfl rfl requests
  have hget' (d : FilePath) : p.get? d = absorbed none (requestsFor d requests) := hget d
  refine ⟨p, hp, fun d => ⟨hget' d, ⟨fun hnone => ?_, fun hnil => ?_⟩, fun e he => ?_⟩⟩
  · by_contra hne
    obtain ⟨e, he, _⟩ := Enumeration.exists_gathers (apart_requestsFor h d) hne
    rw [hget', he] at hnone
    cases hnone
  · rw [hget', hnil]
    rfl
  · rw [hget'] at he
    exact Enumeration.gathers_of_absorbed (apart_requestsFor h d) he

/-- After any run of requests there is for each destination what the requests for it come to, whatever is requested for
others: no value twice and none lost, and the same values in any order of the requests. -/
theorem requests_gathered {requests : List Emission} (h : ∀ r ∈ requests, Apart r.enumeration.values) :
    ∃ p, requestAll { enabled := true } requests = .ok p ∧
      (∀ d, p.get? d = none ↔ requestsFor d requests = []) ∧
      (∀ d e, p.get? d = some e → Gathers (requestsFor d requests) e ∧ Apart e.values ∧
        ∀ f ∈ requestsFor d requests, ∀ v ∈ f.values, Held v e.values) ∧
      (∀ others p', requestAll { enabled := true } others = .ok p' → ∀ d,
        requestsFor d others = requestsFor d requests → p'.get? d = p.get? d) ∧
      ∀ others, requests.Perm others → ∃ p', requestAll { enabled := true } others = .ok p' ∧
        ∀ d e, p.get? d = some e → ∃ e', p'.get? d = some e' ∧ SameValues e.values e'.values := by
  obtain ⟨p, hp, hgathered⟩ := exists_gathered h
  refine ⟨p, hp, fun d => (hgathered d).2.1, fun d e he => ?_, fun others p' hp' d hsame => ?_, fun others hperm => ?_⟩
  · have hg := (hgathered d).2.2 e he
    exact ⟨hg, hg.apart, fun f hf v hv => hg.held hf hv⟩
  · obtain ⟨q, hq, hgetq⟩ := exists_requestAll (p := { enabled := true }) rfl rfl others
    obtain rfl : p' = q := Except.ok.inj (hp'.symm.trans hq)
    rw [hgetq, (hgathered d).1, hsame]
    rfl
  · have hothers : ∀ r ∈ others, Apart r.enumeration.values := fun r hr => h r (hperm.mem_iff.mpr hr)
    obtain ⟨p', hp', hgathered'⟩ := exists_gathered hothers
    refine ⟨p', hp', fun d e he => ?_⟩
    have hfor : (requestsFor d requests).Perm (requestsFor d others) := (hperm.filter _).map _
    cases he' : p'.get? d with
    | none =>
      have hnil : requestsFor d requests = [] := ((hgathered' d).2.1.mp he' ▸ hfor).eq_nil
      rw [(hgathered d).2.1.mpr hnil] at he
      cases he
    | some e' => exact ⟨e', rfl, ((hgathered d).2.2 e he).sameValues ((hgathered' d).2.2 e' he') hfor⟩

/-- Where the countries of the example are written. -/
def countries : FilePath := ⟨.root, ["corpus", "core", "enums", "Country.json"]⟩

def countryId : ArtifactId := ⟨"core", [], "Country", .enumeration⟩

/-- Three requests for one destination with values that are the same in other spellings, and one for another
destination between them. -/
def countryRequests : List Emission :=
  [⟨countries,
      { id := countryId, title := "Countries", values := [.int 1, .str "FR"], names := some ["one", "France"] }⟩,
    ⟨⟨.relative, ["other.json"]⟩, { id := countryId, title := "Other", values := [.str "FR"] }⟩,
    ⟨countries,
      { id := ⟨"travel", [], "Land", .enumeration⟩, valueType := "integer", values := [.bool true, .str "DE"] }⟩,
    ⟨countries, { id := countryId, values := [.str "FR", .null], description := some "" }⟩]

theorem countryRequests_gathered : (∀ r ∈ countryRequests, Apart r.enumeration.values) ∧
    ∃ p, requestAll { enabled := true } countryRequests = .ok p ∧ ∃ e, p.get? countries = some e ∧
      Gathers (requestsFor countries countryRequests) e ∧ e.id = countryId ∧ e.title = "Countries" ∧
      e.valueType = "string" ∧ e.values = [.int 1, .str "FR", .str "DE", .null] ∧
      e.names = some ["one", "France"] ∧ e.description = some "" ∧ e.sourcePath = none ∧
      ∃ p', requestAll { enabled := true } countryRequests.reverse = .ok p' ∧
        ∃ e', p'.get? countries = some e' ∧ SameValues e.values e'.values := by
  have hapart : ∀ r ∈ countryRequests, Apart r.enumeration.values := by decide
  obtain ⟨p, hp, hnone, hgathers, _, hperm⟩ := requests_gathered hapart
  cases hget : p.get? countries with
  | none => exact absurd ((hnone countries).mp hget) (by simp [requestsFor, countryRequests])
  | some e =>
    obtain ⟨hg, _, _⟩ := hgathers countries e hget
    obtain ⟨p', hp', hsame⟩ := hperm _ (List.reverse_perm _).symm
    obtain ⟨e', he', hvalues⟩ := hsame countries e hget
    have hid := Option.some.inj hg.id
    have htype := Option.some.inj hg.valueType
    refine ⟨hapart, p, hp, e, hget, hg, hid.symm, ?_, htype.symm, ?_, ?_, ?_, ?_, p', hp', e', he', hvalues⟩
    · rw [hg.title]
      decide
    · rw [hg.values]
      decide
    · rw [hg.names]
      decide
    · rw [hg.description]
      decide
    · rw [hg.sourcePath]
      decide

end Pending

end NoteSchema
