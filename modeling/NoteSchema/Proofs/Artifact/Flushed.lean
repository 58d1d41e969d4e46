import NoteSchema.Artifact.Pending
import NoteSchema.Proofs.Artifact.Gathered
import NoteSchema.Proofs.File.Path
import NoteSchema.Proofs.File.Store
import NoteSchema.Proofs.Json.RoundTrip

namespace NoteSchema

namespace Writer

variable {σ : Type} {w : Writer σ} {base : String} {s : σ}

/-- Every write to a path goes well or is refused. -/
def Answers (w : Writer σ) (p : FilePath) : Prop :=
  ∀ s d, (w s p d).1 = .ok () ∨ ∃ problem, (w s p d).1 = .error (.storage problem)

/-- Writes made one after another, none of them left out for what became of another one. -/
def attempt (w : Writer σ) : σ → List (FilePath × Document) → List (FilePath × Except WriteFailure Unit) × σ
  | s, [] => ([], s)
  | s, (p, d) :: rest =>
    let (answer, s) := w s p d
    let (outcomes, s) := attempt w s rest
    ((p, answer) :: outcomes, s)

theorem attempt_nil (w : Writer σ) (s : σ) : w.attempt s [] = ([], s) := rfl

theorem attempt_cons (w : Writer σ) (s : σ) (m : FilePath × Document) (plan : List (FilePath × Document)) :
    w.attempt s (m :: plan) =
      ((m.1, (w s m.1 m.2).1) :: (w.attempt (w s m.1 m.2).2 plan).1, (w.attempt (w s m.1 m.2).2 plan).2) := rfl

/-- What kept a document from being written. -/
def problem? : Except WriteFailure Unit → Option StorageError
  | .error (.storage problem) => some problem
  | _ => none

def report (outcomes : List (FilePath × Except WriteFailure Unit)) : Released :=
  outcomes.map fun o => (o.1, problem? o.2)

/-- The writes that enumerations stand for. -/
def writesOf (base : String) (todo : List (FilePath × Enumeration)) : List (FilePath × Document) :=
  todo.map fun m => (m.1, m.2.toDocument base)

/-- Every write is answered for. -/
theorem map_fst_attempt (w : Writer σ) (s : σ) (plan : List (FilePath × Document)) :
    (w.attempt s plan).1.map (·.1) = plan.map (·.1) := by
  induction plan generalizing s with
  | nil => rfl
  | cons m plan ih => simp only [attempt_cons, List.map_cons, ih]

/-- A write depends on what it finds at its path, and leaves the other paths as they are. -/
structure Separate {α : Type} (w : Writer σ) (view : σ → FilePath → α) : Prop where
  answer : ∀ s s' p d, view s p = view s' p → (w s p d).1 = (w s' p d).1
  written : ∀ s s' p d, view s p = view s' p → view (w s p d).2 p = view (w s' p d).2 p
  others : ∀ s p d q, q ≠ p → view (w s p d).2 q = view s q

/-- What is found at one path, and whether its write fails for it, makes no difference to the others. -/
theorem attempt_apart {α : Type} {view : σ → FilePath → α} (h : w.Separate view) {s s' : σ} {odd : FilePath}
    (hview : ∀ p, p ≠ odd → view s p = view s' p) (plan : List (FilePath × Document)) :
    (w.attempt s plan).1.filter (fun o => decide (o.1 ≠ odd)) =
        (w.attempt s' plan).1.filter (fun o => decide (o.1 ≠ odd)) ∧
      ∀ p, p ≠ odd → view (w.attempt s plan).2 p = view (w.attempt s' plan).2 p := by
  induction plan generalizing s s' with
  | nil => exact ⟨rfl, hview⟩
  | cons m plan ih =>
    obtain ⟨p, d⟩ := m
    have hnext : ∀ q, q ≠ odd → view (w s p d).2 q = view (w s' p d).2 q := by
      intro q hq
      by_cases hqp : q = p
      · subst hqp
        exact h.written s s' q d (hview q hq)
      · rw [h.others s p d q hqp, h.others s' p d q hqp, hview q hq]
    obtain ⟨hanswers, hend⟩ := ih hnext
    refine ⟨?_, hend⟩
    by_cases hp : p = odd
    · simpa [attempt_cons, hp] using hanswers
    · simpa [attempt_cons, hp, h.answer s s' p d (hview p hp)] using hanswers

/-- Where no write fails for another reason than a refusal, all are made, and all are reported. -/
theorem release_eq {todo : List (FilePath × Enumeration)} (h : ∀ m ∈ todo, w.Answers m.1) :
    release w base s todo =
      (.ok (report (w.attempt s (writesOf base todo)).1), (w.attempt s (writesOf base todo)).2) := by
  induction todo generalizing s with
  | nil => rfl
  | cons m rest ih =>
    obtain ⟨destination, e⟩ := m
    obtain ⟨hfirst, hrest⟩ := List.forall_mem_cons.mp h
    have hanswer := hfirst s (e.toDocument base)
    cases hw : w s destination (e.toDocument base) with
    | mk answer s' =>
      rw [hw] at hanswer
      have hgo := ih (s := s') hrest
      rcases hanswer with rfl | ⟨problem, rfl⟩
      · simp only [release, hw, hgo, writesOf, List.map_cons, attempt]
        rfl
      · simp only [release, hw, hgo, writesOf, List.map_cons, attempt]
        rfl

/-- A store refuses what it cannot write, as long as a path can name a file. -/
theorem store_answers {p : FilePath} (h : p.hasNul = false) : Answers Store.writeDocument p := by
  intro s d
  have hparent : p.parent.hasNul = false := Store.hasNul_parent h
  simp only [Store.writeDocument, Store.write, h, hparent, Bool.false_eq_true, if_false]
  split
  next => exact .inr ⟨_, rfl⟩
  next =>
    split
    next => exact .inr ⟨_, rfl⟩
    next =>
      split
      next hcheck =>
        right
        unfold Check.json at hcheck
        split at hcheck
        next => cases hcheck
        next =>
          cases hcheck
          exact ⟨_, rfl⟩
      next =>
        split
        next => exact .inr ⟨_, rfl⟩
        next => exact .inl rfl

end Writer

namespace Pending

open Enumeration (Gathers absorbed)

/-- One thing that is asked of the requests of a run. -/
inductive Call
  | request (r : Emission)
  | flush

/-- What a call is answered: whether a request was recorded, what became of the enumerations, or why neither is so. -/
inductive Answer
  | recorded (taken : Bool)
  | released (outcome : Released)
  | closed (reason : Closed)
  | failed (e : WriteFailure)

def Answer.released? : Answer → Option Released
  | .released outcome => some outcome
  | _ => none

def Answer.isReleased (answer : Answer) : Bool := answer.released?.isSome

section Calls

variable {σ : Type} {w : Writer σ} {base : String} {p : Pending} {s : σ}

def call (w : Writer σ) (base : String) : Pending × σ → Call → Answer × Pending × σ
  | (p, s), .request r =>
    match p.request r with
    | .ok (taken, p) => (.recorded taken, p, s)
    | .error reason => (.closed reason, p, s)
  | (p, s), .flush =>
    match p.flush with
    | .error reason => (.closed reason, p, s)
    | .ok (todo, p) =>
      match w.release base s todo with
      | (.ok outcome, s) => (.released outcome, p, s)
      | (.error e, s) => (.failed e, p, s)

/-- Calls answered one after another. -/
def callAll (w : Writer σ) (base : String) : Pending × σ → List Call → List Answer × Pending × σ
  | state, [] => ([], state)
  | state, c :: calls =>
    let (answer, state) := call w base state c
    let (answers, state) := callAll w base state calls
    (answer :: answers, state)

theorem callAll_append (state : Pending × σ) (before after : List Call) :
    callAll w base state (before ++ after) =
      ((callAll w base state before).1 ++ (callAll w base (callAll w base state before).2 after).1,
        (callAll w base (callAll w base state before).2 after).2) := by
  induction before generalizing state with
  | nil => rfl
  | cons c before ih => simp only [List.cons_append, callAll, ih]

/-- A flush that returns closes the requests, and none does once they are closed. -/
theorem flushed_of_released {state : Pending × σ} {c : Call} (h : (call w base state c).1.isReleased = true) :
    state.1.flushed = false ∧ (call w base state c).2.1.flushed = true := by
  obtain ⟨p, s⟩ := state
  cases c with
  | request r =>
    cases hr : p.request r with
    | ok taken =>
      simp only [call, hr] at h
      cases h
    | error reason =>
      simp only [call, hr] at h
      cases h
  | flush =>
    cases hf : p.flushed with
    | true =>
      simp only [call, flush, hf, if_true] at h
      cases h
    | false =>
      refine ⟨rfl, ?_⟩
      simp only [call, flush, hf, Bool.false_eq_true, if_false]
      split <;> rfl

/-- Requests that are closed are never opened again. -/
theorem call_flushed {state : Pending × σ} (h : state.1.flushed = true) (c : Call) :
    (call w base state c).2.1.flushed = true := by
  obtain ⟨p, s⟩ := state
  change p.flushed = true at h
  cases c with
  | request r =>
    cases he : p.enabled with
    | true => simp [call, request, he, h]
    | false => simp [call, request, he, h]
  | flush => simp only [call, flush, h, if_true]

/-- At most one flush returns. -/
theorem countP_released_le (state : Pending × σ) (calls : List Call) :
    (callAll w base state calls).1.countP Answer.isReleased ≤ if state.1.flushed then 0 else 1 := by
  induction calls generalizing state with
  | nil => exact Nat.zero_le _
  | cons c calls ih =>
    have hrest := ih (call w base state c).2
    rw [callAll, List.countP_cons]
    cases hreleased : (call w base state c).1.isReleased with
    | true =>
      obtain ⟨hopen, hclosed⟩ := flushed_of_released hreleased
      rw [hclosed, if_pos rfl] at hrest
      rw [hopen]
      simpa using hrest
    | false =>
      cases hf : state.1.flushed with
      | true =>
        rw [call_flushed hf] at hrest
        simpa using hrest
      | false =>
        refine Nat.le_trans (by simpa using hrest) ?_
        split <;> simp

/-- As long as requests are taken, each is recorded and nothing is written. -/
theorem callAll_requests (w : Writer σ) (base : String) (s : σ) (henabled : p.enabled = true)
    (hopen : p.flushed = false) (requests : List Emission) :
    ∃ p', p.requestAll requests = .ok p' ∧ callAll w base (p, s) (requests.map .request) =
      (requests.map fun _ => .recorded true, p', s) := by
  induction requests generalizing p with
  | nil => exact ⟨p, rfl, rfl⟩
  | cons r rest ih =>
    have hone := request_eq_ok (r := r) henabled hopen
    obtain ⟨p', hp', hrest⟩ :=
      ih (p := { p with entries := add r.destination r.enumeration p.entries }) henabled hopen
    refine ⟨p', ?_, ?_⟩
    · rw [requestAll, hone]
      exact hp'
    · simp only [List.map_cons, callAll, call, hone, hrest]

/-- Once the enumerations have been released, every call is turned away and changes nothing. -/
theorem callAll_closed (w : Writer σ) (base : String) (s : σ) (henabled : p.enabled = true) (hclosed : p.flushed = true)
    (calls : List Call) :
    callAll w base (p, s) calls = (calls.map fun _ => .closed .closed, p, s) := by
  induction calls with
  | nil => rfl
  | cons c calls ih =>
    have hone : call w base (p, s) c = (.closed .closed, p, s) := by
      cases c with
      | request r => simp [call, request, henabled, hclosed]
      | flush => simp [call, flush, hclosed]
    simp only [callAll, hone, ih, List.map_cons]

/-- Where no enumerations are to be written, no request is recorded, and a flush has nothing to write. -/
theorem call_disabled (w : Writer σ) (base : String) (s : σ) (hdisabled : p.enabled = false)
    (hnone : p.entries = []) (c : Call) :
    ∃ answer p', call w base (p, s) c = (answer, p', s) ∧ p'.enabled = false ∧ p'.entries = [] ∧
      match c with
      | .request _ => answer = .recorded false ∧ p' = p
      | .flush => p'.flushed = true ∧ answer = if p.flushed then .closed .closed else .released [] := by
  cases c with
  | request r => exact ⟨.recorded false, p, by simp [call, request, hdisabled], hdisabled, hnone, rfl, rfl⟩
  | flush =>
    cases hf : p.flushed with
    | true => exact ⟨.closed .closed, p, by simp [call, flush, hf], hdisabled, hnone, hf, by simp⟩
    | false =>
      exact ⟨.released [], { p with flushed := true }, by simp [call, flush, hf, hdisabled, Writer.release], hdisabled,
        hnone, rfl, by simp⟩

/-- Where no enumerations are to be written, no request is recorded and no call writes anything. -/
theorem callAll_disabled (hdisabled : p.enabled = false) (hnone : p.entries = []) (calls : List Call) :
    ∃ p', (callAll w base (p, s) calls).2 = (p', s) ∧ p'.entries = [] ∧
      List.Forall₂ (fun c answer => match c with
        | .request _ => answer = .recorded false
        | .flush => answer = .released [] ∨ answer = .closed .closed) calls (callAll w base (p, s) calls).1 := by
  induction calls generalizing p with
  | nil => exact ⟨p, rfl, hnone, .nil⟩
  | cons c calls ih =>
    obtain ⟨answer, p', hcall, hdisabled', hnone', hanswer⟩ := call_disabled w base s hdisabled hnone c
    obtain ⟨p'', hstate, hnone'', hanswers⟩ := ih hdisabled' hnone'
    simp only [callAll, hcall]
    refine ⟨p'', hstate, hnone'', .cons ?_ hanswers⟩
    cases c with
    | request r => exact hanswer.1
    | flush =>
      cases hf : p.flushed with
      | true => exact .inr (by simpa [hf] using hanswer.2)
      | false => exact .inl (by simpa [hf] using hanswer.2)

end Calls

/-- The writes that requests come to: one for each destination that was asked for, in the order of paths, of the
document of the enumeration that all requests for it are merged into. This gathers what they state, where no request
has a value twice itself. -/
structure Plan (base : String) (requests : List Emission) (plan : List (FilePath × Document)) : Prop where
  destinations : ∀ d, d ∈ plan.map (·.1) ↔ ∃ r ∈ requests, r.destination = d
  once : (plan.map (·.1)).Nodup
  inOrder : plan.Pairwise fun a b => a.1.le b.1 = true
  merged : ∀ m ∈ plan, ∃ e, absorbed none (requestsFor m.1 requests) = some e ∧ m.2 = e.toDocument base ∧
    ((∀ r ∈ requestsFor m.1 requests, Json.Apart r.values) → Gathers (requestsFor m.1 requests) e)

theorem requestsFor_eq_nil_iff {d : FilePath} {requests : List Emission} :
    requestsFor d requests = [] ↔ ¬ ∃ r ∈ requests, r.destination = d := by
  rw [requestsFor, List.map_eq_nil_iff, List.filter_eq_nil_iff]
  simp

theorem absorbed_eq_none_iff {requests : List Enumeration} : absorbed none requests = none ↔ requests = [] := by
  have hkept (e : Enumeration) (rest : List Enumeration) : (absorbed (some e) rest).isSome = true := by
    induction rest generalizing e with
    | nil => rfl
    | cons f rest ih => exact ih (e.merge f)
  cases requests with
  | nil => exact ⟨fun _ => rfl, fun _ => rfl⟩
  | cons e rest =>
    refine ⟨fun h => ?_, nofun⟩
    have hsome := hkept e rest
    change absorbed (some e) rest = none at h
    rw [h] at hsome
    cases hsome

theorem find?_eq_none_iff {d : FilePath} {entries : List (FilePath × Enumeration)} :
    find? d entries = none ↔ d ∉ entries.map (·.1) := by
  induction entries with
  | nil => simp [find?]
  | cons m rest ih =>
    obtain ⟨k, e⟩ := m
    by_cases hk : k = d
    · simp [find?, hk]
    · simp [find?, hk, ih, Ne.symm hk]

theorem find?_of_mem {m : FilePath × Enumeration} {entries : List (FilePath × Enumeration)}
    (hnodup : (entries.map (·.1)).Nodup) (h : m ∈ entries) : find? m.1 entries = some m.2 := by
  induction entries with
  | nil => cases h
  | cons n rest ih =>
    obtain ⟨k, e⟩ := n
    obtain ⟨hfresh, hrest⟩ := List.nodup_cons.mp hnodup
    rcases List.mem_cons.mp h with rfl | hmem
    · simp [find?]
    · have hne : k ≠ m.1 := by
        rintro rfl
        exact hfresh (List.mem_map.mpr ⟨m, hmem, rfl⟩)
      rw [find?, if_neg hne]
      exact ih hrest hmem

theorem takes_requestAll {p p' : Pending} {requests : List Emission} (h : p.requestAll requests = .ok p') :
    p.Takes requests p' :=
  requested_of_requestAll h ▸ takes_requested p requests

/-- What is pending after a run of requests makes the plan for them. -/
theorem plan_of_requestAll (base : String) {p : Pending} {requests : List Emission}
    (h : requestAll { enabled := true } requests = .ok p) : Plan base requests (Writer.writesOf base p.inOrder) := by
  have hnodup : (p.entries.map (·.1)).Nodup := (takes_requestAll h).nodup List.nodup_nil
  have hget (d : FilePath) : find? d p.entries = absorbed none (requestsFor d requests) := by
    obtain ⟨q, hq, hget⟩ := exists_requestAll (p := { enabled := true }) rfl rfl requests
    obtain rfl : p = q := Except.ok.inj (h.symm.trans hq)
    exact hget d
  have hperm : p.inOrder.Perm p.entries := List.mergeSort_perm _ _
  have hfst : (Writer.writesOf base p.inOrder).map (·.1) = p.inOrder.map (·.1) := by
    rw [Writer.writesOf, List.map_map]
    rfl
  constructor
  · intro d
    rw [hfst, (hperm.map _).mem_iff, ← not_iff_not, ← find?_eq_none_iff, hget, absorbed_eq_none_iff,
      requestsFor_eq_nil_iff]
  · rw [hfst]
    exact (hperm.map _).nodup_iff.mpr hnodup
  · exact List.pairwise_map.mpr (FilePath.pairwise_mergeSort_le (·.1) p.entries)
  · intro m hm
    obtain ⟨n, hn, rfl⟩ := List.mem_map.mp hm
    have hmem : n ∈ p.entries := hperm.mem_iff.mp hn
    have habsorbed : absorbed none (requestsFor n.1 requests) = some n.2 :=
      (hget n.1).symm.trans (find?_of_mem hnodup hmem)
    exact ⟨n.2, habsorbed, rfl, fun hapart => Enumeration.gathers_of_absorbed hapart habsorbed⟩

/-- What is asked for until the first flush. -/
def opening : List Call → List Emission
  | .request r :: calls => r :: opening calls
  | _ => []

theorem opening_cases (calls : List Call) :
    calls = (opening calls).map .request ∨ ∃ after, calls = (opening calls).map .request ++ .flush :: after := by
  induction calls with
  | nil => exact .inl rfl
  | cons c calls ih =>
    cases c with
    | flush => exact .inr ⟨calls, rfl⟩
    | request r =>
      rcases ih with ih | ⟨after, ih⟩
      · exact .inl (congrArg (Call.request r :: ·) ih)
      · exact .inr ⟨after, congrArg (Call.request r :: ·) ih⟩

/-- Requests and flushes may follow one another in any way. At most one flush returns. If enumerations are to be
written, the requests before it are recorded and nothing is written for them; it makes one write for each destination
that was asked for, the same ones whatever the writer does with any of them, and reports what became of each; and every
call after it is turned away and changes neither what is pending nor what is written. What is found at one destination
makes no difference to the others as long as it makes none to the writer there. If no enumerations are to be written,
no request is recorded and nothing is ever written. -/
theorem enumerations_released_once (base : String) (calls : List Call) :
    ∃ plan, Plan base (opening calls) plan ∧ ∀ (σ : Type) (w : Writer σ) (s : σ), (∀ m ∈ plan, w.Answers m.1) →
      (∀ enabled, (callAll w base ({ enabled }, s) calls).1.countP Answer.isReleased ≤ 1) ∧
      (∀ (α : Type) (view : σ → FilePath → α) (s' : σ) (odd : FilePath), w.Separate view →
        (∀ d, d ≠ odd → view s d = view s' d) → ∀ d, d ≠ odd →
          (∀ answer, (d, answer) ∈ (w.attempt s plan).1 ↔ (d, answer) ∈ (w.attempt s' plan).1) ∧
            view (w.attempt s plan).2 d = view (w.attempt s' plan).2 d) ∧
      (∃ p, callAll w base ({ enabled := true }, s) ((opening calls).map .request) =
          ((opening calls).map fun _ => .recorded true, p, s) ∧
        (calls = (opening calls).map .request ∨
          ∃ after, calls = (opening calls).map .request ++ .flush :: after ∧
            callAll w base ({ enabled := true }, s) calls =
              (((opening calls).map fun _ => .recorded true) ++
                  .released (Writer.report (w.attempt s plan).1) :: after.map fun _ => .closed .closed,
                { p with flushed := true }, (w.attempt s plan).2) ∧
            (Writer.report (w.attempt s plan).1).map (·.1) = plan.map (·.1))) ∧
      ∃ p, (callAll w base ({ enabled := false }, s) calls).2 = (p, s) ∧ p.entries = [] ∧
        List.Forall₂ (fun c answer => match c with
          | .request _ => answer = .recorded false
          | .flush => answer = .released [] ∨ answer = .closed .closed)
          calls (callAll w base ({ enabled := false }, s) calls).1 := by
  obtain ⟨p, hp, _⟩ := exists_requestAll (p := { enabled := true }) rfl rfl (opening calls)
  refine ⟨Writer.writesOf base p.inOrder, plan_of_requestAll base hp, fun σ w s hw => ⟨?_, ?_, ?_, ?_⟩⟩
  · intro enabled
    exact countP_released_le ({ enabled }, s) calls
  · intro α view s' odd hseparate hview d hd
    obtain ⟨hanswers, hend⟩ := Writer.attempt_apart hseparate hview (Writer.writesOf base p.inOrder)
    refine ⟨fun answer => ?_, hend d hd⟩
    have hmem := congrArg ((d, answer) ∈ ·) hanswers
    simpa [hd] using hmem
  · obtain ⟨q, hq, hrequests⟩ := callAll_requests (p := { enabled := true }) w base s rfl rfl (opening calls)
    obtain rfl : p = q := Except.ok.inj (hp.symm.trans hq)
    refine ⟨p, hrequests, (opening_cases calls).imp id ?_⟩
    rintro ⟨after, hcalls⟩
    have htakes := takes_requestAll hp
    have hanswers : ∀ m ∈ p.inOrder, w.Answers m.1 := fun m hm => hw _ (List.mem_map.mpr ⟨m, hm, rfl⟩)
    have hflush : call w base (p, s) .flush =
        (.released (Writer.report (w.attempt s (Writer.writesOf base p.inOrder)).1), { p with flushed := true },
          (w.attempt s (Writer.writesOf base p.inOrder)).2) := by
      simp [call, flush, htakes.enabled, htakes.flushed, Writer.release_eq hanswers]
    have hafter := callAll_closed (p := { p with flushed := true }) w base
      (w.attempt s (Writer.writesOf base p.inOrder)).2 htakes.enabled rfl after
    refine ⟨after, hcalls, ?_, ?_⟩
    · generalize opening calls = requests at hcalls hrequests
      subst hcalls
      simp only [callAll_append, hrequests, callAll, hflush, hafter]
    · rw [Writer.report, List.map_map]
      exact Writer.map_fst_attempt w s _
  · exact callAll_disabled rfl rfl calls

/-- A file that keeps the countries of the example from being written. -/
def blockedStore : Store where
  tree := ⟨[], [(["corpus"], .file [])]⟩
  stamps := ["1", "2"]

/-- The requests of the example, a flush, and what comes too late. -/
def countryCalls : List Call :=
  countryRequests.map .request ++ [.flush, .request ⟨countries, { id := countryId }⟩, .flush]

/-- Where the requests of the example that are not for countries are to be written. -/
def others : FilePath := ⟨.relative, ["other.json"]⟩

theorem plan_countries {base : String} {plan : List (FilePath × Document)} (h : Plan base countryRequests plan) :
    plan.map (·.1) = [countries, others] := by
  have hsame (d : FilePath) : d ∈ plan.map (·.1) ↔ d ∈ [countries, others] := by
    rw [h.destinations]
    simp only [countryRequests, List.mem_cons, List.not_mem_nil, or_false, exists_eq_or_imp, exists_eq_left]
    rw [eq_comm (b := d)]
    grind [others]
  have hperm : (plan.map (·.1)).Perm [countries, others] :=
    (List.perm_ext_iff_of_nodup h.once (by decide)).mpr hsame
  have hsorted : (plan.map (·.1)).Pairwise fun a b => a.le b = true := List.pairwise_map.mpr h.inOrder
  have hanti : ∀ a b, a ∈ plan.map (·.1) → b ∈ [countries, others] → a.le b = true → b.le a = true → a = b := by
    intro a b ha
    have hcases : ∀ a ∈ [countries, others], ∀ b ∈ [countries, others], a.le b = true → b.le a = true → a = b := by
      decide
    exact hcases a ((hsame a).mp ha) b
  exact hperm.eq_of_pairwise hanti hsorted (by decide)

theorem countryCalls_released : ∃ plan, Plan "https://example.org/" countryRequests plan ∧
    plan.map (·.1) = [countries, others] ∧ (∀ m ∈ plan, Writer.Answers Store.writeDocument m.1) ∧
    (∀ m ∈ plan, ∃ e, Gathers (requestsFor m.1 countryRequests) e ∧ m.2 = e.toDocument "https://example.org/") ∧
    ∃ (outcome : Released) (p : Pending),
      callAll Store.writeDocument "https://example.org/" ({ enabled := true }, blockedStore) countryCalls =
        ((countryRequests.map fun _ => .recorded true) ++ [.released outcome, .closed .closed, .closed .closed],
          { p with flushed := true }, (Writer.attempt Store.writeDocument blockedStore plan).2) ∧
      outcome.map (fun o => (o.1, o.2.isSome)) = [(countries, true), (others, false)] := by
  obtain ⟨plan, hplan, hruns⟩ := enumerations_released_once "https://example.org/" countryCalls
  have hopening : opening countryCalls = countryRequests := rfl
  rw [hopening] at hplan
  have hpaths := plan_countries hplan
  have hanswers : ∀ m ∈ plan, Writer.Answers Store.writeDocument m.1 := by
    intro m hm
    have hmem : m.1 ∈ [countries, others] := hpaths ▸ List.mem_map_of_mem hm
    have hplain : ∀ d ∈ [countries, others], d.hasNul = false := by decide
    exact Writer.store_answers (hplain m.1 hmem)
  obtain ⟨_, _, ⟨p, _, hnone | ⟨after, hafter, hall, _⟩⟩, _⟩ :=
    hruns Store Store.writeDocument blockedStore hanswers
  · exact absurd (congrArg List.length hnone) (by decide)
  · rw [hopening] at hafter hall
    obtain rfl : after = [.request ⟨countries, { id := countryId }⟩, .flush] := by
      have htail := List.append_cancel_left hafter
      injection htail with _ htail
      exact htail.symm
    have hapart : ∀ r ∈ countryRequests, Json.Apart r.enumeration.values := by decide
    have hgathered : ∀ m ∈ plan, ∃ e, Gathers (requestsFor m.1 countryRequests) e ∧
        m.2 = e.toDocument "https://example.org/" := fun m hm => by
      obtain ⟨e, _, hdocument, hgathers⟩ := hplan.merged m hm
      exact ⟨e, hgathers (apart_requestsFor hapart m.1), hdocument⟩
    refine ⟨plan, hplan, hpaths, hanswers, hgathered, _, p, hall, ?_⟩
    obtain ⟨m, rest, rfl, hm, hrest⟩ := List.map_eq_cons_iff.mp hpaths
    obtain ⟨n, _, rfl, hn, hnil⟩ := List.map_eq_cons_iff.mp hrest
    obtain rfl := List.map_eq_nil_iff.mp hnil
    obtain ⟨e, he, hdocument, _⟩ := hplan.merged n (by simp)
    obtain ⟨_, d⟩ := m
    obtain ⟨_, d'⟩ := n
    subst hm hn hdocument
    obtain rfl := Option.some.inj he
    -- the first write stops at the file in its way, whatever its document is
    have hfirst : Store.writeDocument blockedStore countries d =
        (Store.writeDocument blockedStore countries .null) := by
      obtain ⟨r, t, hfolders⟩ : ∃ r t, blockedStore.tree.makeFolders countries.parent = (.error r, t) := ⟨_, _, rfl⟩
      simp only [Store.writeDocument, Store.write, hfolders]
    -- the second one need not be read again
    have hsecond (s : Store) : Store.writeDocument s others
        (Enumeration.toDocument { id := countryId, title := "Other", values := [.str "FR"] } "https://example.org/") = _ :=
      Store.write_of_check (Check.json_text (by decide) (by decide)) s others
    rw [Writer.attempt_cons, hfirst, Writer.attempt_cons, Writer.attempt_nil, hsecond]
    dsimp only
    decide

end Pending

end NoteSchema
