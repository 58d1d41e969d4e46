import NoteSchema.Command.Compile
import NoteSchema.Proofs.Artifact.Gathered
import NoteSchema.Proofs.Schema.Shared

namespace NoteSchema

/-- A run with one more unit in its report. -/
def Run.add (r : Run) (i : Report.Item) : Run := { r with report := r.report.add i }

namespace Work

variable {α β : Type} {r r' : Run}

theorem bind_of_ok {x : Work α} {a : α} (f : α → Work β) (h : x r = .ok a r') : (x >>= f) r = f a r' := by
  simp only [bind, EStateM.bind, h]

theorem bind_of_error {x : Work α} {a : Abort} (f : α → Work β) (h : x r = .error a r') :
    (x >>= f) r = .error a r' := by
  simp only [bind, EStateM.bind, h]

theorem get_eq (r : Run) : (get : Work Run) r = .ok r r := rfl

theorem tree_eq (r : Run) : tree r = .ok r.store.tree r := rfl

theorem orFault_ok (a : α) (r : Run) : orFault (.ok a) r = .ok a r := rfl

theorem write_of_ok {check : Check} {p : FilePath} {content : String} {store : Store}
    (h : r.store.write check p content = (.ok (), store)) : write check p content r = .ok none { r with store } := by
  simp only [write, bind, EStateM.bind, Work.get_eq, h]
  rfl

theorem write_of_storage {check : Check} {p : FilePath} {content : String} {store : Store} {e : StorageError}
    (h : r.store.write check p content = (.error (.storage e), store)) :
    write check p content r = .ok (some e) { r with store } := by
  simp only [write, bind, EStateM.bind, Work.get_eq, h]
  rfl

theorem write_of_error {check : Check} {p : FilePath} {content : String} {store : Store} {e : WriteFailure}
    (h : r.store.write check p content = (.error e, store)) (hother : ∀ problem, e ≠ .storage problem) :
    write check p content r = .error (.ofWrite e) { r with store } := by
  simp only [write, bind, EStateM.bind, Work.get_eq, h]
  cases e with
  | storage problem => exact absurd rfl (hother problem)
  | unreadable e => rfl
  | fault f => rfl

theorem forM_cons_of_ok {f : α → Work Unit} {a : α} {as : List α} (h : f a r = .ok () r') :
    (a :: as).forM f r = as.forM f r' :=
  bind_of_ok _ h

theorem forM_cons_of_error {f : α → Work Unit} {a : α} {as : List α} {e : Abort} (h : f a r = .error e r') :
    (a :: as).forM f r = .error e r' :=
  bind_of_error _ h

theorem forM_append_of_ok {f : α → Work Unit} {as : List α} (bs : List α) (h : as.forM f r = .ok () r') :
    (as ++ bs).forM f r = bs.forM f r' := by
  induction as generalizing r with
  | nil =>
    cases h
    rfl
  | cons a as ih =>
    cases hf : f a r with
    | ok _ r₁ =>
      rw [forM_cons_of_ok hf] at h
      rw [List.cons_append, forM_cons_of_ok hf, ih h]
    | error e r₁ =>
      rw [forM_cons_of_error hf] at h
      cases h

/-- How far a run has come when some work ends, early or not. -/
def reached : EStateM.Result Abort Run α → Run
  | .ok _ r => r
  | .error _ r => r

def finished : EStateM.Result Abort Run α → Bool
  | .ok _ _ => true
  | .error _ _ => false

/-- What each piece of work keeps, all of them keep, also if one ends early. -/
theorem reached_forM {P : Run → Prop} {f : α → Work Unit} {as : List α}
    (hstep : ∀ a ∈ as, ∀ r, P r → P (reached (f a r))) (h : P r) : P (reached (as.forM f r)) := by
  induction as generalizing r with
  | nil => exact h
  | cons a as ih =>
    have hfirst := hstep a List.mem_cons_self r h
    cases hf : f a r with
    | ok _ r' =>
      rw [hf] at hfirst
      rw [forM_cons_of_ok hf]
      exact ih (fun b hb => hstep b (List.mem_cons_of_mem a hb)) hfirst
    | error e r' =>
      rw [hf] at hfirst
      rw [forM_cons_of_error hf]
      exact hfirst

/-- What each piece of work that goes through keeps, all of them keep. -/
theorem forM_keeps {P : Run → Prop} {f : α → Work Unit} {as : List α}
    (hstep : ∀ a ∈ as, ∀ r r', P r → f a r = .ok () r' → P r') (h : P r) (hok : as.forM f r = .ok () r') : P r' := by
  induction as generalizing r with
  | nil =>
    cases hok
    exact h
  | cons a as ih =>
    cases hf : f a r with
    | ok _ r₁ =>
      rw [forM_cons_of_ok hf] at hok
      exact ih (fun b hb => hstep b (List.mem_cons_of_mem a hb)) (hstep a List.mem_cons_self r r₁ h hf) hok
    | error e r₁ =>
      rw [forM_cons_of_error hf] at hok
      cases hok

/-- Pieces of work that each go through and report some units go through together, and report the units of each. -/
theorem forM_reports {P : Run → Prop} {Q : α → List Report.Item → Prop} {f : α → Work Unit} {as : List α}
    (hstep : ∀ a ∈ as, ∀ r, P r → ∃ r' items, f a r = .ok () r' ∧ P r' ∧
      r'.report.results = r.report.results ++ items ∧ Q a items) (h : P r) :
    ∃ r' parts, as.forM f r = .ok () r' ∧ P r' ∧ r'.report.results = r.report.results ++ parts.flatten ∧
      List.Forall₂ Q as parts := by
  induction as generalizing r with
  | nil => exact ⟨r, [], rfl, h, by simp, .nil⟩
  | cons a as ih =>
    obtain ⟨r₁, items, hf, h₁, hitems, hq⟩ := hstep a List.mem_cons_self r h
    obtain ⟨r₂, parts, hrest, h₂, hparts, hall⟩ := ih (fun b hb => hstep b (List.mem_cons_of_mem a hb)) h₁
    refine ⟨r₂, items :: parts, ?_, h₂, ?_, .cons hq hall⟩
    · rw [forM_cons_of_ok hf, hrest]
    · rw [hparts, hitems, List.flatten_cons, List.append_assoc]

end Work

namespace Store

/-- How enumerations are written where nothing breaks this off: one after another, each of them written or refused. -/
inductive Releases (base : String) : Store → List (FilePath × Enumeration) → Released → Store → Prop
  | nil (s : Store) : Releases base s [] [] s
  | wrote {s s₁ s' : Store} {destination : FilePath} {e : Enumeration} {rest : List (FilePath × Enumeration)}
      {released : Released} (hw : s.writeDocument destination (e.toDocument base) = (.ok (), s₁))
      (h : Releases base s₁ rest released s') :
    Releases base s ((destination, e) :: rest) ((destination, none) :: released) s'
  | refused {s s₁ s' : Store} {destination : FilePath} {e : Enumeration} {rest : List (FilePath × Enumeration)}
      {released : Released} {problem : StorageError}
      (hw : s.writeDocument destination (e.toDocument base) = (.error (.storage problem), s₁))
      (h : Releases base s₁ rest released s') :
    Releases base s ((destination, e) :: rest) ((destination, some problem) :: released) s'

theorem releases_of_ok {base : String} {s s' : Store} {todo : List (FilePath × Enumeration)} {released : Released}
    (hw : s.writeEnumerations base todo = (.ok released, s')) : Releases base s todo released s' := by
  induction todo generalizing s released with
  | nil =>
    cases hw
    exact .nil _
  | cons m rest ih =>
    obtain ⟨destination, e⟩ := m
    obtain ⟨⟨first, s₁⟩, hfirst⟩ : ∃ x, s.writeDocument destination (e.toDocument base) = x := ⟨_, rfl⟩
    obtain ⟨⟨others, s₂⟩, hothers⟩ : ∃ x, Writer.release writeDocument base s₁ rest = x := ⟨_, rfl⟩
    rw [writeEnumerations, Writer.release, hfirst] at hw
    cases first with
    | ok done =>
      simp only [hothers] at hw
      cases others with
      | error e => cases hw
      | ok others =>
        cases hw
        exact .wrote hfirst (ih hothers)
    | error failure =>
      cases failure with
      | storage problem =>
        simp only [hothers] at hw
        cases others with
        | error e => cases hw
        | ok others =>
          cases hw
          exact .refused hfirst (ih hothers)
      | unreadable e => cases hw
      | fault f => cases hw

end Store

namespace Command.Compile

open Hint (Block Note)
open Schema (Compiled Setup)

variable {s : Settings} {l : Layout} {p : FilePath} {here : Location} {n : Note} {r : Run}

/-- What a note is called in a report. -/
def unitOf (l : Layout) (p : FilePath) (n : Note) : String := l.display p ++ "#" ++ n.owner

/-- A note comes to a compiled class, with some problems found while it was read. -/
def Yields (s : Settings) (l : Layout) (here : Location) (n : Note) (found : List Diagnostic) (c : Compiled) : Prop :=
  ∃ block, Block.ofNote s.strictness n = .ok (block, found) ∧ Schema.compile (Setup.ofSettings s l) here block = .ok c

theorem Yields.unique {found found' : List Diagnostic} {c c' : Compiled} (h : Yields s l here n found c)
    (h' : Yields s l here n found' c') : found' = found ∧ c' = c := by
  obtain ⟨b, hread, hcompile⟩ := h
  obtain ⟨b', hread', hcompile'⟩ := h'
  rw [hread] at hread'
  cases hread'
  rw [hcompile] at hcompile'
  exact ⟨rfl, (Except.ok.inj hcompile').symm⟩

/-- The unit that reports a class whose schema has been written. -/
def classItem (l : Layout) (p : FilePath) (n : Note) (found : List Diagnostic) (c : Compiled) : Report.Item :=
  let diagnostics := found ++ c.diagnostics
  let name := l.display (l.artifactPath c.schema.id)
  if diagnostics.any (·.isError) then ⟨.fail, name, unitOf l p n, diagnostics⟩ else ⟨.wrote, name, "", diagnostics⟩

/-- What the turn of a note can come to. -/
inductive NoteTurn (s : Settings) (l : Layout) (p : FilePath) (here : Location) (n : Note) (r : Run) :
    EStateM.Result Abort Run Unit → Prop
  /-- There is no block in it. -/
  | unmarked {e} (hread : Block.ofNote s.strictness n = .error e) (hfault : ∀ f, e ≠ .fault f) :
    NoteTurn s l p here n r (.ok () (r.add ⟨.fail, unitOf l p n, e.message?.getD "", []⟩))
  | unreadable {f} (hread : Block.ofNote s.strictness n = .error (.fault f)) :
    NoteTurn s l p here n r (.error (.fault f) r)
  | uncompiled {f block found} (hread : Block.ofNote s.strictness n = .ok (block, found))
      (hcompile : Schema.compile (Setup.ofSettings s l) here block = .error f) :
    NoteTurn s l p here n r (.error (.fault f) r)
  /-- A schema has been written to its destination before. -/
  | repeated {found c} (hyields : Yields s l here n found c)
      (hwritten : l.artifactPath c.schema.id ∈ r.store.written) :
    NoteTurn s l p here n r (.ok () (r.add ⟨.fail, unitOf l p n,
      l.display (l.artifactPath c.schema.id) ++ " already written in this run", found ++ c.diagnostics⟩))
  | unwritable {found c f} (hyields : Yields s l here n found c)
      (hdocument : c.schema.toDocument s.base s.dialect = .error f) :
    NoteTurn s l p here n r (.error (.fault f) r)
  /-- Its schema is written, and its enumerations are requested. -/
  | wrote {found c document store pending} (hyields : Yields s l here n found c)
      (hwritten : l.artifactPath c.schema.id ∉ r.store.written)
      (hdocument : c.schema.toDocument s.base s.dialect = .ok document)
      (hstore : r.store.writeDocument (l.artifactPath c.schema.id) document = (.ok (), store))
      (hpending : request c.emissions { r with store } = .ok () { r with store, pending }) :
    NoteTurn s l p here n r (.ok () ({ r with store, pending }.add (classItem l p n found c)))
  | refused {found c document store e} (hyields : Yields s l here n found c)
      (hwritten : l.artifactPath c.schema.id ∉ r.store.written)
      (hdocument : c.schema.toDocument s.base s.dialect = .ok document)
      (hstore : r.store.writeDocument (l.artifactPath c.schema.id) document = (.error (.storage e), store)) :
    NoteTurn s l p here n r (.ok () ({ r with store }.add ⟨.fail, unitOf l p n, e.message, found ++ c.diagnostics⟩))
  | broken {found c document store e} (hyields : Yields s l here n found c)
      (hdocument : c.schema.toDocument s.base s.dialect = .ok document)
      (hstore : r.store.writeDocument (l.artifactPath c.schema.id) document = (.error e, store))
      (hother : ∀ problem, e ≠ .storage problem) :
    NoteTurn s l p here n r (.error (.ofWrite e) { r with store })

/-- Taking requests changes nothing but what is pending in a run. -/
theorem request_eq (requests : List Emission) (r : Run) :
    request requests r = .ok () { r with pending := r.pending.requested requests } := by
  induction requests generalizing r with
  | nil => rfl
  | cons e rest ih =>
    cases hr : r.pending.request e with
    | error reason =>
      rw [Pending.requested_of_error hr]
      simp only [request, bind, EStateM.bind, Work.get_eq, hr]
      rfl
    | ok taken =>
      rw [Pending.requested_of_ok hr]
      simp only [request, bind, EStateM.bind, Work.get_eq, hr]
      exact ih { r with pending := taken.2 }

theorem writeSchema_of_ok {found : List Diagnostic} {c : Compiled} {document : Document} {store : Store}
    (hwritten : l.artifactPath c.schema.id ∉ r.store.written)
    (hdocument : c.schema.toDocument s.base s.dialect = .ok document)
    (hstore : r.store.writeDocument (l.artifactPath c.schema.id) document = (.ok (), store)) :
    writeSchema s l (unitOf l p n) found c r =
      .ok () ({ r with store, pending := r.pending.requested c.emissions }.add (classItem l p n found c)) := by
  unfold writeSchema
  rw [Work.bind_of_ok _ (Work.get_eq r), if_neg (hwritten ∘ List.contains_iff_mem.mp), hdocument,
    Work.bind_of_ok _ (Work.orFault_ok document r), Work.bind_of_ok _ (Work.write_of_ok hstore)]
  dsimp only
  rw [Work.bind_of_ok _ (request_eq c.emissions { r with store })]
  split
  next herror =>
    have hitem : classItem l p n found c =
        ⟨.fail, l.display (l.artifactPath c.schema.id), unitOf l p n, found ++ c.diagnostics⟩ := if_pos herror
    rw [hitem]
    rfl
  next herror =>
    have hitem : classItem l p n found c =
        ⟨.wrote, l.display (l.artifactPath c.schema.id), "", found ++ c.diagnostics⟩ := if_neg herror
    rw [hitem]
    rfl

theorem writeSchema_turn {found : List Diagnostic} {c : Compiled} (hyields : Yields s l here n found c) :
    NoteTurn s l p here n r (writeSchema s l (unitOf l p n) found c r) := by
  by_cases hwritten : l.artifactPath c.schema.id ∈ r.store.written
  · have hgo : writeSchema s l (unitOf l p n) found c r = .ok () (r.add ⟨.fail, unitOf l p n,
        l.display (l.artifactPath c.schema.id) ++ " already written in this run", found ++ c.diagnostics⟩) := by
      simp only [writeSchema, bind, EStateM.bind, Work.get_eq, List.contains_iff_mem,
        hwritten, if_true]
      rfl
    rw [hgo]
    exact .repeated hyields hwritten
  · cases hdocument : c.schema.toDocument s.base s.dialect with
    | error f =>
      unfold writeSchema
      rw [Work.bind_of_ok _ (Work.get_eq r), if_neg (hwritten ∘ List.contains_iff_mem.mp), hdocument]
      exact .unwritable hyields hdocument
    | ok document =>
      obtain ⟨⟨result, store⟩, hw⟩ : ∃ x, r.store.writeDocument (l.artifactPath c.schema.id) document = x := ⟨_, rfl⟩
      cases result with
      | ok done =>
        rw [writeSchema_of_ok hwritten hdocument hw]
        exact .wrote hyields hwritten hdocument hw (request_eq c.emissions { r with store })
      | error e =>
        unfold writeSchema
        rw [Work.bind_of_ok _ (Work.get_eq r), if_neg (hwritten ∘ List.contains_iff_mem.mp), hdocument,
          Work.bind_of_ok _ (Work.orFault_ok document r)]
        cases e with
        | storage e =>
          rw [Work.bind_of_ok _ (Work.write_of_storage hw)]
          exact .refused hyields hwritten hdocument hw
        | unreadable e =>
          rw [Work.bind_of_error _ (Work.write_of_error hw (by simp))]
          exact .broken hyields hdocument hw (by simp)
        | fault f =>
          rw [Work.bind_of_error _ (Work.write_of_error hw (by simp))]
          exact .broken hyields hdocument hw (by simp)

/-- The turn of a note that can be compiled is that of its class. -/
theorem note_of_yields {found : List Diagnostic} {c : Compiled} (hyields : Yields s l here n found c) :
    note s l p here n r = writeSchema s l (unitOf l p n) found c r := by
  obtain ⟨b, hread, hcompile⟩ := hyields
  simp only [note, hread, Schema.shared_compile_eq, hcompile]
  rfl

theorem noteTurn (s : Settings) (l : Layout) (p : FilePath) (here : Location) (n : Note) (r : Run) :
    NoteTurn s l p here n r (note s l p here n r) := by
  cases hread : Block.ofNote s.strictness n with
  | error e =>
    cases e with
    | fault f =>
      have hgo : note s l p here n r = .error (.fault f) r := by
        simp only [note, hread]
        rfl
      rw [hgo]
      exact .unreadable hread
    | noMarker owner =>
      have hgo : note s l p here n r =
          .ok () (r.add ⟨.fail, unitOf l p n, (Hint.Failure.noMarker owner).message?.getD "", []⟩) := by
        simp only [note, hread]
        rfl
      rw [hgo]
      exact .unmarked hread (by simp)
  | ok read =>
    obtain ⟨block, found⟩ := read
    cases hcompile : Schema.compile (Setup.ofSettings s l) here block with
    | error f =>
      have hgo : note s l p here n r = .error (.fault f) r := by
        simp only [note, hread, Schema.shared_compile_eq, hcompile]
        rfl
      rw [hgo]
      exact .uncompiled hread hcompile
    | ok c =>
      have hyields : Yields s l here n found c := ⟨block, hread, hcompile⟩
      rw [note_of_yields hyields]
      exact writeSchema_turn hyields

/-- What the turn of a source can come to. -/
inductive SourceTurn (s : Settings) (l : Layout) (p : FilePath) (r : Run) : EStateM.Result Abort Run Unit → Prop
  | misplaced {e} (hplace : l.locationOf p = .error e) :
    SourceTurn s l p r (.ok () (r.add ⟨.fail, l.display p, e.message, []⟩))
  | unreadable {here reason} (hplace : l.locationOf p = .ok here) (htext : r.store.tree.readText p = .error reason) :
    SourceTurn s l p r (.ok () (r.add ⟨.fail, l.display p, reason, []⟩))
  | unmarked {here text} (hplace : l.locationOf p = .ok here) (htext : r.store.tree.readText p = .ok text)
      (hnotes : Note.extract text = []) :
    SourceTurn s l p r (.ok () (r.add ⟨.skip, l.display p, "no SCHEMAHINTS notes", []⟩))
  | read {here text} (hplace : l.locationOf p = .ok here) (htext : r.store.tree.readText p = .ok text)
      (hnotes : Note.extract text ≠ []) :
    SourceTurn s l p r ((Note.extract text).forM (note s l p here) r)

theorem sourceTurn (s : Settings) (l : Layout) (p : FilePath) (r : Run) : SourceTurn s l p r (source s l p r) := by
  cases hplace : l.locationOf p with
  | error e =>
    have hgo : source s l p r = .ok () (r.add ⟨.fail, l.display p, e.message, []⟩) := by
      simp only [source, hplace]
      rfl
    rw [hgo]
    exact .misplaced hplace
  | ok here =>
    unfold source
    rw [hplace]
    dsimp only
    rw [Work.bind_of_ok _ (Work.tree_eq r)]
    cases htext : r.store.tree.readText p with
    | error reason => exact .unreadable hplace htext
    | ok text =>
      have hturn := SourceTurn.read (s := s) hplace htext
      cases hnotes : Note.extract text with
      | nil =>
        simp only [hnotes]
        exact .unmarked hplace htext hnotes
      | cons n notes =>
        rw [hnotes] at hturn
        simp only [hnotes]
        exact hturn (List.cons_ne_nil n notes)

/-- The unit that reports what became of an enumeration. -/
def releasedItem (l : Layout) : FilePath × Option StorageError → Report.Item
  | (destination, none) => ⟨.wrote, l.display destination, "", []⟩
  | (destination, some e) => ⟨.fail, l.display destination, e.reason, []⟩

theorem reportReleased_eq (l : Layout) (released : Released) (r : Run) : reportReleased l released r =
    .ok () { r with report := { r.report with results := r.report.results ++ released.map (releasedItem l) } } := by
  induction released generalizing r with
  | nil => simp [reportReleased, pure, EStateM.pure]
  | cons m rest ih =>
    obtain ⟨destination, e⟩ := m
    have hadd : reportReleased l ((destination, e) :: rest) r =
        reportReleased l rest (r.add (releasedItem l (destination, e))) := by
      cases e <;> rfl
    rw [hadd, ih]
    simp [Run.add, Report.add]

/-- The requests of a run in the order in which they are written. -/
def todo (r : Run) : List (FilePath × Enumeration) := if r.pending.enabled then r.pending.inOrder else []

theorem mem_todo {m : FilePath × Enumeration} (hm : m ∈ todo r) : m ∈ r.pending.entries := by
  unfold todo at hm
  split at hm
  next => exact List.mem_mergeSort.mp hm
  next => cases hm

theorem nodup_todo (h : (r.pending.entries.map (·.1)).Nodup) : ((todo r).map (·.1)).Nodup := by
  unfold todo
  split
  next => exact ((List.mergeSort_perm _ _).map _).nodup_iff.mpr h
  next => exact List.nodup_nil

/-- What the release of the enumerations can come to. -/
inductive ReleaseTurn (s : Settings) (l : Layout) (r : Run) : EStateM.Result Abort Run Unit → Prop
  | closed (h : r.pending.flushed = true) : ReleaseTurn s l r (.ok () r)
  | released {released store} (h : r.pending.flushed = false)
      (hstore : r.store.writeEnumerations s.base (todo r) = (.ok released, store)) :
    ReleaseTurn s l r (.ok () { r with
      store
      pending := { r.pending with flushed := true }
      report := { r.report with results := r.report.results ++ released.map (releasedItem l) } })
  | broken {e store} (h : r.pending.flushed = false)
      (hstore : r.store.writeEnumerations s.base (todo r) = (.error e, store)) :
    ReleaseTurn s l r (.error (.ofWrite e) { r with store, pending := { r.pending with flushed := true } })

theorem release_of_closed (h : r.pending.flushed = true) : release s l r = .ok () r := by
  simp [release, bind, EStateM.bind, Work.get_eq, Pending.flush, h, pure, EStateM.pure]

section Open

variable {released : Released} {e : WriteFailure} {store : Store} (h : r.pending.flushed = false)
include h

theorem flush_of_open : r.pending.flush = .ok (todo r, { r.pending with flushed := true }) := by
  simp [Pending.flush, h, todo]

theorem release_of_ok (hstore : r.store.writeEnumerations s.base (todo r) = (.ok released, store)) :
    release s l r = .ok () { r with
      store
      pending := { r.pending with flushed := true }
      report := { r.report with results := r.report.results ++ released.map (releasedItem l) } } := by
  have hgo : release s l r = reportReleased l released
      { r with store, pending := { r.pending with flushed := true } } := by
    simp only [release, bind, EStateM.bind, Work.get_eq, flush_of_open h, hstore]
    rfl
  rw [hgo, reportReleased_eq]

theorem release_of_error (hstore : r.store.writeEnumerations s.base (todo r) = (.error e, store)) :
    release s l r = .error (.ofWrite e) { r with store, pending := { r.pending with flushed := true } } := by
  simp only [release, bind, EStateM.bind, Work.get_eq, flush_of_open h, hstore]
  rfl

end Open

theorem releaseTurn (s : Settings) (l : Layout) (r : Run) : ReleaseTurn s l r (release s l r) := by
  cases h : r.pending.flushed with
  | true =>
    rw [release_of_closed h]
    exact .closed h
  | false =>
    obtain ⟨⟨result, store⟩, hstore⟩ : ∃ x, r.store.writeEnumerations s.base (todo r) = x := ⟨_, rfl⟩
    cases result with
    | error e =>
      rw [release_of_error h hstore]
      exact .broken h hstore
    | ok released =>
      rw [release_of_ok h hstore]
      exact .released h hstore

/-- The sources of a run: those that are named, or those of the corpus if none are. -/
def sourcesOf (l : Layout) (t : FileTree) (files : List String) : List FilePath :=
  if files = [] then l.sources t else (files.map FilePath.ofString).mergeSort FilePath.le

/-- A run goes through its sources and releases the enumerations, unless nothing below the root can be listed. -/
theorem work_eq (s : Settings) (l : Layout) (files : List String) (r : Run) :
    (∃ refusal, work s l files r = .error (.refused refusal) r ∧ files = [] ∧ l.barred? r.store.tree = some refusal) ∨
      work s l files r = ((sourcesOf l r.store.tree files).forM (source s l) >>= fun _ => release s l) r ∧
        (files = [] → l.barred? r.store.tree = none) := by
  cases files with
  | nil =>
    cases hbarred : l.barred? r.store.tree with
    | some refusal =>
      refine .inl ⟨refusal, ?_, rfl, rfl⟩
      simp only [work, chosen, Work.guardRoot, Work.tree, bind, EStateM.bind, Work.get_eq,
        pure, EStateM.pure, hbarred]
      rfl
    | none =>
      refine .inr ⟨?_, fun _ => rfl⟩
      simp only [work, chosen, Work.guardRoot, Work.tree, bind, EStateM.bind, Work.get_eq,
        pure, EStateM.pure, hbarred]
      rfl
  | cons f files => exact .inr ⟨rfl, by simp⟩

/-- A run that goes through has gone through its sources and then released the enumerations. -/
theorem work_eq_ok {files : List String} {r' : Run} (h : work s l files r = .ok () r') :
    ∃ r₁, (sourcesOf l r.store.tree files).forM (source s l) r = .ok () r₁ ∧ release s l r₁ = .ok () r' := by
  rcases work_eq s l files r with ⟨refusal, hwork, _⟩ | ⟨hwork, _⟩
  · rw [hwork] at h
    cases h
  · rw [hwork] at h
    cases hs : (sourcesOf l r.store.tree files).forM (source s l) r with
    | ok _ r₁ =>
      rw [Work.bind_of_ok _ hs] at h
      exact ⟨r₁, rfl, h⟩
    | error e r₁ =>
      rw [Work.bind_of_error _ hs] at h
      cases h

end Command.Compile

end NoteSchema
