import NoteSchema.Proofs.Noted
import NoteSchema.Proofs.Reference.Named
import NoteSchema.Schema.Shared

namespace NoteSchema.Schema

open Reference (Faithful)

/-- Compiling with a resolver comes to what compiling without one comes to, and leaves the resolver faithful. -/
def Agrees {α : Type} (s : Site) (x : Sharing α) (y : Compiling α) : Prop :=
  ∀ r, Faithful s.setup.base s.location r → (x r).remarks = y.remarks ∧ (x r).outcome.map (·.1) = y.outcome ∧
    ∀ a r', (x r).outcome = .ok (a, r') → Faithful s.setup.base s.location r'

section Steps

variable {α β : Type} {s : Site}

theorem agrees_pure (a : α) : Agrees s (pure a) (pure a) := by
  refine fun r h => ⟨rfl, rfl, fun b r' hb => ?_⟩
  cases hb
  exact h

theorem agrees_lift (y : Compiling α) : Agrees s (liftM y) y := by
  intro r h
  obtain ⟨rs, _ | a⟩ := y
  · exact ⟨rfl, rfl, fun b r' hb => nomatch hb⟩
  · refine ⟨List.append_nil rs, rfl, fun b r' hb => ?_⟩
    cases hb
    exact h

theorem Agrees.bind {x : Sharing α} {y : Compiling α} {f : α → Sharing β} {g : α → Compiling β} (hx : Agrees s x y)
    (hf : ∀ a, Agrees s (f a) (g a)) : Agrees s (x >>= f) (y >>= g) := by
  intro r h
  obtain ⟨hremarks, houtcome, hfaithful⟩ := hx r h
  have hbind : (x >>= f) r = x r >>= fun p => f p.1 p.2 := rfl
  rw [hbind]
  obtain ⟨rs, o⟩ := y
  cases hxr : x r with
  | mk rs' o' =>
    rw [hxr] at hremarks houtcome hfaithful
    obtain rfl : rs' = rs := hremarks
    cases o' with
    | error e =>
      obtain rfl : Except.error e = o := houtcome
      exact ⟨rfl, rfl, fun b r' hb => nomatch hb⟩
    | ok p =>
      obtain ⟨a, r'⟩ := p
      obtain rfl : Except.ok a = o := houtcome
      obtain ⟨hrest, hout, hleft⟩ := hf a r' (hfaithful a r' rfl)
      exact ⟨congrArg (rs' ++ ·) hrest, hout, hleft⟩

/-- What a shared resolver answers is what a new one would. -/
theorem agrees_resolve {path : String} {kind : ArtifactKind}
    {f : Except Reference.Failure Reference.Target → Sharing β} {y : Compiling β}
    (h : Agrees s (f (s.resolve path kind)) y) : Agrees s (Shared.resolve path kind >>= f) y := by
  intro r hr
  obtain ⟨hanswer, hleft⟩ := hr.resolve path kind
  have hbind : (Shared.resolve path kind >>= f) r = f (r.resolve path kind).1 (r.resolve path kind).2 := rfl
  rw [hbind, hanswer]
  exact h _ hleft

theorem agrees_refShape (path : String) (kind : ArtifactKind) :
    Agrees s (Shared.refShape s path kind) (refShape s path kind) := by
  unfold Shared.refShape refShape
  refine agrees_resolve ?_
  cases s.resolve path kind with
  | ok target => exact agrees_pure _
  | error e => exact (agrees_lift _).bind fun _ => agrees_pure _

theorem agrees_enumShape (d : Hint.EnumDefinition) : Agrees s (Shared.enumShape s d) (enumShape s d) := by
  unfold Shared.enumShape enumShape
  refine agrees_resolve ?_
  cases s.resolve d.path .enumeration with
  | error e => exact (agrees_lift _).bind fun _ => agrees_pure _
  | ok target =>
    dsimp only
    split
    · cases target.artifact with
      | none => exact (agrees_lift _).bind fun _ => agrees_pure _
      | some id =>
        exact (agrees_lift _).bind fun _ => (agrees_lift _).bind fun _ => agrees_pure _
    · exact agrees_pure _

theorem agrees_plainShape (d : Decider) : Agrees s (Shared.plainShape s d) (plainShape s d) := by
  cases d with
  | enumFrom path => exact agrees_refShape path _
  | enumDefine d => exact agrees_enumShape d
  | ref path => exact agrees_refShape path _
  | type name =>
    rw [Shared.plainShape, plainShape]
    cases TypeName.of name with
    | short type format => exact agrees_pure _
    | primitive type => exact agrees_pure _
    | className name => exact agrees_refShape name _
  | const v => exact agrees_pure _
  | nothing => exact agrees_pure _

theorem agrees_values (f : Hint.Field) (shape : Shape) :
    Agrees s
      (match f.enum with
        | none => return Node.mk shape (facetsOf f none)
        | some values => do
          let values ← typedValues s shape.type? values
          return Node.mk shape (facetsOf f (some values)))
      (match f.enum with
        | none => return Node.mk shape (facetsOf f none)
        | some values => do
          let values ← typedValues s shape.type? values
          return Node.mk shape (facetsOf f (some values))) := by
  split
  next => exact agrees_pure _
  next => exact (agrees_lift _).bind fun _ => agrees_pure _

mutual
theorem agrees_compileField (s : Site) : (f : Hint.Field) → Agrees s (Shared.compileField s f) (compileField s f)
  | f@{ items, properties, .. } => by
    rw [Shared.compileField, compileField]
    split
    next => exact (agrees_compileItems s items).bind fun shape => agrees_values _ shape
    next =>
      split
      next =>
        exact (agrees_compileProperties s properties).bind fun nodes =>
          (agrees_pure _).bind fun shape => agrees_values _ shape
      next => exact (agrees_plainShape _).bind fun shape => agrees_values _ shape

theorem agrees_compileItems (s : Site) : (o : Option Hint.Field) →
    Agrees s (Shared.compileItems s o) (compileItems s o)
  | none => by
    rw [Shared.compileItems, compileItems]
    exact agrees_pure _
  | some f => by
    rw [Shared.compileItems, compileItems]
    exact (agrees_compileField s f).bind fun _ => agrees_pure _

theorem agrees_compileProperties (s : Site) : (fields : List (String × Hint.Field)) →
    Agrees s (Shared.compileProperties s fields) (compileProperties s fields)
  | [] => by
    rw [Shared.compileProperties, compileProperties]
    exact agrees_pure _
  | (name, f) :: rest => by
    rw [Shared.compileProperties, compileProperties]
    exact (agrees_compileField s f).bind fun _ => (agrees_compileProperties s rest).bind fun _ => agrees_pure _
end

theorem agrees_compileFields (fields : List (String × Hint.Field)) :
    Agrees s (Shared.compileFields s fields) (compileFields s fields) := by
  induction fields with
  | nil => exact agrees_pure _
  | cons m rest ih =>
    obtain ⟨name, f⟩ := m
    rw [Shared.compileFields, compileFields]
    exact (agrees_compileField { s with field := name } f).bind fun _ => ih.bind fun _ => agrees_pure _

theorem agrees_alternatives (ds : List Document) : Agrees s (Shared.alternatives s ds) (alternatives s ds) := by
  induction ds with
  | nil => exact agrees_pure _
  | cons d rest ih =>
    cases d with
    | str name =>
      rw [Shared.alternatives, alternatives]
      refine agrees_resolve ?_
      cases s.resolve name .schema with
      | ok target => exact ih.bind fun _ => agrees_pure _
      | error e => exact (agrees_lift _).bind fun _ => ih
    | _ => exact ih.bind fun _ => agrees_pure _

/-- Sharing the targets that were found changes nothing in what a block compiles to. -/
theorem agrees_ofBlock (setup : Setup) (here : Location) (b : Hint.Block) :
    Agrees ⟨setup, here, b.owner, ""⟩ (Shared.ofBlock setup here b) (Class.ofBlock setup here b) := by
  unfold Shared.ofBlock Class.ofBlock Shared.ofProperties
  refine (agrees_compileFields b.fields).bind fun properties => ?_
  refine (agrees_lift _).bind fun _ => ?_
  refine (agrees_alternatives b.oneOf).bind fun oneOf => ?_
  refine (agrees_alternatives b.anyOf).bind fun anyOf => ?_
  refine (agrees_alternatives b.allOf).bind fun allOf => ?_
  exact (agrees_lift _).bind fun _ => agrees_pure _

theorem shared_compile_eq (setup : Setup) (here : Location) (b : Hint.Block) :
    Shared.compile setup here b = compile setup here b := by
  obtain ⟨hremarks, houtcome, _⟩ := agrees_ofBlock setup here b _ Reference.faithful_new
  have hrun : (Shared.ofBlock setup here b).run ⟨setup.base, here, []⟩ =
      Shared.ofBlock setup here b ⟨setup.base, here, []⟩ := rfl
  unfold Shared.compile compile
  rw [hrun]
  dsimp only
  rw [hremarks, ← houtcome]
  cases (Shared.ofBlock setup here b ⟨setup.base, here, []⟩).outcome <;> rfl

end Steps

end NoteSchema.Schema
