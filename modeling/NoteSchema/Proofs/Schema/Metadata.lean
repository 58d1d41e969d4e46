import NoteSchema.Command.Compile
import NoteSchema.Proofs.Artifact.Gathered
import NoteSchema.Proofs.Itemwise
import NoteSchema.Proofs.Reference.Named
import NoteSchema.Proofs.Schema.Requested

namespace NoteSchema

namespace Schema

open Hint (EnumDefinition)

/-- The definitions in compiled notes whose enumerations are to be written to a destination, in order. -/
def definitionsFor (setup : Setup) (notes : List (Location × Hint.Block)) (path : FilePath) : List Placed :=
  (notes.flatMap fun n => (definitionsOfFields n.2.fields).filterMap (placed? setup n.1)).filter
    fun m => decide (m.destination = path)

theorem name_of_placed? {setup : Setup} {here : Location} {d : EnumDefinition} {m : Placed}
    (h : placed? setup here d = some m) : m.id.name ≠ "" := by
  unfold placed? at h
  split at h
  next =>
    split at h
    next target ht =>
      obtain ⟨id, hid, rfl⟩ := Option.map_eq_some_iff.mp h
      exact Reference.name_of_resolve ht hid
    next => cases h
  next => cases h

theorem name_of_definitionsFor {setup : Setup} {notes : List (Location × Hint.Block)} {path : FilePath} {m : Placed}
    (h : m ∈ definitionsFor setup notes path) : m.id.name ≠ "" := by
  obtain ⟨n, _, hm⟩ := List.mem_flatMap.mp (List.mem_of_mem_filter h)
  obtain ⟨d, _, hd⟩ := List.mem_filterMap.mp hm
  exact name_of_placed? hd

/-- The title that a definition gives its enumeration: its own, or the name. -/
def Placed.title (m : Placed) : String := (given? m.definition.title).getD m.id.name

theorem Placed.title_ne {m : Placed} (h : m.id.name ≠ "") : m.title ≠ "" := by
  unfold Placed.title
  cases ht : given? m.definition.title with
  | none => exact h
  | some t => exact ne_of_given? ht

/-- The requests of notes compiled one after another are those of the definitions in them. -/
theorem stems_of_compiled {setup : Setup} {notes : List (Location × Hint.Block)} {compiled : List Compiled}
    (h : List.Forall₂ (fun n c => compile setup n.1 n.2 = .ok c) notes compiled) :
    List.Forall₂ Stems (notes.flatMap fun n => (definitionsOfFields n.2.fields).filterMap (placed? setup n.1))
      (compiled.flatMap (·.emissions)) :=
  List.rel_flatMap h fun _ _ hc => emissions_of_compile hc

theorem stems_requestsFor {setup : Setup} {notes : List (Location × Hint.Block)} {compiled : List Compiled}
    (h : List.Forall₂ (fun n c => compile setup n.1 n.2 = .ok c) notes compiled) (path : FilePath) :
    List.Forall₂ (fun m e => ∃ r, Stems m r ∧ r.enumeration = e) (definitionsFor setup notes path)
      (Pending.requestsFor path (compiled.flatMap (·.emissions))) := by
  refine List.forall₂_map_right_iff.mpr ((List.rel_filter ?_ (stems_of_compiled h)).imp fun m r hr => ⟨r, hr, rfl⟩)
  intro m r hr
  simp [hr.destination]

/-- The title that is stated last. -/
def statedTitle (ms : List Placed) : Option String := (ms.filterMap fun m => given? m.definition.title).getLast?

/-- What an enumeration has from its definitions. Its title and its type are those of the last definition, which is
the title that is stated last only if the last definition states one; of the rest it has what is stated last. -/
structure Settled (ms : List Placed) (e : Enumeration) : Prop where
  id : ms.head?.map (·.id) = some e.id
  title : ms.getLast?.map (·.title) = some e.title
  stated : ∀ m, ms.getLast? = some m → given? m.definition.title ≠ none → statedTitle ms = some e.title
  valueType : ms.getLast?.map (·.definition.type.text) = some e.valueType
  names : e.names = (ms.filterMap (·.definition.names)).getLast?
  descriptions : e.descriptions = (ms.filterMap (·.definition.descriptions)).getLast?
  description : e.description = (ms.filterMap (·.definition.description)).getLast?
  sourcePath : e.sourcePath = (ms.filterMap (·.definition.sourcePath)).getLast?

theorem statedTitle_of_last {ms : List Placed} {m : Placed} (hlast : ms.getLast? = some m)
    (h : given? m.definition.title ≠ none) : statedTitle ms = some m.title := by
  obtain ⟨front, rfl⟩ := List.getLast?_eq_some_iff.mp hlast
  obtain ⟨t, ht⟩ := Option.ne_none_iff_exists'.mp h
  rw [statedTitle, Enumeration.getLast?_filterMap_concat, Placed.title, ht]
  rfl

/-- The requests that stem from some definitions come to what the definitions settle. -/
theorem settled_of_gathers {ms : List Placed} {requests : List Enumeration} {e : Enumeration}
    (hname : ∀ m ∈ ms, m.id.name ≠ "")
    (hstems : List.Forall₂ (fun m e => ∃ r, Stems m r ∧ r.enumeration = e) ms requests)
    (h : Enumeration.Gathers requests e) : Settled ms e := by
  have htitle : ms.getLast?.map (·.title) = some e.title := by
    have htitles : ms.map (·.title) = requests.map (·.title) :=
      map_eq_of_forall₂ (fun m _ ⟨r, hr, he⟩ => he ▸ hr.title.symm) hstems
    have hkept : (ms.map (·.title)).filter (· ≠ "") = ms.map (·.title) := by
      refine List.filter_eq_self.mpr fun t ht => ?_
      obtain ⟨m, hm, rfl⟩ := List.mem_map.mp ht
      exact decide_eq_true (Placed.title_ne (hname m hm))
    have hlast := h.title
    rw [← htitles, hkept, List.getLast?_map] at hlast
    cases hm : ms.getLast? with
    | none =>
      obtain rfl := List.getLast?_eq_none_iff.mp hm
      cases hstems
      cases h.id
    | some m =>
      rw [hm] at hlast
      exact congrArg some hlast.symm
  exact
    { id := by
        rw [← h.id, ← List.head?_map, ← List.head?_map]
        exact congrArg List.head? (map_eq_of_forall₂ (fun m _ ⟨r, hr, he⟩ => he ▸ hr.id.symm) hstems)
      title := htitle
      stated := fun m hm hne => by
        rw [hm] at htitle
        rw [statedTitle_of_last hm hne]
        exact htitle
      valueType := by
        rw [← h.valueType, ← List.getLast?_map, ← List.getLast?_map]
        exact congrArg List.getLast? (map_eq_of_forall₂ (fun m _ ⟨r, hr, he⟩ => he ▸ hr.valueType.symm) hstems)
      names := by
        rw [h.names, filterMap_eq_of_forall₂ (fun m _ ⟨r, hr, he⟩ => he ▸ hr.names.symm) hstems]
      descriptions := by
        rw [h.descriptions, filterMap_eq_of_forall₂ (fun m _ ⟨r, hr, he⟩ => he ▸ hr.descriptions.symm) hstems]
      description := by
        rw [h.description, filterMap_eq_of_forall₂ (fun m _ ⟨r, hr, he⟩ => he ▸ hr.description.symm) hstems]
      sourcePath := by
        rw [h.sourcePath, filterMap_eq_of_forall₂ (fun m _ ⟨r, hr, he⟩ => he ▸ hr.sourcePath.symm) hstems] }

/-- Notes compiled one after another, and their requests taken in order: the enumeration at each destination has its
title and its type from the last definition for it, whether that states them or not. -/
theorem requested_metadata {setup : Setup} {notes : List (Location × Hint.Block)} {compiled : List Compiled}
    (h : List.Forall₂ (fun n c => compile setup n.1 n.2 = .ok c) notes compiled) :
    ∃ p, Pending.requestAll { enabled := true } (compiled.flatMap (·.emissions)) = .ok p ∧ ∀ path,
      (p.get? path = none ↔ definitionsFor setup notes path = []) ∧
        ∀ e, p.get? path = some e → Settled (definitionsFor setup notes path) e := by
  have hapart : ∀ r ∈ compiled.flatMap (·.emissions), Json.Apart r.enumeration.values := by
    intro r hr
    obtain ⟨m, _, hm⟩ := forall₂_mem_left (stems_of_compiled h).flip hr
    exact hm.values
  obtain ⟨p, hp, hgathered⟩ := Pending.exists_gathered hapart
  refine ⟨p, hp, fun path => ⟨?_, fun e he => ?_⟩⟩
  · rw [(hgathered path).2.1, ← List.length_eq_zero_iff, ← (stems_requestsFor h path).length_eq,
      List.length_eq_zero_iff]
  · exact settled_of_gathers (fun m hm => name_of_definitionsFor hm) (stems_requestsFor h path)
      ((hgathered path).2.2 e he)

theorem eq_ok_of_toOption {ε α : Type} {r : Except ε α} {a : α} (h : r.toOption = some a) : r = .ok a := by
  cases r with
  | error e => cases h
  | ok b => exact congrArg Except.ok (Option.some.inj h)

/-- Where the notes of the examples lie, and what they are compiled with. -/
def shop : Location := ⟨"shop", []⟩

def shopSetup : Setup where
  base := "https://example.org/schemas/"
  emitEnums := true
  generateEnums := true
  layout := ⟨⟨.root, ["corpus"]⟩, []⟩

def statusPath : FilePath := ⟨.root, ["corpus", "shop", "enums", "Status.json"]⟩

/-- A note that defines an enumeration in a nested field, and another one that defines it in the items of a field. -/
def nestedNotes : List (Location × Hint.Block) :=
  [(shop,
      { owner := "Order"
        fields :=
          [("detail",
            { type := some "object"
              properties :=
                [("status",
                  { enumDefine := some
                      { path := "Status"
                        title := some "Order Status"
                        values := [.text "open"]
                        names := some ["Open"] } })] })] }),
    (shop,
      { owner := "Parcel"
        fields :=
          [("states",
            { type := some "array"
              items := some
                { enumDefine := some
                    { path := "./Status"
                      title := some "State"
                      type := .integer
                      values := [.number (.int 1)] } } })] })]

theorem nestedNotes_settled : ∃ compiled p e,
    List.Forall₂ (fun n c => compile shopSetup n.1 n.2 = .ok c) nestedNotes compiled ∧
      Pending.requestAll { enabled := true } (compiled.flatMap (·.emissions)) = .ok p ∧ p.get? statusPath = some e ∧
      Settled (definitionsFor shopSetup nestedNotes statusPath) e ∧ e.title = "State" ∧ e.valueType = "integer" ∧
      e.names = some ["Open"] := by
  have hcompiles : ∀ n ∈ nestedNotes, ∃ c, compile shopSetup n.1 n.2 = .ok c := by
    have hok : ∀ n ∈ nestedNotes, (compile shopSetup n.1 n.2).toOption.isSome = true := by decide
    intro n hn
    obtain ⟨c, hc⟩ := Option.isSome_iff_exists.mp (hok n hn)
    exact ⟨c, eq_ok_of_toOption hc⟩
  obtain ⟨c, hc⟩ := hcompiles _ List.mem_cons_self
  obtain ⟨c', hc'⟩ := hcompiles _ (List.mem_cons_of_mem _ List.mem_cons_self)
  have hcompiled : List.Forall₂ (fun n c => compile shopSetup n.1 n.2 = .ok c) nestedNotes [c, c'] :=
    .cons hc (.cons hc' .nil)
  obtain ⟨p, hp, hmetadata⟩ := requested_metadata hcompiled
  obtain ⟨hnone, hsettled⟩ := hmetadata statusPath
  cases he : p.get? statusPath with
  | none =>
    have hlength : (definitionsFor shopSetup nestedNotes statusPath).length = 2 := by decide
    simp [hnone.mp he] at hlength
  | some e =>
    have hs := hsettled e he
    refine ⟨_, p, e, hcompiled, hp, he, hs, Option.some.inj (hs.title.symm.trans ?_),
      Option.some.inj (hs.valueType.symm.trans ?_), hs.names.trans ?_⟩
    · decide
    · decide
    · decide

/-- A note that states the title and the type of an enumeration. -/
def orderNote : String :=
  "SCHEMAHINTS\nfield status:\n  enumDefine:\n    enumId: ./Status\n    title: Order Status\n" ++
    "    type: integer\n    enum: [1, 2]\n"

/-- A note that states names for the values of the same enumeration only. -/
def parcelNote : String :=
  "SCHEMAHINTS\nfield state:\n  enumDefine:\n    enumId: ./Status\n    x-enumNames: [open, closed]\n"

/-- A later definition that states neither title nor type sets both back. -/
theorem parcelNote_resets : ∃ order parcel c c' p e,
    Hint.Block.parse .tolerant "Order" orderNote 1 = .ok order ∧
      Hint.Block.parse .tolerant "Parcel" parcelNote 1 = .ok parcel ∧
      compile shopSetup shop order.1 = .ok c ∧ compile shopSetup shop parcel.1 = .ok c' ∧
      Pending.requestAll { enabled := true } (c.emissions ++ c'.emissions) = .ok p ∧ p.get? statusPath = some e ∧
      statedTitle (definitionsFor shopSetup [(shop, order.1), (shop, parcel.1)] statusPath) = some "Order Status" ∧
      c.emissions.map (·.enumeration.valueType) = ["integer"] ∧ e.title = "Status" ∧ e.valueType = "string" := by
  have hrun : (do
      let order ← (Hint.Block.parse .tolerant "Order" orderNote 1).toOption
      let parcel ← (Hint.Block.parse .tolerant "Parcel" parcelNote 1).toOption
      let c ← (compile shopSetup shop order.1).toOption
      let c' ← (compile shopSetup shop parcel.1).toOption
      let p ← (Pending.requestAll { enabled := true } (c.emissions ++ c'.emissions)).toOption
      let e ← p.get? statusPath
      return (statedTitle (definitionsFor shopSetup [(shop, order.1), (shop, parcel.1)] statusPath),
        c.emissions.map (·.enumeration.valueType), e.title, e.valueType)) =
      some (some "Order Status", ["integer"], "Status", "string") := by
    have horder : orderNote.toList = _ := Text.toList_ofList_append _ _
    have hparcel : parcelNote.toList = _ := String.toList_ofList
    unfold Hint.Block.parse Hint.Block.read? Hint.Line.ofBody
    rw [horder, hparcel]
    decide +kernel
  simp only [Option.bind_eq_bind, Option.bind_eq_some_iff, Option.pure_def, Option.some.injEq, Prod.mk.injEq] at hrun
  obtain ⟨order, horder, parcel, hparcel, c, hc, c', hc', p, hp, e, he, hstated, htypes, htitle, htype⟩ := hrun
  exact ⟨order, parcel, c, c', p, e, eq_ok_of_toOption horder, eq_ok_of_toOption hparcel, eq_ok_of_toOption hc,
    eq_ok_of_toOption hc', eq_ok_of_toOption hp, he, hstated, htypes, htitle, htype⟩

end Schema

end NoteSchema
