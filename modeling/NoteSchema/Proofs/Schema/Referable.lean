import NoteSchema.Proofs.Hint.Extracted
import NoteSchema.Proofs.Hint.Keyed
import NoteSchema.Proofs.Reference.Identity
import NoteSchema.Proofs.Schema.Formed
import NoteSchema.Proofs.Schema.Sifted
import NoteSchema.Proofs.Schema.Writable

namespace NoteSchema

namespace Reference

/-- A name of letters, digits, `_`, `.` and `-`, at least one of them. -/
def IsName (s : String) : Prop := s ≠ "" ∧ ∀ c ∈ s.toList, isSegmentChar c = true

instance (s : String) : Decidable (IsName s) :=
  have : Decidable (∀ c ∈ s.toList, isSegmentChar c = true) := List.decidableBAll _ _
  inferInstanceAs (Decidable (_ ∧ _))

end Reference

/-- A location whose folders have plain names. -/
def Location.Plain (here : Location) : Prop := ∀ part ∈ here.segment :: here.subpath, Reference.IsName part

instance (here : Location) : Decidable here.Plain := inferInstanceAs (Decidable (∀ _ ∈ _, _))

/-- The address of what is called by a name at a location. -/
def Location.address (here : Location) (name : String) (kind : ArtifactKind) : ArtifactId :=
  ⟨here.segment, here.subpath, name, kind⟩

namespace Reference

variable {base name : String} {here : Location} {kind : ArtifactKind} {target : Target}

theorem isLetterOf_colon {c : Char} (h : isSegmentChar c = true) : Text.isLetterOf ':' c = false := by
  have hall : ∀ n < 128, isSegmentChar (Char.ofNat n) = true → Text.isLetterOf ':' (Char.ofNat n) = false := by decide
  rw [← Char.ofNat_toNat c] at h ⊢
  exact hall c.toNat (isSegmentChar_lt (by rwa [Char.ofNat_toNat] at h)) h

/-- A word with a colon in it is not read where there is none. -/
theorem afterWord?_colon {before after cs : List Char} (h : ∀ c ∈ cs, isSegmentChar c = true) :
    Text.afterWord? (before ++ ':' :: after) cs = none := by
  induction before generalizing cs with
  | nil =>
    cases cs with
    | nil => rfl
    | cons c cs => exact Text.afterWord?_of_head (isLetterOf_colon (h c List.mem_cons_self)) after cs
  | cons a before ih =>
    cases cs with
    | nil => rfl
    | cons c cs =>
      rw [List.cons_append, Text.afterWord?]
      split
      · exact ih fun d hd => h d (List.mem_cons_of_mem c hd)
      · rfl

namespace IsName

theorem not_mem (h : IsName name) {c : Char} (hc : isSegmentChar c = false) : c ∉ name.toList :=
  fun hmem => absurd (h.2 c hmem) (by simp [hc])

/-- What a name starts and ends with. -/
theorem ends (h : IsName name) : ∃ first rest front last, name.toList = first :: rest ∧ name.toList = front ++ [last] ∧
    Text.isBlank first = false ∧ Text.isBlank last = false := by
  have hne : name.toList ≠ [] := fun hnil => h.1 (String.toList_eq_nil_iff.mp hnil)
  obtain ⟨first, rest, hstart⟩ := List.exists_cons_of_ne_nil hne
  have hblank {c : Char} (hc : c ∈ name.toList) : Text.isBlank c = false := not_blank_of_isSegmentChar (h.2 c hc)
  exact ⟨first, rest, _, name.toList.getLast hne, hstart, (List.dropLast_concat_getLast hne).symm,
    hblank (hstart ▸ List.mem_cons_self), hblank (List.getLast_mem hne)⟩

theorem trim_eq (h : IsName name) : Text.trim name = name := by
  obtain ⟨first, rest, front, last, hstart, hend, hfirst, hlast⟩ := h.ends
  exact Text.trim_eq_self hstart hend hfirst hlast

theorem isUrl_eq (h : IsName name) : PathKind.isUrl name.toList = false := by
  unfold PathKind.isUrl
  split
  next => rfl
  next rest hrest =>
    have hchars : ∀ c ∈ rest, isSegmentChar c = true := fun c hc => h.2 c ((Text.suffix_of_afterWord? hrest).subset hc)
    rw [show "s://".toList = ['s'] ++ ':' :: ['/', '/'] from rfl, show "://".toList = [] ++ ':' :: ['/', '/'] from rfl,
      afterWord?_colon hchars, afterWord?_colon hchars]
    rfl

/-- A name has none of the marks that tell the other forms of paths. -/
theorem ofPath_eq (h : IsName name) : PathKind.ofPath name = .bare := by
  have hmark {c : Char} {rest : List Char} (hs : name.toList = c :: rest) : isSegmentChar c = true :=
    h.2 c (hs ▸ List.mem_cons_self)
  have hslash : '/' ∉ name.toList := h.not_mem (by decide)
  unfold PathKind.ofPath PathKind.ofChars
  split
  next hs => exact absurd (hmark hs) (by decide)
  next =>
    rw [h.isUrl_eq, if_neg (by decide)]
    split
    next hs => exact absurd (hmark hs) (by decide)
    next hs => exact absurd (hmark hs) (by decide)
    next hs => exact absurd (hs ▸ by simp) hslash
    next hs => exact absurd (hs ▸ by simp) hslash
    next => rfl

end IsName

theorem plain_address (hhere : here.Plain) (hname : IsName name) (kind : ArtifactKind) :
    (here.address name kind).Plain := by
  intro part hpart
  rw [ArtifactId.namespaceParts, Location.address, ← List.cons_append, List.mem_append, List.mem_singleton] at hpart
  rcases hpart with hpart | rfl
  · exact hhere part hpart
  · exact hname

/-- A name is resolved to what it calls at the location. -/
theorem resolve_name (hhere : here.Plain) (hname : IsName name) (base : String) (kind : ArtifactKind) :
    resolve base here name kind =
      .ok ⟨(here.address name kind).identifier base, some (here.address name kind), .bare, false⟩ := by
  have hsplit : Text.split '/' name = [name] := by
    rw [Text.split, Text.splitChars_eq_singleton (hname.not_mem (by decide))]
    simp
  have hartifact := artifactOf_namespaceParts (isSegment_of_plain (plain_address hhere hname kind)) name
  rw [resolve, hname.trim_eq, if_neg hname.1]
  simp only [resolveTrimmed, hname.ofPath_eq, partsOf, hsplit, bind, Except.bind]
  exact congrArg (Except.map _) hartifact

/-- Only a name is resolved to what it calls at the location: of another text nothing is made, or what a part of it
calls. -/
theorem isName_of_resolve (hhere : here.Plain) (h : resolve base here name kind = .ok target)
    (hid : target.artifact = some (here.address name kind)) : IsName name := by
  have hsegment : isSegment name = true :=
    (names_of_resolve h hid).isSegment name (by simp [ArtifactId.namespaceParts, Location.address])
  have hne := ne_empty_of_isSegment hsegment
  simp only [isSegment, Bool.and_eq_true, List.all_eq_true] at hsegment
  split at hsegment
  next hlast =>
    -- a line feed at the end is not part of what is resolved
    obtain ⟨front, hfront⟩ := List.getLast?_eq_some_iff.mp hlast
    rw [hfront, List.dropLast_concat] at hsegment
    have hown : IsName (String.ofList front) := ⟨by simpa using hsegment.1, by simpa using hsegment.2⟩
    obtain ⟨first, rest, _, _, hstart, _, hfirst, _⟩ := hown.ends
    rw [String.toList_ofList] at hstart
    have htrim : Text.trim name = Text.trim (String.ofList front) := by
      have hdrop (more : List Char) : Text.dropBlanks (first :: more) = first :: more :=
        List.dropWhile_cons_of_neg (by simp [hfirst])
      rw [Text.trim, Text.trim, String.toList_ofList, hfront, Text.trimChars, Text.trimChars, hstart, List.cons_append,
        hdrop, hdrop, ← List.cons_append, Text.dropEndBlanks_of_isBlank (by decide)]
    have hsame : resolve base here name kind = resolve base here (String.ofList front) kind := by
      rw [resolve, resolve, htrim]
    rw [hsame, resolve_name hhere hown] at h
    cases h
    have hname : String.ofList front = name := congrArg ArtifactId.name (Option.some.inj hid)
    have hlength := congrArg List.length hfront
    rw [← hname] at hlength
    simp at hlength
  next => exact ⟨hne, hsegment.2⟩

/-- Just the names are resolved to what they call at the location. -/
theorem resolves_to_own_iff (hhere : here.Plain) (base name : String) (kind : ArtifactKind) :
    (∃ target, resolve base here name kind = .ok target ∧ target.artifact = some (here.address name kind)) ↔
      IsName name :=
  ⟨fun ⟨_, h, hid⟩ => isName_of_resolve hhere h hid, fun h => ⟨_, resolve_name hhere h base kind, rfl⟩⟩

end Reference

namespace Hint

open Reference (IsName)

variable {name : String}

/-- A name that is neither a flag nor a number is read as itself. -/
theorem plain_ofText_name (h : IsName name) (hflag : flag? name.toList = none)
    (hnumeral : Number.numeral? name.toList = none) : (Value.ofText name).map Value.plain = .ok name := by
  obtain ⟨first, rest, front, last, hstart, hend, hfirst, hlast⟩ := h.ends
  have hmark {c : Char} (hc : Reference.isSegmentChar c = false) : first ≠ c :=
    fun he => h.not_mem hc (hstart ▸ he ▸ List.mem_cons_self)
  have hlist : bracketed? name.toList = none := by
    rw [hstart, bracketed?.eq_def]
    split
    next heq => exact absurd (List.cons.inj heq).1 (hmark (by decide))
    next => rfl
  have hquotes : Text.stripQuotes name = name := by
    have hunquoted : Text.unquoteChars? (first :: rest) = none := by
      rw [Text.unquoteChars?, if_neg (not_or.mpr ⟨hmark (by decide), hmark (by decide)⟩)]
    rw [Text.stripQuotes, Text.unquote?, hstart, hunquoted]
    rfl
  rw [Value.ofText, Text.trimChars_eq_self hstart hend hfirst hlast]
  simp only [hlist, hflag, hnumeral, String.ofList_toList]
  exact congrArg Except.ok hquotes

/-- A name in quotes is read as the name. -/
theorem plain_ofText_quoted (name : String) : (Value.ofText ("\"" ++ name ++ "\"")).map Value.plain = .ok name := by
  have hquoted : "\"" ++ name ++ "\"" = Text.quoted '"' name := by
    rw [← String.toList_inj, Text.quoted, String.toList_ofList]
    simp
  have hplain : Value.plain (.text (Text.quoted '"' name)) = name := by
    rw [Value.plain, Value.display, Text.stripQuotes, Text.unquote?_quoted (.inl rfl)]
    rfl
  rw [hquoted, ofText_quoted (.inl rfl), Except.map, hplain]

end Hint

namespace Schema

open Hint (Value)
open Reference (IsName)

variable {setup : Setup} {here : Location} {b : Hint.Block} {c : Compiled}

theorem find?_id_of_toDocument {schema : Class} {base : String} {dialect d : Document}
    (h : schema.toDocument base dialect = .ok d) :
    ∃ ms : Members String, d = .obj ms ∧ ms.find? "$id" = some (.str (schema.id.identifier base)) := by
  obtain ⟨properties, _, h⟩ := Fault.bind_eq_ok.mp h
  exact ⟨_, (Except.ok.inj h).symm, rfl⟩

/-- What the note of a class makes of the path that decides a field in it, at whatever depth. -/
theorem find?_ref_of_parse {strictness : Strictness} {owner body : String} {first : Int} {found : List Diagnostic}
    (hparse : Hint.Block.parse strictness owner body first = .ok (b, found)) (h : Shared.compile setup here b = .ok c)
    {field : String} {f : Hint.Field} (hf : (field, f) ∈ b.fields) :
    ∃ node, (field, node) ∈ c.schema.properties ∧ ∀ p ∈ origins f node,
      p.2.shown.find? "$ref" = ((decidingPath? p.1).bind fun path =>
        (Reference.resolve setup.base here path.1 path.2).toOption).map fun target => .str target.ref := by
  have hkeyed : Hint.KeyedFields b.fields := (Hint.keyed_of_parse hparse).fields
  rw [shared_compile_eq] at h
  obtain ⟨_, _, hfields, _⟩ := run_of_compile h
  obtain ⟨node, own, hnode, hown, -⟩ := exists_compiled hkeyed.names hfields hf
  refine ⟨node, hnode, fun p hp => ?_⟩
  obtain ⟨_, hran, -⟩ := (traced_compileField _ f hown).ran p hp
  exact (formed_of_compileField (keyed_inherited.mem_origins (hkeyed.fields _ hf) p hp) hran).reference

/-- What the name of a compiled class is good for in other notes at its place. -/
structure Referable (setup : Setup) (here : Location) (name : String) (schema : Class) : Prop where
  /-- As a path the name is resolved to the schema. -/
  resolved : Reference.resolve setup.base here name .schema =
    .ok ⟨schema.id.identifier setup.base, some schema.id, .bare, false⟩
  /-- The name is read as itself, in quotes at least. -/
  quoted : (Value.ofText ("\"" ++ name ++ "\"")).map Value.plain = .ok name
  unquoted : Hint.flag? name.toList = none → Number.numeral? name.toList = none →
    (Value.ofText name).map Value.plain = .ok name
  /-- The document of the schema has the identifier that a field of any note refers to where the name decides it. -/
  identifier : ∀ dialect d, schema.toDocument setup.base dialect = .ok d →
    ∃ ms : Members String, d = .obj ms ∧ ms.find? "$id" = some (.str (schema.id.identifier setup.base))
  siblings : ∀ strictness owner body first b found c, Hint.Block.parse strictness owner body first = .ok (b, found) →
    Shared.compile setup here b = .ok c → ∀ field f, (field, f) ∈ b.fields →
      ∃ node, (field, node) ∈ c.schema.properties ∧
        ∀ p ∈ origins f node, decidingPath? p.1 = some (name, .schema) →
          p.2.shown.find? "$ref" = some (.str (schema.id.identifier setup.base))

/-- Where the folders have plain names, a class can be referred to by its name just if the name is plain too: it
compiles, if its literals can be written, and its schema is what the name is resolved to and what a field with the name
for its reference refers to. -/
theorem compiled_referable_iff (hhere : here.Plain) (setup : Setup) (b : Hint.Block) :
    (blockWritable setup here b = true → ∃ c, Shared.compile setup here b = .ok c ∧
      ∀ dialect, ∃ d, c.schema.toDocument setup.base dialect = .ok d) ∧
    ∀ c, Shared.compile setup here b = .ok c →
      c.schema.id = ⟨here.segment, here.subpath, b.name, .schema⟩ ∧
      ((∃ target, Reference.resolve setup.base here b.name .schema = .ok target ∧ target.artifact = some c.schema.id) ↔
        IsName b.name) ∧
      (IsName b.name → Referable setup here b.name c.schema) := by
  refine ⟨fun hwritable => ?_, fun c h => ?_⟩
  · obtain ⟨c, hc, _⟩ := exists_compile hwritable setup.base .null
    refine ⟨c, (shared_compile_eq setup here b).trans hc, fun dialect => ?_⟩
    obtain ⟨c', hc', hd⟩ := exists_compile hwritable setup.base dialect
    obtain rfl : c' = c := Except.ok.inj (hc'.symm.trans hc)
    exact hd
  · have hid : c.schema.id = here.address b.name .schema :=
      id_of_compile ((shared_compile_eq setup here b).symm.trans h)
    have hresolve := Reference.resolves_to_own_iff hhere setup.base b.name .schema
    rw [← hid] at hresolve
    refine ⟨hid, hresolve, fun hname => ?_⟩
    have hresolved := Reference.resolve_name hhere hname setup.base .schema
    rw [← hid] at hresolved
    refine ⟨hresolved, Hint.plain_ofText_quoted b.name, Hint.plain_ofText_name hname,
      fun dialect d => find?_id_of_toDocument, fun _ _ _ _ _ _ _ hparse hc field f hf => ?_⟩
    obtain ⟨node, hnode, href⟩ := find?_ref_of_parse hparse hc hf
    refine ⟨node, hnode, fun p hp hpath => ?_⟩
    rw [href p hp, hpath, Option.bind_some, hresolved]
    rfl

/-- A class with a title of its own. -/
def addressNote : String := "SCHEMAHINTS\ntitle: Address\n"

/-- A class with a field that refers to the other one by its title. -/
def customerNote : String := "SCHEMAHINTS\nfield home:\n  $ref: Address\n"

theorem address_referable : shop.Plain ∧ ∃ address customer c c',
    Hint.Block.parse .strict "Adr" addressNote 1 = .ok address ∧ address.1.name = "Address" ∧
      Shared.compile shopSetup shop address.1 = .ok c ∧ Referable shopSetup shop "Address" c.schema ∧
      Hint.Block.parse .strict "Customer" customerNote 1 = .ok customer ∧
      Shared.compile shopSetup shop customer.1 = .ok c' ∧ ∃ node, ("home", node) ∈ c'.schema.properties ∧
        node.shown.find? "$ref" = some (.str "https://example.org/schemas/shop/Address.schema.json") := by
  have hplain : shop.Plain := by decide
  have haddress : (Hint.Block.parse .strict "Adr" addressNote 1).toOption.map (fun p =>
      (p.1.name, blockWritable shopSetup shop p.1)) = some ("Address", true) := by decide +kernel
  obtain ⟨address, hparse, hread⟩ := Option.map_eq_some_iff.mp haddress
  obtain ⟨hname, hwritable⟩ := Prod.mk.inj hread
  obtain ⟨hcompiles, hreferable⟩ := compiled_referable_iff hplain shopSetup address.1
  obtain ⟨c, hc, -⟩ := hcompiles hwritable
  obtain ⟨hid, -, hreferable⟩ := hreferable c hc
  rw [hname] at hid hreferable
  have hreferable := hreferable (by decide)
  have hcustomer : (Hint.Block.parse .strict "Customer" customerNote 1).toOption.map (fun p =>
      (p.1.fields.map fun field => (field.1, decidingPath? field.2), blockWritable shopSetup shop p.1)) =
        some ([("home", some ("Address", .schema))], true) := by decide +kernel
  obtain ⟨customer, hparse', hread'⟩ := Option.map_eq_some_iff.mp hcustomer
  obtain ⟨hfields, hwritable'⟩ := Prod.mk.inj hread'
  obtain ⟨⟨field, f⟩, hmem, hfield⟩ := List.mem_map.mp (hfields ▸ List.mem_singleton_self _)
  obtain ⟨rfl, hpath⟩ := Prod.mk.inj hfield
  obtain ⟨c', hc', -⟩ := (compiled_referable_iff hplain shopSetup customer.1).1 hwritable'
  obtain ⟨node, hnode, href⟩ :=
    hreferable.siblings _ _ _ _ _ _ c' (eq_ok_of_toOption hparse') hc' "home" f hmem
  refine ⟨hplain, address, customer, c, c', eq_ok_of_toOption hparse, hname, hc, hreferable,
    eq_ok_of_toOption hparse', hc', node, hnode, ?_⟩
  rw [href (f, node) (self_mem_origins f node) hpath, hid]
  rfl

/-- A class whose title is of two words: as a path they are refused. -/
def postalNote : String := "SCHEMAHINTS\ntitle: Postal Address\n"

theorem postalAddress_unresolved : shop.Plain ∧ ∃ postal c,
    Hint.Block.parse .strict "Adr" postalNote 1 = .ok postal ∧ Shared.compile shopSetup shop postal.1 = .ok c ∧
      c.schema.id = ⟨"shop", [], "Postal Address", .schema⟩ ∧
      Reference.resolve shopSetup.base shop postal.1.name .schema =
        .error ⟨"Postal Address", "invalid path segment 'Postal Address'"⟩ := by
  have hpostal : (Hint.Block.parse .strict "Adr" postalNote 1).toOption.map (fun p =>
      (p.1.name, blockWritable shopSetup shop p.1)) = some ("Postal Address", true) := by decide +kernel
  obtain ⟨postal, hparse, hread⟩ := Option.map_eq_some_iff.mp hpostal
  obtain ⟨hname, hwritable⟩ := Prod.mk.inj hread
  obtain ⟨c, hc, -⟩ := exists_compile hwritable shopSetup.base .null
  refine ⟨by decide, postal, c, eq_ok_of_toOption hparse, (shared_compile_eq ..).trans hc, ?_, ?_⟩
  · rw [id_of_compile hc, idOf, hname]
    rfl
  · rw [hname]
    rfl

end Schema

end NoteSchema
