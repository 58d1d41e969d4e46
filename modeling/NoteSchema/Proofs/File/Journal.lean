import NoteSchema.Proofs.File.Alike
import NoteSchema.Proofs.File.Kept

namespace NoteSchema

/-- The content of the file at a place. -/
def FileTree.content? (t : FileTree) (q : Place) : Option Text.Bytes :=
  match t.find? q with
  | some (.file content) => some content
  | _ => none

/-- One thing that is asked of a writer: a text, checked or not, or the text of a document, its members sorted or not. -/
inductive WriteCall
  | text (path : FilePath) (content : String) (checked : Bool)
  | document (path : FilePath) (d : Document) (sorted : Bool)

namespace WriteCall

def path : WriteCall → FilePath
  | text p _ _ => p
  | document p _ _ => p

def content : WriteCall → String
  | text _ content _ => content
  | document _ d sorted => if sorted then Json.sortedText d else Json.text d

def check (standard : Check) : WriteCall → Check
  | text _ _ false => Check.none
  | _ => standard

end WriteCall

namespace Store

variable {s s' s'' : Store} {check : Check} {p : FilePath} {content : String} {log : List (FilePath × String)}
  {q : Place}

def call (standard : Check) (s : Store) (c : WriteCall) : Except WriteFailure Unit × Store :=
  s.write (c.check standard) c.path c.content

/-- Calls answered one after another; one that fails does not keep the next from being tried. -/
def callAll (standard : Check) (s : Store) : List WriteCall → List (Except WriteFailure Unit) × Store
  | [] => ([], s)
  | c :: calls =>
    let (answer, s) := s.call standard c
    let (answers, s) := callAll standard s calls
    (answer :: answers, s)

/-- What was written by the calls that went well, in order. -/
def landed : List WriteCall → List (Except WriteFailure Unit) → List (FilePath × String)
  | c :: calls, .ok () :: answers => (c.path, c.content) :: landed calls answers
  | _ :: calls, .error _ :: answers => landed calls answers
  | _, _ => []

/-- The bytes that were written to a place last. -/
def lastAt (t : FileTree) (log : List (FilePath × String)) (q : Place) : Option Text.Bytes :=
  (log.filter fun e => t.placeOf e.1 = q).getLast?.map fun e => Text.Utf8.encode e.2

theorem lastAt_concat (t : FileTree) (log : List (FilePath × String)) (p : FilePath) (content : String) (q : Place) :
    lastAt t (log ++ [(p, content)]) q = if t.placeOf p = q then some (Text.Utf8.encode content) else lastAt t log q := by
  rw [lastAt, List.filter_append]
  split
  next h => simp [h]
  next h => simp [h, lastAt]

/-- What one call does. A call that goes well puts its content where its path leads; beside that, and where it fails, all
that can be new are the folders that lead there. -/
structure Answered (s : Store) (c : WriteCall) (answer : Except WriteFailure Unit) (s' : Store) : Prop where
  sound : s'.tree.Sound
  home : s'.tree.home = s.tree.home
  written : s'.written = s.written ++ (landed [c] [answer]).map (·.1)
  holds : answer = .ok () → s'.tree.read c.path = .ok (Text.Utf8.encode c.content)
  rest : ∀ q, (answer = .ok () → q ≠ s.tree.placeOf c.path) → s'.tree.find? q = s.tree.find? q ∨
    s.tree.find? q = none ∧ s'.tree.find? q = some .folder ∧
      q ∈ FileTree.way (s.tree.origin c.path.anchor) c.path.parent.names

/-- New folders are no content. -/
theorem content?_eq {t t' : FileTree} (h : t'.find? q = t.find? q ∨ t.find? q = none ∧ t'.find? q = some .folder) :
    t'.content? q = t.content? q := by
  rcases h with hsame | ⟨hnone, hfolder⟩
  · rw [FileTree.content?, hsame]
    rfl
  · rw [FileTree.content?, FileTree.content?, hnone, hfolder]

/-- What has landed is found at the end of its path. -/
theorem locate_of_lands {t : FileTree} (hl : s.Lands check p content) (hw : s.tree.Wrote t p content) :
    t.locate p = .ok (s.tree.placeOf p, .file (Text.Utf8.encode content)) := by
  obtain ⟨_, hmade⟩ := makeFolders_made s.tree p.parent
  obtain ⟨dest, hdest, hno⟩ := hl.fit.slot
  have hway : s.tree.reach (s.tree.origin p.parent.anchor) p.parent.names =
      FileTree.way (s.tree.origin p.anchor) p.parent.names := FileTree.reach_of_open hl.way
  rw [hway] at hmade
  generalize (s.tree.makeFolders p.parent).2 = made at hmade hdest hno
  obtain ⟨rfl, _⟩ := FileTree.placeOf_of_slot hdest
  have hplace : made.placeOf p = s.tree.placeOf p := congrArg (FileTree.endOf · p.names) (hmade.origin p.anchor)
  rw [hplace] at hno
  have hfolders : ∀ q, made.find? q = some .folder → t.find? q = some .folder := by
    intro q hq
    have hne : q ≠ s.tree.placeOf p := by
      rintro rfl
      exact hno hq
    rw [hw.find?, if_neg hne, ← hmade.find?, hq]
  have hfile : t.find? (s.tree.placeOf p) = some (.file (Text.Utf8.encode content)) := by rw [hw.find?, if_pos rfl]
  have horigin : t.origin p.anchor = made.origin p.anchor := by
    rw [FileTree.origin, FileTree.origin, hw.home, hmade.home]
  rw [← hplace] at hfile ⊢
  obtain ⟨anchor, names⟩ := p
  cases names using List.reverseRecOn with
  | nil => simp [FileTree.slot] at hdest
  | append_singleton front name =>
    obtain ⟨hs, hup, hfits, hsplit⟩ := FileTree.stands_of_slot hdest
    rw [FileTree.locate, FileTree.start_eq, horigin, FileTree.follow_append, FileTree.follow_of_stands (hs.mono hfolders)]
    rw [hsplit] at hfile ⊢
    simp [Except.bind, FileTree.follow, Entry.isFile, hup, hfits, hfile]

theorem read_of_locate {t : FileTree} {bytes : Text.Bytes} (h : t.locate p = .ok (q, .file bytes)) : t.read p = .ok bytes := by
  rw [FileTree.read, h]

theorem content?_of_locate {t : FileTree} {bytes : Text.Bytes} (h : t.locate p = .ok (q, .file bytes)) :
    t.content? (t.placeOf p) = some bytes := by
  obtain ⟨rfl, hfound⟩ := FileTree.placeOf_of_locate h
  rw [FileTree.content?, hfound]

theorem call_answered (hs : s.tree.Sound) (standard : Check) (c : WriteCall) :
    Answered s c (s.call standard c).1 (s.call standard c).2 := by
  cases hw : s.call standard c with
  | mk answer s' =>
    cases answer with
    | error e =>
      obtain ⟨_, hsound, hwritten, _, places, hmade, hreach, _⟩ := made_of_error hs hw
      refine ⟨hsound, hmade.home, by simp [hwritten, landed], nofun, fun q _ => ?_⟩
      exact (hmade.rest q).imp_right fun hnew => ⟨hnew.1, hnew.2.1, FileTree.reach_subset_way (hreach hnew.2.2)⟩
    | ok done =>
      obtain ⟨hlands, hsound, hwrote, hwritten, _⟩ := wrote_of_ok hs hw
      exact ⟨hsound, hwrote.home, by simp [hwritten, landed],
        fun _ => read_of_locate (locate_of_lands hlands hwrote), fun q hq => hwrote.rest (hq rfl)⟩

/-- What a store comes to from another one after contents have been written to paths, one after another. -/
structure Journal (s s' : Store) (log : List (FilePath × String)) : Prop where
  sound : s'.tree.Sound
  home : s'.tree.home = s.tree.home
  written : s'.written = s.written ++ log.map (·.1)
  content : ∀ q, s'.tree.content? q = (lastAt s.tree log q).or (s.tree.content? q)
  folders : ∀ q, s.tree.find? q = some .folder → s'.tree.find? q = some .folder
  located : ∀ e ∈ log, ∃ bytes, s'.tree.locate e.1 = .ok (s.tree.placeOf e.1, .file bytes)

theorem find?_of_content? {t : FileTree} {bytes : Text.Bytes} (h : t.content? q = some bytes) :
    t.find? q = some (.file bytes) := by
  unfold FileTree.content? at h
  split at h
  next hfound =>
    cases h
    exact hfound
  next => cases h

namespace Journal

/-- A path to a file goes on leading to one. -/
theorem locate (h : Journal s s' log) {bytes : Text.Bytes} (hl : s.tree.locate p = .ok (s.tree.placeOf p, .file bytes)) :
    ∃ bytes, s'.tree.locate p = .ok (s.tree.placeOf p, .file bytes) := by
  have hcontent := h.content (s.tree.placeOf p)
  rw [content?_of_locate hl] at hcontent
  obtain ⟨bytes', hbytes⟩ : ∃ bytes', (lastAt s.tree log (s.tree.placeOf p)).or (some bytes) = some bytes' := by
    cases lastAt s.tree log (s.tree.placeOf p) with
    | none => exact ⟨bytes, rfl⟩
    | some last => exact ⟨last, rfl⟩
  exact ⟨bytes', FileTree.locate_of_kept hl h.home h.folders (find?_of_content? (hcontent.trans hbytes))⟩

theorem new (hs : s.tree.Sound) : Journal s s [] where
  sound := hs
  home := rfl
  written := (List.append_nil _).symm
  content _ := rfl
  folders _ h := h
  located _ he := absurd he List.not_mem_nil

theorem placeOf (h : Journal s s' log) (p : FilePath) : s'.tree.placeOf p = s.tree.placeOf p := by
  rw [FileTree.placeOf, FileTree.placeOf, FileTree.origin, FileTree.origin, h.home]

/-- Content that has been written is the last at its place. -/
theorem landed (h : Journal s s' log) (hw : s'.write check p content = (.ok (), s'')) :
    Journal s s'' (log ++ [(p, content)]) := by
  obtain ⟨hlands, hsound, hwrote, hwritten, _⟩ := wrote_of_ok h.sound hw
  have hfolders : ∀ q, s'.tree.find? q = some .folder → s''.tree.find? q = some .folder := by
    intro q hq
    have hne : q ≠ s'.tree.placeOf p := by
      rintro rfl
      exact hlands.not_folder hq
    exact hwrote.kept hq hne
  refine ⟨hsound, hwrote.home.trans h.home, by simp [hwritten, h.written], fun q => ?_, fun q hq => hfolders q (h.folders q hq),
    fun e he => ?_⟩
  · rw [lastAt_concat]
    by_cases hq : q = s'.tree.placeOf p
    · rw [FileTree.content?, hwrote.find?, if_pos hq, if_pos (hq.trans (h.placeOf p)).symm]
      rfl
    · rw [content?_eq ((hwrote.rest hq).imp_right fun hnew => ⟨hnew.1, hnew.2.1⟩), h.content,
        if_neg fun heq => hq (heq.symm.trans (h.placeOf p).symm)]
  · rcases List.mem_append.mp he with he | he
    · obtain ⟨bytes, hlocate⟩ := h.located e he
      by_cases hq : s.tree.placeOf e.1 = s'.tree.placeOf p
      · exact ⟨_, FileTree.locate_of_kept hlocate hwrote.home hfolders (hq ▸ hwrote.landed)⟩
      · obtain ⟨_, hfound⟩ := FileTree.placeOf_of_locate hlocate
        exact ⟨bytes, FileTree.locate_of_kept hlocate hwrote.home hfolders (hwrote.kept hfound hq)⟩
    · obtain rfl := List.mem_singleton.mp he
      exact ⟨_, h.placeOf p ▸ locate_of_lands hlands hwrote⟩

/-- A failure leaves the files as they were. -/
theorem refused (h : Journal s s' log) {e : WriteFailure} (hw : s'.write check p content = (.error e, s'')) :
    Journal s s'' log := by
  obtain ⟨_, hsound, hwritten, _, places, hmade, _⟩ := made_of_error h.sound hw
  refine ⟨hsound, hmade.home.trans h.home, hwritten.trans h.written, fun q => ?_, fun q hq => hmade.kept (h.folders q hq),
    fun e he => ?_⟩
  · rw [content?_eq ((hmade.rest q).imp_right fun hnew => ⟨hnew.1, hnew.2.1⟩), h.content]
  · obtain ⟨bytes, hlocate⟩ := h.located e he
    exact ⟨bytes, FileTree.locate_of_stays hlocate hmade.home (fun q hq => hmade.kept hq) fun _ hc => hmade.kept hc⟩

end Journal

theorem call_journal (h : Journal s s' log) (standard : Check) (c : WriteCall) :
    Journal s (s'.call standard c).2 (log ++ landed [c] [(s'.call standard c).1]) := by
  cases hw : s'.call standard c with
  | mk answer s'' =>
    cases answer with
    | error e => simpa [landed] using h.refused hw
    | ok done => exact h.landed hw

theorem landed_cons (c : WriteCall) (calls : List WriteCall) (answer : Except WriteFailure Unit)
    (answers : List (Except WriteFailure Unit)) :
    landed (c :: calls) (answer :: answers) = landed [c] [answer] ++ landed calls answers := by
  cases answer <;> rfl

/-- After all calls the store has what the calls that went well have written. -/
theorem callAll_journal (h : Journal s s' log) (standard : Check) (calls : List WriteCall) :
    Journal s (s'.callAll standard calls).2 (log ++ landed calls (s'.callAll standard calls).1) := by
  induction calls generalizing s' log with
  | nil => simpa [callAll, landed] using h
  | cons c calls ih =>
    have hrest := ih (call_journal h standard c)
    rw [List.append_assoc] at hrest
    rw [callAll, landed_cons]
    exact hrest

theorem callAll_append (standard : Check) (s : Store) (before after : List WriteCall) :
    s.callAll standard (before ++ after) =
      ((s.callAll standard before).1 ++ ((s.callAll standard before).2.callAll standard after).1,
        ((s.callAll standard before).2.callAll standard after).2) := by
  induction before generalizing s with
  | nil => rfl
  | cons c before ih => simp only [List.cons_append, callAll, ih]

theorem length_callAll (standard : Check) (s : Store) (calls : List WriteCall) :
    (s.callAll standard calls).1.length = calls.length := by
  induction calls generalizing s with
  | nil => rfl
  | cons c calls ih => simp only [callAll, List.length_cons, ih]

theorem locate_of_read {t : FileTree} {bytes : Text.Bytes} (h : t.read p = .ok bytes) :
    t.locate p = .ok (t.placeOf p, .file bytes) := by
  unfold FileTree.read at h
  split at h
  next hlocate =>
    cases h
    rw [hlocate, (FileTree.placeOf_of_locate hlocate).1]
  next => cases h
  next => cases h

/-- However its calls end, a writer leaves every file whole. Each call on the way does just what it should: one that goes
well puts its content in place, one that fails changes no file, and neither leaves anything beside folders. In the end the
paths written are those of the calls that went well, in order, and every place holds what was written to it last, or
what it held before. -/
theorem calls_atomic (hs : s.tree.Sound) (standard : Check) (calls : List WriteCall) :
    (∀ before c after, calls = before ++ c :: after →
      ∃ answer, (s.callAll standard calls).1[before.length]? = some answer ∧
        Answered (s.callAll standard before).2 c answer (s.callAll standard (before ++ [c])).2) ∧
    (s.callAll standard calls).1.length = calls.length ∧
    (s.callAll standard calls).2.written =
      s.written ++ (landed calls (s.callAll standard calls).1).map (·.1) ∧
    (∀ q, (s.callAll standard calls).2.tree.content? q =
      (lastAt s.tree (landed calls (s.callAll standard calls).1) q).or (s.tree.content? q)) ∧
    ∀ p, p ∈ (landed calls (s.callAll standard calls).1).map (·.1) ∨ (∃ bytes, s.tree.read p = .ok bytes) →
      ∃ bytes, (s.callAll standard calls).2.tree.content? (s.tree.placeOf p) = some bytes ∧
        (s.callAll standard calls).2.tree.read p = .ok bytes := by
  have hall := callAll_journal (.new hs) standard calls
  rw [List.nil_append] at hall
  refine ⟨?_, length_callAll standard s calls, hall.written, hall.content, fun p hp => ?_⟩
  · rintro before c after rfl
    have hbefore := callAll_journal (.new hs) standard before
    refine ⟨((s.callAll standard before).2.call standard c).1, ?_, ?_⟩
    · rw [callAll_append, ← length_callAll standard s before, List.getElem?_append_right (Nat.le_refl _), Nat.sub_self]
      rfl
    · rw [callAll_append]
      exact call_answered hbefore.sound standard c
  · have hfound : ∃ bytes, (s.callAll standard calls).2.tree.locate p = .ok (s.tree.placeOf p, .file bytes) := by
      rcases hp with hp | ⟨bytes, hread⟩
      · obtain ⟨e, he, rfl⟩ := List.mem_map.mp hp
        exact hall.located e he
      · exact hall.locate (locate_of_read hread)
    obtain ⟨bytes, hlocate⟩ := hfound
    exact ⟨bytes, hall.placeOf p ▸ content?_of_locate hlocate, read_of_locate hlocate⟩

/-- A file and a folder. -/
def exampleStore : Store where
  tree := ⟨[], [(["a"], .file [0x5B, 0x5D]), (["d"], .folder)]⟩
  stamps := ["1", "2"]

/-- Good and bad texts, to a file, to a folder and below a file. -/
def exampleCalls : List WriteCall :=
  [.text ⟨.relative, ["a"]⟩ "[1]" true, .text ⟨.relative, ["a"]⟩ "[" true, .document ⟨.relative, ["d"]⟩ .null false,
    .document ⟨.relative, ["a", "b"]⟩ .null false, .text ⟨.root, ["d", "e", "..", "f"]⟩ "no" false,
    .document ⟨.relative, ["d", "..", "a"]⟩ (.bool true) true]

theorem exampleCalls_atomic :
    exampleStore.tree.Sound ∧
      (exampleStore.callAll Check.json exampleCalls).2.written =
        [⟨.relative, ["a"]⟩, ⟨.root, ["d", "e", "..", "f"]⟩, ⟨.relative, ["d", "..", "a"]⟩] ∧
      (exampleStore.callAll Check.json exampleCalls).2.tree.content? ["a"] = some (Text.Utf8.encode "true\n") ∧
      (exampleStore.callAll Check.json exampleCalls).2.tree.content? ["d", "f"] = some (Text.Utf8.encode "no") := by
  have hs : exampleStore.tree.Sound := .of_entries rfl (by decide)
  obtain ⟨_, _, hwritten, hcontent, _⟩ := calls_atomic hs Check.json exampleCalls
  exact ⟨hs, hwritten.trans (by decide), (hcontent ["a"]).trans (by decide),
    (hcontent ["d", "f"]).trans (by decide)⟩

end Store

end NoteSchema
