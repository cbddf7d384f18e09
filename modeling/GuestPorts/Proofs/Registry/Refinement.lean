/-
  GuestPorts/Proofs/Registry/Refinement.lean
  ==========================================
  **A registry in a file is as good as one in memory** (`file_refines_memory`): whatever is
  asked, the answers are the same, and behind every change the file is the document of what
  would be in memory.

  The file is read anew at every request, so what carries a run is that it reads to the
  registry in memory (`Store.Holds`).  A change keeps that because what it leaves comes back
  from its document as it is (`Registry.Canonical`); taking the lock keeps it because the
  lock is another file.
-/
import GuestPorts.Proofs.Registry.Access
import GuestPorts.Proofs.Registry.RoundTrip

namespace GuestPorts

/-! ### Changes keep registries in their normal form -/

/-- The interface, if there is one, is not blank and has no blanks around it. -/
def Declaration.Trimmed (d : Declaration) : Prop :=
  ∀ i ∈ d.interface, Text.isBlankText i.toList = false ∧ Text.trimmed i = i

namespace Declaration

variable {d update : Declaration} {now : Moment}

theorem Trimmed.normalized_eq (h : d.Trimmed) : d.normalized = d := by
  unfold normalized
  cases hi : d.interface with
  | none => rw [Option.bind_none, ← hi]
  | some i =>
    obtain ⟨hblank, htrimmed⟩ := h i hi
    have hne : Text.trim i.toList ≠ [] := by
      intro hempty
      have hall := List.all_eq_true.2 (Text.trim_eq_nil_iff.1 hempty)
      exact Bool.noConfusion (hblank.symm.trans hall)
    have htidy : tidy i = some i := by
      unfold tidy
      rw [if_neg hne, htrimmed]
    rw [Option.bind_some, htidy, ← hi]

theorem canonical_stamped (h : d.normalized = d) (hnow : now.Valid) :
    ({ d with lastUpdated := some now } : Declaration).Canonical where
  normalized_eq := by
    have hinterface : d.interface.bind tidy = d.interface := congrArg interface h
    unfold normalized
    rw [hinterface]
  dated := by
    intro t ht
    cases ht
    exact hnow

theorem normalized_absorb (h : d.normalized = d) (hupdate : update.normalized = update) :
    (d.absorb update).normalized = d.absorb update := by
  have hinterface : (d.absorb update).interface.bind tidy = (d.absorb update).interface := by
    cases hi : update.interface with
    | none =>
      have hd : d.interface.bind tidy = d.interface := congrArg interface h
      simpa [absorb, hi] using hd
    | some i =>
      have hu : update.interface.bind tidy = update.interface := congrArg interface hupdate
      rw [hi] at hu
      simpa [absorb, hi] using hu
  unfold normalized
  rw [hinterface]

end Declaration

namespace Registry

variable {r r' : Registry} {d : Declaration} {now : Moment}

theorem mem_of_mem_putFirst {x : Declaration} {es : List Declaration} (h : x ∈ putFirst d es) :
    x = d ∨ x ∈ es := by
  induction es with
  | nil => exact .inl (List.mem_singleton.1 h)
  | cons e rest ih =>
    unfold putFirst at h
    split at h
    · rcases List.mem_cons.1 h with rfl | hrest
      · exact .inl rfl
      · exact .inr (List.mem_cons_of_mem e hrest)
    · rcases List.mem_cons.1 h with rfl | hrest
      · exact .inr List.mem_cons_self
      · exact (ih hrest).imp_right (List.mem_cons_of_mem e)

namespace Canonical

theorem empty : ({} : Registry).Canonical := ⟨nofun, nofun⟩

theorem put (h : r.Canonical) (hd : d.Canonical) (hnow : now.Valid) :
    ({ entries := putFirst d r.entries, lastUpdated := some now } : Registry).Canonical where
  entries := by
    intro x hx
    rcases mem_of_mem_putFirst hx with rfl | hold
    · exact hd
    · exact h.entries x hold
  lastUpdated := by
    intro t ht
    cases ht
    exact hnow

theorem upsert (h : r.Canonical) (hd : d.Trimmed) (hnow : now.Valid)
    (hr : r.upsert d now = .ok r') : r'.Canonical := by
  obtain ⟨_, -, hr⟩ := Except.bind_eq_ok.1 hr
  cases hr
  exact h.put (Declaration.canonical_stamped hd.normalized_eq hnow) hnow

theorem mergedEntry (h : r.Canonical) (hd : d.Trimmed) (hnow : now.Valid) :
    (r.mergedEntry d now).Canonical := by
  unfold Registry.mergedEntry
  cases hfind : r.find? d.vmName with
  | none => exact Declaration.canonical_stamped hd.normalized_eq hnow
  | some e =>
    have he : e.Canonical := h.entries e (List.mem_of_find?_eq_some hfind)
    exact Declaration.canonical_stamped
      (Declaration.normalized_absorb he.normalized_eq hd.normalized_eq) hnow

theorem merge {x : Registry × Declaration} (h : r.Canonical) (hd : d.Trimmed) (hnow : now.Valid)
    (hr : r.merge d now = .ok x) : x.1.Canonical := by
  obtain ⟨_, -, hr⟩ := Except.bind_eq_ok.1 hr
  cases hr
  exact h.put (h.mergedEntry hd hnow) hnow

theorem remove (h : r.Canonical) (vmName : String) (hnow : now.Valid) :
    (r.remove vmName now).1.Canonical := by
  unfold Registry.remove
  simp only []
  split
  · exact h
  · refine ⟨fun x hx => h.entries x (List.mem_filter.1 hx).1, fun t ht => ?_⟩
    cases ht
    exact hnow

end Canonical

end Registry

namespace Store

variable {σ α : Type} {path : String} {d : Disk} {r : Registry}

/-! ### What is in the file -/

/-- No document is blank: it starts with a brace. -/
theorem isBlankText_document (r : Registry) : Text.isBlankText (document r).toList = false := by
  obtain ⟨name, value, tail, hdoc⟩ : ∃ name value tail,
      r.toDoc = .object (.cons name value tail) := ⟨_, _, _, rfl⟩
  unfold document Registry.text Json.Doc.text
  rw [hdoc, String.toList_append, String.toList_ofList]
  unfold Json.Doc.pretty
  rfl

theorem readDocument_document (h : r.Canonical) : readDocument path (document r) = .ok r := by
  unfold readDocument
  rw [isBlankText_document, parse_document h.dated, h.normalized_eq]
  rfl

/-- The file and its lock can be written, and the registry in the file is this one. -/
structure Holds (path : String) (d : Disk) (r : Registry) : Prop where
  directory : d.hasDirectory (Path.directory path) = true
  document : ∃ place, d.LeadsTo path place
  lock : ∃ place, d.LeadsTo (Path.lockBeside path) place
  readFile_eq : readFile path d = .ok r
  canonical : r.Canonical

/-- The file answers as the memory does, and holds afterwards what is then in memory. -/
structure Agree {β : Type} (path : String) (file : β × Disk) (memory : β × Registry) : Prop where
  answer_eq : file.1 = memory.1
  holds : Holds path file.2 memory.2

/-- And if the answer is not an error, the file is the document of what is in memory. -/
structure Written (path : String) (file : Except StoreError α × Disk)
    (memory : Except StoreError α × Registry) : Prop extends Agree path file memory where
  textAt_eq : ∀ a, file.1 = .ok a → file.2.textAt path = .ok (Store.document memory.2)

section Map

variable {β : Type} {file : Effect Disk StoreError α} {memory : Effect Registry StoreError α}

theorem Agree.map (g : α → β) (h : Agree path (file.result d) (memory.result r)) :
    Agree path ((g <$> file).result d) ((g <$> memory).result r) := by
  rw [Effect.result_map, Effect.result_map]
  exact ⟨congrArg (Except.map g) h.answer_eq, h.holds⟩

theorem Written.map (g : α → β) (h : Written path (file.result d) (memory.result r)) :
    Written path ((g <$> file).result d) ((g <$> memory).result r) where
  toAgree := h.toAgree.map g
  textAt_eq := by
    rw [Effect.result_map, Effect.result_map]
    intro b hb
    cases ha : (file.result d).1 with
    | error e =>
      rw [ha] at hb
      cases hb
    | ok a => exact h.textAt_eq a ha

end Map

namespace Holds

/-- Writing any file leaves everything that can be written as it was. -/
theorem put_file {place : Place} {content : List UInt8} {mode : Nat} {after : Registry}
    (h : Holds path d r) (hne : place ≠ []) (hplain : d.at? place ≠ some .directory)
    (hread : readFile path (d.put place (.file content mode)) = .ok after)
    (hafter : after.Canonical) : Holds path (d.put place (.file content mode)) after where
  directory := Disk.hasDirectory_put hne hplain h.directory
  document := h.document.imp fun _ hplace => hplace.put hne hplain content mode
  lock := h.lock.imp fun _ hplace => hplace.put hne hplain content mode
  readFile_eq := hread
  canonical := hafter

/-- **The lock is beside the file**, which is as it was when the lock is taken. -/
theorem takeLock (h : Holds path d r) :
    ∃ d', (takeLock path).result d = (.ok (), d') ∧ Holds path d' r := by
  obtain ⟨place, hplace⟩ := h.lock
  obtain ⟨content, mode, htouch, -⟩ := hplace.touch_eq
  have hread := readFile_congr (Disk.find_congr (Disk.locate_touchLock htouch))
  refine ⟨d.put place (.file content mode), ?_,
    h.put_file hplace.place_ne_nil hplace.notDirectory (hread.trans h.readFile_eq) h.canonical⟩
  rw [takeLock_of_directory h.directory]
  exact Effect.wrap_of_ok htouch

theorem load (h : Holds path d r) :
    Agree path ((inFile path).load.result d) (inMemory.load.result r) := by
  obtain ⟨d', hlock, h'⟩ := h.takeLock
  have hload : (inFile path).load.result d = (readFile path d', d') := by
    rw [load_of_directory h.directory]
    exact Effect.bind_of_ok hlock _
  rw [hload, h'.readFile_eq]
  exact ⟨rfl, h'⟩

/-- The document of a registry is in its file, and reads to the registry. -/
theorem replaceText {after : Registry} (h : Holds path d r) (hafter : after.Canonical) :
    ∃ d', (Disk.replaceText path Disk.privateMode (Store.document after)).result d = (.ok (), d') ∧
      d'.textAt path = .ok (Store.document after) ∧ Holds path d' after := by
  obtain ⟨place, hplace⟩ := h.document
  have hne := hplace.place_ne_nil
  have hplain := hplace.notDirectory
  refine ⟨_, hplace.replaceText_eq Disk.privateMode (Store.document after), ?_⟩
  have htext := (hplace.put hne hplain (Text.encode (Store.document after).toList)
    Disk.privateMode).textAt_eq_ok (Disk.at?_put hne _)
  refine ⟨htext, h.put_file hne hplain ?_ hafter⟩
  unfold readFile
  rw [htext]
  exact readDocument_document hafter

/-- **A change in the file is the one in memory**, and the file is then the document of what is
    in memory. -/
theorem change {f : Change α} (h : Holds path d r)
    (hf : ∀ a after, f r = .ok (a, after) → after.Canonical) :
    Written path (((inFile path).change f).result d) ((inMemory.change f).result r) := by
  obtain ⟨d', hlock, h'⟩ := h.takeLock
  rw [change_of_locked hlock, h'.readFile_eq]
  unfold inMemory
  simp only
  cases hr : f r with
  | error e =>
    simp only [Effect.result, hr]
    refine ⟨⟨rfl, h'⟩, ?_⟩
    intro a ha
    cases ha
  | ok x =>
    obtain ⟨a, after⟩ := x
    obtain ⟨d'', hreplace, htext, h''⟩ := h'.replaceText (hf a after hr)
    unfold Effect.result at hreplace
    simp only [Effect.result, hr, hreplace]
    exact ⟨⟨rfl, h''⟩, fun _ _ => htext⟩

end Holds

/-! ### Requests -/

/-- What a store can be asked; `now` is the time at which it is asked. -/
inductive Request where
  | find (vmName : String)
  | load
  | upsert (d : Declaration) (now : Moment)
  | merge (update : Declaration) (now : Moment)
  | remove (vmName : String) (now : Moment)
  | replace (r : Registry)
  deriving DecidableEq, Repr

/-- What a store answers. -/
inductive Answer where
  | found (d : Option Declaration)
  | loaded (r : Registry)
  | done
  | merged (d : Declaration)
  | removed (wasThere : Bool)
  deriving DecidableEq, Repr

namespace Request

def run (store : Store σ) : Request → Effect σ StoreError Answer
  | .find vmName => .found <$> store.find vmName
  | .load => .loaded <$> store.load
  | .upsert d now => (fun _ => .done) <$> store.upsert d now
  | .merge update now => .merged <$> store.merge update now
  | .remove vmName now => .removed <$> store.remove vmName now
  | .replace r => (fun _ => .done) <$> store.replace r

def isChange : Request → Bool
  | .find _ | .load => false
  | .upsert .. | .merge .. | .remove .. | .replace _ => true

/-- Every interface that comes with a request is trimmed and not blank, and every time is one
    that the calendar and a clock can show. -/
def Tidy : Request → Prop
  | .find _ | .load => True
  | .upsert d now | .merge d now => d.Trimmed ∧ now.Valid
  | .remove _ now => now.Valid
  | .replace r => (∀ d ∈ r.entries, d.Trimmed) ∧ r.Dated

end Request

section Requests

variable {q : Request}

theorem Holds.change_request (h : Holds path d r) (hq : q.Tidy) (hchange : q.isChange = true) :
    Written path ((q.run (inFile path)).result d) ((q.run inMemory).result r) := by
  cases q with
  | find vmName => cases hchange
  | load => cases hchange
  | upsert x now =>
    refine Written.map _ (h.change fun a after hr => ?_)
    obtain ⟨r', hr', hr⟩ := Except.bind_eq_ok.1 hr
    cases hr
    exact h.canonical.upsert hq.1 hq.2 hr'
  | merge update now =>
    refine Written.map _ (h.change fun a after hr => ?_)
    obtain ⟨x, hx, hr⟩ := Except.bind_eq_ok.1 hr
    cases hr
    exact h.canonical.merge hq.1 hq.2 hx
  | remove vmName now =>
    refine Written.map _ (h.change fun a after hr => ?_)
    cases hr
    exact h.canonical.remove vmName hq
  | replace r' =>
    refine Written.map _ (h.change fun a after hr => ?_)
    cases hr
    exact ⟨fun x hx => ⟨(hq.1 x hx).normalized_eq, hq.2.1 x hx⟩, hq.2.2⟩

/-- **One request**: the answer is the same, and what is kept stays the same. -/
theorem Holds.request (h : Holds path d r) (hq : q.Tidy) :
    Agree path ((q.run (inFile path)).result d) ((q.run inMemory).result r) := by
  cases q with
  | find vmName => exact Agree.map _ (Agree.map _ h.load)
  | load => exact Agree.map _ h.load
  | upsert | merge | remove | replace => exact (h.change_request hq rfl).toAgree

/-- The answers to some requests, one after the other, and what is there behind them. -/
def runAll (store : Store σ) : List Request → σ → List (Except StoreError Answer) × σ
  | [], s => ([], s)
  | q :: rest, s =>
    let (answer, s') := (q.run store).result s
    let (answers, s'') := runAll store rest s'
    (answer :: answers, s'')

/-- **Any requests**, one after the other. -/
theorem Holds.requests {qs : List Request} (h : Holds path d r) (hqs : ∀ q ∈ qs, q.Tidy) :
    Agree path (runAll (inFile path) qs d) (runAll inMemory qs r) := by
  induction qs generalizing d r with
  | nil => exact ⟨rfl, h⟩
  | cons q rest ih =>
    obtain ⟨hq, hrest⟩ := List.forall_mem_cons.1 hqs
    obtain ⟨hanswer, h'⟩ := h.request hq
    obtain ⟨hanswers, h''⟩ := ih h' hrest
    exact ⟨congrArg₂ List.cons hanswer hanswers, h''⟩

end Requests

/-! ### From the first request on -/

/-- A directory in which a registry can be kept, and in which there is none yet. -/
structure Ready (path : String) (d : Disk) : Prop where
  directory : d.hasDirectory (Path.directory path) = true
  canReplace : ((Disk.replaceText path Disk.privateMode "").result d).1 = .ok ()
  canLock : ((Disk.touch (Path.lockBeside path)).result d).1 = .ok ()
  absentOrBlank : d.textAt path = .error .notFound ∨
    ∃ text, d.textAt path = .ok text ∧ Text.isBlankText text.toList = true

theorem Ready.holds (h : Ready path d) : Holds path d {} where
  directory := h.directory
  document := Disk.exists_leadsTo_of_replaceText h.canReplace
  lock := Disk.exists_leadsTo_of_touch h.canLock
  readFile_eq := by
    unfold readFile
    rcases h.absentOrBlank with habsent | ⟨text, htext, hblank⟩
    · rw [habsent]
    · rw [htext]
      exact if_pos hblank
  canonical := .empty

end Store

/-- **A registry in a file is as good as one in memory.**  Whatever requests come, the answers
    are the same; and behind every change that succeeds the text of the file is the document of
    the registry that would be in memory. -/
theorem file_refines_memory {path : String} {d : Disk} (h : Store.Ready path d)
    (requests : List Store.Request) (htidy : ∀ q ∈ requests, q.Tidy) :
    (Store.runAll (Store.inFile path) requests d).1
        = (Store.runAll Store.inMemory requests {}).1 ∧
      ∀ before q after, requests = before ++ q :: after → q.isChange = true →
        let file := (q.run (Store.inFile path)).result
          (Store.runAll (Store.inFile path) before d).2
        let memory := (q.run Store.inMemory).result (Store.runAll Store.inMemory before {}).2
        ∀ answer, file.1 = .ok answer →
          file.2.textAt path = .ok (Store.document memory.2) := by
  refine ⟨(h.holds.requests htidy).answer_eq, ?_⟩
  rintro before q after rfl hchange file memory answer hanswer
  obtain ⟨hbefore, hq, -⟩ := List.forall_mem_append.1 htidy |>.imp_right List.forall_mem_cons.1
  exact ((h.holds.requests hbefore).holds.change_request hq hchange).textAt_eq answer hanswer

/-- The file is blank at first; a name that is not usable is refused in both stores. -/
theorem file_refines_memory_spark :
    let d : Disk := { nodes := [(["var"], .directory), (["var", "ports"], .file [32, 10] 0o644)] }
    let now : Moment := ⟨⟨2024, 3, 9⟩, 14, 5, 0, 0⟩
    let first : Store.Request := .upsert { vmName := "spark", interface := some "br0" } now
    let rest : List Store.Request :=
      [.upsert { vmName := "no name" } now, .merge { vmName := "ember" } now,
        .remove "spark" now, .replace {}, .find "spark"]
    Store.Ready "/var/ports" d ∧ (∀ q ∈ first :: rest, q.Tidy) ∧
      (Store.runAll (Store.inFile "/var/ports") (first :: rest) d).1
        = (Store.runAll Store.inMemory (first :: rest) {}).1 ∧
      ((first.run (Store.inFile "/var/ports")).result d).2.textAt "/var/ports"
        = .ok (Store.document ((first.run Store.inMemory).result {}).2) := by
  intro d now first rest
  have hready : Store.Ready "/var/ports" d := by
    refine ⟨by decide +kernel, by decide +kernel, by decide +kernel, .inr ⟨" \n", ?_⟩⟩
    decide +kernel
  have hnow : now.Valid := by decide
  have htidy : ∀ q ∈ first :: rest, q.Tidy := by
    have hfirst : first.Tidy := by
      refine ⟨fun i hi => ?_, hnow⟩
      cases hi
      decide +kernel
    have hreplace : (Store.Request.replace {}).Tidy := ⟨nofun, nofun, nofun⟩
    simp only [rest, List.forall_mem_cons]
    exact ⟨hfirst, ⟨nofun, hnow⟩, ⟨nofun, hnow⟩, hnow, hreplace, trivial, nofun⟩
  obtain ⟨hanswers, htext⟩ := file_refines_memory hready (first :: rest) htidy
  refine ⟨hready, htidy, hanswers, htext [] first rest rfl rfl .done ?_⟩
  decide +kernel

end GuestPorts
