/-
  GuestPorts/Proofs/Registry/Failure.lean
  =======================================
  **A request to a registry in a file that fails** changes nothing
  (`failed_request_changes_nothing`).

  Writing is the last step of a change, and every step in front of it may fail.  What those
  steps write is the lock, which is never what the path of the document leads to.
-/
import GuestPorts.Proofs.Registry.Refinement

namespace GuestPorts

namespace Store

variable {path : String} {d d' : Disk} {α : Type}

/-- What a change comes to: an error that leaves the file as it was, or an answer, and then the
    file could be read. -/
theorem change_cases (path : String) (d : Disk) (f : Change α) :
    (∃ e d', ((inFile path).change f).result d = (.error e, d') ∧ d'.find path = d.find path) ∨
      ∃ before a d', readFile path d = .ok before ∧
        ((inFile path).change f).result d = (.ok a, d') := by
  rcases takeLock_cases path d with ⟨e, hlock⟩ | ⟨d', hlock, hfind⟩
  · exact .inl ⟨e, d, Effect.bind_of_error hlock _, rfl⟩
  rw [change_of_locked hlock, readFile_congr hfind]
  cases readFile path d with
  | error e => exact .inl ⟨e, d', rfl, hfind⟩
  | ok before =>
    cases hf : f before with
    | error e =>
      simp only [hf]
      exact .inl ⟨.refused e, d', rfl, hfind⟩
    | ok x =>
      obtain ⟨a, after⟩ := x
      simp only [hf]
      rcases hreplace : (Disk.replaceText path Disk.privateMode (document after)).result d' with
        ⟨e | u, d''⟩
      · obtain rfl := Disk.replaceText_error hreplace
        exact .inl ⟨_, _, rfl, hfind⟩
      · exact .inr ⟨before, a, d'', rfl, rfl⟩

/-! ### Requests -/

/-- A request either shows what is loaded or shows what a change answers. -/
theorem run_cases {σ : Type} (store : Store σ) (q : Request) :
    (q.isChange = false ∧ ∃ g : Registry → Answer, q.run store = g <$> store.load) ∨
      (q.isChange = true ∧ ∃ (β : Type) (f : Change β) (g : β → Answer),
        q.run store = g <$> store.change f) := by
  cases q with
  | find vmName => exact .inl ⟨rfl, _, (comp_map (fun r => r.find? vmName) _ store.load).symm⟩
  | load => exact .inl ⟨rfl, _, rfl⟩
  | upsert | merge | remove | replace => exact .inr ⟨rfl, _, _, _, rfl⟩

/-- Bytes that are neither blank nor a registry. -/
def Undecodable (content : List UInt8) : Prop :=
  ∀ cs, Text.decode content = some cs →
    Text.isBlankText cs = false ∧ ∀ r, Registry.parse (String.ofList cs) ≠ .ok r

theorem exists_readFile_eq_error {content : List UInt8} (h : d.bytesAt path = .ok content)
    (hcontent : Undecodable content) : ∃ e, readFile path d = .error e := by
  unfold readFile Disk.textAt
  rw [h, Except.ok_bind]
  cases hdecode : Text.decode content with
  | none => exact ⟨_, rfl⟩
  | some cs =>
    obtain ⟨hblank, hparse⟩ := hcontent cs hdecode
    change ∃ e, readDocument path (String.ofList cs) = .error e
    unfold readDocument
    rw [String.toList_ofList, hblank]
    cases hr : Registry.parse (String.ofList cs) with
    | error e => exact ⟨_, rfl⟩
    | ok r => exact absurd hr (hparse r)

theorem find_load (path : String) (d : Disk) :
    ((inFile path).load.result d).2.find path = d.find path := by
  by_cases hdirectory : d.hasDirectory (Path.directory path) = true
  · rcases load_cases hdirectory with ⟨e, hload⟩ | ⟨d', hload, hfind⟩
    · rw [hload]
    · rw [hload]
      exact hfind
  · rw [load_of_missing (Bool.eq_false_iff.2 hdirectory)]

theorem find_change_of_error {f : Change α} {e : StoreError}
    (h : (((inFile path).change f).result d).1 = .error e) :
    (((inFile path).change f).result d).2.find path = d.find path := by
  rcases change_cases path d f with ⟨e', d', hchange, hfind⟩ | ⟨before, a, d', -, hchange⟩
  · rw [hchange]
    exact hfind
  · rw [hchange] at h
    cases h

theorem load_of_readFile_error {e : StoreError}
    (hdirectory : d.hasDirectory (Path.directory path) = true) (h : readFile path d = .error e) :
    ∃ e', ((inFile path).load.result d).1 = .error e' := by
  rcases load_cases hdirectory with ⟨e', hload⟩ | ⟨d', hload, -⟩
  · exact ⟨e', by rw [hload]⟩
  · exact ⟨e, by rw [hload, h]⟩

theorem change_of_readFile_error {f : Change α} {e : StoreError} (h : readFile path d = .error e) :
    ∃ e', (((inFile path).change f).result d).1 = .error e' := by
  rcases change_cases path d f with ⟨e', d', hchange, -⟩ | ⟨before, a, d', hread, -⟩
  · exact ⟨e', by rw [hchange]⟩
  · rw [h] at hread
    cases hread

theorem change_of_missing (h : d.hasDirectory (Path.directory path) = false) (f : Change α) :
    ((inFile path).change f).result d = (.error (.missingDirectory (Path.directory path)), d) :=
  Effect.bind_of_error (takeLock_of_missing h) _

theorem map_change_of_missing {β : Type} (h : d.hasDirectory (Path.directory path) = false)
    (f : Change α) (g : α → β) : (g <$> (inFile path).change f).result d
      = (.error (.missingDirectory (Path.directory path)), d) := by
  rw [Effect.result_map, change_of_missing h]
  rfl

theorem run_of_readFile_error {q : Request} {e : StoreError}
    (hdirectory : d.hasDirectory (Path.directory path) = true) (h : readFile path d = .error e) :
    ∃ e', ((q.run (inFile path)).result d).1 = .error e' := by
  rcases run_cases (inFile path) q with ⟨-, g, hrun⟩ | ⟨-, β, f, g, hrun⟩
  · obtain ⟨e', hload⟩ := load_of_readFile_error hdirectory h
    exact ⟨e', by rw [hrun, Effect.result_map, hload]; rfl⟩
  · obtain ⟨e', hchange⟩ := change_of_readFile_error h (f := f)
    exact ⟨e', by rw [hrun, Effect.result_map, hchange]; rfl⟩

theorem find_run_of_reads {q : Request} (h : q.isChange = false) :
    ((q.run (inFile path)).result d).2.find path = d.find path := by
  rcases run_cases (inFile path) q with ⟨-, g, hrun⟩ | ⟨hchange, -⟩
  · rw [hrun, Effect.result_map]
    exact find_load path d
  · rw [h] at hchange
    cases hchange

theorem find_run_of_error {q : Request} {e : StoreError}
    (h : ((q.run (inFile path)).result d).1 = .error e) :
    ((q.run (inFile path)).result d).2.find path = d.find path := by
  rcases run_cases (inFile path) q with ⟨-, g, hrun⟩ | ⟨-, β, f, g, hrun⟩
  · rw [hrun, Effect.result_map]
    exact find_load path d
  · rw [hrun, Effect.result_map] at h ⊢
    cases hanswer : (((inFile path).change f).result d).1 with
    | error e' => exact find_change_of_error hanswer
    | ok a =>
      rw [hanswer] at h
      cases h

/-- What a request answers where there is no directory. -/
def Request.withoutDirectory (directory : String) : Request → Except StoreError Answer
  | .find _ => .ok (.found none)
  | .load => .ok (.loaded {})
  | .upsert .. | .merge .. | .remove .. | .replace _ => .error (.missingDirectory directory)

theorem run_of_missing (h : d.hasDirectory (Path.directory path) = false) (q : Request) :
    (q.run (inFile path)).result d = (q.withoutDirectory (Path.directory path), d) := by
  have hload := load_of_missing h
  cases q with
  | find vmName =>
    have hfind : (Request.find vmName).run (inFile path)
        = (fun r => .found (r.find? vmName)) <$> (inFile path).load :=
      (comp_map (fun r : Registry => r.find? vmName) _ _).symm
    rw [hfind, Effect.result_map, hload]
    rfl
  | load => exact (Effect.result_map _ _ _).trans (by rw [hload]; rfl)
  | upsert | merge | remove | replace =>
    exact map_change_of_missing h _ _

end Store

/-- **A request that fails changes nothing.**  Whatever is at the path of the store, it is
    still there when a request is answered by an error, and when a request only shows
    something.  A file that is neither blank nor a registry makes every request fail.  And
    where there is no directory, nothing is kept and nothing comes to be there. -/
theorem failed_request_changes_nothing (path : String) (d : Disk) (q : Store.Request) :
    let out := (q.run (Store.inFile path)).result d
    (∀ e, out.1 = .error e → out.2.find path = d.find path) ∧
      (∀ content, d.bytesAt path = .ok content → Store.Undecodable content →
        ∃ e, out.1 = .error e) ∧
      (q.isChange = false → out.2.find path = d.find path) ∧
      (d.hasDirectory (Path.directory path) = false →
        out = (q.withoutDirectory (Path.directory path), d)) := by
  intro out
  refine ⟨fun e => Store.find_run_of_error, ?_, Store.find_run_of_reads, ?missing⟩
  case missing => exact fun h => Store.run_of_missing h q
  intro content hcontent hundecodable
  obtain ⟨e, hread⟩ := Store.exists_readFile_eq_error hcontent hundecodable
  exact Store.run_of_readFile_error (Disk.hasDirectory_of_bytesAt hcontent) hread

/-- One file is cut off behind its first brace, and one is in no directory. -/
theorem failed_request_changes_nothing_brace :
    let d : Disk := { nodes := [(["var"], .directory), (["var", "ports"], .file [123] 0o644)] }
    let now : Moment := ⟨⟨2024, 3, 9⟩, 14, 5, 0, 0⟩
    let out := ((Store.Request.replace {}).run (Store.inFile "/var/ports")).result d
    ((∃ e, out.1 = .error e) ∧ out.2.bytesAt "/var/ports" = .ok [123]) ∧
      ((Store.Request.upsert { vmName := "spark" } now).run (Store.inFile "/opt/ports")).result d
        = (.error (.missingDirectory "/opt"), d) := by
  intro d now out
  obtain ⟨hkept, hfails, -⟩ := failed_request_changes_nothing "/var/ports" d (.replace {})
  have hundecodable : Store.Undecodable [123] := by
    intro cs hcs
    obtain rfl : ['{'] = cs := Option.some.inj (Eq.trans (by decide +kernel) hcs)
    refine ⟨rfl, fun r hr => ?_⟩
    have hfault : (Registry.parse (String.ofList ['{'])).toOption = none := by decide +kernel
    rw [hr] at hfault
    cases hfault
  obtain ⟨e, herror⟩ := hfails [123] (by decide +kernel) hundecodable
  refine ⟨⟨⟨e, herror⟩, ?_⟩, ?_⟩
  · unfold Disk.bytesAt
    rw [hkept e herror]
    decide +kernel
  · exact (failed_request_changes_nothing "/opt/ports" d _).2.2.2 (by decide +kernel)

end GuestPorts
