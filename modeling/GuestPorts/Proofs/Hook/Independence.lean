/-
  GuestPorts/Proofs/Hook/Independence.lean
  ========================================
  **Action, declaration and mode decide what handling an event does**, and nothing that is
  written down does (`handling_is_decided`).

  What a service does is seen by watching it: everything that it asks of its store, its runner
  and its audit is noted before it is done (`Service.watched`).  Two services that agree on the
  parts that matter do the same; the states of one are then seen in those of the other, whatever
  its audit answers (`Service.Along`).  There are six ways in which a service handles an event
  (`Handled`), and a run of it is made of them (`Follows`).  A service that keeps apart what it
  writes down agrees with one that writes nothing down, so what its audit answers is all the
  same.
-/
import GuestPorts.Proofs.Batch.Fate
import GuestPorts.Proofs.Hook.Handling
import GuestPorts.Proofs.Registry.Refinement

namespace GuestPorts

/-! ### Actions as words -/

/-- The actions that drive rules have these words and no others. -/
theorem Action.drivesRules_parse_iff (raw : String) :
    (Action.parse raw).drivesRules = true ↔
      Text.trimmed raw ∈ ["start", "stopped", "reconnect"] := by
  have htable : ∀ e ∈ table, e.2.drivesRules = true ↔ e.1 ∈ ["start", "stopped", "reconnect"] := by
    decide
  unfold parse
  generalize Text.trimmed raw = word
  simp only []
  cases hlookup : table.lookup word with
  | some a =>
    obtain ⟨_, _, hsplit, -⟩ := List.lookup_eq_some_iff.1 hlookup
    apply htable (word, a)
    rw [hsplit]
    simp
  | none =>
    constructor
    · nofun
    · simp only [List.mem_cons, List.not_mem_nil, or_false]
      rintro (rfl | rfl | rfl) <;> cases hlookup

/-! ### Batches along a map of states -/

namespace Batch

variable {σ τ : Type} {f : σ → τ} {run : Command → Effect σ RunnerError Unit}
  {run' : Command → Effect τ RunnerError Unit}

/-- A batch does the same to the states that are seen in others when each command does. -/
theorem executeFrom_map (h : ∀ c s, (run' c).result (f s) = Prod.map id f ((run c).result s))
    (p : Progress) (batch : Batch) (s : σ) :
    executeFrom run' p batch (f s) = Prod.map id f (executeFrom run p batch s) := by
  induction batch generalizing p s with
  | nil => rfl
  | cons c rest ih =>
    simp only [executeFrom]
    by_cases hskip : p.skips c.stage = true
    · rw [if_pos hskip, if_pos hskip, ih]
      rfl
    · rw [if_neg hskip, if_neg hskip, h]
      rcases (run c).result s with ⟨⟨⟩ | e, s'⟩
      · simp only [Prod.map, id, ih]
      · simp only [Prod.map, id, ih]

end Batch

namespace Hook

/-! ### Watching a service -/

inductive Ask where
  | recordEvent (vmName : String) (a : Action) (now : Moment)
  | load
  | change
  | recordCommands (lines : List String)
  | run (c : Command)
  deriving DecidableEq, Repr

def noted {σ ε α : Type} (ask : Ask) (e : Effect σ ε α) : Effect (σ × List Ask) ε α :=
  Effect.ofFunction fun x =>
    let (r, s) := e.result x.1
    (r, s, x.2 ++ [ask])

theorem result_noted {σ ε α : Type} (ask : Ask) (e : Effect σ ε α) (x : σ × List Ask) :
    (noted ask e).result x = Prod.map id (·, x.2 ++ [ask]) (e.result x.1) := rfl

namespace Service

variable {σ τ ω ρ : Type}

/-- The service, with what it has asked so far. -/
def watched (svc : Service σ) : Service (σ × List Ask) where
  store :=
    { load := noted .load svc.store.load
      change := fun f => noted .change (svc.store.change f) }
  runner :=
    { program := svc.runner.program
      run := fun c => noted (.run c) (svc.runner.run c) }
  audit :=
    { recordEvent := fun vmName a now =>
        noted (.recordEvent vmName a now) (svc.audit.recordEvent vmName a now)
      recordCommands := fun lines => noted (.recordCommands lines) (svc.audit.recordCommands lines) }
  mode := svc.mode

/-- A store and a runner in one world, and an audit that keeps what it writes apart from it. -/
def ofParts (store : Store ω) (runner : Runner ω) (audit : Audit ρ) (mode : Mode) :
    Service (ω × ρ) where
  store := store.within Prod.fst fun w x => (w, x.2)
  runner := runner.within Prod.fst fun w x => (w, x.2)
  audit := audit.within Prod.snd fun r x => (x.1, r)
  mode := mode

/-- The service of these parts that writes nothing down. -/
def silent (store : Store ω) (runner : Runner ω) (mode : Mode) : Service ω where
  store := store
  runner := runner
  audit :=
    { recordEvent := fun _ _ _ => pure ()
      recordCommands := fun _ => pure () }
  mode := mode

/-! ### Services that agree -/

/-- A service does what another one does, seen through a map of their states; but what their
    audits answer may be different. -/
structure Along (f : σ → τ) (svc : Service σ) (svc' : Service τ) : Prop where
  load : ∀ s, svc'.store.load.result (f s) = Prod.map id f (svc.store.load.result s)
  change : ∀ {α : Type} (g : Change α) s,
    (svc'.store.change g).result (f s) = Prod.map id f ((svc.store.change g).result s)
  program : svc'.runner.program = svc.runner.program
  run : ∀ c s, (svc'.runner.run c).result (f s) = Prod.map id f ((svc.runner.run c).result s)
  recordEvent : ∀ vmName a now s,
    ((svc'.audit.recordEvent vmName a now).result (f s)).2
      = f ((svc.audit.recordEvent vmName a now).result s).2
  recordCommands : ∀ lines s,
    ((svc'.audit.recordCommands lines).result (f s)).2
      = f ((svc.audit.recordCommands lines).result s).2
  mode : svc'.mode = svc.mode

theorem along_watched (svc : Service σ) : Along Prod.fst svc.watched svc where
  load := fun _ => rfl
  change := fun _ _ => rfl
  program := rfl
  run := fun _ _ => rfl
  recordEvent := fun _ _ _ _ => rfl
  recordCommands := fun _ _ => rfl
  mode := rfl

theorem along_ofParts (store : Store ω) (runner : Runner ω) (audit : Audit ρ) (mode : Mode) :
    Along Prod.fst (ofParts store runner audit mode) (silent store runner mode) where
  load := fun _ => rfl
  change := fun _ _ => rfl
  program := rfl
  run := fun _ _ => rfl
  recordEvent := fun _ _ _ _ => rfl
  recordCommands := fun _ _ => rfl
  mode := rfl

namespace Along

variable {f : σ → τ} {svc : Service σ} {svc' : Service τ}

/-- They agree when they are watched, and so on what they ask. -/
theorem watched (h : Along f svc svc') : Along (Prod.map f id) svc.watched svc'.watched where
  load := fun x => by
    simp only [Service.watched, result_noted, Prod.map_fst, Prod.map_snd, h.load]
    rfl
  change := fun g x => by
    simp only [Service.watched, result_noted, Prod.map_fst, Prod.map_snd, h.change]
    rfl
  program := h.program
  run := fun c x => by
    simp only [Service.watched, result_noted, Prod.map_fst, Prod.map_snd, h.run]
    rfl
  recordEvent := fun vmName a now x => by
    simp only [Service.watched, result_noted, Prod.map_fst, Prod.map_snd, h.recordEvent]
    rfl
  recordCommands := fun lines x => by
    simp only [Service.watched, result_noted, Prod.map_fst, Prod.map_snd, h.recordCommands]
    rfl
  mode := h.mode

theorem find (h : Along f svc svc') (vmName : String) (s : σ) :
    (svc'.store.find vmName).result (f s) = Prod.map id f ((svc.store.find vmName).result s) := by
  rw [Store.result_find, Store.result_find, h.load]
  rfl

theorem carryOut (h : Along f svc svc') (batch : Batch) (s : σ) :
    (svc'.carryOut batch).result (f s) = Prod.map id f ((svc.carryOut batch).result s) := by
  have hwritten : svc'.written batch (f s) = f (svc.written batch s) := by
    unfold written
    rw [h.program]
    exact h.recordCommands (batch.render svc.runner.program) s
  cases hmode : svc.mode with
  | record =>
    rw [carryOut_of_record hmode, carryOut_of_record (h.mode.trans hmode), hwritten]
    rfl
  | apply =>
    rw [carryOut_of_apply hmode, carryOut_of_apply (h.mode.trans hmode), hwritten]
    unfold Batch.execute
    rw [Batch.executeFrom_map h.run]
    rfl

/-- **Handling an event** comes to the same. -/
theorem handle (h : Along f svc svc') (vmName : String) (a : Action) (now : Moment) (s : σ) :
    (svc'.handle vmName a now).result (f s)
      = Prod.map id f ((svc.handle vmName a now).result s) := by
  have hlogged : svc'.logged vmName a now (f s) = f (svc.logged vmName a now s) :=
    h.recordEvent vmName a now s
  cases ha : a.drivesRules with
  | false =>
    rw [handle_of_inert svc vmName ha, handle_of_inert svc' vmName ha, hlogged]
    rfl
  | true =>
    have hfind' := h.find vmName (svc.logged vmName a now s)
    rw [← hlogged] at hfind'
    rcases hfind : (svc.store.find vmName).result (svc.logged vmName a now s) with
      ⟨e | found, s'⟩
    · rw [hfind] at hfind'
      rw [handle_of_unreadable ha hfind, handle_of_unreadable ha hfind']
      rfl
    rw [hfind] at hfind'
    cases found with
    | none =>
      rw [handle_of_undeclared ha hfind, handle_of_undeclared ha hfind']
      rfl
    | some d =>
      cases hcompile : d.compile a with
      | error e =>
        rw [handle_of_refused hfind ha hcompile, handle_of_refused hfind' ha hcompile]
        rfl
      | ok batch =>
        rw [handle_of_batch hfind ha hcompile, handle_of_batch hfind' ha hcompile]
        exact h.carryOut batch s'

/-- **A request** comes to the same. -/
theorem request (h : Along f svc svc') (q : Store.Request) (s : σ) :
    (q.run svc'.store).result (f s) = Prod.map id f ((q.run svc.store).result s) := by
  cases q with
  | find vmName =>
    simp only [Store.Request.run, Effect.result_map, h.find]
    rfl
  | load =>
    simp only [Store.Request.run, Effect.result_map, h.load]
    rfl
  | upsert d now =>
    simp only [Store.Request.run, Store.upsert, Effect.result_map, h.change]
    rfl
  | merge update now =>
    simp only [Store.Request.run, Store.merge, Effect.result_map, h.change]
    rfl
  | remove vmName now =>
    simp only [Store.Request.run, Store.remove, Effect.result_map, h.change]
    rfl
  | replace r =>
    simp only [Store.Request.run, Store.replace, Effect.result_map, h.change]
    rfl

end Along

end Service

/-! ### Runs -/

/-- What comes to a service and its store; `now` is the time at which an event comes. -/
inductive Turn where
  | event (vmName : String) (a : Action) (now : Moment)
  | request (q : Store.Request)
  deriving DecidableEq, Repr

inductive Reply where
  | handled (x : Except DispatchError Outcome)
  | answered (x : Except StoreError Store.Answer)

def Turn.run {σ : Type} (svc : Service σ) (s : σ) : Turn → Reply × σ
  | .event vmName a now => ((svc.handle vmName a now).result s).map .handled id
  | .request q => ((q.run svc.store).result s).map .answered id

def Service.runAll {σ : Type} (svc : Service σ) : List Turn → σ → List Reply × σ
  | [], s => ([], s)
  | t :: rest, s =>
    let (reply, s) := t.run svc s
    let (replies, s) := svc.runAll rest s
    (reply :: replies, s)

section Along

variable {σ τ : Type} {f : σ → τ} {svc : Service σ} {svc' : Service τ}

theorem Service.Along.turn (h : Along f svc svc') (t : Turn) (s : σ) :
    t.run svc' (f s) = Prod.map id f (t.run svc s) := by
  cases t with
  | event vmName a now =>
    simp only [Turn.run, h.handle]
    rfl
  | request q =>
    simp only [Turn.run, h.request]
    rfl

/-- **Services that agree reply the same to any turns**, in states that stay the same. -/
theorem Service.Along.runAll (h : Along f svc svc') (turns : List Turn) (s : σ) :
    svc'.runAll turns (f s) = Prod.map id f (svc.runAll turns s) := by
  induction turns generalizing s with
  | nil => rfl
  | cons t rest ih =>
    simp only [Service.runAll, h.turn, Prod.map_fst, Prod.map_snd, ih]
    rfl

end Along

/-! ### What a run comes to -/

section Handling

variable {σ : Type}

/-- **The ways to handle an event**: the outcome, what is asked, and the state behind it.  The
    event is written down once, before the store is asked; commands are written down once,
    before any is run; and those are run that the batch attempts, if the mode is to apply them.
    The states tell nothing of whether the writing has succeeded. -/
inductive Handled (svc : Service σ) (vmName : String) (a : Action) (now : Moment) (s : σ) :
    Except DispatchError Outcome → List Ask → σ → Prop
  | ignored (ha : a.drivesRules = false) :
    Handled svc vmName a now s (.ok .ignored) [.recordEvent vmName a now]
      (svc.logged vmName a now s)
  | unreadable {e : StoreError} {s' : σ} (ha : a.drivesRules = true)
    (hfind : (svc.store.find vmName).result (svc.logged vmName a now s) = (.error e, s')) :
    Handled svc vmName a now s (.error (.store e)) [.recordEvent vmName a now, .load] s'
  | undeclared {s' : σ} (ha : a.drivesRules = true)
    (hfind : (svc.store.find vmName).result (svc.logged vmName a now s) = (.ok none, s')) :
    Handled svc vmName a now s (.ok .undeclared) [.recordEvent vmName a now, .load] s'
  | refused {d : Declaration} {e : CompileError} {s' : σ} (ha : a.drivesRules = true)
    (hfind : (svc.store.find vmName).result (svc.logged vmName a now s) = (.ok (some d), s'))
    (hcompile : d.compile a = .error e) :
    Handled svc vmName a now s (.error (.compile e)) [.recordEvent vmName a now, .load] s'
  | recorded {d : Declaration} {batch : Batch} {s' : σ} (ha : a.drivesRules = true)
    (hfind : (svc.store.find vmName).result (svc.logged vmName a now s) = (.ok (some d), s'))
    (hcompile : d.compile a = .ok batch) (hmode : svc.mode = .record) :
    Handled svc vmName a now s (.ok (.recorded batch))
      [.recordEvent vmName a now, .load, .recordCommands (batch.render svc.runner.program)]
      (svc.written batch s')
  | applied {d : Declaration} {batch : Batch} {s' : σ} (ha : a.drivesRules = true)
    (hfind : (svc.store.find vmName).result (svc.logged vmName a now s) = (.ok (some d), s'))
    (hcompile : d.compile a = .ok batch) (hmode : svc.mode = .apply) :
    Handled svc vmName a now s
      (.ok (.applied (batch.execute svc.runner (svc.written batch s')).1))
      ([.recordEvent vmName a now, .load, .recordCommands (batch.render svc.runner.program)]
        ++ (Batch.attempts (batch.entries svc.runner (svc.written batch s'))).map .run)
      (batch.execute svc.runner (svc.written batch s')).2

/-- What the turns of a run come to, one after the other. -/
inductive Follows (svc : Service σ) : List Turn → σ → List Reply → List Ask → σ → Prop
  | done (s : σ) : Follows svc [] s [] [] s
  | event {vmName : String} {a : Action} {now : Moment} {s s' s'' : σ}
    {x : Except DispatchError Outcome} {asks : List Ask} {turns : List Turn}
    {replies : List Reply} {later : List Ask}
    (h : Handled svc vmName a now s x asks s') (hrest : Follows svc turns s' replies later s'') :
    Follows svc (.event vmName a now :: turns) s (.handled x :: replies) (asks ++ later) s''
  | request {q : Store.Request} {s s'' : σ} {turns : List Turn} {replies : List Reply}
    {later : List Ask}
    (hrest : Follows svc turns ((q.run svc.store).result s).2 replies later s'') :
    Follows svc (.request q :: turns) s (.answered ((q.run svc.store).result s).1 :: replies)
      ((if q.isChange then .change else .load) :: later) s''

/-- The runner that is watched notes what is attempted. -/
theorem execute_watched (svc : Service σ) (batch : Batch) (s : σ) (asks : List Ask) :
    batch.execute svc.watched.runner (s, asks)
      = ((batch.execute svc.runner s).1, (batch.execute svc.runner s).2,
          asks ++ (Batch.attempts (batch.entries svc.runner s)).map .run) := by
  let note (x : σ × List Command) : σ × List Ask := (x.1, asks ++ x.2.map .run)
  have hnote : ∀ c x, (svc.watched.runner.run c).result (note x)
      = Prod.map id note ((svc.runner.recorded.run c).result x) := by
    intro c x
    have hasks : (asks ++ x.2.map .run) ++ [.run c] = asks ++ (x.2 ++ [c]).map Ask.run := by simp
    exact Prod.ext rfl (Prod.ext rfl hasks)
  have hforget : ∀ c x, (svc.runner.run c).result (Prod.fst x)
      = Prod.map id Prod.fst ((svc.runner.recorded.run c).result x) := fun _ _ => rfl
  have hstate := Batch.execute_recorded svc.runner batch s
  have hreport := congrArg Prod.fst (Batch.executeFrom_map hforget {} batch (s, []))
  calc
    batch.execute svc.watched.runner (s, asks)
        = batch.execute svc.watched.runner (note (s, [])) := by simp [note]
    _ = Prod.map id note (batch.execute svc.runner.recorded (s, [])) :=
      Batch.executeFrom_map hnote {} batch (s, [])
    _ = _ := by
      rw [Prod.map, hstate]
      exact congrArg (·, _) hreport.symm

/-- **An event is handled in one of these ways.** -/
theorem exists_handled (svc : Service σ) (vmName : String) (a : Action) (now : Moment) (s : σ)
    (before : List Ask) : ∃ x asks s', Handled svc vmName a now s x asks s' ∧
      (svc.watched.handle vmName a now).result (s, before) = (x, (s', before ++ asks)) := by
  let asked := before ++ [.recordEvent vmName a now]
  have hlogged : svc.watched.logged vmName a now (s, before)
      = (svc.logged vmName a now s, asked) := rfl
  have hfind : (svc.watched.store.find vmName).result (svc.watched.logged vmName a now (s, before))
      = Prod.map id (·, asked ++ [.load])
          ((svc.store.find vmName).result (svc.logged vmName a now s)) := by
    rw [Store.result_find, Store.result_find]
    rfl
  cases ha : a.drivesRules with
  | false =>
    refine ⟨_, _, _, .ignored ha, ?_⟩
    rw [Service.handle_of_inert svc.watched vmName ha, hlogged]
  | true =>
    rcases hs : (svc.store.find vmName).result (svc.logged vmName a now s) with ⟨e | found, s'⟩
    · rw [hs] at hfind
      refine ⟨_, _, _, .unreadable ha hs, ?_⟩
      rw [Service.handle_of_unreadable ha hfind, List.append_assoc]
      rfl
    rw [hs] at hfind
    cases found with
    | none =>
      refine ⟨_, _, _, .undeclared ha hs, ?_⟩
      rw [Service.handle_of_undeclared ha hfind, List.append_assoc]
      rfl
    | some d =>
      cases hcompile : d.compile a with
      | error e =>
        refine ⟨_, _, _, .refused ha hs hcompile, ?_⟩
        rw [Service.handle_of_refused hfind ha hcompile, List.append_assoc]
        rfl
      | ok batch =>
        have hhandle := Service.handle_of_batch hfind ha hcompile
        have hwritten : svc.watched.written batch (s', asked ++ [.load])
            = (svc.written batch s', before ++ [.recordEvent vmName a now, .load,
                .recordCommands (batch.render svc.runner.program)]) := by
          refine Prod.ext rfl ?_
          simp [asked, Service.written, Service.watched, result_noted]
        cases hmode : svc.mode with
        | record =>
          have hwatched : svc.watched.mode = .record := hmode
          refine ⟨_, _, _, .recorded ha hs hcompile hmode, ?_⟩
          rw [hhandle, Service.carryOut_of_record hwatched, hwritten]
        | apply =>
          have hwatched : svc.watched.mode = .apply := hmode
          refine ⟨_, _, _, .applied ha hs hcompile hmode, ?_⟩
          rw [hhandle, Service.carryOut_of_apply hwatched, hwritten, execute_watched,
            List.append_assoc]

/-- A request is one question to the store that is watched. -/
theorem request_watched (svc : Service σ) (q : Store.Request) (s : σ) (before : List Ask) :
    (q.run svc.watched.store).result (s, before)
      = Prod.map id (·, before ++ [if q.isChange then .change else .load])
          ((q.run svc.store).result s) := by
  cases q with
  | find vmName =>
    simp only [Store.Request.run, Effect.result_map, Store.result_find]
    rfl
  | load =>
    simp only [Store.Request.run, Effect.result_map]
    rfl
  | upsert | merge | remove | replace =>
    simp only [Store.Request.run, Store.upsert, Store.merge, Store.remove, Store.replace,
      Effect.result_map]
    rfl

theorem exists_follows (svc : Service σ) (turns : List Turn) (s : σ) (before : List Ask) :
    ∃ replies asks s', Follows svc turns s replies asks s' ∧
      svc.watched.runAll turns (s, before) = (replies, (s', before ++ asks)) := by
  induction turns generalizing s before with
  | nil => exact ⟨[], [], s, .done s, by simp [Service.runAll]⟩
  | cons t rest ih =>
    cases t with
    | event vmName a now =>
      obtain ⟨x, asks, s', hhandled, hhandle⟩ := exists_handled svc vmName a now s before
      obtain ⟨replies, later, s'', hrest, hrun⟩ := ih s' (before ++ asks)
      refine ⟨_, _, s'', .event hhandled hrest, ?_⟩
      simp only [Service.runAll, Turn.run, hhandle, Prod.map, id, hrun, List.append_assoc]
    | request q =>
      obtain ⟨replies, later, s'', hrest, hrun⟩ := ih ((q.run svc.store).result s).2
        (before ++ [if q.isChange then .change else .load])
      refine ⟨_, _, s'', .request hrest, ?_⟩
      have hrequest := request_watched svc q s before
      simp only [Service.runAll, Turn.run, hrequest, Prod.map, id, hrun, List.append_assoc,
        List.singleton_append]

end Handling

end Hook

open Hook in
/-- **Handling events is decided by action, declaration and mode.**  Whatever comes to a service
    in between, it handles each event in one of the ways of `Handled`.  If it keeps what it
    writes down apart from the rest, its store and its runner go through one run, that of the
    service which writes nothing down, with every audit and however often that fails. -/
theorem handling_is_decided :
    (∀ raw, (Action.parse raw).drivesRules = true ↔
      Text.trimmed raw ∈ ["start", "stopped", "reconnect"]) ∧
    (∀ {σ : Type} (svc : Service σ) (turns : List Turn) (s : σ), ∃ replies asks s',
      Follows svc turns s replies asks s' ∧ svc.runAll turns s = (replies, s') ∧
        svc.watched.runAll turns (s, []) = (replies, (s', asks))) ∧
    ∀ {ω : Type} (store : Store ω) (runner : Runner ω) (mode : Mode) (turns : List Turn) (w : ω),
      ∃ replies asks w', Follows (Service.silent store runner mode) turns w replies asks w' ∧
        ∀ {ρ : Type} (audit : Audit ρ) (r : ρ),
          let svc := Service.ofParts store runner audit mode
          ∃ r', svc.runAll turns (w, r) = (replies, (w', r')) ∧
            svc.watched.runAll turns ((w, r), []) = (replies, ((w', r'), asks)) := by
  refine ⟨Action.drivesRules_parse_iff, ?_, ?_⟩
  · intro σ svc turns s
    obtain ⟨replies, asks, s', hfollows, hrun⟩ := exists_follows svc turns s []
    have hplain := svc.along_watched.runAll turns (s, [])
    rw [hrun] at hplain
    exact ⟨replies, asks, s', hfollows, hplain, hrun⟩
  · intro ω store runner mode turns w
    obtain ⟨replies, asks, w', hfollows, hsilent⟩ :=
      exists_follows (Service.silent store runner mode) turns w []
    refine ⟨replies, asks, w', hfollows, ?_⟩
    intro ρ audit r svc
    have hquiet := (Service.along_ofParts store runner audit mode).watched.runAll turns ((w, r), [])
    have hplain := svc.along_watched.runAll turns ((w, r), [])
    rcases hrun : svc.watched.runAll turns ((w, r), []) with ⟨replies', ⟨w'', r'⟩, asks'⟩
    rw [hrun] at hquiet hplain
    have heq := hsilent.symm.trans hquiet
    simp only [List.nil_append, Prod.map, id, Prod.mk.injEq] at heq
    obtain ⟨rfl, rfl, rfl⟩ := heq
    exact ⟨r', hplain, rfl⟩

end GuestPorts
