/-
  GuestPorts/Proofs/Perimeter/Requests.lean
  =========================================
  **What a call asks of the rule file**, step by step, when any step may fail.

  A rule file is watched (`RuleFile.watched`): what is asked of it is noted beside its state,
  with the answer.  The service does not notice (`Service.after_watched`), so what is noted is
  what it asks of the file itself.

  A call reads first.  It writes only when the text is to become another one, and it reloads
  only behind a write that has succeeded (`Conduct`).  Nothing is written while the text is
  being made, so the rules of a guest come into the file together or not at all
  (`Service.requests_follow_changes`).
-/
import GuestPorts.Proofs.Perimeter.Guests

namespace GuestPorts.Perimeter

variable {σ : Type}

/-! ### Requests -/

inductive Request where
  | read (answer : Except Fault String)
  | write (text : String) (answer : Except Fault Unit)
  | reload (answer : Except Fault Unit)
  deriving DecidableEq

def Request.isReload : Request → Bool
  | .reload _ => true
  | _ => false

def Request.isWritten : Request → Bool
  | .write _ (.ok ()) => true
  | _ => false

/-- A step that is written down with its answer, behind what was asked before. -/
def noted {α : Type} (request : Except Fault α → Request) (e : Effect σ Fault α) :
    Effect (σ × List Request) Fault α :=
  Effect.ofFunction fun s =>
    ((e.result s.1).1, (e.result s.1).2, s.2 ++ [request (e.result s.1).1])

def RuleFile.watched (file : RuleFile σ) : RuleFile (σ × List Request) where
  read := noted .read file.read
  write t := noted (.write t) (file.write t)
  reload := noted .reload file.reload
  guard := Effect.within Prod.fst (fun s x => (s, x.2)) file.guard

/-- A rule file with a text in it.  Any of its steps may fail; only a write that succeeds changes
    the text. -/
structure RuleFile.Holds (file : RuleFile σ) (text : σ → String) : Prop where
  read : ∀ s, text (file.read.result s).2 = text s
  read_ok : ∀ s t s', file.read.result s = (.ok t, s') → t = text s
  write_ok : ∀ s t s', (file.write t).result s = (.ok (), s') → text s' = t
  write_error : ∀ s t e s', (file.write t).result s = (.error e, s') → text s' = text s
  reload : ∀ s, text (file.reload.result s).2 = text s

theorem RuleFile.Keeps.holds {file : RuleFile σ} {view : σ → View} (hf : file.Keeps view) :
    file.Holds fun s => (view s).text where
  read s := congrArg View.text (hf.read s)
  read_ok := hf.read_ok
  write_ok s t s' h := congrArg View.text (hf.write_ok s t s' h)
  write_error s t e s' h := congrArg View.text (hf.write_error s t e s' h)
  reload s := by
    rcases h : file.reload.result s with ⟨e | u, s'⟩
    · exact congrArg View.text (hf.reload_error s e s' h)
    · have hs' := hf.reload_ok s s' h
      exact (congrArg View.text hs').trans rfl

/-- **How a call may end** that is to make something of a text: its answer, what it asks, and the
    text behind it. -/
inductive Conduct (t : String) (made : Except Fault String) :
    Except Fault Bool → List Request → String → Prop where
  | unread (e : Fault) : Conduct t made (.error e) [.read (.error e)] t
  /-- Without rules to work with, not even the text is asked for. -/
  | refused (e : Fault) (asked : List Request) (hmade : made = .error e)
      (hasked : asked = [] ∨ asked = [.read (.ok t)]) : Conduct t made (.error e) asked t
  | unchanged (hmade : made = .ok t) : Conduct t made (.ok false) [.read (.ok t)] t
  | unwritten (e : Fault) (t' : String) (hmade : made = .ok t') (hne : t' ≠ t) :
      Conduct t made (.error e) [.read (.ok t), .write t' (.error e)] t
  | unloaded (e : Fault) (t' : String) (hmade : made = .ok t') (hne : t' ≠ t) :
      Conduct t made (.error e) [.read (.ok t), .write t' (.ok ()), .reload (.error e)] t'
  | loaded (t' : String) (hmade : made = .ok t') (hne : t' ≠ t) :
      Conduct t made (.ok true) [.read (.ok t), .write t' (.ok ()), .reload (.ok ())] t'

namespace Conduct

variable {t t' : String} {made : Except Fault String} {answer : Except Fault Bool}
  {asked : List Request}

/-- **A call reloads as often as it writes.** -/
theorem countP_eq (h : Conduct t made answer asked t') :
    asked.countP Request.isReload = asked.countP Request.isWritten := by
  cases h with
  | unread => rfl
  | refused e asked hmade hasked =>
    rcases hasked with rfl | rfl
    · rfl
    · rfl
  | unchanged => rfl
  | unwritten => rfl
  | unloaded => rfl
  | loaded => rfl

/-- The text is the old one, or all that was to be made of it. -/
theorem eq_or_made (h : Conduct t made answer asked t') : t' = t ∨ made = .ok t' := by
  cases h with
  | unread => exact .inl rfl
  | refused => exact .inl rfl
  | unchanged => exact .inl rfl
  | unwritten => exact .inl rfl
  | unloaded _ _ hmade => exact .inr hmade
  | loaded _ hmade => exact .inr hmade

end Conduct

/-! ### Watching -/

/-- A step with this outcome and its watched form, which notes these requests besides. -/
structure Watches {α : Type} (e : Effect σ Fault α) (e' : Effect (σ × List Request) Fault α) (s : σ)
    (outcome : Except Fault α × σ) (asked : List Request) : Prop where
  result_eq : e.result s = outcome
  watched_eq : ∀ log, e'.result (s, log) = (outcome.1, outcome.2, log ++ asked)

namespace Watches

variable {α β : Type} {e : Effect σ Fault α} {e' : Effect (σ × List Request) Fault α}
  {f : α → Effect σ Fault β} {f' : α → Effect (σ × List Request) Fault β} {s s₁ : σ}
  {outcome : Except Fault β × σ} {asked asked' : List Request}

theorem noted (request : Except Fault α → Request) {r : Except Fault α}
    (h : e.result s = (r, s₁)) : Watches e (noted request e) s (r, s₁) [request r] where
  result_eq := h
  watched_eq log := by
    change ((e.result s).1, (e.result s).2, log ++ [request (e.result s).1]) = _
    rw [h]

theorem ofExcept {r r' : Except Fault α} (h : r = r') (s : σ) :
    Watches (Effect.ofExcept r) (Effect.ofExcept r) s (r', s) [] where
  result_eq := by rw [Effect.result_ofExcept, h]
  watched_eq log := by rw [List.append_nil, h]; rfl

theorem bind (h : Watches e e' s (.ok a, s₁) asked)
    (hf : Watches (f a) (f' a) s₁ outcome asked') :
    Watches (e >>= f) (e' >>= f') s outcome (asked ++ asked') where
  result_eq := by rw [Effect.bind_of_ok h.result_eq, hf.result_eq]
  watched_eq log := by
    rw [Effect.bind_of_ok (h.watched_eq log), hf.watched_eq, List.append_assoc]

theorem bind_error {x : Fault} (h : Watches e e' s (.error x, s₁) asked) :
    Watches (e >>= f) (e' >>= f') s (.error x, s₁) asked where
  result_eq := Effect.bind_of_error h.result_eq f
  watched_eq log := Effect.bind_of_error (h.watched_eq log) f'

end Watches

/-! ### One update -/

/-- The steps of an update in one row. -/
theorem RuleFile.update_eq (file : RuleFile σ) (transform : String → Except Fault String) :
    file.update transform = do
      file.guard
      let before ← file.read
      let after ← Effect.ofExcept (transform before)
      if after = before then return false
      file.write after
      file.reload
      return true := by
  unfold update edit
  simp only [bind_assoc]
  congr! 6 with _ before after
  split <;> simp

namespace RuleFile.Holds

variable {file : RuleFile σ} {text : σ → String}

/-- Another text is written, and then it is loaded. -/
theorem put (hf : file.Holds text) {s : σ} {t' : String} (hne : t' ≠ text s) :
    ∃ outcome asked,
      Watches (do file.write t'; file.reload; return true)
        (do file.watched.write t'; file.watched.reload; return true) s outcome asked ∧
        Conduct (text s) (.ok t') outcome.1 (.read (.ok (text s)) :: asked) (text outcome.2) := by
  rcases hwrite : (file.write t').result s with ⟨e | u, s₁⟩
  · refine ⟨(.error e, s₁), [.write t' (.error e)], (Watches.noted _ hwrite).bind_error, ?_⟩
    rw [hf.write_error s t' e s₁ hwrite]
    exact .unwritten e t' rfl hne
  have hwrites := Watches.noted (.write t') hwrite
  have hreload := hf.reload s₁
  rw [hf.write_ok s t' s₁ hwrite] at hreload
  rcases hrun : file.reload.result s₁ with ⟨e | u, s₂⟩
  · rw [hrun] at hreload
    refine ⟨(.error e, s₂), [.write t' (.ok ()), .reload (.error e)],
      hwrites.bind (Watches.noted _ hrun).bind_error, ?_⟩
    rw [hreload]
    exact .unloaded e t' rfl hne
  · rw [hrun] at hreload
    refine ⟨(.ok true, s₂), [.write t' (.ok ()), .reload (.ok ())],
      hwrites.bind ((Watches.noted _ hrun).bind (Watches.ofExcept (r := .ok true) rfl s₂)), ?_⟩
    rw [hreload]
    exact .loaded t' rfl hne

theorem update (hf : file.Holds text) (hguard : file.guard = pure ())
    (transform : String → Except Fault String) (s : σ) : ∃ outcome asked,
      Watches (file.update transform) (file.watched.update transform) s outcome asked ∧
        Conduct (text s) (transform (text s)) outcome.1 asked (text outcome.2) := by
  have hstart : Watches file.guard file.watched.guard s (.ok (), s) [] := by
    unfold watched
    rw [hguard]
    exact Watches.ofExcept (r := .ok ()) rfl s
  rw [update_eq, update_eq]
  have hsame := hf.read s
  rcases hread : file.read.result s with ⟨e | t, s₁⟩
  · rw [hread] at hsame
    refine ⟨(.error e, s₁), _, hstart.bind (Watches.noted _ hread).bind_error, ?_⟩
    rw [hsame]
    exact .unread e
  obtain rfl : t = text s := hf.read_ok s t s₁ hread
  rw [hread] at hsame
  have hreads := Watches.noted .read hread
  cases hmade : transform (text s) with
  | error e =>
    refine ⟨(.error e, s₁), [.read (.ok (text s))],
      hstart.bind (hreads.bind (Watches.ofExcept hmade s₁).bind_error), ?_⟩
    rw [hsame]
    exact .refused e _ rfl (.inr rfl)
  | ok t' =>
    have hmakes := Watches.ofExcept hmade s₁
    by_cases heq : t' = text s
    · subst heq
      refine ⟨(.ok false, s₁), [.read (.ok (text s))],
        hstart.bind (hreads.bind (hmakes.bind ?_)), ?_⟩
      · rw [if_pos rfl, if_pos rfl]
        exact Watches.ofExcept (r := .ok false) rfl s₁
      · rw [hsame]
        exact .unchanged rfl
    · have hother : t' ≠ text s₁ := by rwa [hsame]
      obtain ⟨outcome, asked, hput, hconduct⟩ := hf.put hother
      rw [hsame] at hconduct
      refine ⟨outcome, .read (.ok (text s)) :: asked,
        hstart.bind (hreads.bind (hmakes.bind ?_)), hconduct⟩
      rw [if_neg heq, if_neg heq]
      exact hput

end RuleFile.Holds

/-! ### Calls -/

namespace Service

def watched (svc : Service σ) : Service (σ × List Request) where
  block := svc.block
  file := svc.file.watched

/-- All that some calls ask of the rule file. -/
def requests (svc : Service σ) (s : σ) (calls : List Call) : List Request :=
  (svc.watched.after (s, []) calls).2

variable {svc : Service σ} {text : σ → String}

/-- A call that needs the rules of a guest. -/
theorem conduct_of_rules (hf : svc.file.Holds text) (hguard : svc.file.guard = pure ())
    (d : Declaration) (transform : List String → String → Except Fault String) (s : σ) :
    ∃ outcome asked,
      Watches (Effect.ofExcept (rules d) >>= fun rs => svc.file.update (transform rs))
        (Effect.ofExcept (rules d) >>= fun rs => svc.file.watched.update (transform rs))
        s outcome asked ∧
        Conduct (text s) (rules d >>= fun rs => transform rs (text s)) outcome.1 asked
          (text outcome.2) := by
  cases hrs : rules d with
  | error e =>
    exact ⟨(.error e, s), [], (Watches.ofExcept rfl s).bind_error, .refused e [] rfl (.inl rfl)⟩
  | ok rs =>
    obtain ⟨outcome, asked, hupdate, hconduct⟩ := hf.update hguard (transform rs) s
    exact ⟨outcome, asked, (Watches.ofExcept rfl s).bind hupdate, hconduct⟩

/-- **One call**, watched and not. -/
theorem conduct_run (hf : svc.file.Holds text) (hguard : svc.file.guard = pure ()) (c : Call)
    (s : σ) : ∃ outcome asked, Watches (svc.run c) (svc.watched.run c) s outcome asked ∧
      Conduct (text s) (c.transform svc.block (text s)) outcome.1 asked (text outcome.2) := by
  cases c with
  | enable => exact hf.update hguard _ s
  | disable => exact hf.update hguard _ s
  | expose d => exact conduct_of_rules hf hguard d svc.block.withRules s
  | withdraw d =>
    exact conduct_of_rules hf hguard d (fun rs t => .ok (svc.block.withoutRules rs t)) s

/-- The state of a watched file is that of the file and what was asked of it. -/
theorem after_watched (hf : svc.file.Holds text) (hguard : svc.file.guard = pure ()) (s : σ)
    (calls : List Call) :
    svc.watched.after (s, []) calls = (svc.after s calls, svc.requests s calls) := by
  induction calls using List.reverseRecOn with
  | nil => rfl
  | append_singleton before c ih =>
    obtain ⟨outcome, asked, hrun, -⟩ := conduct_run hf hguard c (svc.after s before)
    refine Prod.ext ?_ rfl
    rw [after_append_singleton, after_append_singleton, ih, hrun.watched_eq, hrun.result_eq]

/-- **What the calls ask is put together from what each call asks.** -/
theorem exists_requests_append (hf : svc.file.Holds text) (hguard : svc.file.guard = pure ())
    (s : σ) (calls : List Call) (c : Call) :
    ∃ asked, svc.requests s (calls ++ [c]) = svc.requests s calls ++ asked ∧
      Conduct (text (svc.after s calls)) (c.transform svc.block (text (svc.after s calls)))
        ((svc.run c).result (svc.after s calls)).1 asked (text (svc.after s (calls ++ [c]))) := by
  obtain ⟨outcome, asked, hrun, hconduct⟩ := conduct_run hf hguard c (svc.after s calls)
  refine ⟨asked, ?_, ?_⟩
  · unfold requests
    rw [after_append_singleton, after_watched hf hguard, hrun.watched_eq]
  · rw [after_append_singleton, hrun.result_eq]
    exact hconduct

/-- **Writing and reloading, whatever fails.**  Each call ends in one of the ways of `Conduct`,
    with what it is to make of the text; so it leaves the text as it was or makes all of that, and
    all calls together reload as often as they have put a text into the file. -/
theorem requests_follow_changes (hf : svc.file.Holds text) (hguard : svc.file.guard = pure ())
    (s : σ) (calls : List Call) :
    (∀ c, ∃ asked, svc.requests s (calls ++ [c]) = svc.requests s calls ++ asked ∧
      Conduct (text (svc.after s calls)) (c.transform svc.block (text (svc.after s calls)))
        ((svc.run c).result (svc.after s calls)).1 asked (text (svc.after s (calls ++ [c])))) ∧
      (∀ d rs, rules d = .ok rs →
        text (svc.after s (calls ++ [.expose d])) = text (svc.after s calls) ∨
          svc.block.withRules rs (text (svc.after s calls))
            = .ok (text (svc.after s (calls ++ [.expose d])))) ∧
      (svc.requests s calls).countP Request.isReload
        = (svc.requests s calls).countP Request.isWritten := by
  refine ⟨exists_requests_append hf hguard s calls, ?_, ?_⟩
  · intro d rs hrs
    obtain ⟨asked, -, hconduct⟩ := exists_requests_append hf hguard s calls (.expose d)
    simpa only [Call.transform, hrs, Except.ok_bind] using hconduct.eq_or_made
  · induction calls using List.reverseRecOn with
    | nil => rfl
    | append_singleton before c ih =>
      obtain ⟨asked, hasked, hconduct⟩ := exists_requests_append hf hguard s before c
      rw [hasked, List.countP_append, List.countP_append, ih, hconduct.countP_eq]

/-- Switching on fails to load; switching off again writes and loads. -/
theorem requests_follow_changes_shaky :
    let text : View × Nat → String := fun s => s.1.text
    let before := shaky.after (View.off, 0) [.enable]
    let behind := shaky.after (View.off, 0) [.enable, .disable]
    (shaky.file.Holds text ∧ shaky.file.guard = pure ()) ∧
      (∃ asked, shaky.requests (View.off, 0) [.enable, .disable]
          = shaky.requests (View.off, 0) [.enable] ++ asked ∧
        Conduct (text before) (.ok View.off.text) (.ok true) asked (text behind)) ∧
      (shaky.requests (View.off, 0) [.enable]).countP Request.isReload = 1 ∧
      (shaky.requests (View.off, 0) [.enable]).countP Request.isWritten = 1 := by
  intro text before behind
  have hf : shaky.file.Holds text := (RuleFile.keeps_inMemory fun n => n = 2).holds
  obtain ⟨hcalls, -, hcount⟩ := requests_follow_changes hf rfl (View.off, 0) [.enable]
  obtain ⟨asked, hasked, hconduct⟩ := hcalls .disable
  have hanswer : ((shaky.run .disable).result before).1 = .ok true := by decide +kernel
  have hmade : Call.disable.transform shaky.block (text before) = .ok View.off.text := by
    decide +kernel
  have hwritten : (shaky.requests (View.off, 0) [.enable]).countP Request.isWritten = 1 := by
    decide +kernel
  rw [hanswer, hmade] at hconduct
  exact ⟨⟨hf, rfl⟩, ⟨asked, hasked, hconduct⟩, hcount.trans hwritten, hwritten⟩

end Service

end GuestPorts.Perimeter
