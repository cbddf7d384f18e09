/-
  GuestPorts/Proofs/Perimeter/Reload.lean
  =======================================
  **The text that the firewall has loaded, and the text of the rule file.**

  A call reloads only when it has written, so the two texts come apart in one way: a text is
  written, and then its reload fails.  That call answers with the error
  (`Service.FailsToLoad`).  The texts stay apart until a later call writes again; a repeated
  call finds the text that it wants, answers that there was nothing to change, and does not
  reload (`false_answer_behind_failed_reload`).  Nothing else brings an answer without error
  for a text that is not loaded (`answer_means_loaded`).
-/
import GuestPorts.Perimeter.Service
import Mathlib.Data.List.Induction

namespace GuestPorts.Perimeter

variable {σ : Type}

/-! ### Rule files whose steps may fail -/

/-- The text of a rule file, and the text that was in it at the last successful reload. -/
structure View where
  text : String
  loaded : String
  deriving DecidableEq, Repr

/-- What the steps of a rule file do to its view.  Each of them may fail, and one that fails
    changes nothing that is seen. -/
structure RuleFile.Keeps (file : RuleFile σ) (view : σ → View) : Prop where
  guard : ∀ s, view (file.guard.result s).2 = view s
  read : ∀ s, view (file.read.result s).2 = view s
  read_ok : ∀ s t s', file.read.result s = (.ok t, s') → t = (view s).text
  write_ok : ∀ s t s', (file.write t).result s = (.ok (), s') →
    view s' = { view s with text := t }
  write_error : ∀ s t e s', (file.write t).result s = (.error e, s') → view s' = view s
  reload_ok : ∀ s s', file.reload.result s = (.ok (), s') →
    view s' = { view s with loaded := (view s).text }
  reload_error : ∀ s e s', file.reload.result s = (.error e, s') → view s' = view s

inductive RuleFile.Edited (view : σ → View) (transform : String → Except Fault String) (s : σ) :
    Except Fault Bool × σ → Prop where
  /-- It fails before anything is written. -/
  | failed {e s'} (same : view s' = view s) : Edited view transform s (.error e, s')
  /-- The text is already what it would become. -/
  | unchanged {s'} (same : view s' = view s) : Edited view transform s (.ok false, s')
  | written {t s'} (made : transform (view s).text = .ok t) (ne : t ≠ (view s).text)
      (put : view s' = { view s with text := t }) : Edited view transform s (.ok true, s')

theorem RuleFile.Keeps.edit {file : RuleFile σ} {view : σ → View} (hf : file.Keeps view)
    (transform : String → Except Fault String) (s : σ) :
    Edited view transform s ((file.edit transform).result s) := by
  unfold RuleFile.edit
  rcases Effect.bind_cases file.guard _ s with ⟨e, s₁, hguard, h⟩ | ⟨u, s₁, hguard, h⟩
  · rw [h]
    have hs₁ := hf.guard s
    rw [hguard] at hs₁
    exact .failed hs₁
  rw [h]
  have hs₁ : view s₁ = view s := by
    have hs := hf.guard s
    rwa [hguard] at hs
  rcases Effect.bind_cases file.read _ s₁ with ⟨e, s₂, hread, h⟩ | ⟨before, s₂, hread, h⟩
  · rw [h]
    have hs₂ := hf.read s₁
    rw [hread] at hs₂
    exact .failed (hs₂.trans hs₁)
  rw [h]
  have hs₂ : view s₂ = view s := by
    have hs := hf.read s₁
    rw [hread] at hs
    exact hs.trans hs₁
  have hbefore : before = (view s).text := hs₁ ▸ hf.read_ok s₁ before s₂ hread
  rcases Effect.bind_cases (Effect.ofExcept (transform before)) _ s₂ with
    ⟨e, s₃, htransform, h⟩ | ⟨after, s₃, htransform, h⟩
  · obtain rfl : s₂ = s₃ := congrArg Prod.snd htransform
    rw [h]
    exact .failed hs₂
  obtain rfl : s₂ = s₃ := congrArg Prod.snd htransform
  have hmade : transform (view s).text = .ok after := hbefore ▸ congrArg Prod.fst htransform
  rw [h]
  by_cases hsame : after = before
  · rw [if_pos hsame]
    exact .unchanged hs₂
  rw [if_neg hsame]
  rcases Effect.bind_cases (file.write after) _ s₂ with ⟨e, s₄, hwrite, h⟩ | ⟨u, s₄, hwrite, h⟩
  · rw [h]
    exact .failed ((hf.write_error s₂ after e s₄ hwrite).trans hs₂)
  · rw [h]
    exact .written hmade (hbefore ▸ hsame) (hs₂ ▸ hf.write_ok s₂ after s₄ hwrite)

inductive RuleFile.Updated (file : RuleFile σ) (view : σ → View)
    (transform : String → Except Fault String) (s : σ) : Except Fault Bool × σ → Prop where
  | failed {e s'} (same : view s' = view s) : Updated file view transform s (.error e, s')
  | unchanged {s'} (same : view s' = view s) : Updated file view transform s (.ok false, s')
  | loaded {t s'} (made : transform (view s).text = .ok t) (put : view s' = ⟨t, t⟩) :
      Updated file view transform s (.ok true, s')
  /-- Another text is written, and its reload fails. -/
  | notLoaded {e t s' s₁ s₂} (made : transform (view s).text = .ok t) (ne : t ≠ (view s).text)
      (put : view s' = { view s with text := t })
      (reload : file.reload.result s₁ = (.error e, s₂)) :
      Updated file view transform s (.error e, s')

/-- Whatever fails, the text is the old one or the one that was to be written. -/
theorem RuleFile.Updated.text {file : RuleFile σ} {view : σ → View}
    {transform : String → Except Fault String} {s : σ} {x : Except Fault Bool × σ}
    (h : file.Updated view transform s x) :
    (view x.2).text = (view s).text ∨ transform (view s).text = .ok (view x.2).text := by
  cases h with
  | failed same => exact .inl (congrArg View.text same)
  | unchanged same => exact .inl (congrArg View.text same)
  | loaded made put => exact .inr (made.trans (by rw [put]))
  | notLoaded made ne put reload => exact .inr (made.trans (by rw [put]))

theorem RuleFile.Keeps.update {file : RuleFile σ} {view : σ → View} (hf : file.Keeps view)
    (transform : String → Except Fault String) (s : σ) :
    file.Updated view transform s ((file.update transform).result s) := by
  have hedit := hf.edit transform s
  unfold RuleFile.update
  rcases Effect.bind_cases (file.edit transform) _ s with ⟨e, s₁, he, h⟩ | ⟨b, s₁, he, h⟩
  · rw [h]
    rw [he] at hedit
    cases hedit with
    | failed same => exact .failed same
  rw [h]
  rw [he] at hedit
  cases hedit with
  | unchanged same => exact .unchanged same
  | written made ne put =>
    rcases Effect.bind_cases file.reload _ s₁ with ⟨e, s₂, hreload, h⟩ | ⟨u, s₂, hreload, h⟩
    · rw [if_pos rfl, h]
      exact .notLoaded made ne ((hf.reload_error s₁ e s₂ hreload).trans put) hreload
    · rw [if_pos rfl, h]
      have hs₂ := hf.reload_ok s₁ s₂ hreload
      rw [put] at hs₂
      exact .loaded made hs₂

/-- An edit that needs something which may not be there, such as the rules of a guest. -/
theorem RuleFile.Keeps.update_ofExcept {file : RuleFile σ} {view : σ → View} (hf : file.Keeps view)
    {α : Type} (r : Except Fault α) (transform : α → String → Except Fault String) (s : σ) :
    file.Updated view (fun text => r >>= fun a => transform a text) s
      ((Effect.ofExcept r >>= fun a => file.update (transform a)).result s) := by
  rcases Effect.bind_cases (Effect.ofExcept r) (fun a => file.update (transform a)) s with
    ⟨e, s', hr, h⟩ | ⟨a, s', hr, h⟩
  · obtain rfl : s = s' := congrArg Prod.snd hr
    rw [h]
    exact .failed rfl
  · obtain rfl : s = s' := congrArg Prod.snd hr
    obtain rfl : r = .ok a := congrArg Prod.fst hr
    rw [h]
    exact hf.update (transform a) s

/-! ### Calls of the service -/

inductive Call where
  | enable
  | disable
  | expose (d : Declaration)
  | withdraw (d : Declaration)
  deriving DecidableEq, Repr

/-- The text that a call is to write. -/
def Call.transform (b : Block) : Call → String → Except Fault String
  | .enable, text => .ok (b.toggled false text)
  | .disable, text => .ok (b.toggled true text)
  | .expose d, text => do b.withRules (← rules d) text
  | .withdraw d, text => do return b.withoutRules (← rules d) text

namespace Service

def run (svc : Service σ) : Call → Effect σ Fault Bool
  | .enable => svc.enable
  | .disable => svc.disable
  | .expose d => svc.expose d
  | .withdraw d => svc.withdraw d

def after (svc : Service σ) (s : σ) (calls : List Call) : σ :=
  calls.foldl (fun s c => ((svc.run c).result s).2) s

variable {svc : Service σ} {view : σ → View}

/-- Every call either has no rules to work with or is one edit. -/
theorem run_updated (hf : svc.file.Keeps view) (c : Call) (s : σ) :
    svc.file.Updated view (c.transform svc.block) s ((svc.run c).result s) := by
  cases c with
  | enable => exact hf.update _ s
  | disable => exact hf.update _ s
  | expose d => exact hf.update_ofExcept (rules d) svc.block.withRules s
  | withdraw d =>
    exact hf.update_ofExcept (rules d) (fun rs text => .ok (svc.block.withoutRules rs text)) s

/-- A call writes another text and answers with the error of its reload. -/
def FailsToLoad (svc : Service σ) (view : σ → View) (s : σ) (c : Call) : Prop :=
  (view ((svc.run c).result s).2).text ≠ (view s).text ∧
    ∃ e s₁ s₂, svc.file.reload.result s₁ = (.error e, s₂) ∧ ((svc.run c).result s).1 = .error e

/-- The text is loaded, or the call that wrote it has failed to load it and nothing was
    written or loaded since. -/
def Settled (svc : Service σ) (view : σ → View) (s : σ) (calls : List Call) : Prop :=
  (view (svc.after s calls)).loaded = (view (svc.after s calls)).text ∨
    ∃ before c behind, calls = before ++ c :: behind ∧
      svc.FailsToLoad view (svc.after s before) c ∧
      view (svc.after s calls) = view (svc.after s (before ++ [c]))

theorem after_append_singleton (svc : Service σ) (s : σ) (calls : List Call) (c : Call) :
    svc.after s (calls ++ [c]) = ((svc.run c).result (svc.after s calls)).2 := by
  unfold after
  rw [List.foldl_append, List.foldl_cons, List.foldl_nil]

/-- A call that changes nothing leaves the calls settled. -/
theorem Settled.append_of_same {s : σ} {calls : List Call} (h : svc.Settled view s calls)
    {c : Call} (hsame : view (svc.after s (calls ++ [c])) = view (svc.after s calls)) :
    svc.Settled view s (calls ++ [c]) := by
  unfold Settled
  rw [hsame]
  rcases h with hloaded | ⟨before, c', behind, rfl, hfails, hview⟩
  · exact .inl hloaded
  · exact .inr ⟨before, c', behind ++ [c], by simp, hfails, hview⟩

theorem settled_append (hf : svc.file.Keeps view) {s : σ} {calls : List Call}
    (h : svc.Settled view s calls) (c : Call) : svc.Settled view s (calls ++ [c]) := by
  have hafter := after_append_singleton svc s calls c
  have hc := run_updated hf c (svc.after s calls)
  generalize hx : (svc.run c).result (svc.after s calls) = x at hc hafter
  cases hc with
  | failed same => exact h.append_of_same (hafter ▸ same)
  | unchanged same => exact h.append_of_same (hafter ▸ same)
  | loaded made put =>
    refine .inl ?_
    rw [hafter, put]
  | notLoaded made ne put reload =>
    refine .inr ⟨calls, c, [], rfl, ⟨?_, _, _, _, reload, congrArg Prod.fst hx⟩, rfl⟩
    rw [hx, put]
    exact ne

theorem settled (hf : svc.file.Keeps view) {s : σ} (hs : (view s).loaded = (view s).text)
    (calls : List Call) : svc.Settled view s calls := by
  induction calls using List.reverseRecOn with
  | nil => exact .inl hs
  | append_singleton before c ih => exact settled_append hf ih c

/-- **An answer without error means that the text is loaded**, unless it is that nothing had
    to be changed and the call that wrote the text has reported that its reload failed. -/
theorem answer_means_loaded (hf : svc.file.Keeps view) {s : σ}
    (hs : (view s).loaded = (view s).text) (calls : List Call) {c : Call} {b : Bool}
    (hok : ((svc.run c).result (svc.after s calls)).1 = .ok b) :
    let s' := svc.after s (calls ++ [c])
    (view s').loaded = (view s').text ∨
      b = false ∧ ∃ before c' behind, calls = before ++ c' :: behind ∧
        svc.FailsToLoad view (svc.after s before) c' ∧
        view s' = view (svc.after s (before ++ [c'])) := by
  intro s'
  have hafter : s' = _ := after_append_singleton svc s calls c
  have hc := run_updated hf c (svc.after s calls)
  generalize (svc.run c).result (svc.after s calls) = x at hc hafter hok
  cases hc with
  | failed same => cases hok
  | unchanged same =>
    cases hok
    rw [hafter, same]
    exact (settled hf hs calls).imp_right fun hlag => ⟨rfl, hlag⟩
  | loaded made put =>
    rw [hafter, put]
    exact .inl rfl
  | notLoaded made ne put reload => cases hok

end Service

/-! ### A rule file for examples -/

/-- One step of a rule file in memory; the steps with the given numbers fail. -/
def View.step {α : Type} (faults : Nat → Bool) (e : Fault) (f : View → α × View) :
    Effect (View × Nat) Fault α :=
  Effect.ofFunction fun s =>
    if faults s.2 then (.error e, (s.1, s.2 + 1)) else (.ok (f s.1).1, ((f s.1).2, s.2 + 1))

/-- A rule file in memory that counts its steps. -/
def RuleFile.inMemory (faults : Nat → Bool) : RuleFile (View × Nat) where
  read := View.step faults (.io "memory" "read") fun v => (v.text, v)
  write t := View.step faults (.io "memory" "write") fun v => ((), { v with text := t })
  reload := View.step faults (.reload "memory" "reload") fun v => ((), { v with loaded := v.text })

theorem View.step_ok {α : Type} {faults : Nat → Bool} {e : Fault} {f : View → α × View}
    {s s' : View × Nat} {a : α} (h : (View.step faults e f).result s = (.ok a, s')) :
    f s.1 = (a, s'.1) := by
  unfold View.step Effect.ofFunction Effect.result at h
  by_cases hfault : faults s.2 = true
  · simp only [if_pos hfault] at h
    cases h
  · simp only [if_neg hfault] at h
    cases h
    rfl

theorem View.step_error {α : Type} {faults : Nat → Bool} {e e' : Fault} {f : View → α × View}
    {s s' : View × Nat} (h : (View.step faults e f).result s = (.error e', s')) : s'.1 = s.1 := by
  unfold View.step Effect.ofFunction Effect.result at h
  by_cases hfault : faults s.2 = true
  · simp only [if_pos hfault] at h
    cases h
    rfl
  · simp only [if_neg hfault] at h
    cases h

theorem RuleFile.keeps_inMemory (faults : Nat → Bool) : (inMemory faults).Keeps Prod.fst where
  guard := fun s => rfl
  read := fun s => by
    rcases h : (inMemory faults).read.result s with ⟨e | t, s'⟩
    · exact View.step_error (f := fun v => (v.text, v)) h
    · exact (congrArg Prod.snd (View.step_ok (f := fun v => (v.text, v)) h)).symm
  read_ok := fun s t s' h => (congrArg Prod.fst (View.step_ok (f := fun v => (v.text, v)) h)).symm
  write_ok := fun s t s' h =>
    (congrArg Prod.snd (View.step_ok (f := fun v => ((), { v with text := t })) h)).symm
  write_error := fun s t e s' h => View.step_error (f := fun v => ((), { v with text := t })) h
  reload_ok := fun s s' h =>
    (congrArg Prod.snd (View.step_ok (f := fun v => ((), { v with loaded := v.text })) h)).symm
  reload_error := fun s e s' h => View.step_error (f := fun v => ((), { v with loaded := v.text })) h

/-- The default block, switched off, in a rule file whose third step fails: this is the reload
    of the first call that writes. -/
def Service.shaky : Service (View × Nat) where
  block := {}
  file := .inMemory fun n => n = 2

def View.off : View where
  text := "#KVM_GO_START\n# *nat\n#KVM_GO_END"
  loaded := "#KVM_GO_START\n# *nat\n#KVM_GO_END"

/-- Switching on fails to load; switching on and off again loads what is there then. -/
theorem Service.answer_means_loaded_shaky :
    ((shaky.run .disable).result (shaky.after (View.off, 0) [.enable])).1 = .ok true ∧
      (shaky.after (View.off, 0) [.enable, .disable]).1.loaded
        = (shaky.after (View.off, 0) [.enable, .disable]).1.text := by
  have hok : ((shaky.run .disable).result (shaky.after (View.off, 0) [.enable])).1 = .ok true := by
    decide +kernel
  refine ⟨hok, ?_⟩
  rcases answer_means_loaded (RuleFile.keeps_inMemory _) (s := (View.off, 0)) rfl [.enable] hok with
    h | ⟨hfalse, -⟩
  · exact h
  · cases hfalse

/-- **Switching on once more does not load it**: there is nothing to change, and the answer is
    no error. -/
theorem Service.false_answer_behind_failed_reload :
    ((shaky.run .enable).result (shaky.after (View.off, 0) [.enable])).1 = .ok false ∧
      (shaky.after (View.off, 0) [.enable, .enable]).1.loaded
        ≠ (shaky.after (View.off, 0) [.enable, .enable]).1.text := by
  decide +kernel

end GuestPorts.Perimeter
