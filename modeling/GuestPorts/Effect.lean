/-
  GuestPorts/Effect.lean
  ======================
  **Effects as functions of a state.**  Whatever reads or changes something outside,
  a registry, a disk, a program that is run, is a function from the state of that
  outside to a result and the state afterwards.  The state is kept when the result is
  an error, because what was done before the error stays done.
-/

namespace GuestPorts

/-- A step that may fail and that changes a state either way. -/
abbrev Effect (σ ε : Type) := ExceptT ε (StateM σ)

namespace Effect

variable {σ τ ε ε' α β : Type}

def result (e : Effect σ ε α) (s : σ) : Except ε α × σ := e s

def ofFunction (f : σ → Except ε α × σ) : Effect σ ε α := f

/-- A step whose outcome is known and that leaves the state alone. -/
def ofExcept (r : Except ε α) : Effect σ ε α := fun s => (r, s)

def asks (f : σ → Except ε α) : Effect σ ε α := fun s => (f s, s)

/-- Run a step on a part of a larger state. -/
def within (get : τ → σ) (set : σ → τ → τ) (e : Effect σ ε α) : Effect τ ε α :=
  fun t =>
    let (r, s) := e (get t)
    (r, set s t)

/-- A step whose errors are seen as causes of others. -/
def wrap (f : ε → ε') (e : Effect σ ε α) : Effect σ ε' α :=
  fun s =>
    let (r, s) := e s
    (r.mapError f, s)

/-- A step whose outcome is a value and cannot fail any more. -/
def attempt (e : Effect σ ε α) : Effect σ ε' (Except ε α) :=
  fun s =>
    let (r, s) := e s
    (.ok r, s)

theorem pure_apply (a : α) (s : σ) : (pure a : Effect σ ε α) s = (.ok a, s) := rfl

theorem bind_apply (e : Effect σ ε α) (f : α → Effect σ ε β) (s : σ) :
    (e >>= f) s = match e s with
      | (.ok a, s') => f a s'
      | (.error x, s') => (.error x, s') := by
  simp only [bind, ExceptT.bind, ExceptT.mk, StateT.bind, ExceptT.bindCont]
  cases h : e s with
  | mk r s' => cases r <;> rfl

theorem result_map (f : α → β) (e : Effect σ ε α) (s : σ) :
    (f <$> e).result s = ((e.result s).1.map f, (e.result s).2) := by
  unfold result
  rw [← bind_pure_comp, bind_apply]
  rcases e s with ⟨x | a, s'⟩ <;> rfl

/-- What two steps in a row come to: the first one's error, or what the second one does in
    the state that the first one leaves. -/
theorem bind_cases (e : Effect σ ε α) (f : α → Effect σ ε β) (s : σ) :
    (∃ x s', e.result s = (.error x, s') ∧ (e >>= f).result s = (.error x, s')) ∨
      ∃ a s', e.result s = (.ok a, s') ∧ (e >>= f).result s = (f a).result s' := by
  unfold result
  rw [bind_apply]
  rcases h : e s with ⟨x | a, s'⟩
  · exact .inl ⟨x, s', rfl, rfl⟩
  · exact .inr ⟨a, s', rfl, rfl⟩

theorem result_ofExcept (r : Except ε α) (s : σ) :
    (ofExcept r : Effect σ ε α).result s = (r, s) := rfl

theorem bind_of_ok {e : Effect σ ε α} {s s' : σ} {a : α} (h : e.result s = (.ok a, s'))
    (f : α → Effect σ ε β) : (e >>= f).result s = (f a).result s' := by
  unfold result at h ⊢
  rw [bind_apply, h]

theorem bind_of_error {e : Effect σ ε α} {s s' : σ} {x : ε} (h : e.result s = (.error x, s'))
    (f : α → Effect σ ε β) : (e >>= f).result s = (.error x, s') := by
  unfold result at h ⊢
  rw [bind_apply, h]

theorem ok_of_bind {e : Effect σ ε α} {f : α → Effect σ ε β} {s s'' : σ} {b : β}
    (h : (e >>= f).result s = (.ok b, s'')) :
    ∃ a s', e.result s = (.ok a, s') ∧ (f a).result s' = (.ok b, s'') := by
  rcases bind_cases e f s with ⟨x, s', -, hbind⟩ | ⟨a, s', he, hbind⟩
  · rw [hbind] at h
    cases h
  · exact ⟨a, s', he, hbind.symm.trans h⟩

theorem wrap_of_ok {e : Effect σ ε α} {s s' : σ} {a : α} {f : ε → ε'}
    (h : e.result s = (.ok a, s')) : (wrap f e).result s = (.ok a, s') := by
  unfold result at h
  unfold result wrap
  rw [h]
  rfl

theorem wrap_of_error {e : Effect σ ε α} {s s' : σ} {x : ε} {f : ε → ε'}
    (h : e.result s = (.error x, s')) : (wrap f e).result s = (.error (f x), s') := by
  unfold result at h
  unfold result wrap
  rw [h]
  rfl

theorem ok_of_wrap {e : Effect σ ε α} {s s' : σ} {a : α} {f : ε → ε'}
    (h : (wrap f e).result s = (.ok a, s')) : e.result s = (.ok a, s') := by
  rcases hrun : e.result s with ⟨x | b, s''⟩
  · rw [wrap_of_error hrun] at h
    cases h
  · rw [wrap_of_ok hrun] at h
    cases h
    rfl

theorem fst_within (get : τ → σ) (set : σ → τ → τ) (e : Effect σ ε α) (t : τ) :
    ((within get set e).result t).1 = (e.result (get t)).1 := rfl

theorem ok_of_within {get : τ → σ} {set : σ → τ → τ} (hget : ∀ s t, get (set s t) = s)
    {e : Effect σ ε α} {t : τ} {a : α} (h : ((within get set e).result t).1 = .ok a) :
    e.result (get t) = (.ok a, get ((within get set e).result t).2) :=
  Prod.ext h (hget _ t).symm

/-! ### What a step keeps

A step in several parts keeps what all of its parts keep, whatever they come to: there is one
lemma for each way in which steps are put together. -/

section Keeps

variable {P : σ → Prop} {e : Effect σ ε α}

/-- The property holds behind the step if it holds before it, also when the step fails. -/
def Keeps (P : σ → Prop) (e : Effect σ ε α) : Prop := ∀ s, P s → P (e.result s).2

namespace Keeps

theorem pure (a : α) : Keeps P (Pure.pure a : Effect σ ε α) := fun _ h => h

theorem ofExcept (r : Except ε α) : Keeps P (Effect.ofExcept r) := fun _ h => h

theorem asks (f : σ → Except ε α) : Keeps P (Effect.asks f) := fun _ h => h

theorem bind (he : Keeps P e) {f : α → Effect σ ε β} (hf : ∀ a, Keeps P (f a)) :
    Keeps P (e >>= f) := by
  intro s hs
  have hfirst := he s hs
  rcases bind_cases e f s with ⟨x, s', hrun, hbind⟩ | ⟨a, s', hrun, hbind⟩
  · rw [hrun] at hfirst
    rw [hbind]
    exact hfirst
  · rw [hrun] at hfirst
    rw [hbind]
    exact hf a s' hfirst

theorem wrap (he : Keeps P e) (g : ε → ε') : Keeps P (Effect.wrap g e) := he

theorem within {get : τ → σ} {set : σ → τ → τ} (hget : ∀ s t, get (set s t) = s)
    (he : Keeps P e) : Keeps (fun t => P (get t)) (Effect.within get set e) := by
  intro t ht
  have hpart := he (get t) ht
  rwa [← hget (e.result (get t)).2 t] at hpart

end Keeps

end Keeps

end Effect

/-! ### Steps without a state -/

theorem Except.ok_bind {ε α β : Type} (a : α) (f : α → Except ε β) : (Except.ok a >>= f) = f a :=
  pure_bind a f

theorem Except.eq_ok_of_toOption {ε α : Type} {e : Except ε α} {a : α}
    (h : e.toOption = some a) : e = .ok a := by
  cases e with
  | error x => cases h
  | ok b => exact congrArg _ (Option.some.inj h)

theorem Except.bind_eq_ok {ε α β : Type} {e : Except ε α} {f : α → Except ε β} {b : β} :
    (e >>= f) = .ok b ↔ ∃ a, e = .ok a ∧ f a = .ok b := by
  cases e with
  | error x => exact ⟨nofun, fun ⟨_, h, _⟩ => nomatch h⟩
  | ok a => exact ⟨fun h => ⟨a, rfl, h⟩, fun ⟨_, rfl, h⟩ => h⟩

section Lists

variable {α β γ : Type} {decode : β → Option γ} {xs : List α}

/-- What is read from the parts of a list is what is read from all of it. -/
theorem mapM_flatMap_eq_some {encode : α → List β} {g : α → List γ}
    (h : ∀ x ∈ xs, (encode x).mapM decode = some (g x)) :
    (xs.flatMap encode).mapM decode = some (xs.flatMap g) := by
  induction xs with
  | nil => rfl
  | cons x rest ih =>
    have hrest := ih fun y hy => h y (List.mem_cons_of_mem x hy)
    rw [List.flatMap_cons, List.flatMap_cons, List.mapM_append, h x List.mem_cons_self, hrest]
    rfl

theorem mapM_map_eq_some {encode : α → β} {g : α → γ}
    (h : ∀ x ∈ xs, decode (encode x) = some (g x)) :
    (xs.map encode).mapM decode = some (xs.map g) := by
  rw [List.map_eq_flatMap, List.map_eq_flatMap]
  apply mapM_flatMap_eq_some
  intro x hx
  rw [List.mapM_cons, h x hx]
  rfl

end Lists

end GuestPorts
