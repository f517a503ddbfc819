import Mathlib.Order.Defs.Unbundled

/-!
# Programs that change a state and may raise

A program of the kind an imperative language with exceptions has: it works on a
state, and it either returns or raises, and what it did to the state before it
raised stays done (`VehicleStack.Effect`, which is Lean's own `ExceptT` over
`StateM`). Raised exceptions can be caught, and then the program goes on in the
state the handler finds.

The rules here are about one kind of property,
`VehicleStack.Effect.Keeps`: whichever way the program ends, the state it ends in
is related to the state it began in. For a preorder the property follows the
structure of the program, so a long program is checked call by call
(`VehicleStack.Effect.keeps_bind`, `VehicleStack.Effect.keeps_tryCatch`).
Where a step is right only because an earlier one returned, what the earlier one
establishes is a postcondition (`VehicleStack.Effect.Returns`), and
`VehicleStack.Effect.keeps_bind_of_returns` hands it on.
-/

namespace VehicleStack

/-- A program that works on a state `σ`, returns an `α` or raises an `ε`, and keeps
what it did to the state when it raises. -/
abbrev Effect (ε σ α : Type) := ExceptT ε (StateM σ) α

namespace Effect

variable {ε σ α β : Type}

/-- How a program ends: what it returns or raises, and the state it leaves. -/
def exec (x : Effect ε σ α) (s : σ) : Except ε α × σ := x.run.run s

/-- A program followed by another: the second runs if the first returns. -/
theorem exec_bind (x : Effect ε σ α) (f : α → Effect ε σ β) (s : σ) :
    exec (x >>= f) s =
      match exec x s with
      | (.ok a, s') => exec (f a) s'
      | (.error e, s') => (.error e, s') := by
  change (match exec x s with
    | (r, s') => exec (match r with
      | .ok a => f a
      | .error e => (throw e : Effect ε σ β)) s') = _
  rcases exec x s with ⟨e | a, s'⟩ <;> rfl

/-- A program with a handler: the handler runs if the program raises. -/
theorem exec_tryCatch (x : Effect ε σ α) (h : ε → Effect ε σ α) (s : σ) :
    exec (tryCatch x h) s =
      match exec x s with
      | (.ok a, s') => (.ok a, s')
      | (.error e, s') => exec (h e) s' := by
  change (match exec x s with
    | (r, s') => exec (match r with
      | .ok a => (pure a : Effect ε σ α)
      | .error e => h e) s') = _
  rcases exec x s with ⟨e | a, s'⟩ <;> rfl

@[simp]
theorem exec_pure (a : α) (s : σ) : exec (pure a : Effect ε σ α) s = (.ok a, s) := rfl

@[simp]
theorem exec_throw (e : ε) (s : σ) : exec (throw e : Effect ε σ α) s = (.error e, s) := rfl

@[simp]
theorem exec_get (s : σ) : exec (get : Effect ε σ σ) s = (.ok s, s) := rfl

@[simp]
theorem exec_modify (f : σ → σ) (s : σ) :
    exec (modify f : Effect ε σ PUnit) s = (.ok ⟨⟩, f s) := rfl

/-- A program whose result is converted. -/
theorem exec_map (f : α → β) (x : Effect ε σ α) (s : σ) :
    exec (f <$> x) s =
      match exec x s with
      | (.ok a, s') => (.ok (f a), s')
      | (.error e, s') => (.error e, s') := by
  rw [map_eq_pure_bind, exec_bind]
  rfl

/-- A program that returns, followed by another. -/
theorem exec_bind_of_ok {x : Effect ε σ α} {f : α → Effect ε σ β} {s s' : σ} {a : α}
    (h : exec x s = (.ok a, s')) : exec (x >>= f) s = exec (f a) s' := by
  rw [exec_bind, h]

/-- A program that raises, followed by another. -/
theorem exec_bind_of_error {x : Effect ε σ α} {f : α → Effect ε σ β} {s s' : σ} {e : ε}
    (h : exec x s = (.error e, s')) : exec (x >>= f) s = (.error e, s') := by
  rw [exec_bind, h]

/-- A program of two parts that returns. -/
theorem exec_bind_eq_ok {x : Effect ε σ α} {f : α → Effect ε σ β} {s s'' : σ} {b : β} :
    exec (x >>= f) s = (.ok b, s'') ↔
      ∃ a s', exec x s = (.ok a, s') ∧ exec (f a) s' = (.ok b, s'') := by
  rw [exec_bind]
  rcases exec x s with ⟨e | a, s'⟩
  · constructor
    · rintro ⟨⟩
    · rintro ⟨a, s₁, ⟨⟩, -⟩
  · constructor
    · exact fun h => ⟨a, s', rfl, h⟩
    · rintro ⟨a', s₁, ⟨⟩, h⟩
      exact h

/-! ### What holds if a program returns -/

/-- If the program returns from a state, the value and the state it leaves are as
said. -/
def Returns (P : α → σ → Prop) (x : Effect ε σ α) (s : σ) : Prop :=
  ∀ a s', exec x s = (.ok a, s') → P a s'

section Returns

variable {P : α → σ → Prop} {s : σ}

theorem returns_true (x : Effect ε σ α) (s : σ) : Returns (fun _ _ => True) x s :=
  fun _ _ _ => trivial

theorem returns_pure {a : α} (h : P a s) : Returns P (pure a : Effect ε σ α) s := by
  rintro b s' ⟨⟩
  exact h

theorem returns_throw (e : ε) (s : σ) : Returns P (throw e : Effect ε σ α) s := by
  rintro b s' ⟨⟩

theorem returns_bind {Q : β → σ → Prop} {x : Effect ε σ β} {f : β → Effect ε σ α}
    (hx : Returns Q x s) (hf : ∀ b s', Q b s' → Returns P (f b) s') : Returns P (x >>= f) s := by
  intro a s' h
  rw [exec_bind] at h
  rcases hres : exec x s with ⟨e | b, t⟩ <;> rw [hres] at h
  · cases h
  · exact hf b t (hx b t hres) a s' h

theorem returns_ite {c : Prop} [Decidable c] {x y : Effect ε σ α} (hx : c → Returns P x s)
    (hy : ¬ c → Returns P y s) : Returns P (if c then x else y) s := by
  split
  · exact hx ‹_›
  · exact hy ‹_›

theorem returns_and {Q : α → σ → Prop} {x : Effect ε σ α} (hP : Returns P x s)
    (hQ : Returns Q x s) : Returns (fun a s' => P a s' ∧ Q a s') x s :=
  fun a s' h => ⟨hP a s' h, hQ a s' h⟩

theorem returns_tryCatch {x : Effect ε σ α} {h : ε → Effect ε σ α} (hx : Returns P x s)
    (hh : ∀ e s', Returns P (h e) s') : Returns P (tryCatch x h) s := by
  intro a s' hexec
  rw [exec_tryCatch] at hexec
  rcases hres : exec x s with ⟨e | b, t⟩ <;> rw [hres] at hexec
  · exact hh e t a s' hexec
  · exact hx a s' (hres.trans hexec)

end Returns

/-! ### What the final state has to do with the first -/

/-- Whichever way the program ends, the state it leaves is related to the one it
found. -/
def Keeps (R : σ → σ → Prop) (x : Effect ε σ α) : Prop := ∀ s, R s (exec x s).2

/-- A property is handed on from the first state to the last. -/
def Preserves (P : σ → Prop) (s s' : σ) : Prop := P s → P s'

instance (P : σ → Prop) : IsPreorder σ (Preserves P) where
  refl _ := id
  trans _ _ _ h h' := h' ∘ h

variable {R : σ → σ → Prop}

/-- What holds whichever way the program ends holds if it returns. -/
theorem Keeps.returns {x : Effect ε σ α} (hx : Keeps R x) (s : σ) :
    Returns (fun _ s' => R s s') x s := by
  intro a s' h
  have hs := hx s
  rw [h] at hs
  exact hs

section Preorder

variable [IsPreorder σ R]

@[simp]
theorem keeps_pure (a : α) : Keeps R (pure a : Effect ε σ α) := fun s => refl_of R s

@[simp]
theorem keeps_throw (e : ε) : Keeps R (throw e : Effect ε σ α) := fun s => refl_of R s

@[simp]
theorem keeps_get : Keeps R (get : Effect ε σ σ) := fun s => refl_of R s

omit [IsPreorder σ R] in
theorem keeps_modify {f : σ → σ} (h : ∀ s, R s (f s)) :
    Keeps R (modify f : Effect ε σ PUnit) := h

/-- One program after another, from one state. -/
theorem rel_exec_bind {P : α → σ → Prop} {x : Effect ε σ α} {f : α → Effect ε σ β} {s : σ}
    (hx : R s (exec x s).2) (hP : Returns P x s) (hf : ∀ a s', P a s' → R s' (exec (f a) s').2) :
    R s (exec (x >>= f) s).2 := by
  rw [exec_bind]
  rcases hres : exec x s with ⟨e | a, s'⟩ <;> rw [hres] at hx
  · exact hx
  · exact trans_of R hx (hf a s' (hP a s' hres))

/-- **A step that relies on an earlier one.** What the earlier step establishes when
it returns may be used for the step after it. -/
theorem keeps_bind_of_returns {P : α → σ → Prop} {x : Effect ε σ α} {f : α → Effect ε σ β}
    (hx : Keeps R x) (hP : ∀ s, Returns P x s) (hf : ∀ a s, P a s → R s (exec (f a) s).2) :
    Keeps R (x >>= f) :=
  fun s => rel_exec_bind (hx s) (hP s) hf

@[simp]
theorem keeps_bind {x : Effect ε σ α} {f : α → Effect ε σ β} (hx : Keeps R x)
    (hf : ∀ a, Keeps R (f a)) : Keeps R (x >>= f) :=
  keeps_bind_of_returns hx (returns_true x) fun a s _ => hf a s

/-- A program with a handler, from one state. -/
theorem rel_exec_tryCatch {x : Effect ε σ α} {h : ε → Effect ε σ α} {s : σ}
    (hx : R s (exec x s).2) (hh : ∀ e, Keeps R (h e)) : R s (exec (tryCatch x h) s).2 := by
  rw [exec_tryCatch]
  rcases hres : exec x s with ⟨e | a, s'⟩ <;> rw [hres] at hx
  · exact trans_of R hx (hh e s')
  · exact hx

@[simp]
theorem keeps_tryCatch {x : Effect ε σ α} {h : ε → Effect ε σ α} (hx : Keeps R x)
    (hh : ∀ e, Keeps R (h e)) : Keeps R (tryCatch x h) :=
  fun s => rel_exec_tryCatch (hx s) hh

end Preorder

section Preserves

variable {P : σ → Prop} {s : σ}

/-- What holds after the first part of a program and is handed on by the second. -/
theorem exec_bind_of_preserves {x : Effect ε σ α} {f : α → Effect ε σ β} (hx : P (exec x s).2)
    (hf : ∀ a, Keeps (Preserves P) (f a)) : P (exec (x >>= f) s).2 := by
  rw [exec_bind]
  rcases hres : exec x s with ⟨e | a, s'⟩ <;> rw [hres] at hx
  · exact hx
  · exact hf a s' hx

/-- What holds after a program and is handed on by its handler. -/
theorem exec_tryCatch_of_preserves {x : Effect ε σ α} {h : ε → Effect ε σ α}
    (hx : P (exec x s).2) (hh : ∀ e, Keeps (Preserves P) (h e)) : P (exec (tryCatch x h) s).2 := by
  rw [exec_tryCatch]
  rcases hres : exec x s with ⟨e | a, s'⟩ <;> rw [hres] at hx
  · exact hh e s' hx
  · exact hx

end Preserves

/-- A program with a condition, from one state. -/
theorem rel_exec_ite {c : Prop} [Decidable c] {x y : Effect ε σ α} {s : σ}
    (hx : c → R s (exec x s).2) (hy : ¬ c → R s (exec y s).2) :
    R s (exec (if c then x else y) s).2 := by
  split
  · exact hx ‹_›
  · exact hy ‹_›

@[simp]
theorem keeps_ite {c : Prop} [Decidable c] {x y : Effect ε σ α} (hx : Keeps R x)
    (hy : Keeps R y) : Keeps R (if c then x else y) := by
  split
  · exact hx
  · exact hy

end Effect

end VehicleStack
