import VehicleStack.Lib.Effect

/-!
# Where what is used comes from

A system in which things (keys, tokens, capabilities) are granted and used, and
which records what happens. Some things are there from the start; every other
thing that is used should have been granted before. The condition on a record is
`VehicleStack.Provenance.Grounded`.

A state that holds things and carries the record gives a relation between the
state before a program and the state after it, `VehicleStack.Provenance.Accounts`:
the record has only grown, whatever the state holds now it held before or was
granted meanwhile, and whatever was used meanwhile is grounded in what the state
held before. It is a preorder, so the rules for
`VehicleStack.Effect.Keeps` apply to it.
-/

namespace VehicleStack

namespace Provenance

variable {E κ σ : Type} (grants uses : E → κ → Prop)

/-- Some event grants the thing. -/
def Granted (events : List E) (k : κ) : Prop := ∃ e ∈ events, grants e k

/-- Whatever is used is known, or was granted before. -/
def Grounded (known : κ → Prop) (events : List E) : Prop :=
  ∀ before e after k, events = before ++ e :: after → uses e k →
    known k ∨ Granted grants before k

variable {grants uses}

theorem granted_append {a b : List E} {k : κ} :
    Granted grants (a ++ b) k ↔ Granted grants a k ∨ Granted grants b k := by
  simp only [Granted, List.mem_append, or_and_right, exists_or]

theorem grounded_nil (known : κ → Prop) : Grounded grants uses known [] := by
  intro before e after k h
  cases before <;> cases h

theorem grounded_singleton {known : κ → Prop} {e : E} (h : ∀ k, uses e k → known k) :
    Grounded grants uses known [e] := by
  rintro (_ | ⟨_, before⟩) e' after k heq huse
  · obtain ⟨rfl, -⟩ := List.cons.inj heq
    exact Or.inl (h k huse)
  · simp at heq

/-- **Two records one after the other**: what the first grants is known to the
second. -/
theorem Grounded.append {known : κ → Prop} {a b : List E} (ha : Grounded grants uses known a)
    (hb : Grounded grants uses (fun k => known k ∨ Granted grants a k) b) :
    Grounded grants uses known (a ++ b) := by
  intro before e after k heq huse
  rcases List.append_eq_append_iff.mp heq with ⟨mid, rfl, hmid⟩ | ⟨mid, rfl, hmid⟩
  · -- the event is in the second record
    rcases hb mid e after k hmid huse with (hknown | hfirst) | hmid'
    · exact Or.inl hknown
    · exact Or.inr (granted_append.mpr (Or.inl hfirst))
    · exact Or.inr (granted_append.mpr (Or.inr hmid'))
  · rcases mid with _ | ⟨e', mid⟩
    · rw [List.nil_append] at hmid
      rcases hb [] e after k hmid.symm huse with (hknown | hfirst) | ⟨_, hnil, -⟩
      · exact Or.inl hknown
      · exact Or.inr (by simpa using hfirst)
      · cases hnil
    · obtain ⟨rfl, rfl⟩ := List.cons.inj hmid
      exact ha before e mid k rfl huse

theorem Grounded.mono {known known' : κ → Prop} {events : List E}
    (h : Grounded grants uses known events) (hk : ∀ k, known k → known' k) :
    Grounded grants uses known' events := fun before e after k heq huse =>
  (h before e after k heq huse).imp_left (hk k)

/-! ### Programs that record what they do -/

variable (grants uses) (record : σ → List E) (holds : σ → κ → Prop)

/-- What happened between two states is accounted for. -/
def Accounts (s t : σ) : Prop :=
  ∃ new, record t = record s ++ new ∧
    (∀ k, holds t k → holds s k ∨ Granted grants new k) ∧
    Grounded grants uses (holds s) new

instance : IsPreorder σ (Accounts grants uses record holds) where
  refl s := ⟨[], (List.append_nil _).symm, fun _ h => Or.inl h, grounded_nil _⟩
  trans := by
    rintro s t u ⟨a, hra, hha, hga⟩ ⟨b, hrb, hhb, hgb⟩
    refine ⟨a ++ b, by rw [hrb, hra, List.append_assoc], ?_, hga.append (hgb.mono hha)⟩
    intro k hk
    rw [granted_append]
    rcases hhb k hk with ht | hb
    · exact (hha k ht).imp_right Or.inl
    · exact Or.inr (Or.inr hb)

variable {grants uses record holds}

/-- A change that leaves the record and what is held alone is accounted for. -/
theorem Accounts.of_eq {s t : σ} (hrecord : record t = record s)
    (hholds : ∀ k, holds t k → holds s k) : Accounts grants uses record holds s t :=
  ⟨[], by rw [hrecord, List.append_nil], fun k hk => Or.inl (hholds k hk), grounded_nil _⟩

/-- A change that records one event, which grants what is new, is accounted for if
whatever the event uses was held. -/
theorem Accounts.of_event {s t : σ} {e : E} (hrecord : record t = record s ++ [e])
    (hholds : ∀ k, holds t k → holds s k ∨ grants e k) (huses : ∀ k, uses e k → holds s k) :
    Accounts grants uses record holds s t :=
  ⟨[e], hrecord,
    fun k hk => (hholds k hk).imp_right fun h => ⟨e, List.mem_singleton_self e, h⟩,
    grounded_singleton huses⟩

end Provenance

end VehicleStack
