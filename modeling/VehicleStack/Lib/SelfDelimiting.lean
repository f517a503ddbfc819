import Mathlib.Data.List.Basic

/-!
# Texts that say where they end

Values that are written one after the other can be told apart if the text of each
says where it ends (`VehicleStack.SelfDelimiting`): whatever follows, it is known
what was written and what follows. A reader shows it
(`VehicleStack.selfDelimiting_of_read`), and a sequence of such texts is one again if
it is closed by a symbol none of them starts with
(`VehicleStack.SelfDelimiting.closed`).
-/

namespace VehicleStack

open List

variable {α β : Type*} {write : α → List β}

/-- From a text and what follows it, the value that was written and what follows can be
told. -/
def SelfDelimiting (write : α → List β) : Prop :=
  ∀ ⦃a b : α⦄ ⦃x y : List β⦄, write a ++ x = write b ++ y → a = b ∧ x = y

/-- A reader that takes what was written off the front. -/
theorem selfDelimiting_of_read (read : List β → Option (α × List β))
    (hread : ∀ a x, read (write a ++ x) = some (a, x)) : SelfDelimiting write := by
  intro a b x y h
  have hpair : some (a, x) = some (b, y) := by
    rw [← hread a x, h, hread b y]
  exact Prod.mk.inj (Option.some.inj hpair)

/-- Values that are told by others. -/
theorem SelfDelimiting.comp {γ : Type*} (h : SelfDelimiting write) {f : γ → α}
    (hf : Function.Injective f) : SelfDelimiting fun c => write (f c) := by
  intro c d x y hcd
  obtain ⟨hvalue, hrest⟩ := h hcd
  exact ⟨hf hvalue, hrest⟩

/-- Something may stand in front. -/
theorem SelfDelimiting.opened (h : SelfDelimiting write) (front : List β) :
    SelfDelimiting fun a => front ++ write a := by
  intro a b x y hab
  rw [append_assoc, append_assoc] at hab
  exact h (append_cancel_left hab)

/-- **A sequence, closed by a symbol** that no text starts with. -/
theorem SelfDelimiting.closed (h : SelfDelimiting write) {e : β}
    (hstart : ∀ a, ∃ b rest, write a = b :: rest ∧ b ≠ e) :
    SelfDelimiting fun l : List α => l.flatMap write ++ [e] := by
  intro l l' x y hll
  simp only [append_assoc, singleton_append] at hll
  induction l generalizing l' with
  | nil =>
    rcases l' with _ | ⟨a, l'⟩
    · exact ⟨rfl, (cons.inj hll).2⟩
    · -- one is closed where the other goes on
      obtain ⟨b, rest, hb, hne⟩ := hstart a
      rw [flatMap_nil, nil_append, flatMap_cons, hb] at hll
      exact absurd (cons.inj hll).1.symm hne
  | cons a l ih =>
    rcases l' with _ | ⟨a', l'⟩
    · obtain ⟨b, rest, hb, hne⟩ := hstart a
      rw [flatMap_nil, nil_append, flatMap_cons, hb] at hll
      exact absurd (cons.inj hll).1 hne
    · rw [flatMap_cons, flatMap_cons, append_assoc, append_assoc] at hll
      obtain ⟨rfl, hrest⟩ := h hll
      obtain ⟨rfl, hxy⟩ := ih hrest
      exact ⟨rfl, hxy⟩

end VehicleStack
