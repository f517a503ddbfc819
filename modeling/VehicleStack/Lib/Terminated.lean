import Mathlib.Data.List.Basic
import Mathlib.Data.List.Induction

/-!
# Terminated texts in a stream

A stream of items some of which end a text: the texts that are ended
(`VehicleStack.Terminated.texts`), without the items that end them, and the text at the end of the
stream that is still open (`VehicleStack.Terminated.pending`). They are the parts that
`List.splitOnP` cuts a list into, all but the last one and the last one.

A receiver gets the stream item by item. What an item that ends a text and what any other item
does to the two is `VehicleStack.Terminated.texts_concat_of_end`,
`VehicleStack.Terminated.texts_concat_of_not_end` and the same for `pending`; that a sender's texts
are found again is `VehicleStack.Terminated.texts_flatMap`.
-/

namespace VehicleStack

namespace Terminated

variable {α β : Type*} (isEnd : α → Bool)

/-- The texts of a stream that are ended. -/
def texts (s : List α) : List (List α) := (s.splitOnP isEnd).dropLast

/-- The text that is open at the end of a stream. -/
def pending (s : List α) : List α := (s.splitOnP isEnd).getLastD []

variable {isEnd}

theorem splitOnP_eq (s : List α) : s.splitOnP isEnd = texts isEnd s ++ [pending isEnd s] := by
  have hne : s.splitOnP isEnd ≠ [] := List.splitOnP_ne_nil isEnd s
  rw [texts, pending, List.getLastD_eq_getLast?, List.getLast?_eq_some_getLast hne,
    Option.getD_some, List.dropLast_append_getLast hne]

/-- The parts, put together again. -/
theorem texts_pending_of_splitOnP {s : List α} {ts : List (List α)} {t : List α}
    (h : s.splitOnP isEnd = ts ++ [t]) : texts isEnd s = ts ∧ pending isEnd s = t :=
  List.append_inj' ((splitOnP_eq s).symm.trans h) rfl |>.imp id List.singleton_inj.mp

@[simp]
theorem texts_nil : texts isEnd ([] : List α) = [] := rfl

@[simp]
theorem pending_nil : pending isEnd ([] : List α) = [] := rfl

/-- An open text has no item that ends it. -/
theorem pending_of_forall {s : List α} (h : ∀ x ∈ s, isEnd x = false) :
    texts isEnd s = [] ∧ pending isEnd s = s :=
  texts_pending_of_splitOnP (List.splitOnP_eq_singleton h)

/-- A stream that goes on behind the end of a text. -/
theorem texts_append_cons (s t : List α) {x : α} (hx : isEnd x = true) :
    texts isEnd (s ++ x :: t) = texts isEnd s ++ pending isEnd s :: texts isEnd t ∧
      pending isEnd (s ++ x :: t) = pending isEnd t := by
  refine texts_pending_of_splitOnP ?_
  rw [List.splitOnP_append_cons s t hx, splitOnP_eq s, splitOnP_eq t, List.append_assoc,
    List.append_assoc, List.singleton_append, List.cons_append]

/-- **An item that ends the open text.** -/
theorem texts_concat_of_end (s : List α) {x : α} (hx : isEnd x = true) :
    texts isEnd (s ++ [x]) = texts isEnd s ++ [pending isEnd s] :=
  (texts_append_cons s [] hx).1

theorem pending_concat_of_end (s : List α) {x : α} (hx : isEnd x = true) :
    pending isEnd (s ++ [x]) = [] :=
  (texts_append_cons s [] hx).2

/-- Every stream is open, or has a last item that ends a text. -/
theorem eq_or_append_cons (isEnd : α → Bool) (s : List α) : (∀ x ∈ s, isEnd x = false) ∨
    ∃ t e u, s = t ++ e :: u ∧ isEnd e = true ∧ ∀ x ∈ u, isEnd x = false := by
  induction s with
  | nil => exact Or.inl fun x hx => absurd hx List.not_mem_nil
  | cons x s ih =>
    rcases ih with hopen | ⟨t, e, u, rfl, he, hu⟩
    · cases hx : isEnd x with
      | false => exact Or.inl (List.forall_mem_cons.mpr ⟨hx, hopen⟩)
      | true => exact Or.inr ⟨[], x, s, rfl, hx, hopen⟩
    · exact Or.inr ⟨x :: t, e, u, rfl, he, hu⟩

/-- **Any other item** goes on with the open text. -/
theorem texts_pending_concat (s : List α) {x : α} (hx : isEnd x = false) :
    texts isEnd (s ++ [x]) = texts isEnd s ∧ pending isEnd (s ++ [x]) = pending isEnd s ++ [x] := by
  have hopen : ∀ u : List α, (∀ y ∈ u, isEnd y = false) → ∀ y ∈ u ++ [x], isEnd y = false := by
    intro u hu y hy
    rcases List.mem_append.mp hy with hold | hnew
    · exact hu y hold
    · rwa [List.mem_singleton.mp hnew]
  rcases eq_or_append_cons isEnd s with hs | ⟨t, e, u, rfl, he, hu⟩
  · obtain ⟨htexts, hpending⟩ := pending_of_forall hs
    rw [htexts, hpending]
    exact pending_of_forall (hopen s hs)
  · obtain ⟨htexts, hpending⟩ := texts_append_cons t u he
    obtain ⟨hu', hu''⟩ := pending_of_forall hu
    obtain ⟨hx', hx''⟩ := pending_of_forall (hopen u hu)
    rw [htexts, hpending, List.append_assoc, List.cons_append, (texts_append_cons t _ he).1,
      (texts_append_cons t _ he).2, hu', hu'', hx', hx'']
    exact ⟨rfl, rfl⟩

theorem texts_concat_of_not_end (s : List α) {x : α} (hx : isEnd x = false) :
    texts isEnd (s ++ [x]) = texts isEnd s :=
  (texts_pending_concat s hx).1

theorem pending_concat_of_not_end (s : List α) {x : α} (hx : isEnd x = false) :
    pending isEnd (s ++ [x]) = pending isEnd s ++ [x] :=
  (texts_pending_concat s hx).2

/-- **No text holds an item that ends one.** -/
theorem forall_mem_texts_pending (s : List α) :
    (∀ t ∈ texts isEnd s, ∀ x ∈ t, isEnd x = false) ∧ ∀ x ∈ pending isEnd s, isEnd x = false := by
  induction s using List.reverseRecOn with
  | nil => exact ⟨fun t ht => absurd ht List.not_mem_nil, fun x hx => absurd hx List.not_mem_nil⟩
  | append_singleton s x ih =>
    obtain ⟨htexts, hpending⟩ := ih
    cases hx : isEnd x with
    | true =>
      rw [texts_concat_of_end s hx, pending_concat_of_end s hx]
      refine ⟨fun t ht => ?_, fun y hy => absurd hy List.not_mem_nil⟩
      rcases List.mem_append.mp ht with hold | hnew
      · exact htexts t hold
      · rwa [List.mem_singleton.mp hnew]
    | false =>
      rw [texts_concat_of_not_end s hx, pending_concat_of_not_end s hx]
      refine ⟨htexts, fun y hy => ?_⟩
      rcases List.mem_append.mp hy with hold | hnew
      · exact hpending y hold
      · rwa [List.mem_singleton.mp hnew]

/-- A stream that goes on has the texts it had. -/
theorem prefix_texts (s t : List α) : texts isEnd s <+: texts isEnd (s ++ t) := by
  induction t using List.reverseRecOn with
  | nil => exact (List.append_nil s).symm ▸ List.prefix_rfl
  | append_singleton t x ih =>
    rw [← List.append_assoc]
    cases hx : isEnd x with
    | true =>
      rw [texts_concat_of_end _ hx]
      exact ih.trans (List.prefix_append _ _)
    | false => rwa [texts_concat_of_not_end _ hx]

/-- Whether a text is open shows in the last item. -/
theorem pending_eq_nil_iff (s : List α) :
    pending isEnd s = [] ↔ ∀ x ∈ s.getLast?, isEnd x = true := by
  induction s using List.reverseRecOn with
  | nil => exact iff_of_true rfl fun x hx => by cases hx
  | append_singleton s x _ =>
    rw [List.getLast?_concat]
    cases hx : isEnd x with
    | true =>
      rw [pending_concat_of_end s hx]
      exact iff_of_true rfl fun y hy => by rwa [← Option.mem_some.mp hy]
    | false =>
      rw [pending_concat_of_not_end s hx]
      refine iff_of_false (List.append_ne_nil_of_right_ne_nil _ (List.cons_ne_nil x [])) fun h => ?_
      rw [h x rfl] at hx
      cases hx

/-- **What a sender writes is found again**: texts without an item that ends one, each with an
item behind it that does. -/
theorem texts_flatMap {write : β → List α} {bs : List β} (hwrite : ∀ b ∈ bs, ∃ t e,
      write b = t ++ [e] ∧ isEnd e = true ∧ ∀ x ∈ t, isEnd x = false) :
    texts isEnd (bs.flatMap write) = bs.map (fun b => (write b).dropLast) ∧
      pending isEnd (bs.flatMap write) = [] := by
  induction bs with
  | nil => exact ⟨rfl, rfl⟩
  | cons b bs ih =>
    obtain ⟨t, e, hb, he, ht⟩ := hwrite b List.mem_cons_self
    obtain ⟨htexts, hpending⟩ := texts_append_cons t (bs.flatMap write) he
    obtain ⟨ihtexts, ihpending⟩ := ih fun b' hb' => hwrite b' (List.mem_cons_of_mem b hb')
    rw [List.flatMap_cons, List.map_cons, hb, List.dropLast_concat, List.append_assoc,
      List.singleton_append, htexts, hpending, ihtexts, ihpending,
      (pending_of_forall ht).1, (pending_of_forall ht).2]
    exact ⟨rfl, rfl⟩

end Terminated

end VehicleStack
