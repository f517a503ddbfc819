import VehicleStack.Lib.Framing
import VehicleStack.Lib.Mealy

/-!
# Finding the frames again

A receiver that puts frames of a fixed length together (`VehicleStack.Framing.feed`)
may have begun at an item that only looks like a header. From then on it gets whole
blocks, each a header and `more` items. Does it ever find one?

It goes on with what it has, throws it away, and looks for a header from where it then
is: it may take one inside the block for the beginning of a frame, and be as far off as
before. It stays off exactly as long as every block has such an item, and never at an
earlier place than the block before it (`VehicleStack.Framing.Shadowed`):
`VehicleStack.Framing.finds_iff`.
-/

namespace VehicleStack

namespace Framing

variable {α : Type*} (isHeader : α → Prop) [DecidablePred isHeader] (more : ℕ)

/-- A header and the items that make a frame with it. -/
structure Block (p : List α) : Prop where
  length : p.length = more + 1
  header : ∃ x xs, p = x :: xs ∧ isHeader x

/-- What looks like a header at some place of every block, at no earlier place than in the
block before, and in the first block not before place `o`. -/
def Shadowed : ℕ → List (List α) → Prop
  | _, [] => True
  | o, p :: ps => ∃ i x, o ≤ i ∧ p[i]? = some x ∧ isHeader x ∧ Shadowed i ps

/-- One of the blocks is completed as a frame, with its own last item. -/
def Finds (rest : List α) (blocks : List (List α)) : Prop :=
  ∃ i p, blocks[i]? = some p ∧
    (Mealy.outputs (feed isHeader more) rest blocks.flatten)[(more + 1) * i + more]? =
      some (some p)

variable {isHeader more}

omit [DecidablePred isHeader] in
/-- What begins late enough begins late enough for an earlier place. -/
theorem Shadowed.anti {o o' : ℕ} (h : o ≤ o') {ps : List (List α)}
    (hs : Shadowed isHeader o' ps) : Shadowed isHeader o ps := by
  cases ps with
  | nil => trivial
  | cons p ps =>
    obtain ⟨i, x, hi, hx⟩ := hs
    exact ⟨i, x, Nat.le_trans h hi, hx⟩

/-! ### One block -/

/-- An incomplete frame lacks an item. -/
theorem length_final_le (hmore : 0 < more) {rest : List α} (hrest : rest.length ≤ more)
    (xs : List α) : (Mealy.final (feed isHeader more) rest xs).length ≤ more := by
  refine Mealy.final_of_invariant (P := fun r : List α => r.length ≤ more) hrest ?_ xs
  intro r x _
  rw [feed]
  split_ifs with hnil _ hshort
  · exact hmore
  · exact Nat.zero_le more
  · rw [List.length_append]
    exact hshort
  · exact Nat.zero_le more

/-- The receiver collects. -/
theorem feed_collect {rest xs : List α} (hrest : rest ≠ [])
    (hlen : rest.length + xs.length ≤ more) :
    Mealy.final (feed isHeader more) rest xs = rest ++ xs ∧
      Mealy.outputs (feed isHeader more) rest xs = List.replicate xs.length none := by
  induction xs generalizing rest with
  | nil => exact ⟨(List.append_nil rest).symm, rfl⟩
  | cons x xs ih =>
    rw [List.length_cons] at hlen
    have hfeed : feed isHeader more rest x = (rest ++ [x], none) := by
      rw [feed, if_neg hrest, if_pos (by omega)]
    have hne : rest ++ [x] ≠ [] := List.append_ne_nil_of_right_ne_nil _ (List.cons_ne_nil _ _)
    have hlen' : (rest ++ [x]).length + xs.length ≤ more := by
      rw [List.length_append, List.length_singleton]
      omega
    obtain ⟨hfinal, houtputs⟩ := ih hne hlen'
    rw [Mealy.final_cons, Mealy.outputs_cons, hfeed, hfinal, houtputs]
    exact ⟨List.append_cons rest x xs |>.symm, rfl⟩

/-- The receiver completes what it has begun. -/
theorem feed_complete {rest xs : List α} {y : α} (hrest : rest ≠ [])
    (hlen : rest.length + xs.length = more) :
    Mealy.final (feed isHeader more) rest (xs ++ [y]) = [] ∧
      Mealy.outputs (feed isHeader more) rest (xs ++ [y]) =
        List.replicate xs.length none ++ [some (rest ++ xs ++ [y])] := by
  obtain ⟨hfinal, houtputs⟩ := @feed_collect _ isHeader _ more rest xs hrest (Nat.le_of_eq hlen)
  have hne : rest ++ xs ≠ [] := List.append_ne_nil_of_left_ne_nil hrest _
  have hfeed : feed isHeader more (rest ++ xs) y = ([], some (rest ++ xs ++ [y])) := by
    rw [feed, if_neg hne, if_neg (by rw [List.length_append]; omega)]
  rw [Mealy.final_concat, Mealy.outputs_concat, hfinal, houtputs, hfeed]
  exact ⟨rfl, rfl⟩

/-- The receiver waits for a header, and collects from there. -/
theorem feed_wait {xs : List α} (hlen : xs.length ≤ more) :
    Mealy.final (feed isHeader more) [] xs = xs.dropWhile (fun x => ¬ isHeader x) ∧
      Mealy.outputs (feed isHeader more) [] xs = List.replicate xs.length none := by
  induction xs with
  | nil => exact ⟨rfl, rfl⟩
  | cons x xs ih =>
    rw [List.length_cons] at hlen
    by_cases hx : isHeader x
    · have hfeed : feed isHeader more [] x = ([x], none) := by rw [feed, if_pos rfl, if_pos hx]
      obtain ⟨hfinal, houtputs⟩ := @feed_collect _ isHeader _ more [x] xs (List.cons_ne_nil _ _)
        (by rw [List.length_singleton]; omega)
      rw [Mealy.final_cons, Mealy.outputs_cons, hfeed, hfinal, houtputs,
        List.dropWhile_cons_of_neg (by simpa using hx)]
      exact ⟨rfl, rfl⟩
    · have hfeed : feed isHeader more [] x = ([], none) := by rw [feed, if_pos rfl, if_neg hx]
      obtain ⟨hfinal, houtputs⟩ := ih (by omega)
      rw [Mealy.final_cons, Mealy.outputs_cons, hfeed, hfinal, houtputs,
        List.dropWhile_cons_of_pos (by simpa using hx)]
      exact ⟨rfl, rfl⟩

/-- **A block that comes when nothing has begun** is found. -/
theorem feed_block_idle {p : List α} (hmore : 0 < more) (hp : Block isHeader more p) :
    Mealy.final (feed isHeader more) [] p = [] ∧
      (Mealy.outputs (feed isHeader more) [] p)[more]? = some (some p) := by
  obtain ⟨x, xs, rfl, hx⟩ := hp.header
  have hxs : xs.length = more := Nat.succ.inj hp.length
  obtain ⟨ys, y, rfl⟩ := List.eq_nil_or_concat' xs |>.resolve_left fun h => by
    rw [h, List.length_nil] at hxs
    omega
  rw [List.length_append, List.length_singleton] at hxs
  have hfeed : feed isHeader more [] x = ([x], none) := by rw [feed, if_pos rfl, if_pos hx]
  obtain ⟨hfinal, houtputs⟩ := @feed_complete _ isHeader _ more [x] ys y (List.cons_ne_nil _ _)
    (by rw [List.length_singleton]; omega)
  rw [Mealy.final_cons, Mealy.outputs_cons, hfeed, hfinal, houtputs, ← hxs]
  refine ⟨rfl, ?_⟩
  rw [List.getElem?_cons_succ, List.getElem?_append_right (List.length_replicate ▸ Nat.le_refl _),
    List.length_replicate, Nat.sub_self]
  rfl

/-- **A block that comes when a frame has begun** completes that, and the search goes on in
what is left of it. -/
theorem feed_block_busy {rest p : List α} (hrest : rest ≠ []) (hlen : rest.length ≤ more)
    (hp : p.length = more + 1) :
    Mealy.final (feed isHeader more) rest p =
        (p.drop (more + 1 - rest.length)).dropWhile (fun x => ¬ isHeader x) ∧
      (Mealy.outputs (feed isHeader more) rest p)[more]? = some none := by
  have hpos : 0 < rest.length := List.length_pos_of_ne_nil hrest
  obtain ⟨ys, y, hsplit⟩ := List.eq_nil_or_concat' (p.take (more + 1 - rest.length)) |>.resolve_left
    fun h => by
      have := congrArg List.length h
      rw [List.length_take, List.length_nil] at this
      omega
  have hys : rest.length + ys.length = more := by
    have := congrArg List.length hsplit
    rw [List.length_take, List.length_append, List.length_singleton] at this
    omega
  have hdrop : (p.drop (more + 1 - rest.length)).length = rest.length := by
    rw [List.length_drop]
    omega
  have hp' : p = ys ++ [y] ++ p.drop (more + 1 - rest.length) := by
    rw [← hsplit, List.take_append_drop]
  obtain ⟨hfinal, houtputs⟩ := @feed_complete _ isHeader _ more rest ys y hrest hys
  obtain ⟨hfinal', houtputs'⟩ :=
    @feed_wait _ isHeader _ more (p.drop (more + 1 - rest.length)) (by omega)
  constructor
  · conv_lhs => rw [hp']
    rw [Mealy.final_append, hfinal, hfinal']
  · conv_lhs => rw [hp']
    rw [Mealy.outputs_append, hfinal, houtputs', houtputs, List.getElem?_append_right, hdrop,
      List.getElem?_replicate, if_pos]
    all_goals
      rw [List.length_append, List.length_replicate, List.length_singleton]
      omega

variable (isHeader) in
/-- Where a search ends: behind everything, or at the first header. -/
theorem dropWhile_cases (xs : List α) :
    (xs.dropWhile (fun x => ¬ isHeader x) = [] ∧ ∀ x ∈ xs, ¬ isHeader x) ∨
      ∃ before x after, xs = before ++ x :: after ∧ (∀ y ∈ before, ¬ isHeader y) ∧ isHeader x ∧
        xs.dropWhile (fun x => ¬ isHeader x) = x :: after := by
  induction xs with
  | nil => exact Or.inl ⟨rfl, fun _ h => absurd h List.not_mem_nil⟩
  | cons x xs ih =>
    by_cases hx : isHeader x
    · rw [List.dropWhile_cons_of_neg (by simpa using hx)]
      exact Or.inr ⟨[], x, xs, rfl, fun _ h => absurd h List.not_mem_nil, hx, rfl⟩
    · rw [List.dropWhile_cons_of_pos (by simpa using hx)]
      rcases ih with ⟨hnil, hnone⟩ | ⟨before, y, after, hxs, hbefore, hy, hrest⟩
      · exact Or.inl ⟨hnil, List.forall_mem_cons.mpr ⟨hx, hnone⟩⟩
      · exact Or.inr ⟨x :: before, y, after, by rw [hxs, List.cons_append],
          List.forall_mem_cons.mpr ⟨hx, hbefore⟩, hy, hrest⟩

/-- The receiver holds the incomplete frame at the end of what it got. -/
theorem final_feed (hmore : 0 < more) (xs : List α) :
    Mealy.final (feed isHeader more) [] xs = pending isHeader more xs := by
  refine Mealy.final_induct (P := fun ys r => r = pending isHeader more ys)
    (pending_nil isHeader more).symm ?_ xs
  rintro ys r x rfl
  exact (pending_concat hmore ys x).symm

/-! ### Many blocks -/

theorem outputs_block {rest p : List α} {ps : List (List α)} (hp : p.length = more + 1) :
    (Mealy.outputs (feed isHeader more) rest (p :: ps).flatten)[more]? =
        (Mealy.outputs (feed isHeader more) rest p)[more]? ∧
      ∀ i, (Mealy.outputs (feed isHeader more) rest (p :: ps).flatten)[(more + 1) * (i + 1) +
          more]? =
        (Mealy.outputs (feed isHeader more) (Mealy.final (feed isHeader more) rest p)
          ps.flatten)[(more + 1) * i + more]? := by
  rw [List.flatten_cons, Mealy.outputs_append]
  constructor
  · rw [List.getElem?_append_left (by rw [Mealy.length_outputs]; omega)]
  · intro i
    rw [Nat.mul_succ, List.getElem?_append_right (by rw [Mealy.length_outputs]; omega),
      Mealy.length_outputs, hp]
    congr 1
    omega

theorem finds_cons {rest p : List α} {ps : List (List α)} (hp : p.length = more + 1) :
    Finds isHeader more rest (p :: ps) ↔
      (Mealy.outputs (feed isHeader more) rest p)[more]? = some (some p) ∨
        Finds isHeader more (Mealy.final (feed isHeader more) rest p) ps := by
  obtain ⟨hfirst, hlater⟩ := @outputs_block _ isHeader _ more rest p ps hp
  constructor
  · rintro ⟨i, q, hq, hout⟩
    cases i with
    | zero =>
      rw [List.getElem?_cons_zero, Option.some_inj] at hq
      rw [Nat.mul_zero, Nat.zero_add, hfirst] at hout
      exact Or.inl (hq ▸ hout)
    | succ i =>
      rw [hlater] at hout
      exact Or.inr ⟨i, q, hq, hout⟩
  · rintro (hout | ⟨i, q, hq, hout⟩)
    · refine ⟨0, p, rfl, ?_⟩
      rw [Nat.mul_zero, Nat.zero_add, hfirst, hout]
    · exact ⟨i + 1, q, hq, by rw [hlater, hout]⟩

/-- What the receiver holds after a block it did not find: nothing, if no item of the block
from where it searched looks like a header, or the block from the first such item on. -/
theorem shadowed_cons {p : List α} {o : ℕ} (ho : o ≤ p.length) (ps : List (List α)) :
    Shadowed isHeader o (p :: ps) ↔
      (p.drop o).dropWhile (fun x => ¬ isHeader x) ≠ [] ∧
        Shadowed isHeader
          (p.length - ((p.drop o).dropWhile (fun x => ¬ isHeader x)).length) ps := by
  rcases dropWhile_cases isHeader (p.drop o) with
    ⟨hnil, hnone⟩ | ⟨before, x, after, hsplit, hbefore, hx, hrest⟩
  · refine iff_of_false ?_ (fun h => h.1 hnil)
    rintro ⟨i, y, hi, hy, hheader, -⟩
    refine hnone y (List.mem_of_getElem? (i := i - o) ?_) hheader
    rw [List.getElem?_drop, ← hy]
    congr 1
    omega
  · have hlen := congrArg List.length hsplit
    rw [List.length_drop, List.length_append] at hlen
    have hfirst : p.length - (x :: after).length = o + before.length := by omega
    have hat : ∀ i, o ≤ i → p[i]? = (before ++ x :: after)[i - o]? := by
      intro i hi
      rw [← hsplit, List.getElem?_drop]
      congr 1
      omega
    rw [hrest, hfirst]
    constructor
    · rintro ⟨i, y, hi, hy, hheader, hs⟩
      refine ⟨List.cons_ne_nil _ _, hs.anti ?_⟩
      -- an item before the first header is none
      by_contra hlt
      rw [hat i hi, List.getElem?_append_left (by omega)] at hy
      exact hbefore y (List.mem_of_getElem? hy) hheader
    · rintro ⟨-, hs⟩
      refine ⟨o + before.length, x, Nat.le_add_right _ _, ?_, hx, hs⟩
      rw [hat _ (Nat.le_add_right _ _), Nat.add_sub_cancel_left,
        List.getElem?_append_right (Nat.le_refl _), Nat.sub_self]
      rfl

/-- **A receiver finds a block** unless it begins inside a frame and every block but the last
has something for it to go wrong with again. -/
theorem finds_iff (hmore : 0 < more) {blocks : List (List α)}
    (hblocks : ∀ p ∈ blocks, Block isHeader more p) {rest : List α} (hrest : rest.length ≤ more) :
    Finds isHeader more rest blocks ↔ blocks ≠ [] ∧
      (rest = [] ∨ ¬ Shadowed isHeader (more + 1 - rest.length) blocks.dropLast) := by
  induction blocks generalizing rest with
  | nil => exact iff_of_false (fun ⟨_, _, h, _⟩ => by cases h) (fun h => h.1 rfl)
  | cons p ps ih =>
    have hp := hblocks p List.mem_cons_self
    rw [finds_cons hp.length]
    by_cases hnil : rest = []
    · subst hnil
      exact iff_of_true (Or.inl (feed_block_idle hmore hp).2) ⟨List.cons_ne_nil _ _, Or.inl rfl⟩
    · obtain ⟨hfinal, hlast⟩ := @feed_block_busy _ isHeader _ more rest p hnil hrest hp.length
      rw [hlast, ih (fun q hq => hblocks q (List.mem_cons_of_mem p hq))
        (length_final_le hmore hrest p)]
      simp only [Option.some_inj, reduceCtorEq, false_or, hnil, ne_eq, not_false_iff, true_and]
      cases ps with
      | nil => exact iff_of_false (fun h => h.1 rfl) (fun h => h trivial)
      | cons q qs =>
        rw [List.dropLast_cons_of_ne_nil (List.cons_ne_nil q qs),
          shadowed_cons (by rw [hp.length]; omega), hfinal, hp.length]
        simp only [reduceCtorEq, not_false_iff, true_and, ne_eq, not_and_or, not_not]

/-- What is completed with the last item of a block is the block. -/
theorem eq_block_of_outputs (hmore : 0 < more) {blocks : List (List α)}
    (hblocks : ∀ p ∈ blocks, Block isHeader more p) {rest : List α} (hrest : rest.length ≤ more)
    {i : ℕ} {p q : List α} (hp : blocks[i]? = some p)
    (hq : (Mealy.outputs (feed isHeader more) rest blocks.flatten)[(more + 1) * i + more]? =
      some (some q)) : q = p := by
  induction blocks generalizing rest i with
  | nil => cases hp
  | cons b bs ih =>
    have hb := hblocks b List.mem_cons_self
    obtain ⟨hfirst, hlater⟩ := @outputs_block _ isHeader _ more rest b bs hb.length
    cases i with
    | zero =>
      rw [List.getElem?_cons_zero, Option.some_inj] at hp
      subst hp
      rw [Nat.mul_zero, Nat.zero_add, hfirst] at hq
      by_cases hnil : rest = []
      · rw [hnil, (feed_block_idle hmore hb).2, Option.some_inj, Option.some_inj] at hq
        exact hq.symm
      · rw [(feed_block_busy hnil hrest hb.length).2] at hq
        cases hq
    | succ i =>
      rw [hlater] at hq
      exact ih (fun c hc => hblocks c (List.mem_cons_of_mem b hc))
        (length_final_le hmore hrest b) hp hq

end Framing

end VehicleStack
