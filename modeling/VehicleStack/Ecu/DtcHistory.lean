import VehicleStack.Ecu.Dtc

/-!
# Histories of reports

Runs of `DTC_Report`, `DTC_Add` and `DTC_Clear` from an empty store, and what the
status of a stored code says about them. A report takes a code from unseen to
Pending and from Pending to Confirmed, so one would expect a confirmed code to stay
confirmed until it is cleared, and the status to tell one report from several
(`VehicleStack.Ecu.ConfirmedLaw`).

The 256th report of a code makes its eight-bit counter zero, which is how
`DTC_Report` tells an entry never detected, and the report after that takes the code
back to Pending. `VehicleStack.Ecu.confirmedLaw_iff` says that this is the only way
in which a history loses what it had confirmed.
-/

namespace VehicleStack

namespace Ecu

/-- A call that changes the store. -/
inductive DtcOp where
  | report (code : ℕ)
  | add (code : ℕ) (status : UInt8)
  | clear
  deriving DecidableEq

namespace DtcOp

/-- The code a call detects. -/
def code? : DtcOp → Option ℕ
  | report code => some code
  | add code _ => some code
  | clear => none

/-- The statuses `DTC_Add` is called with: Pending and Confirmed. -/
def Admissible : DtcOp → Prop
  | add _ status => status = 0x01 ∨ status = 0x40
  | _ => True

/-- The call does not force the code it detects up to Confirmed. -/
def Detects (op : DtcOp) (code : ℕ) : Prop := op = report code ∨ op = add code 0x01

instance (op : DtcOp) (code : ℕ) : Decidable (op.Detects code) :=
  inferInstanceAs (Decidable (_ ∨ _))

/-- A call of `DTC_Report` or `DTC_Clear`. -/
def NotAdd : DtcOp → Prop
  | add _ _ => False
  | _ => True

end DtcOp

namespace DtcStore

/-- The call's effect on the store. -/
def apply (s : DtcStore) : DtcOp → DtcStore
  | .report code => s.dtcReport code
  | .add code status => s.dtcAdd code status
  | .clear => s.dtcClear

/-- The store after a history of calls, from its start. -/
def after (ops : List DtcOp) : DtcStore := ops.foldl apply {}

@[simp]
theorem after_concat (ops : List DtcOp) (op : DtcOp) :
    after (ops ++ [op]) = (after ops).apply op := by
  rw [after, List.foldl_append]
  rfl

/-- A call that does not clear leaves the entries of the other codes alone. -/
theorem lookup_apply_of_ne {s : DtcStore} {op : DtcOp} {c : ℕ} (hclear : op ≠ .clear)
    (hne : op.code? ≠ some c) : (s.apply op).lookup c = s.lookup c := by
  cases op with
  | report code => exact lookup_dtcReport_of_ne fun h => hne (congrArg some h.symm)
  | add code status => exact lookup_dtcAdd_of_ne fun h => hne (congrArg some h.symm)
  | clear => exact absurd rfl hclear

end DtcStore

/-! ### What the entries of a history look like -/

namespace DtcEntry

/-- An entry is Pending or Confirmed, and the counter of one that is Pending has not
wrapped. -/
structure Regular (e : DtcEntry) : Prop where
  status : e.status = 0x01 ∨ e.status = 0x40
  confirmed_of_wrapped : e.Wrapped → e.status = 0x40

theorem regular_fresh (code : ℕ) : (fresh code).Regular :=
  ⟨Or.inl rfl, fun h => absurd h (show (1 : UInt8) ≠ 0 by decide)⟩

/-- Detecting a code again confirms it, unless the counter has wrapped. -/
theorem status_detect_of_not_wrapped {e : DtcEntry} (h : ¬ e.Wrapped) : e.detect.status = 0x40 := by
  rw [detect_of_not_wrapped h]

theorem status_detect_of_wrapped {e : DtcEntry} (h : e.Wrapped) : e.detect.status = 0x01 := by
  rw [detect_of_wrapped h]

theorem regular_detect (e : DtcEntry) : e.detect.Regular := by
  by_cases h : e.Wrapped
  · rw [detect_of_wrapped h]
    exact ⟨Or.inl rfl, fun hw => absurd hw (show (1 : UInt8) ≠ 0 by decide)⟩
  · exact ⟨Or.inr (status_detect_of_not_wrapped h), fun _ => status_detect_of_not_wrapped h⟩

/-- Asking for Pending changes nothing. -/
theorem raise_pending {e : DtcEntry} (h : e.Regular) : e.raise 0x01 = e := by
  have hle : ¬ e.status < 0x01 := by
    rcases h.status with hs | hs <;> rw [hs] <;> decide
  rw [raise, if_neg hle]

/-- Asking for Confirmed gives it. -/
theorem status_raise_confirmed {e : DtcEntry} (h : e.Regular) : (e.raise 0x40).status = 0x40 := by
  rw [raise]
  rcases h.status with hs | hs
  · rw [if_pos (by rw [hs]; decide)]
    split <;> rfl
  · rw [if_neg (by rw [hs]; decide)]
    exact hs

theorem Regular.raise {e : DtcEntry} (h : e.Regular) {status : UInt8}
    (hstatus : status = 0x01 ∨ status = 0x40) : (e.raise status).Regular := by
  rcases hstatus with rfl | rfl
  · rw [raise_pending h]
    exact h
  · exact ⟨Or.inr (status_raise_confirmed h), fun _ => status_raise_confirmed h⟩

end DtcEntry

namespace DtcStore

theorem regular_dtcReport {s : DtcStore} (h : ∀ c e, s.lookup c = some e → e.Regular) (code : ℕ) :
    ∀ c e, (s.dtcReport code).lookup c = some e → e.Regular := by
  intro c e he
  by_cases hc : c = code
  · subst hc
    rw [lookup_dtcReport_self] at he
    split at he
    · obtain rfl := Option.some.inj he
      exact DtcEntry.regular_detect _
    · split at he
      · obtain rfl := Option.some.inj he
        exact DtcEntry.regular_fresh c
      · cases he
  · rw [lookup_dtcReport_of_ne hc] at he
    exact h c e he

theorem regular_apply {s : DtcStore} (h : ∀ c e, s.lookup c = some e → e.Regular) {op : DtcOp}
    (hop : op.Admissible) : ∀ c e, (s.apply op).lookup c = some e → e.Regular := by
  cases op with
  | report code => exact regular_dtcReport h code
  | clear => exact nofun
  | add code status =>
    intro c e he
    change (s.dtcAdd code status).lookup c = some e at he
    by_cases hc : c = code
    · subst hc
      rw [lookup_dtcAdd_self] at he
      obtain ⟨e', he', rfl⟩ := Option.map_eq_some_iff.mp he
      exact (regular_dtcReport h c c e' he').raise hop
    · rw [lookup_dtcAdd_of_ne hc] at he
      exact h c e he

/-- **Every entry is regular**, after any history of admissible calls. -/
theorem regular_after {ops : List DtcOp} (h : ∀ op ∈ ops, op.Admissible) :
    ∀ c e, (after ops).lookup c = some e → e.Regular := by
  induction ops using List.reverseRecOn with
  | nil => exact nofun
  | append_singleton ops op ih =>
    rw [after_concat]
    exact regular_apply (ih fun o ho => h o (List.mem_append_left _ ho)) (h op (by simp))

/-- **One call on a stored code**: it is confirmed afterwards, unless the call only
detects a code whose counter has wrapped, which is Pending afterwards. -/
theorem lookup_apply_stored {s : DtcStore} {op : DtcOp} (hop : op.Admissible) {c : ℕ}
    (hc : op.code? = some c) {e : DtcEntry} (he : s.lookup c = some e) :
    ∃ e', (s.apply op).lookup c = some e' ∧
      e'.status = if op.Detects c ∧ e.Wrapped then 0x01 else 0x40 := by
  have hreport : (s.dtcReport c).lookup c = some e.detect := by
    rw [lookup_dtcReport_self, he]
  cases op with
  | clear => cases hc
  | report code =>
    obtain rfl := Option.some.inj hc
    refine ⟨e.detect, hreport, ?_⟩
    by_cases hw : e.Wrapped
    · rw [if_pos ⟨Or.inl rfl, hw⟩, DtcEntry.status_detect_of_wrapped hw]
    · rw [if_neg fun h => hw h.2, DtcEntry.status_detect_of_not_wrapped hw]
  | add code status =>
    obtain rfl := Option.some.inj hc
    refine ⟨e.detect.raise status, ?_, ?_⟩
    · change (s.dtcAdd code status).lookup code = _
      rw [lookup_dtcAdd_self, hreport]
      rfl
    · rcases hop with rfl | rfl
      · rw [DtcEntry.raise_pending (DtcEntry.regular_detect e)]
        by_cases hw : e.Wrapped
        · rw [if_pos ⟨Or.inr rfl, hw⟩, DtcEntry.status_detect_of_wrapped hw]
        · rw [if_neg fun h => hw h.2, DtcEntry.status_detect_of_not_wrapped hw]
      · have hforced : ¬ (DtcOp.Detects (.add code 0x40) code ∧ e.Wrapped) := by
          rintro ⟨h | h, -⟩
          · cases h
          · exact absurd (DtcOp.add.inj h).2 (by decide)
        rw [if_neg hforced, DtcEntry.status_raise_confirmed (DtcEntry.regular_detect e)]

end DtcStore

/-! ### Counting reports -/

open DtcStore

/-- How often a code has been reported or added since the last clear. -/
def reports (c : ℕ) (ops : List DtcOp) : ℕ :=
  ops.foldl (fun n op => if op = .clear then 0 else if op.code? = some c then n + 1 else n) 0

@[simp]
theorem reports_concat (c : ℕ) (ops : List DtcOp) (op : DtcOp) :
    reports c (ops ++ [op]) =
      if op = .clear then 0
      else if op.code? = some c then reports c ops + 1 else reports c ops := by
  rw [reports, List.foldl_append]
  rfl

/-- No call only detects a code whose counter has wrapped. -/
def NeverWraps (ops : List DtcOp) : Prop :=
  ∀ pre op post, ops = pre ++ op :: post → ∀ c, op.Detects c →
    ∀ e, (after pre).lookup c = some e → ¬ e.Wrapped

theorem neverWraps_nil : NeverWraps [] := by
  rintro (_ | ⟨o, pre⟩) op post heq <;> cases heq

/-- One more call is harmless as long as no counter in the store has wrapped. -/
theorem NeverWraps.concat {ops : List DtcOp} (h : NeverWraps ops)
    (hentries : ∀ e ∈ (after ops).entries, ¬ e.Wrapped) (op : DtcOp) :
    NeverWraps (ops ++ [op]) := by
  intro pre o post heq c ho e he
  rcases List.eq_nil_or_concat post with rfl | ⟨post', o', rfl⟩
  · obtain ⟨rfl, -⟩ := List.append_inj' heq rfl
    exact hentries e (List.mem_of_find?_eq_some he)
  · rw [List.concat_eq_append, ← List.cons_append, ← List.append_assoc] at heq
    obtain ⟨rfl, -⟩ := List.append_inj' heq rfl
    exact h pre o post' rfl c ho e he

theorem NeverWraps.of_concat {ops : List DtcOp} {op : DtcOp} (h : NeverWraps (ops ++ [op])) :
    NeverWraps ops := by
  intro pre o post heq
  exact h pre o (post ++ [op]) (by rw [heq, List.append_assoc]; rfl)

/-- An entry counted up to `n` without a wrap. -/
structure Counted (e : DtcEntry) (n : ℕ) : Prop where
  detectCnt : e.detectCnt = UInt8.ofNat n
  pos : 1 ≤ n
  le : n ≤ 256
  status : e.status = if n = 1 then 0x01 else 0x40

theorem counted_fresh (code : ℕ) : Counted (DtcEntry.fresh code) 1 :=
  ⟨rfl, Nat.le_refl 1, by omega, rfl⟩

/-- Detecting a code whose counter has not wrapped counts one further. -/
theorem Counted.detect {e : DtcEntry} {n : ℕ} (h : Counted e n) (hw : ¬ e.Wrapped) :
    Counted e.detect (n + 1) := by
  have hpos := h.pos
  have hle := h.le
  have hne : n ≠ 256 := by
    rintro rfl
    exact hw h.detectCnt
  rw [DtcEntry.detect_of_not_wrapped hw]
  refine ⟨?_, by omega, by omega, ?_⟩
  · rw [h.detectCnt, UInt8.ofNat_add]
    rfl
  · rw [if_neg (by omega)]

/-- **What a history of reports leaves**: every entry has counted the reports of its
code, and a code without an entry, if there was room for it, has not been reported. -/
theorem counted_after {ops : List DtcOp} (hops : ∀ op ∈ ops, op.NotAdd) (hw : NeverWraps ops)
    (c : ℕ) : (∀ e, (after ops).lookup c = some e → Counted e (reports c ops)) ∧
      ((after ops).lookup c = none → (after ops).entries.length < maxDtcCount →
        reports c ops = 0) := by
  induction ops using List.reverseRecOn with
  | nil => exact ⟨nofun, fun _ _ => rfl⟩
  | append_singleton ops op ih =>
    obtain ⟨hstored, habsent⟩ := ih (fun o ho => hops o (List.mem_append_left _ ho)) hw.of_concat
    rw [after_concat, reports_concat]
    cases op with
    | add code status => exact absurd (hops (.add code status) (by simp)) id
    | clear => exact ⟨nofun, fun _ _ => rfl⟩
    | report code =>
      rw [if_neg (by rintro ⟨⟩)]
      by_cases hc : code = c
      · subst hc
        rw [if_pos (show DtcOp.code? (.report code) = some code from rfl)]
        change (∀ e, ((after ops).dtcReport code).lookup code = some e → _) ∧
          (((after ops).dtcReport code).lookup code = none → _)
        rw [lookup_dtcReport_self]
        cases hlookup : (after ops).lookup code with
        | some e =>
          refine ⟨?_, nofun⟩
          rintro _ ⟨⟩
          exact (hstored e hlookup).detect (hw ops _ [] rfl code (Or.inl rfl) e hlookup)
        | none =>
          by_cases hroom : (after ops).entries.length < maxDtcCount
          · simp only [hroom, if_true]
            refine ⟨?_, nofun⟩
            rintro _ ⟨⟩
            rw [habsent hlookup hroom]
            exact counted_fresh code
          · -- the store is full, and stays so
            have hmore := length_le_dtcReport (after ops) code
            simp only [hroom, if_false]
            exact ⟨nofun, fun _ hlt => absurd (Nat.lt_of_le_of_lt hmore hlt) hroom⟩
      · have hne : DtcOp.code? (.report code) ≠ some c := fun h => hc (Option.some.inj h)
        rw [if_neg hne, lookup_apply_of_ne (by rintro ⟨⟩) hne]
        exact ⟨hstored, fun hnone hlt =>
          habsent hnone (Nat.lt_of_le_of_lt (length_le_dtcReport (after ops) code) hlt)⟩

/-! ### The law -/

/-- **A confirmed trouble code stays confirmed** until the next clear, and in a
history of reports and clears alone the status of a stored code is Pending if it has
been reported once since the last clear and Confirmed if more often. -/
structure ConfirmedLaw (ops : List DtcOp) : Prop where
  stays : ∀ pre mid post, ops = pre ++ mid ++ post → .clear ∉ mid → ∀ c e,
    (after pre).lookup c = some e → e.status = 0x40 →
      ∃ e', (after (pre ++ mid)).lookup c = some e' ∧ e'.status = 0x40
  counts : (∀ op ∈ ops, op.NotAdd) → ∀ pre, pre <+: ops → ∀ c e,
    (after pre).lookup c = some e →
      (e.status = 0x01 ↔ reports c pre = 1) ∧ (e.status = 0x40 ↔ 2 ≤ reports c pre)

/-- Without a wrap, a confirmed code is confirmed after any further calls that do not
clear. -/
theorem confirmed_stays {pre mid : List DtcOp} (hops : ∀ op ∈ mid, op.Admissible)
    (hw : NeverWraps (pre ++ mid)) (hclear : .clear ∉ mid) {c : ℕ} {e : DtcEntry}
    (he : (after pre).lookup c = some e) (hstatus : e.status = 0x40) :
    ∃ e', (after (pre ++ mid)).lookup c = some e' ∧ e'.status = 0x40 := by
  induction mid using List.reverseRecOn with
  | nil => exact ⟨e, by rw [List.append_nil, he], hstatus⟩
  | append_singleton mid op ih =>
    rw [← List.append_assoc] at hw ⊢
    obtain ⟨e', he', hstatus'⟩ := ih (fun o ho => hops o (List.mem_append_left _ ho)) hw.of_concat
      fun h => hclear (List.mem_append_left _ h)
    rw [after_concat]
    have hop : op ≠ .clear := by
      rintro rfl
      exact hclear (by simp)
    by_cases hc : op.code? = some c
    · obtain ⟨e'', he'', hs⟩ := lookup_apply_stored (hops op (by simp)) hc he'
      have hno : ¬ (op.Detects c ∧ e'.Wrapped) :=
        fun h => hw (pre ++ mid) op [] rfl c h.1 e' he' h.2
      exact ⟨e'', he'', by rw [hs, if_neg hno]⟩
    · exact ⟨e', by rw [lookup_apply_of_ne hop hc, he'], hstatus'⟩

theorem NeverWraps.of_append {pre post : List DtcOp} (h : NeverWraps (pre ++ post)) :
    NeverWraps pre := by
  intro p op q heq
  exact h p op (q ++ post) (by rw [heq, List.append_assoc]; rfl)

theorem confirmedLaw_of_neverWraps {ops : List DtcOp} (hops : ∀ op ∈ ops, op.Admissible)
    (hw : NeverWraps ops) : ConfirmedLaw ops where
  stays := by
    rintro pre mid post rfl hclear c e he hstatus
    exact confirmed_stays (fun op hop => hops op (by simp [hop])) hw.of_append hclear he hstatus
  counts := by
    rintro hnotAdd pre ⟨post, rfl⟩ c e he
    have hcounted := (counted_after (fun op hop => hnotAdd op (List.mem_append_left _ hop))
      hw.of_append c).1 e he
    have hpos := hcounted.pos
    rw [hcounted.status]
    by_cases hone : reports c pre = 1
    · rw [if_pos hone, hone]
      exact ⟨iff_of_true rfl rfl, iff_of_false (by decide) (by decide)⟩
    · rw [if_neg hone]
      exact ⟨iff_of_false (by decide) hone, iff_of_true rfl (by omega)⟩

/-- A call that only detects a code whose counter has wrapped takes it from Confirmed
back to Pending. -/
theorem downgraded {ops : List DtcOp} (hops : ∀ op ∈ ops, op.Admissible) {op : DtcOp} {c : ℕ}
    (hop : op.Detects c) {e : DtcEntry} (he : (after ops).lookup c = some e) (hw : e.Wrapped) :
    e.status = 0x40 ∧ ∃ e', (after (ops ++ [op])).lookup c = some e' ∧ e'.status = 0x01 := by
  have hadmissible : op.Admissible := by
    rcases hop with rfl | rfl
    · trivial
    · exact Or.inl rfl
  have hcode : op.code? = some c := by
    rcases hop with rfl | rfl <;> rfl
  obtain ⟨e', he', hs⟩ := lookup_apply_stored hadmissible hcode he
  refine ⟨(regular_after hops c e he).confirmed_of_wrapped hw, e', ?_, ?_⟩
  · rw [after_concat, he']
  · rw [hs, if_pos ⟨hop, hw⟩]

theorem neverWraps_of_stays {ops : List DtcOp} (hops : ∀ op ∈ ops, op.Admissible)
    (h : ConfirmedLaw ops) : NeverWraps ops := by
  rintro pre op post rfl c hop e he hw
  obtain ⟨hconfirmed, e', he', hpending⟩ :=
    downgraded (fun o ho => hops o (List.mem_append_left _ ho)) hop he hw
  have hclear : DtcOp.clear ∉ [op] := by
    rw [List.mem_singleton]
    rintro rfl
    rcases hop with h | h <;> cases h
  obtain ⟨e'', he'', hstill⟩ := h.stays pre [op] post (by simp) hclear c e he hconfirmed
  rw [he'] at he''
  obtain rfl := Option.some.inj he''
  rw [hpending] at hstill
  exact absurd hstill (by decide)

/-- **When a confirmed code stays confirmed.** A history keeps what it confirmed, and
its statuses tell one report from several, exactly if no call that merely detects a
code finds the counter of its entry wrapped round to zero. -/
theorem confirmedLaw_iff {ops : List DtcOp} (hops : ∀ op ∈ ops, op.Admissible) :
    ConfirmedLaw ops ↔ NeverWraps ops :=
  ⟨neverWraps_of_stays hops, confirmedLaw_of_neverWraps hops⟩

/-- A code reported, added as Confirmed and reported again. -/
theorem confirmedLaw_three :
    ConfirmedLaw [.report 0x010100, .add 0x010100 0x40, .report 0x010100] :=
  (confirmedLaw_iff (by simp [DtcOp.Admissible])).mpr
    (((neverWraps_nil.concat (by decide) _).concat (by decide) _).concat (by decide) _)

/-- The 257th report of a code takes it back to Pending. -/
theorem report_257 : ¬ ConfirmedLaw (List.replicate 257 (.report 0x010100)) := by
  intro h
  have hsplit : List.replicate 257 (DtcOp.report 0x010100) =
      List.replicate 256 (.report 0x010100) ++ [.report 0x010100] ++ [] := by
    rw [List.append_nil, ← List.replicate_succ']
  have hstays := h.stays _ _ _ hsplit (by decide) 0x010100
  have hconfirmed : (after (List.replicate 256 (.report 0x010100))).lookup 0x010100 =
      some { dtcCode := 0x010100, status := 0x40, detectCnt := 0 } := by decide +kernel
  have hpending : (after (List.replicate 256 (.report 0x010100) ++ [.report 0x010100])).lookup
      0x010100 = some { dtcCode := 0x010100, status := 0x01, detectCnt := 1 } := by decide +kernel
  obtain ⟨e', he', hs⟩ := hstays _ hconfirmed rfl
  rw [hpending] at he'
  obtain rfl := Option.some.inj he'
  exact absurd hs (by decide)

end Ecu

end VehicleStack
