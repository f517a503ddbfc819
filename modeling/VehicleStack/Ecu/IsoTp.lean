import VehicleStack.Lib.Run
import VehicleStack.Lib.Subsequence
import VehicleStack.Ecu.Can

/-!
# Transfers of several frames, and what the receiver makes of them

Seen from outside, a transfer is a first frame and the consecutive frames that
came after it, and what the ECU has of it are the bytes it copies from the first
frame and from those consecutive frames that came with the number that was due
(`VehicleStack.Ecu.Transfer.copied`). Numbers have four bits, so they come round
every sixteen frames.

This is the abstract receiver, stated over the frames alone.
`VehicleStack.Ecu.Tracks` says how the variables of `can.c` stand for it, and
`VehicleStack.Ecu.tracks_run` that they do after every run that has not left the
buffer. From it come

* `VehicleStack.Ecu.observe_transfer` – a transfer that announces at most 251
  bytes never leaves the buffer, and is handed on exactly once it is complete;
* `VehicleStack.Ecu.sound_run` – a transfer that announces more is never over
  before the buffer is full.
-/

namespace VehicleStack

namespace Ecu

open Subsequence

/-! ### The abstract receiver -/

/-- The number the `k`-th consecutive frame of a transfer carries, counted from
zero. -/
def dueSn (k : ℕ) : UInt8 := UInt8.ofNat ((k + 1) % 16)

/-- The numbers as `tpNextSn` counts them. -/
theorem dueSn_succ (k : ℕ) : dueSn (k + 1) = (dueSn k + 1) &&& 0x0F := by
  have hround : ∀ r : Fin 16,
      UInt8.ofNat ((r.val + 1) % 16) = (UInt8.ofNat r.val + 1) &&& 0x0F := by decide
  have h := hround ⟨(k + 1) % 16, Nat.mod_lt _ (by decide)⟩
  rw [dueSn, dueSn, ← h, Nat.mod_add_mod]

theorem dueSn_ne_succ (k : ℕ) : dueSn k ≠ dueSn (k + 1) := by
  have hround : ∀ r : Fin 16, UInt8.ofNat r.val ≠ UInt8.ofNat ((r.val + 1) % 16) := by decide
  have h := hround ⟨(k + 1) % 16, Nat.mod_lt _ (by decide)⟩
  rwa [Nat.mod_add_mod] at h

/-- A first frame and the consecutive frames that came after it. -/
structure Transfer where
  first : Buffer UInt8 8
  consecutive : List (Buffer UInt8 8) := []
  deriving DecidableEq

namespace Transfer

/-- The transfer with one more consecutive frame. -/
def push (t : Transfer) (data : Buffer UInt8 8) : Transfer :=
  { t with consecutive := t.consecutive ++ [data] }

/-- The length the transfer announces. -/
def announced (t : Transfer) : ℕ := announcedLen t.first

/-- The consecutive frames that came with the number due. -/
def inOrder (t : Transfer) : List (Buffer UInt8 8) := taken dueSn sn t.consecutive

/-- The bytes copied into the buffer. `Can_RecvMsg` hands on eight bytes of every frame, and
`Can_TpRx` copies six or seven of them whatever the length of the frame, so the last ones may be
none of the frame's own. -/
def copied (t : Transfer) : List UInt8 :=
  t.first.cells.drop 2 ++ t.inOrder.flatMap fun data => data.cells.drop 1

/-- The transfer is not over: the length is compared after every consecutive
frame, so the first frame alone never ends one. -/
def Pending (t : Transfer) : Prop :=
  t.consecutive = [] ∨ t.copied.length < t.announced

instance (t : Transfer) : Decidable t.Pending := inferInstanceAs (Decidable (_ ∨ _))

/-- What is handed on when the transfer is over. -/
def pdus (t : Transfer) : List (List UInt8 × ℕ) :=
  if t.Pending then [] else [(t.copied.take t.announced, t.announced)]

theorem announced_push (t : Transfer) (data : Buffer UInt8 8) :
    (t.push data).announced = t.announced := rfl

theorem length_copied (t : Transfer) : t.copied.length = 6 + 7 * t.inOrder.length := by
  have hpayload : ∀ l : List (Buffer UInt8 8),
      (l.flatMap fun data => data.cells.drop 1).length = 7 * l.length := by
    intro l
    induction l with
    | nil => rfl
    | cons data l ih =>
      rw [List.flatMap_cons, List.length_append, ih, List.length_drop, Buffer.length_cells,
        List.length_cons]
      omega
  rw [copied, List.length_append, hpayload, List.length_drop, Buffer.length_cells]

theorem inOrder_push_due {t : Transfer} {data : Buffer UInt8 8}
    (h : sn data = dueSn t.inOrder.length) : (t.push data).inOrder = t.inOrder ++ [data] :=
  taken_concat_due h

theorem inOrder_push_ignored {t : Transfer} {data : Buffer UInt8 8}
    (h : sn data ≠ dueSn t.inOrder.length) : (t.push data).inOrder = t.inOrder :=
  taken_concat_ignored h

theorem copied_push_due {t : Transfer} {data : Buffer UInt8 8}
    (h : sn data = dueSn t.inOrder.length) :
    (t.push data).copied = t.copied ++ data.cells.drop 1 := by
  rw [copied, inOrder_push_due h, List.flatMap_append, List.flatMap_singleton,
    ← List.append_assoc]
  rfl

theorem copied_push_ignored {t : Transfer} {data : Buffer UInt8 8}
    (h : sn data ≠ dueSn t.inOrder.length) : (t.push data).copied = t.copied := by
  rw [copied, inOrder_push_ignored h]
  rfl

theorem copied_prefix_push (t : Transfer) (data : Buffer UInt8 8) :
    t.copied <+: (t.push data).copied := by
  by_cases h : sn data = dueSn t.inOrder.length
  · rw [copied_push_due h]
    exact List.prefix_append _ _
  · exact (copied_push_ignored h).symm ▸ List.prefix_rfl

theorem pending_push_iff {t : Transfer} {data : Buffer UInt8 8} :
    (t.push data).Pending ↔ (t.push data).copied.length < t.announced := by
  rw [Pending, announced_push]
  exact or_iff_right (List.append_ne_nil_of_right_ne_nil _ (List.cons_ne_nil _ _))

/-- A transfer that is over stays over, and what it has handed on does not change. -/
theorem pdus_push_of_not_pending {t : Transfer} (h : ¬ t.Pending) (data : Buffer UInt8 8) :
    ¬ (t.push data).Pending ∧ (t.push data).pdus = t.pdus := by
  have hlen : t.announced ≤ t.copied.length := not_lt.mp fun hlt => h (Or.inr hlt)
  obtain ⟨more, hmore⟩ := t.copied_prefix_push data
  have hover : ¬ (t.push data).Pending := by
    rw [pending_push_iff, ← hmore, List.length_append]
    omega
  refine ⟨hover, ?_⟩
  rw [pdus, pdus, if_neg hover, if_neg h, announced_push, ← hmore,
    List.take_append_of_le_length hlen]

/-- **A request cut into frames**, with each consecutive frame repeated or dropped in
place: it is handed on, as it is, if and only if no consecutive frame was dropped. -/
theorem pdus_repeated {uds : List UInt8} {first : Buffer UInt8 8}
    {ys : List (Buffer UInt8 8 × ℕ)} (hlo : 7 ≤ uds.length)
    (hannounced : announcedLen first = uds.length) (hfirst : first.cells.drop 2 = uds.take 6)
    (hnumbers : ys.map (sn ∘ Prod.fst) = (List.range ys.length).map dueSn)
    (hbytes : uds.drop 6 <+: (ys.map Prod.fst).flatMap fun data => data.cells.drop 1)
    (hlen : ys.length = (uds.length - 6 + 6) / 7) :
    pdus { first := first, consecutive := repeated ys } =
      if ∀ p ∈ ys, p.2 ≠ 0 then [(uds, uds.length)] else [] := by
  have hcopied := length_copied { first := first, consecutive := repeated ys }
  by_cases hall : ∀ p ∈ ys, p.2 ≠ 0
  · -- every frame is taken once, so all the bytes are there
    have htaken : inOrder { first := first, consecutive := repeated ys } = ys.map Prod.fst :=
      taken_repeated dueSn_ne_succ hnumbers hall
    obtain ⟨more, hmore⟩ := hbytes
    have hbytes : copied { first := first, consecutive := repeated ys } = uds ++ more := by
      rw [copied, htaken, hfirst, ← hmore, ← List.append_assoc, List.take_append_drop]
    rw [htaken, List.length_map] at hcopied
    have hover : ¬ Pending { first := first, consecutive := repeated ys } := by
      rintro (hnil | hlt)
      · rw [inOrder, hnil, taken_nil] at htaken
        have := congrArg List.length htaken
        rw [List.length_map, List.length_nil] at this
        omega
      · rw [announced, hannounced] at hlt
        omega
    rw [pdus, if_neg hover, if_pos hall, hbytes, announced, hannounced, List.take_left]
  · have hmiss : ∃ p ∈ ys, p.2 = 0 := by
      push Not at hall
      exact hall
    have hfew : (inOrder { first := first, consecutive := repeated ys }).length < ys.length :=
      length_taken_lt_of_missing dueSn_ne_succ hmiss
    have hpending : Pending { first := first, consecutive := repeated ys } := by
      refine Or.inr ?_
      rw [announced, hannounced]
      omega
    rw [pdus, if_pos hpending, if_neg hall]

end Transfer

/-! ### The variables stand for the abstract receiver -/

/-- While a transfer is pending, the variables hold what has been copied of it. -/
structure Reflects (t : Transfer) (s : Tp) : Prop where
  tpExpected : s.tpExpected = t.announced
  tpLen : s.tpLen = t.copied.length
  tpNextSn : s.tpNextSn = dueSn t.inOrder.length
  tpBuf : s.tpBuf.cells.take s.tpLen = t.copied

/-- The transfer is in progress and reflected in the variables, or it is over and
none is in progress. -/
def Tracks (t : Transfer) (s : Tp) : Prop :=
  (s.tpActive = true ∧ t.Pending ∧ Reflects t s) ∨ (s.tpActive = false ∧ ¬ t.Pending)

/-- What has been copied fits into the buffer. -/
theorem Reflects.length_copied_le {t : Transfer} {s : Tp} (h : Reflects t s) :
    t.copied.length ≤ 256 := by
  have hlen := congrArg List.length h.tpBuf
  rw [List.length_take, Buffer.length_cells] at hlen
  omega

theorem Reflects.store {t : Transfer} {s s' : Tp} {data : Buffer UInt8 8} (h : Reflects t s)
    (hstore : s.store data = some s') :
    Reflects (t.push data) s' ∧ s'.tpActive = s.tpActive := by
  rw [Tp.store, h.tpNextSn] at hstore
  split at hstore
  · -- the number is due, and the write stayed inside
    rename_i hdue
    obtain ⟨buf, hbuf, rfl⟩ := Option.map_eq_some_iff.mp hstore
    have hlen : (data.cells.drop 1).length = 7 := by rw [List.length_drop, Buffer.length_cells]
    refine ⟨⟨h.tpExpected, ?_, ?_, ?_⟩, rfl⟩
    · rw [Transfer.copied_push_due hdue, List.length_append, hlen, ← h.tpLen]
    · rw [Transfer.inOrder_push_due hdue, List.length_append, List.length_singleton, dueSn_succ,
        ← h.tpNextSn]
    · have htake := Buffer.take_write hbuf
      rw [hlen] at htake
      rw [Transfer.copied_push_due hdue, htake, h.tpBuf]
  · rename_i hignored
    obtain rfl := Option.some.inj hstore
    refine ⟨⟨h.tpExpected, ?_, ?_, ?_⟩, rfl⟩
    · rw [Transfer.copied_push_ignored hignored, h.tpLen]
    · rw [Transfer.inOrder_push_ignored hignored, h.tpNextSn]
    · rw [Transfer.copied_push_ignored hignored, h.tpBuf]

/-- A frame whose number is due is stored only if the buffer has room for it. -/
theorem Reflects.store_eq_none_iff {t : Transfer} {s : Tp} {data : Buffer UInt8 8}
    (h : Reflects t s) :
    s.store data = none ↔ sn data = s.tpNextSn ∧ 256 < t.copied.length + 7 := by
  have hlen : (data.cells.drop 1).length = 7 := by rw [List.length_drop, Buffer.length_cells]
  rw [Tp.store]
  split
  · rename_i hdue
    rw [Option.map_eq_none_iff, ← Option.not_isSome_iff_eq_none, Buffer.write_isSome_iff, hlen,
      h.tpLen, not_le, and_iff_right hdue]
  · rename_i hignored
    simp [hignored]

/-! ### One frame -/

/-- A first frame begins a transfer, from any state. -/
theorem tracks_first {f : Frame} (h : f.IsFirst) (s : Tp) :
    ∃ s', rxStep s f = some s' ∧ rxPdus s f = [] ∧ rxSent s f = [flowControl] ∧
      Tracks { first := f.data } s' := by
  obtain ⟨s', hstep, hpdus, hsent, hactive, hexpected, hlen, hsn, hbuf⟩ := rx_first h s
  have hcopied : ({ first := f.data } : Transfer).copied = f.data.cells.drop 2 := by
    rw [Transfer.copied, Transfer.inOrder, taken_nil, List.flatMap_nil, List.append_nil]
  refine ⟨s', hstep, hpdus, hsent, Or.inl ⟨hactive, Or.inl rfl, hexpected, ?_, hsn, ?_⟩⟩
  · rw [hlen, hcopied, List.length_drop, Buffer.length_cells]
  · rw [hlen, hbuf, hcopied]

/-- **A consecutive frame** makes the variables track the transfer with that frame
pushed, and hands on what the transfer then gives for the first time, unless its
bytes do not fit. -/
theorem tracks_consecutive {f : Frame} (h : f.IsConsecutive) {t : Transfer} {s : Tp}
    (htracks : Tracks t s) :
    (rxStep s f = none ∧ s.tpActive = true ∧ t.Pending ∧ Reflects t s ∧
        sn f.data = s.tpNextSn ∧ 256 < t.copied.length + 7) ∨
      ∃ s', rxStep s f = some s' ∧ Tracks (t.push f.data) s' ∧
        t.pdus ++ rxPdus s f = (t.push f.data).pdus ∧
        (t.Pending → (t.push f.data).copied.length ≤ 256) := by
  rcases htracks with ⟨hactive, hpending, hreflects⟩ | ⟨hidle, hover⟩
  · obtain ⟨hstep, hpdus⟩ := rx_consecutive_active h hactive
    cases hstore : s.store f.data with
    | none =>
      obtain ⟨hdue, hroom⟩ := hreflects.store_eq_none_iff.mp hstore
      exact Or.inl ⟨by rw [hstep, hstore]; rfl, hactive, hpending, hreflects, hdue, hroom⟩
    | some u =>
      obtain ⟨hu, hstill⟩ := hreflects.store hstore
      have hiff : (t.push f.data).Pending ↔ ¬ u.tpExpected ≤ u.tpLen := by
        rw [Transfer.pending_push_iff, hu.tpLen, hu.tpExpected, Transfer.announced_push, not_le]
      refine Or.inr ⟨u.finish.1, by rw [hstep, hstore]; rfl, ?_, ?_,
        fun _ => hu.length_copied_le⟩
      · by_cases hdone : u.tpExpected ≤ u.tpLen
        · refine Or.inr ⟨?_, fun hp => hiff.mp hp hdone⟩
          rw [Tp.finish, if_pos hdone]
        · refine Or.inl ⟨?_, hiff.mpr hdone, ?_⟩
          · rw [Tp.finish, if_neg hdone, hstill, hactive]
          · rw [Tp.finish, if_neg hdone]
            exact hu
      · rw [Transfer.pdus, if_pos hpending, List.nil_append, hpdus u hstore, Transfer.pdus]
        by_cases hdone : u.tpExpected ≤ u.tpLen
        · rw [if_pos hdone, if_neg fun hp => hiff.mp hp hdone, ← hu.tpBuf, hu.tpExpected,
            List.take_take, min_eq_left (hu.tpExpected ▸ hdone)]
        · rw [if_neg hdone, if_pos (hiff.mpr hdone)]
  · obtain ⟨hstep, hpdus⟩ := rx_consecutive_idle h hidle
    obtain ⟨hstill, hsame⟩ := Transfer.pdus_push_of_not_pending hover f.data
    exact Or.inr ⟨s, hstep, Or.inr ⟨hidle, hstill⟩, by rw [hpdus, List.append_nil, hsame],
      fun hp => absurd hp hover⟩

/-! ### One transfer -/

/-- **A transfer that announces at most 251 bytes** stays inside the buffer,
whatever consecutive frames come, and hands on exactly what it is complete with. -/
theorem observe_transfer {first : Frame} (hfirst : first.IsFirst)
    (hannounced : announcedLen first.data ≤ 251) {cfs : List Frame}
    (hcfs : ∀ f ∈ cfs, f.IsConsecutive) (s : Tp) :
    ∃ s', Run.run rxStep s (first :: cfs) = some s' ∧
      Tracks { first := first.data, consecutive := cfs.map Frame.data } s' ∧
      Run.observe rxStep rxPdus s (first :: cfs) =
        Transfer.pdus { first := first.data, consecutive := cfs.map Frame.data } := by
  induction cfs using List.reverseRecOn with
  | nil =>
    obtain ⟨s', hstep, hpdus, -, htracks⟩ := tracks_first hfirst s
    refine ⟨s', Run.run_cons_eq_some.mpr ⟨s', hstep, rfl⟩, htracks, ?_⟩
    rw [Run.observe_cons _ _ hstep, hpdus]
    rfl
  | append_singleton cfs f ih =>
    obtain ⟨u, hrun, htracks, hobs⟩ := ih fun g hg => hcfs g (List.mem_append_left _ hg)
    have hf : f.IsConsecutive := hcfs f (by simp)
    have hpush : ({ first := first.data, consecutive := (cfs ++ [f]).map Frame.data } : Transfer) =
        Transfer.push { first := first.data, consecutive := cfs.map Frame.data } f.data := by
      rw [List.map_append]
      rfl
    rcases tracks_consecutive hf htracks with ⟨-, -, hpending, -, -, hroom⟩ |
      ⟨s', hstep, htr, hp, -⟩
    · -- pending below 251 leaves room for seven more bytes
      rw [Transfer.length_copied] at hroom
      rcases hpending with hnil | hlt
      · rw [Transfer.inOrder, hnil, taken_nil, List.length_nil] at hroom
        omega
      · rw [Transfer.length_copied, Transfer.announced] at hlt
        dsimp only at hlt
        omega
    · refine ⟨s', ?_, hpush ▸ htr, ?_⟩
      · rw [← List.cons_append]
        exact Run.run_append_eq_some.mpr ⟨u, hrun, Run.run_cons_eq_some.mpr ⟨s', hstep, rfl⟩⟩
      · rw [← List.cons_append, Run.observe_concat _ hrun hstep, hobs, hp, hpush]

/-- First frames, however many, hand nothing on. -/
theorem observe_firsts {first : Frame} (hfirst : first.IsFirst) (c : ℕ) (s : Tp) :
    ∃ s', Run.run rxStep s (List.replicate c first) = some s' ∧
      Run.observe rxStep rxPdus s (List.replicate c first) = [] := by
  induction c generalizing s with
  | zero => exact ⟨s, rfl, rfl⟩
  | succ c ih =>
    obtain ⟨u, hstep, hpdus, -, -⟩ := tracks_first hfirst s
    obtain ⟨s', hrun, hobs⟩ := ih u
    refine ⟨s', Run.run_cons_eq_some.mpr ⟨u, hstep, hrun⟩, ?_⟩
    rw [List.replicate_succ, Run.observe_cons _ _ hstep, hpdus, hobs]
    rfl

/-! ### Any frames -/

/-- How a frame changes the transfer last begun. -/
def hear (last : Option Transfer) (f : Frame) : Option Transfer :=
  if f.IsFirst then some { first := f.data }
  else if f.IsConsecutive then last.map fun t => t.push f.data
  else last

/-- The transfer last begun among some frames, with what has come of it. -/
def lastTransfer (fs : List Frame) : Option Transfer := fs.foldl hear none

theorem lastTransfer_concat (fs : List Frame) (f : Frame) :
    lastTransfer (fs ++ [f]) = hear (lastTransfer fs) f := by
  rw [lastTransfer, List.foldl_append]
  rfl

/-- How the state stands to the transfer last begun. A transfer that announces
more than 251 bytes is still pending: it cannot end before the buffer is full. -/
structure Sound (last : Option Transfer) (s : Tp) : Prop where
  idle : last = none → s.tpActive = false
  tracks : ∀ t, last = some t → Tracks t s
  long : ∀ t, last = some t → 251 < t.announced → t.Pending

theorem Sound.step {last : Option Transfer} {s s' : Tp} {f : Frame} (h : Sound last s)
    (hstep : rxStep s f = some s') : Sound (hear last f) s' := by
  by_cases hff : f.IsFirst
  · obtain ⟨u, hu, -, -, htracks⟩ := tracks_first hff s
    obtain rfl := Option.some.inj (hu.symm.trans hstep)
    rw [hear, if_pos hff]
    refine ⟨nofun, ?_, ?_⟩
    · rintro t ⟨⟩
      exact htracks
    · rintro t ⟨⟩ -
      exact Or.inl rfl
  by_cases hcf : f.IsConsecutive
  · rw [hear, if_neg hff, if_pos hcf]
    rcases last with _ | t
    · obtain ⟨hsame, -⟩ := rx_consecutive_idle hcf (h.idle rfl)
      obtain rfl := Option.some.inj (hsame.symm.trans hstep)
      exact ⟨fun _ => h.idle rfl, nofun, nofun⟩
    · rcases tracks_consecutive hcf (h.tracks t rfl) with ⟨hnone, -⟩ | ⟨u, hu, htr, -, hroom⟩
      · rw [hnone] at hstep
        cases hstep
      · obtain rfl := Option.some.inj (hu.symm.trans hstep)
        refine ⟨nofun, ?_, ?_⟩
        · rintro t' ⟨⟩
          exact htr
        · rintro t' ⟨⟩ hlong
          -- whole frames: what fits into 256 bytes is at most 251
          have hfits := hroom (h.long t rfl hlong)
          rw [Transfer.length_copied] at hfits
          rw [Transfer.pending_push_iff, Transfer.length_copied]
          rw [Transfer.announced_push] at hlong
          omega
  · obtain ⟨hsame, -⟩ := rx_other hff hcf s
    obtain rfl := Option.some.inj (hsame.symm.trans hstep)
    rwa [hear, if_neg hff, if_neg hcf]

/-- **Along every run that has not left the buffer** the variables stand for the
transfer last begun. -/
theorem sound_run {fs : List Frame} {s : Tp} (hrun : Run.run rxStep {} fs = some s) :
    Sound (lastTransfer fs) s :=
  Run.run_induct (P := fun fs s => Sound (lastTransfer fs) s) ⟨fun _ => rfl, nofun, nofun⟩
    (fun fs _ f _ _ hsound hstep => lastTransfer_concat fs f ▸ hsound.step hstep) hrun

/-! ### Frames that are accepted -/

/-- The frame is a consecutive one that `Can_TpRx` accepts. -/
def Tp.Accepts (s : Tp) (f : Frame) : Prop :=
  f.IsConsecutive ∧ s.tpActive = true ∧ sn f.data = s.tpNextSn

/-- Only an accepted frame can make the handler leave the buffer. -/
theorem Sound.isSome_rxStep {last : Option Transfer} {s : Tp} {f : Frame} (h : Sound last s)
    (hroom : s.Accepts f → s.tpLen + 7 ≤ 256) : (rxStep s f).isSome := by
  by_cases hff : f.IsFirst
  · obtain ⟨s', hs', -⟩ := tracks_first hff s
    rw [hs']
    rfl
  by_cases hcf : f.IsConsecutive
  · rcases last with _ | t
    · rw [(rx_consecutive_idle hcf (h.idle rfl)).1]
      rfl
    · rcases tracks_consecutive hcf (h.tracks t rfl) with
        ⟨-, hactive, -, hreflects, hdue, hfull⟩ | ⟨s', hs', -⟩
      · have := hroom ⟨hcf, hactive, hdue⟩
        rw [hreflects.tpLen] at this
        omega
      · rw [hs']
        rfl
  · rw [(rx_other hff hcf s).1]
    rfl

end Ecu

end VehicleStack
