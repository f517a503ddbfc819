import VehicleStack.Ecu.Requests

/-!
# The receive buffer of the transport

`Can_TpRx` copies what comes into a buffer of 256 bytes, and compares the length that a first
frame announces with what it has copied. It compares neither with the size of the buffer, nor what
it copies with the length of the frame. So a long transfer is written past the end of the buffer,
and a transfer of frames that are too short is handed on with bytes that nobody sent.

The main result is `VehicleStack.Ecu.bufferBound_iff`: what goes wrong is one of these two, and
nothing else.
-/

namespace VehicleStack

namespace Ecu

open Subsequence

/-! ### The bound -/

/-- The bytes of a request that came over the bus. -/
def Request.own (r : Request) : List UInt8 :=
  r.first.own.drop 2 ++ r.consecutive.flatMap fun f => f.own.drop 1

/-- How many bytes of the request its frames have room for, by their data length codes: at most
six in the first one, and seven in each of the others. -/
def Request.room (r : Request) : ℕ :=
  min 6 (r.first.len - 2) + (r.consecutive.map fun f => min 7 (f.len - 1)).sum

/-- Whenever a frame comes, what is written stays inside the buffer, that is, seven
more bytes fit if the frame is accepted. -/
def StaysInside (fs : List Frame) : Prop :=
  ∀ pre f post s, fs = pre ++ f :: post → Run.run rxStep {} pre = some s →
    (rxStep s f).isSome ∧ (s.Accepts f → s.tpLen + 7 ≤ 256)

/-- Whenever a frame comes, what is written stays inside the buffer, and a request that
is handed on is no longer than the bytes that came over the bus in its transfer. -/
def BufferBound (fs : List Frame) : Prop :=
  ∀ pre f post s, fs = pre ++ f :: post → Run.run rxStep {} pre = some s →
    (rxStep s f).isSome ∧ (s.Accepts f → s.tpLen + 7 ≤ 256) ∧
      ∀ p ∈ rxPdus s f, ∃ r, lastRequest (pre ++ [f]) = some r ∧ p.2 ≤ r.own.length

/-- The frame ends the transfer last begun: with six bytes for the first frame and seven for each
one that came in order, as many as announced are there. -/
def Ends (last : Option Transfer) (f : Frame) : Prop :=
  f.IsConsecutive ∧ ∃ t, last = some t ∧ t.Pending ∧ ¬(t.push f.data).Pending

/-- The frame ends a transfer the frames of which are too short for what was announced. -/
def EndsShort (pre : List Frame) (f : Frame) : Prop :=
  Ends (lastTransfer pre) f ∧
    ∃ r, lastRequest (pre ++ [f]) = some r ∧ r.room < r.announced

theorem Request.length_own (r : Request) : r.own.length = r.room := by
  have hfirst : (r.first.own.drop 2).length = min 6 (r.first.len - 2) := by
    rw [own_drop, List.length_take, length_first, Nat.min_comm]
  have hconsecutive : ∀ f : Frame, (f.own.drop 1).length = min 7 (f.len - 1) := fun f => by
    rw [own_drop, List.length_take, List.length_drop, Buffer.length_cells, Nat.min_comm]
  rw [own, room, List.length_append, hfirst, List.length_flatMap]
  simp only [hconsecutive]

/-! ### Staying inside -/

theorem BufferBound.staysInside {fs : List Frame} (h : BufferBound fs) : StaysInside fs :=
  fun pre f post s hsplit hrun =>
    ⟨(h pre f post s hsplit hrun).1, (h pre f post s hsplit hrun).2.1⟩

theorem StaysInside.of_prefix {pre fs : List Frame} (h : StaysInside fs) (hpre : pre <+: fs) :
    StaysInside pre := by
  obtain ⟨more, rfl⟩ := hpre
  intro pre' f post s hsplit hrun
  exact h pre' f (post ++ more) s (by rw [hsplit, List.append_assoc, List.cons_append]) hrun

theorem StaysInside.exists_run {fs : List Frame} (h : StaysInside fs) :
    ∃ s, Run.run rxStep {} fs = some s := by
  induction fs using List.reverseRecOn with
  | nil => exact ⟨_, rfl⟩
  | append_singleton fs f ih =>
    obtain ⟨s, hs⟩ := ih (h.of_prefix (List.prefix_append fs [f]))
    obtain ⟨s', hs'⟩ := Option.isSome_iff_exists.mp (h fs f [] s rfl hs).1
    exact ⟨s', Run.run_append_eq_some.mpr ⟨s, hs, Run.run_cons_eq_some.mpr ⟨s', hs', rfl⟩⟩⟩

/-- A transfer that announces more than 251 bytes leaves room for thirty-five
consecutive frames and no more. -/
theorem StaysInside.length_inOrder_lt {fs : List Frame} (h : StaysInside fs) {t : Transfer}
    (hlast : lastTransfer fs = some t) (hlong : 251 < t.announced) : t.inOrder.length < 36 := by
  obtain ⟨s, hrun⟩ := h.exists_run
  have hsound := sound_run hrun
  rcases hsound.tracks t hlast with ⟨-, -, hreflects⟩ | ⟨-, hover⟩
  · have hfits := hreflects.length_copied_le
    rw [Transfer.length_copied] at hfits
    omega
  · exact absurd (hsound.long t hlast hlong) hover

/-- **When the buffer is not left**: if no first frame that announces more than 251 bytes is
followed, before the next first frame, by consecutive frames that carry the first thirty-six
numbers in order. -/
theorem staysInside_iff (fs : List Frame) :
    StaysInside fs ↔
      ∀ pre t, pre <+: fs → lastTransfer pre = some t → 251 < t.announced →
        ¬ List.Sublist ((List.range 36).map dueSn) (t.consecutive.map sn) := by
  constructor
  · intro h pre t hpre hlast hlong hsub
    have hlt := (h.of_prefix hpre).length_inOrder_lt hlast hlong
    exact absurd (le_length_taken_iff.mpr hsub) (not_le.mpr hlt)
  · rintro h pre f post s rfl hrun
    have hsound := sound_run hrun
    have hroom : s.Accepts f → s.tpLen + 7 ≤ 256 := by
      rintro ⟨hcf, hactive, hdue⟩
      obtain ⟨t, hlast⟩ : ∃ t, lastTransfer pre = some t := by
        refine Option.ne_none_iff_exists'.mp fun hnone => ?_
        rw [hsound.idle hnone] at hactive
        cases hactive
      rcases hsound.tracks t hlast with ⟨-, hpending, hreflects⟩ | ⟨hidle, -⟩
      · rw [hreflects.tpLen, Transfer.length_copied]
        by_cases hlong : 251 < t.announced
        · -- one more number in order, and still not thirty-six
          have hpush : lastTransfer (pre ++ [f]) = some (t.push f.data) := by
            rw [lastTransfer_concat, hlast, hear, if_neg hcf.not_isFirst, if_pos hcf]
            rfl
          have hprefix : pre ++ [f] <+: pre ++ f :: post :=
            ⟨post, by rw [List.append_assoc]; rfl⟩
          have hfew := h (pre ++ [f]) (t.push f.data) hprefix hpush hlong
          rw [← le_length_taken_iff, not_le] at hfew
          change (t.push f.data).inOrder.length < 36 at hfew
          rw [hreflects.tpNextSn] at hdue
          rw [Transfer.inOrder_push_due hdue, List.length_append, List.length_singleton] at hfew
          omega
        · rcases hpending with hnil | hlt
          · rw [Transfer.inOrder, hnil, taken_nil]
            decide
          · rw [Transfer.length_copied] at hlt
            omega
      · rw [hidle] at hactive
        cases hactive
    exact ⟨hsound.isSome_rxStep hroom, hroom⟩

/-! ### What is handed on -/

/-- **What a frame hands on** has the length that the transfer it ends announced. -/
theorem Sound.mem_rxPdus_iff {last : Option Transfer} {s : Tp} {f : Frame} (h : Sound last s)
    (hstep : (rxStep s f).isSome) {n : ℕ} :
    (∃ p ∈ rxPdus s f, p.2 = n) ↔ Ends last f ∧ ∃ t, last = some t ∧ t.announced = n := by
  by_cases hff : f.IsFirst
  · obtain ⟨-, -, hnil, -⟩ := tracks_first hff s
    rw [hnil]
    exact ⟨nofun, fun hends => absurd hff hends.1.1.not_isFirst⟩
  by_cases hcf : f.IsConsecutive
  · rcases last with _ | t
    · rw [(rx_consecutive_idle hcf (h.idle rfl)).2]
      exact ⟨nofun, nofun⟩
    · rcases tracks_consecutive hcf (h.tracks t rfl) with ⟨hnone, -⟩ | ⟨s', -, -, hpdus, -⟩
      · rw [hnone] at hstep
        cases hstep
      · by_cases hpending : t.Pending
        · -- a pending transfer has handed nothing on yet
          rw [Transfer.pdus, if_pos hpending, List.nil_append, Transfer.pdus] at hpdus
          rw [hpdus]
          by_cases hstill : (t.push f.data).Pending
          · rw [if_pos hstill]
            refine ⟨nofun, ?_⟩
            rintro ⟨⟨-, _, ⟨⟩, -, hover⟩, -⟩
            exact absurd hstill hover
          · rw [if_neg hstill]
            constructor
            · rintro ⟨p, hp, rfl⟩
              rw [List.mem_singleton.mp hp]
              exact ⟨⟨hcf, t, rfl, hpending, hstill⟩, t, rfl, rfl⟩
            · rintro ⟨-, _, ⟨⟩, rfl⟩
              exact ⟨_, List.mem_singleton_self _, rfl⟩
        · rw [(Transfer.pdus_push_of_not_pending hpending f.data).2,
            List.append_right_eq_self] at hpdus
          rw [hpdus]
          refine ⟨nofun, ?_⟩
          rintro ⟨⟨-, _, ⟨⟩, hp, -⟩, -⟩
          exact absurd hp hpending
  · rw [(rx_other hff hcf s).2]
    exact ⟨nofun, fun hends => absurd hends.1.1 hcf⟩

/-- The request last begun announces what the transfer last begun announces, also with the frame
that ends it. -/
theorem announced_of_ends {pre : List Frame} {f : Frame} {t : Transfer} {r : Request}
    (hends : Ends (lastTransfer pre) f) (ht : lastTransfer pre = some t)
    (hr : lastRequest (pre ++ [f]) = some r) : t.announced = r.announced := by
  rcases matches_run (pre ++ [f]) with ⟨hnone, -⟩ | ⟨r', t', hr', ht', hmatch⟩
  · rw [hnone] at hr
    cases hr
  · obtain rfl := Option.some.inj (hr.symm.trans hr')
    rw [lastTransfer_concat, ht, hear, if_neg hends.1.not_isFirst, if_pos hends.1] at ht'
    obtain rfl := Option.some.inj ht'
    exact hmatch.announced

/-- A transfer that a frame ends has a request. -/
theorem Ends.exists_lastRequest {pre : List Frame} {f : Frame}
    (hends : Ends (lastTransfer pre) f) : ∃ r, lastRequest (pre ++ [f]) = some r := by
  obtain ⟨hcf, t, ht, -⟩ := hends
  rcases matches_run (pre ++ [f]) with ⟨-, hnone⟩ | ⟨r, -, hr, -⟩
  · rw [lastTransfer_concat, ht, hear, if_neg hcf.not_isFirst, if_pos hcf] at hnone
    cases hnone
  · exact ⟨r, hr⟩

/-- **When the receive buffer holds.** The bound is kept on exactly those frame sequences in which

* no first frame that announces more than 251 bytes is followed, before the next first frame, by
  consecutive frames that carry the first thirty-six numbers in order;
* no transfer ends the frames of which have, by their data length codes, fewer bytes than it
  announces. -/
theorem bufferBound_iff (fs : List Frame) :
    BufferBound fs ↔
      (∀ pre t, pre <+: fs → lastTransfer pre = some t → 251 < t.announced →
        ¬ List.Sublist ((List.range 36).map dueSn) (t.consecutive.map sn)) ∧
      ∀ pre f, pre ++ [f] <+: fs → ¬ EndsShort pre f := by
  rw [← staysInside_iff]
  constructor
  · intro h
    refine ⟨h.staysInside, ?_⟩
    rintro pre f ⟨post, rfl⟩ ⟨hends, r, hr, hshort⟩
    have hsplit : pre ++ [f] ++ post = pre ++ f :: post := by simp
    obtain ⟨s, hrun⟩ := (h.staysInside.of_prefix
      ((List.prefix_append pre [f]).trans (List.prefix_append _ post))).exists_run
    obtain ⟨hsome, -, hbound⟩ := h pre f post s hsplit hrun
    -- the frame hands on what was announced, which is more than the frames have bytes
    obtain ⟨-, t, ht, -⟩ := id hends
    obtain ⟨p, hp, hannounced⟩ := ((sound_run hrun).mem_rxPdus_iff hsome).mpr ⟨hends, t, ht, rfl⟩
    obtain ⟨r', hr', hle⟩ := hbound p hp
    obtain rfl := Option.some.inj (hr.symm.trans hr')
    rw [hannounced, announced_of_ends hends ht hr, r.length_own] at hle
    omega
  · rintro ⟨hinside, hnotShort⟩ pre f post s rfl hrun
    obtain ⟨hsome, hroom⟩ := hinside pre f post s rfl hrun
    refine ⟨hsome, hroom, fun p hp => ?_⟩
    -- whatever is handed on ends a transfer, and that is not a short one
    obtain ⟨hends, t, ht, hannounced⟩ := ((sound_run hrun).mem_rxPdus_iff hsome).mp ⟨p, hp, rfl⟩
    obtain ⟨r, hr⟩ := hends.exists_lastRequest
    refine ⟨r, hr, ?_⟩
    rw [← hannounced, announced_of_ends hends ht hr, r.length_own]
    exact not_lt.mp fun hshort =>
      hnotShort pre f ⟨post, by simp⟩ ⟨hends, r, hr, hshort⟩

/-- A first frame that announces 4095 bytes and thirty-six consecutive frames
after it. -/
def longTransfer : List Frame :=
  ⟨0x7E0, Buffer.ofList 8 0 [0x1F, 0xFF], 8⟩ ::
    (List.range 36).map fun k => ⟨0x7E0, Buffer.ofList 8 0 [0x20 ||| dueSn k], 8⟩

/-- **The buffer is left**: the last frame of a long transfer writes behind it. -/
theorem longTransfer_overruns : ¬ BufferBound longTransfer := by
  intro h
  obtain ⟨t, hlast, hlong, hnumbers⟩ : ∃ t, lastTransfer longTransfer = some t ∧
      251 < t.announced ∧ t.consecutive.map sn = (List.range 36).map dueSn :=
    ⟨_, rfl, by decide, by decide⟩
  have hall : 36 ≤ t.inOrder.length := le_length_taken_iff.mpr (hnumbers ▸ List.Sublist.refl _)
  exact absurd (h.staysInside.length_inOrder_lt hlast hlong) (not_lt.mpr hall)

/-- A first frame that announces thirteen bytes, and a consecutive frame of which only the
number came. -/
def shortFrames : List Frame :=
  [⟨0x7E0, Buffer.ofList 8 0 [0x10, 0x0D], 8⟩, ⟨0x7E0, Buffer.ofList 8 0 [0x21], 1⟩]

/-- **Thirteen bytes are handed on, of which six came**: the others are what the handler's array
held behind the number. -/
theorem shortFrames_handedOn : ¬ BufferBound shortFrames := by
  intro h
  obtain ⟨s, hrun, p, hp, hlen⟩ : ∃ s, Run.run rxStep {} (shortFrames.take 1) = some s ∧
      ∃ p ∈ rxPdus s ⟨0x7E0, Buffer.ofList 8 0 [0x21], 1⟩, p.2 = 13 :=
    ⟨_, rfl, _, List.mem_singleton_self _, rfl⟩
  obtain ⟨-, -, hbound⟩ := h _ _ [] s rfl hrun
  obtain ⟨r, hr, hle⟩ := hbound p hp
  have hsix : (lastRequest shortFrames).map (fun r => r.own.length) = some 6 := by decide
  rw [show lastRequest shortFrames = some r from hr, Option.map_some] at hsix
  rw [hlen, Option.some.inj hsix] at hle
  omega

end Ecu

end VehicleStack
