import VehicleStack.Lib.Blocks
import VehicleStack.DigitalKey.Encodings
import VehicleStack.DigitalKey.VehicleBle

/-!
# How answers get to the telephone

An answer to a command is the value of the command characteristic. A telephone that asked to be
notified gets it in blocks with an empty one behind them; any other one has to read it, from a
place in it on. The server keeps one answer, the last one, and hands it over again to a telephone
that asks to be notified.

What that comes to, without blocks, is `VehicleStack.DigitalKey.Slot`, and the server refines it:
in every run a telephone finds the same answers in the blocks
(`VehicleStack.DigitalKey.VehicleBleServer.notified_eq`). One that is not notified gets the last
answer, whole, by reading on until nothing more comes, if meanwhile nothing else is answered
(`VehicleStack.DigitalKey.VehicleBleServer.got_of_reads`).
-/

namespace VehicleStack

namespace DigitalKey

open Effect

/-! ### What is kept for the telephone -/

/-- The last answer, and whether the telephone is told of each. -/
structure Slot where
  latest : Bytes
  subscribed : Bool

/-- What concerns the answers: a write with its answer, if there is one, or a telephone that
wants to be told or no longer wants to be. -/
inductive SlotInput where
  | answered (response : Option Bytes)
  | subscribe (notifying : Bool)

/-- The answers the telephone is told: each new one, and the last one when it begins to listen. -/
def Slot.step (slot : Slot) : SlotInput → Slot × List Bytes
  | .answered none => (slot, [])
  | .answered (some response) =>
    ({ slot with latest := response }, if slot.subscribed then [response] else [])
  | .subscribe false => ({ slot with subscribed := false }, [])
  | .subscribe true =>
    ({ slot with subscribed := true }, if slot.latest = [] then [] else [slot.latest])

/-- A telephone that does not listen is told nothing. -/
theorem Slot.told_eq_nil {slot : Slot} {input : SlotInput}
    (h : (slot.step input).1.subscribed = false) : (slot.step input).2 = [] := by
  rcases input with (_ | response) | (_ | _)
  · rfl
  · have hslot : slot.subscribed = false := h
    rw [Slot.step]
    dsimp only
    rw [hslot, if_neg Bool.false_ne_true]
  · rfl
  · cases h

variable (env : Platform) (fl : Rounding) (recursionLimit : ℕ)

/-- A slice of Python, the indices of which count from the end if they are negative. -/
def pySlice (xs : Bytes) (start stop : ℤ) : Bytes :=
  let index (i : ℤ) : ℕ := if i < 0 then (xs.length + i).toNat else i.toNat
  (xs.take (index stop)).drop (index start)

namespace VehicleBleServer

/-- `_on_command_read`, with the offset that the options hold. -/
def onCommandRead (server : VehicleBleServer) (rawOffset : Option ℤ) : Bytes :=
  let offset := match rawOffset with
    | none => 0
    | some raw => if raw = -1 then 0 else raw
  if server.commandReadAvailable = false then []
  else if (server.lastCommandResponse.length : ℤ) ≤ offset then []
  else pySlice server.lastCommandResponse offset (offset + 512)

/-! ### The answer to a write -/

/-- The error that is an answer. -/
def commandError (message : String) (timestamp : ℤ) : Bytes :=
  encodePayload env
    (.obj [("success", .bool false), ("error", .str message), ("timestamp", .int timestamp)])

/-- The answer of the handler, and the server before it is published. -/
def processAnswer (server : VehicleBleServer) (payload : Json) :
    VehicleBleServer × Option Bytes :=
  let handled := exec (DigitalKey.process env recursionLimit payload) server.world
  ({ server with world := handled.2 }, match handled.1 with
    | .ok (_, response) => if response.isNone then none else some (encodePayload env response)
    | .error e => some (commandError env e.message 0))

/-- The answer to a write to the command characteristic, and the server before it is published. -/
def commandAnswer (server : VehicleBleServer) (value : Bytes) (now : ℚ) :
    VehicleBleServer × Option Bytes :=
  match decodePayload env value with
  | .error e => (server, some (commandError env e.message 0))
  | .ok payload =>
    let ⟨assembler, verdict⟩ := commandVerdict env fl server.chunkAssembler now payload
    let server := { server with chunkAssembler := assembler }
    match verdict with
    | .wait => (server, none)
    | .chunkError e =>
      let ⟨timestamp, server⟩ := server.askTimeMs env
      (server, some (commandError env ("chunk_assembly_failed: " ++ e.message) timestamp))
    | .raised e => (server, some (commandError env e.message 0))
    | .handOver payload => server.processAnswer env recursionLimit payload

/-- The server once an answer is published, if there is one. -/
def published (answer : VehicleBleServer × Option Bytes) : VehicleBleServer :=
  answer.2.elim answer.1 answer.1.publishCommandResponse

/-- What the telephone does, as far as it concerns the answers. -/
def slotInput (server : VehicleBleServer) : BleInput → SlotInput
  | .write .command value now =>
    .answered (server.commandAnswer env fl recursionLimit value now).2
  | .write .pairingResult _ _ => .answered none
  | .commandNotify notifying => .subscribe notifying

/-- What the server keeps for the telephone. -/
def slot (server : VehicleBleServer) : Slot :=
  ⟨server.lastCommandResponse, server.commandNotifyEnabled⟩

/-- The values of the command characteristic that the telephone is told of: those set by an
input, if it wants to be told after that. -/
def notifiedBy (server : VehicleBleServer) (input : BleInput) : List Bytes :=
  let after := (server.handle env fl recursionLimit input).1
  if after.commandNotifyEnabled then
    after.commandValues.drop server.commandValues.length
  else []

variable {env fl recursionLimit}

theorem process_eq (server : VehicleBleServer) (payload : Json) :
    server.process env recursionLimit payload =
      published (server.processAnswer env recursionLimit payload) := by
  rw [process, published, processAnswer]
  dsimp only
  cases (exec (DigitalKey.process env recursionLimit payload) server.world).1 with
  | error e => rfl
  | ok answer =>
    dsimp only
    split_ifs <;> rfl

/-- **The callback publishes its answer**, and does nothing else with it. -/
theorem onCommandWrite_eq (server : VehicleBleServer) (value : Bytes) (now : ℚ) :
    (server.onCommandWrite env fl recursionLimit value now).1 =
      published (server.commandAnswer env fl recursionLimit value now) := by
  rw [onCommandWrite, commandAnswer]
  cases decodePayload env value with
  | error e => rfl
  | ok payload =>
    dsimp only
    cases (commandVerdict env fl server.chunkAssembler now payload).2 with
    | handOver payload => exact process_eq _ payload
    | wait => rfl
    | raised e => rfl
    | chunkError e => rfl

/-! ### One input -/

/-- All there is to the command characteristic: what is kept, the values it had, and whether
it may be read. -/
def commandSide (server : VehicleBleServer) : Slot × List Bytes × Bool :=
  (server.slot, server.commandValues, server.commandReadAvailable)

/-- Handling a command does not touch the characteristic; publishing its answer does. -/
theorem commandSide_commandAnswer (server : VehicleBleServer) (value : Bytes) (now : ℚ) :
    (server.commandAnswer env fl recursionLimit value now).1.commandSide =
      server.commandSide := by
  rw [commandAnswer]
  cases decodePayload env value with
  | error e => rfl
  | ok payload =>
    dsimp only
    cases (commandVerdict env fl server.chunkAssembler now payload).2 <;> rfl

theorem commandSide_onPairingResultWrite (server : VehicleBleServer) (value : Bytes) (now : ℚ) :
    (server.onPairingResultWrite env fl value now).1.commandSide = server.commandSide := by
  rw [onPairingResultWrite]
  cases decodePayload env value with
  | error e => rfl
  | ok payload =>
    dsimp only
    cases (pairingResultVerdict env fl server.pairingResultAssembler now payload).2 with
    | wait => rfl
    | chunkError e => rfl
    | raised e => rfl
    | handOver payload =>
      dsimp only
      rw [handlePairingResult]
      dsimp only
      cases (exec (DigitalKey.handlePairingResult env payload) server.world).1 <;> rfl

/-- The values that an answer is published by. -/
def valuesOf (subscribed : Bool) (response : Bytes) : List Bytes :=
  if subscribed then Blocks.framed 180 response else [response.take 512]

/-- **An answer is published**: it is kept, and readable if the telephone is not told of it. -/
theorem commandSide_publishCommandResponse (server : VehicleBleServer) (response : Bytes) :
    (server.publishCommandResponse response).commandSide =
      (⟨response, server.commandNotifyEnabled⟩,
        server.commandValues ++ valuesOf server.commandNotifyEnabled response,
        if response = [] then server.commandReadAvailable else !server.commandNotifyEnabled) := by
  rw [publishCommandResponse, valuesOf]
  dsimp only
  split_ifs with hempty hnotify hnotify
  · rw [hempty]
    rfl
  · rw [hempty]
    rfl
  · rw [hnotify, List.append_assoc]
    rfl
  · rw [Bool.not_eq_true] at hnotify
    rw [hnotify]
    rfl

/-- A telephone that is not told may read, unless there is nothing to read. -/
def Readable (server : VehicleBleServer) : Prop :=
  server.lastCommandResponse ≠ [] → server.commandReadAvailable = !server.commandNotifyEnabled

/-- The server goes on as the answer that is kept does: the telephone is told the same answers,
in blocks, and what it is not told it may read. -/
def Follows (server after : VehicleBleServer) (step : Slot × List Bytes) : Prop :=
  ∃ values available, after.commandSide = (step.1, server.commandValues ++ values, available) ∧
    (step.1.subscribed = true → values = step.2.flatMap (Blocks.framed 180)) ∧
    (server.Readable → step.1.latest ≠ [] → available = !step.1.subscribed)

theorem follows_of_commandSide_eq {server after : VehicleBleServer}
    (h : after.commandSide = server.commandSide) : server.Follows after (server.slot, []) := by
  refine ⟨[], server.commandReadAvailable, ?_, fun _ => rfl, fun hread => hread⟩
  rw [h, List.append_nil]
  rfl

/-- An answer, if there is one, is told to a telephone that listens. -/
theorem follows_published {server before : VehicleBleServer}
    (h : before.commandSide = server.commandSide) (response : Option Bytes) :
    server.Follows (published (before, response)) (server.slot.step (.answered response)) := by
  rcases response with _ | response
  · exact follows_of_commandSide_eq h
  · obtain ⟨hslot, hvalues, hread⟩ : before.slot = server.slot ∧
        before.commandValues = server.commandValues ∧
        before.commandReadAvailable = server.commandReadAvailable := by
      simpa [commandSide] using h
    have hnotify : before.commandNotifyEnabled = server.commandNotifyEnabled :=
      congrArg Slot.subscribed hslot
    refine ⟨valuesOf server.commandNotifyEnabled response,
      if response = [] then server.commandReadAvailable else !server.commandNotifyEnabled,
      ?_, ?_, fun _ hne => if_neg hne⟩
    · rw [published, Option.elim_some, commandSide_publishCommandResponse, hnotify, hvalues,
        hread]
      rfl
    · intro hsubscribed
      have henabled : server.commandNotifyEnabled = true := hsubscribed
      rw [valuesOf, if_pos henabled, Slot.step]
      dsimp only
      rw [slot, if_pos henabled, List.flatMap_singleton]

/-- A telephone that begins to listen is told the last answer. -/
theorem follows_onCommandNotifyState (server : VehicleBleServer) (notifying : Bool) :
    server.Follows (server.onCommandNotifyState notifying)
      (server.slot.step (.subscribe notifying)) := by
  rcases notifying with _ | _
  · refine ⟨[], true, ?_, nofun, fun _ _ => rfl⟩
    rw [List.append_nil]
    rfl
  · by_cases hempty : server.lastCommandResponse = []
    · refine ⟨[], server.commandReadAvailable, ?_, fun _ => ?_, fun _ hne => absurd hempty hne⟩
      · rw [onCommandNotifyState]
        simp [hempty, commandSide, slot, Slot.step]
      · rw [Slot.step, slot, if_pos hempty]
        rfl
    · refine ⟨Blocks.framed 180 server.lastCommandResponse, false, ?_, fun _ => ?_,
        fun _ _ => rfl⟩
      · rw [onCommandNotifyState]
        simp [hempty, commandSide_publishCommandResponse, slot, Slot.step, valuesOf]
      · rw [Slot.step, slot, if_neg hempty, List.flatMap_singleton]

/-- **Every input** does to the characteristic what it does to the answer that is kept. -/
theorem follows_handle (server : VehicleBleServer) (input : BleInput) :
    server.Follows (server.handle env fl recursionLimit input).1
      (server.slot.step (server.slotInput env fl recursionLimit input)) := by
  rcases input with ⟨_ | _, value, now⟩ | notifying
  · exact follows_of_commandSide_eq (commandSide_onPairingResultWrite server value now)
  · rw [handle, onCommandWrite_eq]
    exact follows_published (commandSide_commandAnswer server value now) _
  · exact follows_onCommandNotifyState server notifying

/-! ### What follows -/

section Follows

variable {server after : VehicleBleServer} {step : Slot × List Bytes}

theorem Follows.slot_eq (h : server.Follows after step) : after.slot = step.1 := by
  obtain ⟨values, available, hside, -, -⟩ := h
  exact congrArg Prod.fst hside

theorem Follows.readable (h : server.Follows after step) (hread : server.Readable) :
    after.Readable := by
  obtain ⟨values, available, hside, -, havailable⟩ := h
  have hslot : after.slot = step.1 := congrArg Prod.fst hside
  have hafter : after.commandReadAvailable = available := congrArg (fun side => side.2.2) hside
  intro hne
  rw [hafter, havailable hread (hslot ▸ hne), ← hslot]
  rfl

end Follows

/-- **The telephone is told the answers in blocks.** -/
theorem notifiedBy_eq (server : VehicleBleServer) (input : BleInput) :
    server.notifiedBy env fl recursionLimit input =
      (server.slot.step (server.slotInput env fl recursionLimit input)).2.flatMap
        (Blocks.framed 180) := by
  obtain ⟨values, available, hside, hvalues, -⟩ :=
    @follows_handle env fl recursionLimit server input
  have hnew : (server.handle env fl recursionLimit input).1.commandValues =
      server.commandValues ++ values := congrArg (fun side => side.2.1) hside
  have henabled : (server.handle env fl recursionLimit input).1.commandNotifyEnabled =
      (server.slot.step (server.slotInput env fl recursionLimit input)).1.subscribed :=
    congrArg (fun side => side.1.subscribed) hside
  rw [notifiedBy, henabled, hnew, List.drop_left]
  split_ifs with hsubscribed
  · exact hvalues hsubscribed
  · rw [Slot.told_eq_nil (Bool.eq_false_iff.mpr hsubscribed)]
    rfl

/-- **A read**, from a place in the last answer on. -/
theorem onCommandRead_eq {server : VehicleBleServer} (h : server.Readable) (offset : ℕ) :
    server.onCommandRead (some offset) =
      if server.slot.subscribed then [] else Blocks.slice server.slot.latest offset 512 := by
  have hoffset : ¬(offset : ℤ) = -1 := by omega
  rw [onCommandRead, slot, Blocks.slice]
  dsimp only
  rw [if_neg hoffset]
  by_cases hempty : server.lastCommandResponse = []
  · rw [hempty]
    simp
  · rw [h hempty]
    by_cases hsubscribed : server.commandNotifyEnabled = true
    · rw [if_pos (by rw [hsubscribed]; rfl), if_pos hsubscribed]
    · rw [if_neg (by simpa using hsubscribed), if_neg hsubscribed]
      split_ifs with hlen
      · rw [List.drop_eq_nil_of_le (by omega), List.take_nil]
      · have hstart : ¬(offset : ℤ) < 0 := by omega
        have hstop : ¬(offset : ℤ) + 512 < 0 := by omega
        have hnat : ((offset : ℤ) + 512).toNat = offset + 512 := by omega
        rw [pySlice]
        dsimp only
        rw [if_neg hstart, if_neg hstop, hnat, Int.toNat_natCast, List.drop_take,
          Nat.add_sub_cancel_left]

/-! ### Runs -/

variable (env fl recursionLimit)

/-- What the telephone does in a run, as far as it concerns the answers. -/
def slotInputs (server : VehicleBleServer) (inputs : List BleInput) : List SlotInput :=
  Mealy.outputs (fun server input => ((server.handle env fl recursionLimit input).1,
    server.slotInput env fl recursionLimit input)) server inputs

/-- The values of the characteristic that the telephone is told of in a run. -/
def notified (server : VehicleBleServer) (inputs : List BleInput) : List Bytes :=
  (Mealy.outputs (fun server input => ((server.handle env fl recursionLimit input).1,
    server.notifiedBy env fl recursionLimit input)) server inputs).flatten

/-- The answers that the telephone is told in a run. -/
def told (server : VehicleBleServer) (inputs : List BleInput) : List Bytes :=
  (Mealy.outputs Slot.step server.slot
    (server.slotInputs env fl recursionLimit inputs)).flatten

variable {env fl recursionLimit}

theorem readable_final {server : VehicleBleServer} (h : server.Readable)
    (inputs : List BleInput) :
    (Mealy.final (handle env fl recursionLimit) server inputs).Readable :=
  Mealy.final_of_invariant (P := Readable) h
    (fun server input hread => (follows_handle server input).readable hread) inputs

/-- What is kept after a run. -/
theorem slot_final (server : VehicleBleServer) (inputs : List BleInput) :
    (Mealy.final (handle env fl recursionLimit) server inputs).slot =
      Mealy.final Slot.step server.slot (server.slotInputs env fl recursionLimit inputs) := by
  induction inputs generalizing server with
  | nil => rfl
  | cons input inputs ih =>
    rw [Mealy.final_cons, ih, (follows_handle server input).slot_eq]
    rfl

theorem told_cons (server : VehicleBleServer) (input : BleInput) (inputs : List BleInput) :
    server.told env fl recursionLimit (input :: inputs) =
      (server.slot.step (server.slotInput env fl recursionLimit input)).2 ++
        (server.handle env fl recursionLimit input).1.told env fl recursionLimit inputs := by
  rw [told, told, (follows_handle server input).slot_eq]
  rfl

/-- The values are the answers in blocks. -/
theorem notified_eq_flatMap (server : VehicleBleServer) (inputs : List BleInput) :
    server.notified env fl recursionLimit inputs =
      (server.told env fl recursionLimit inputs).flatMap (Blocks.framed 180) := by
  induction inputs generalizing server with
  | nil => rfl
  | cons input inputs ih =>
    rw [told_cons, List.flatMap_append, ← notifiedBy_eq, ← ih]
    rfl

theorem readable_init : (init env).Readable := fun _ => rfl

/-- **The answers reach the telephone.** In every run the values it is told of, cut at the empty
ones, are the answers: each one that is given while it listens, and the last one when it begins
to. No value is too long for a notification. What may be read from a place on are the next bytes
of the last answer, unless the telephone listens: then it is nothing. -/
theorem notified_eq (env : Platform) (fl : Rounding) (recursionLimit : ℕ)
    (inputs : List BleInput) :
    ((Terminated.texts List.isEmpty
        ((init env).notified env fl recursionLimit inputs)).map List.flatten =
      (init env).told env fl recursionLimit inputs) ∧
    Terminated.pending List.isEmpty ((init env).notified env fl recursionLimit inputs) = [] ∧
    (∀ value ∈ (init env).notified env fl recursionLimit inputs, value.length ≤ 180) ∧
    ∀ offset : ℕ,
      (Mealy.final (handle env fl recursionLimit) (init env) inputs).onCommandRead
          (some offset) =
        let kept := Mealy.final Slot.step (init env).slot
          ((init env).slotInputs env fl recursionLimit inputs)
        if kept.subscribed then [] else Blocks.slice kept.latest offset 512 := by
  have hblocks := @notified_eq_flatMap env fl recursionLimit (init env) inputs
  obtain ⟨htexts, hpending⟩ := Blocks.texts_flatMap_framed (show 0 < 180 by omega)
    ((init env).told env fl recursionLimit inputs)
  rw [hblocks]
  refine ⟨htexts, hpending, ?_, fun offset => ?_⟩
  · intro value hvalue
    obtain ⟨answer, -, hmem⟩ := List.mem_flatMap.mp hvalue
    exact Blocks.length_le_of_mem_framed (by omega) hmem
  · rw [onCommandRead_eq (readable_final readable_init inputs), slot_final]

/-! ### Reading on -/

variable (env fl recursionLimit)

/-- A telephone that reads on from what it has, while other things happen: of what it reads the
link passes on so many bytes. -/
def readOn (state : VehicleBleServer × Bytes) : BleInput ⊕ ℕ → (VehicleBleServer × Bytes) × Bytes
  | .inl input => (((state.1.handle env fl recursionLimit input).1, state.2), [])
  | .inr passed =>
    let answer := state.1.onCommandRead (some (state.2.length : ℤ))
    ((state.1, state.2 ++ answer.take passed), answer)

/-- Nothing else is answered, and the telephone does not begin to listen. -/
def Quiet (state : VehicleBleServer × Bytes) (event : BleInput ⊕ ℕ) : Prop :=
  ∀ input, event = .inl input →
    (state.1.handle env fl recursionLimit input).1.slot = state.1.slot

variable {env fl recursionLimit}

/-- The number of reads. -/
def reads (events : List (BleInput ⊕ ℕ)) : ℕ := events.countP Sum.isRight

/-- **Reading on**: what is kept stays, what the telephone has is a beginning of it, and each
read of which something is passed on makes it longer, up to the whole. -/
theorem readOn_final {server : VehicleBleServer} (hreadable : server.Readable)
    (hsubscribed : server.slot.subscribed = false) {events : List (BleInput ⊕ ℕ)}
    (hquiet : Mealy.AtEach (readOn env fl recursionLimit) (Quiet env fl recursionLimit)
      (server, []) events) :
    let after := Mealy.final (readOn env fl recursionLimit) (server, []) events
    after.1.Readable ∧ after.1.slot = server.slot ∧ after.2 <+: server.slot.latest ∧
      ((∀ passed, Sum.inr passed ∈ events → 0 < passed) →
        min (reads events) server.slot.latest.length ≤ after.2.length) := by
  induction events using List.reverseRecOn with
  | nil => exact ⟨hreadable, rfl, List.nil_prefix, fun _ => Nat.min_le_left _ _⟩
  | append_singleton events event ih =>
    obtain ⟨hread, hslot, hprefix, hlength⟩ := ih fun before other rest hsplit =>
      hquiet before other (rest ++ [event]) (by rw [hsplit]; simp)
    have hnow := hquiet events event [] rfl
    have hpassed : (∀ passed, Sum.inr passed ∈ events ++ [event] → 0 < passed) →
        ∀ passed, Sum.inr passed ∈ events → 0 < passed := fun h passed hmem =>
      h passed (List.mem_append_left _ hmem)
    obtain ⟨state, hstate⟩ :
        ∃ state, state = Mealy.final (readOn env fl recursionLimit) (server, []) events := ⟨_, rfl⟩
    rw [← hstate] at hread hslot hprefix hlength hnow
    rw [Mealy.final_concat, ← hstate]
    rcases event with input | passed
    · -- whatever is handled leaves the answer
      have hcount : reads (events ++ [.inl input]) = reads events := by
        rw [reads, List.countP_append]
        rfl
      refine ⟨(follows_handle state.1 input).readable hread, (hnow input rfl).trans hslot,
        hprefix, fun h => ?_⟩
      rw [hcount]
      exact hlength (hpassed h)
    · have hcount : reads (events ++ [.inr passed]) = reads events + 1 := by
        rw [reads, List.countP_append]
        rfl
      have hanswer : state.1.onCommandRead (some (state.2.length : ℤ)) =
          Blocks.slice server.slot.latest state.2.length 512 := by
        rw [onCommandRead_eq hread, hslot, hsubscribed, if_neg Bool.false_ne_true]
      rw [readOn]
      dsimp only
      rw [hanswer]
      refine ⟨hread, hslot, Blocks.append_take_slice_prefix hprefix 512 passed, fun h => ?_⟩
      have hpos : 0 < passed := h passed (List.mem_append_right _ (List.mem_singleton_self _))
      have hbefore := hlength (hpassed h)
      have hle := hprefix.length_le
      rw [hcount, List.length_append, List.length_take, Blocks.slice, List.length_take,
        List.length_drop]
      omega

/-- **The last answer can be read whole.** After any run in which the telephone does not listen
at the end, it reads on, whatever else happens in between that is not answered. Once it gets
nothing more it has the answer; and it does get there, if something of each read is passed on. -/
theorem got_of_reads (env : Platform) (fl : Rounding) (recursionLimit : ℕ)
    (inputs : List BleInput) (events : List (BleInput ⊕ ℕ))
    (hsubscribed : (Mealy.final (handle env fl recursionLimit) (init env)
      inputs).slot.subscribed = false)
    (hquiet : Mealy.AtEach (readOn env fl recursionLimit) (Quiet env fl recursionLimit)
      (Mealy.final (handle env fl recursionLimit) (init env) inputs, []) events) :
    let server := Mealy.final (handle env fl recursionLimit) (init env) inputs
    let after := Mealy.final (readOn env fl recursionLimit) (server, []) events
    (after.1.onCommandRead (some (after.2.length : ℤ)) = [] ↔
      after.2 = server.lastCommandResponse) ∧
    ((∀ passed, Sum.inr passed ∈ events → 0 < passed) →
      server.lastCommandResponse.length ≤ reads events → after.2 = server.lastCommandResponse) := by
  have hreadable := @readable_final env fl recursionLimit (init env) readable_init inputs
  obtain ⟨hread, hslot, hprefix, hlength⟩ := readOn_final hreadable hsubscribed hquiet
  generalize Mealy.final (handle env fl recursionLimit) (init env) inputs = server at *
  dsimp only at hread hslot hprefix hlength ⊢
  rw [onCommandRead_eq hread, hslot, hsubscribed, if_neg Bool.false_ne_true]
  refine ⟨⟨Blocks.eq_of_slice_eq_nil hprefix (by omega), fun h => ?_⟩, fun hpassed hreads => ?_⟩
  · rw [Blocks.slice, h]
    exact (congrArg _ (List.drop_eq_nil_of_le le_rfl)).trans List.take_nil
  · refine hprefix.eq_of_length_le ?_
    have hmin := hlength hpassed
    have hlen : server.slot.latest.length ≤ reads events := hreads
    omega

/-- A platform whose objects have a text. -/
def writingPlatform : Platform :=
  { Platform.plain with dumps := dumpsCompact ⟨fun _ => "", id⟩ }

/-- Two reads with a pairing result between them. -/
def interruptedReads : List (BleInput ⊕ ℕ) :=
  [.inr 20, .inl (.write .pairingResult [] 0), .inr 20]

theorem quiet_interruptedReads (state : VehicleBleServer × Bytes) :
    ∀ event ∈ interruptedReads, Quiet writingPlatform .exact 0 state event := by
  rintro event hmem input rfl
  obtain rfl : input = .write .pairingResult [] 0 := by simpa [interruptedReads] using hmem
  exact congrArg Prod.fst (commandSide_onPairingResultWrite state.1 [] 0)

/-- What a telephone reads that gets twenty bytes at a time. -/
theorem got_of_reads_init :
    (Mealy.final (readOn writingPlatform .exact 0) (init writingPlatform, [])
      interruptedReads).2 = (init writingPlatform).lastCommandResponse := by
  refine (got_of_reads writingPlatform .exact 0 [] interruptedReads rfl ?_).1.mp ?_
  · rintro before event rest hsplit
    exact quiet_interruptedReads _ event (hsplit ▸ by simp)
  · decide +kernel

end VehicleBleServer

end DigitalKey

end VehicleStack
