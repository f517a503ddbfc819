import Mathlib.Data.List.Basic
import VehicleStack.Lib.Mealy
import VehicleStack.DigitalKey.Authorisation
import VehicleStack.DigitalKey.Chunks

/-!
# The characteristics the telephone writes to

`vehicle_ble.py`. Two characteristics are written to, each with an assembler for chunks of its
own. A write to the command characteristic goes to `CommandHandler.process`, one to the
pairing-result characteristic to `PairingManager.handle_pairing_result`, once there is something
to hand over. Whether there is, the one callback reads off what the assembler returns, and the
other off some names of members too. So a chunk that has none of these names is handed over
itself, and the exact condition under which that does not happen is
`VehicleStack.DigitalKey.incomplete_notHandedOver_iff`.
-/

namespace VehicleStack

namespace DigitalKey

open Effect

variable (env : Platform)

/-! ### Payloads and bytes -/

/-- `decode_payload`. -/
def decodePayload (raw : Bytes) : Except PyError Json :=
  (env.loads raw).mapError fun e =>
    if e.kind = .valueError then valueError ("Invalid JSON payload: " ++ e.message) else e

/-- `encode_payload`. -/
def encodePayload (data : Json) : Bytes := env.encode (env.dumps data)

/-! ### The server -/

/-- `VehicleBleServer`, with the values its characteristics were set to. -/
structure VehicleBleServer where
  world : World := {}
  chunkAssembler : Option ChunkState := none
  pairingResultAssembler : Option ChunkState := none
  pairingResultValues : List Bytes
  commandValues : List Bytes
  lastCommandResponse : Bytes
  commandNotifyEnabled : Bool := false
  commandReadAvailable : Bool := true

/-- `__init__`. -/
def VehicleBleServer.init : VehicleBleServer where
  pairingResultValues := [encodePayload env (.obj [("status", .str "INIT")])]
  commandValues := [encodePayload env (.obj [("success", .bool true), ("command", .str "INIT")])]
  lastCommandResponse :=
    encodePayload env (.obj [("success", .bool true), ("command", .str "INIT")])

namespace VehicleBleServer

/-- `pairing_result_char.set_value`, of a payload. -/
def setPairingResult (server : VehicleBleServer) (response : Json) : VehicleBleServer :=
  { server with
    pairingResultValues := server.pairingResultValues ++ [encodePayload env response] }

/-- `_publish_command_response`: in blocks if the telephone wants to be notified, else cut off. -/
def publishCommandResponse (server : VehicleBleServer) (encoded : Bytes) : VehicleBleServer :=
  let server := { server with lastCommandResponse := encoded }
  if encoded = [] then { server with commandValues := server.commandValues ++ [[]] }
  else if server.commandNotifyEnabled then
    { server with
      commandReadAvailable := false
      commandValues := server.commandValues ++ encoded.toChunks 180 ++ [[]] }
  else
    { server with
      commandReadAvailable := true
      commandValues := server.commandValues ++ [encoded.take 512] }

/-- `_on_command_notify_state`. -/
def onCommandNotifyState (server : VehicleBleServer) (notifying : Bool) : VehicleBleServer :=
  let server :=
    { server with
      commandNotifyEnabled := notifying
      commandReadAvailable := !notifying || server.commandReadAvailable }
  if notifying && server.lastCommandResponse ≠ [] then
    server.publishCommandResponse server.lastCommandResponse
  else server

/-- The whole milliseconds a callback asks for, and the server afterwards. -/
def askTimeMs (server : VehicleBleServer) : ℤ × VehicleBleServer :=
  (env.timeMs server.world.tick,
    { server with world := { server.world with tick := server.world.tick + 1 } })

/-- An error for the pairing-result characteristic. -/
def failPairingResult (server : VehicleBleServer) (message : String) (timestamp : ℤ) :
    VehicleBleServer :=
  server.setPairingResult env
    (.obj [("status", .str "ERROR"), ("message", .str message), ("timestamp", .int timestamp)])

/-- An error for the command characteristic. -/
def failCommand (server : VehicleBleServer) (message : String) (timestamp : ℤ) :
    VehicleBleServer :=
  server.publishCommandResponse (encodePayload env
    (.obj [("success", .bool false), ("error", .str message), ("timestamp", .int timestamp)]))

end VehicleBleServer

/-! ### What a callback makes of a payload -/

/-- What a callback makes of a payload that was written. -/
inductive Verdict where
  /-- More chunks are waited for. -/
  | wait
  /-- `ingest` raised a `ValueError`. -/
  | chunkError (e : PyError)
  /-- Something else was raised. -/
  | raised (e : PyError)
  /-- A payload goes to the handler. -/
  | handOver (payload : Json)

/-- The payload that goes to the handler. -/
def Verdict.handed : Verdict → Option Json
  | .handOver payload => some payload
  | _ => none

variable (fl : Rounding)

/-- `_on_pairing_result_write`, up to the handler: the assembler afterwards, and the verdict. -/
def pairingResultVerdict (assembler : Option ChunkState) (now : ℚ) (payload : Json) :
    Option ChunkState × Verdict :=
  if payload.isDict then
    match ingest env fl assembler now payload with
    | (assembler, .error e) =>
      (assembler, if e.kind = .valueError then .chunkError e else .raised e)
    | (assembler, .ok aggregated) =>
      if aggregated.isNone then
        if payload.has "index" || payload.has "total" || payload.has "chunkIndex" then
          (assembler, .wait)
        else (assembler, .handOver payload)
      else (assembler, .handOver aggregated)
  else (assembler, .handOver payload)

/-- `_on_command_write`, up to the handler. -/
def commandVerdict (assembler : Option ChunkState) (now : ℚ) (payload : Json) :
    Option ChunkState × Verdict :=
  match ingest env fl assembler now payload with
  | (assembler, .error e) =>
    (assembler, if e.kind = .valueError then .chunkError e else .raised e)
  | (assembler, .ok aggregated) =>
    if aggregated.isNone then (assembler, .wait)
    else if aggregated.isDict then (assembler, .handOver aggregated)
    else (assembler, .raised (valueError "Assembled command payload is not an object"))

/-! ### The callbacks -/

namespace VehicleBleServer

/-- What `_on_pairing_result_write` does with the payload it hands over. -/
def handlePairingResult (server : VehicleBleServer) (payload : Json) : VehicleBleServer :=
  let handled := exec (DigitalKey.handlePairingResult env payload) server.world
  let server := { server with world := handled.2 }
  match handled.1 with
  | .ok (_, response) => server.setPairingResult env response
  | .error e => server.failPairingResult env e.message 0

/-- What `_on_command_write` does with the payload it hands over. -/
def process (recursionLimit : ℕ) (server : VehicleBleServer) (payload : Json) :
    VehicleBleServer :=
  let handled := exec (DigitalKey.process env recursionLimit payload) server.world
  let server := { server with world := handled.2 }
  match handled.1 with
  | .ok (_, response) =>
    if response.isNone then server
    else server.publishCommandResponse (encodePayload env response)
  | .error e => server.failCommand env e.message 0

/-- `_on_pairing_result_write`: the server afterwards, and what was handed over. -/
def onPairingResultWrite (server : VehicleBleServer) (value : Bytes) (now : ℚ) :
    VehicleBleServer × Option Json :=
  match decodePayload env value with
  | .error e => (server.failPairingResult env e.message 0, none)
  | .ok payload =>
    let ⟨assembler, verdict⟩ :=
      pairingResultVerdict env fl server.pairingResultAssembler now payload
    let server := { server with pairingResultAssembler := assembler }
    match verdict with
    | .wait => (server, none)
    | .chunkError e =>
      let ⟨timestamp, server⟩ := server.askTimeMs env
      (server.failPairingResult env ("chunk_assembly_failed: " ++ e.message) timestamp, none)
    | .raised e => (server.failPairingResult env e.message 0, none)
    | .handOver payload => (server.handlePairingResult env payload, some payload)

/-- `_on_command_write`: the server afterwards, and what was handed over. -/
def onCommandWrite (recursionLimit : ℕ) (server : VehicleBleServer) (value : Bytes) (now : ℚ) :
    VehicleBleServer × Option Json :=
  match decodePayload env value with
  | .error e => (server.failCommand env e.message 0, none)
  | .ok payload =>
    let ⟨assembler, verdict⟩ := commandVerdict env fl server.chunkAssembler now payload
    let server := { server with chunkAssembler := assembler }
    match verdict with
    | .wait => (server, none)
    | .chunkError e =>
      let ⟨timestamp, server⟩ := server.askTimeMs env
      (server.failCommand env ("chunk_assembly_failed: " ++ e.message) timestamp, none)
    | .raised e => (server.failCommand env e.message 0, none)
    | .handOver payload => (server.process env recursionLimit payload, some payload)

end VehicleBleServer

/-! ### Runs -/

/-- The characteristics the telephone writes to. -/
inductive Characteristic where
  | pairingResult
  | command

/-- What the telephone does, a write with the time it is handled at. -/
inductive BleInput where
  | write (characteristic : Characteristic) (value : Bytes) (now : ℚ)
  | commandNotify (notifying : Bool)

namespace VehicleBleServer

/-- The assembler of a characteristic. -/
def assembler (server : VehicleBleServer) : Characteristic → Option ChunkState
  | .pairingResult => server.pairingResultAssembler
  | .command => server.chunkAssembler

/-- The callback of an input: the server afterwards, and what was handed over. -/
def handle (recursionLimit : ℕ) (server : VehicleBleServer) :
    BleInput → VehicleBleServer × Option Json
  | .write .pairingResult value now => server.onPairingResultWrite env fl value now
  | .write .command value now => server.onCommandWrite env fl recursionLimit value now
  | .commandNotify notifying => (server.onCommandNotifyState notifying, none)

end VehicleBleServer

/-- What `ingest` returns for the payload of a write. -/
def Returned (server : VehicleBleServer) (input : BleInput) (payload result : Json) : Prop :=
  ∃ characteristic value now, input = .write characteristic value now ∧
    decodePayload env value = .ok payload ∧
    (ingest env fl (server.assembler characteristic) now payload).2 = .ok result

/-- Nothing is handed over for an object that is a chunk for which `ingest` returns `None`. -/
def WaitsForMore (recursionLimit : ℕ) (server : VehicleBleServer) (input : BleInput) : Prop :=
  ∀ payload chunk, payload.isDict = true → Returned env fl server input payload .null →
    extractChunkMeta env payload = .ok (some chunk) →
    (server.handle env fl recursionLimit input).2 = none

/-- What is handed over are the objects that `ingest` returns. -/
def HandsOverReturned (recursionLimit : ℕ) (server : VehicleBleServer) (input : BleInput) :
    Prop :=
  ∀ handed, (server.handle env fl recursionLimit input).2 = some handed ↔
    ∃ payload members, handed = .obj members ∧ Returned env fl server input payload handed

/-! ### When the callbacks wait -/

/-- The buffer that a chunk is in, once it was buffered. -/
def bufferedIn (assembler : Option ChunkState) (now : ℚ) (payload : Json) : Option ChunkState :=
  match readChunk env payload with
  | .ok (some chunk) => some ((bufferFor fl now chunk assembler).add chunk.index chunk.data)
  | _ => none

/-- A chunk that leaves the buffer incomplete, or completes the payload `null`. -/
def LeavesNothing (assembler : Option ChunkState) (now : ℚ) (payload : Json) : Prop :=
  ∃ buffer, bufferedIn env fl assembler now payload = some buffer ∧
    (buffer.complete = true → env.loads buffer.build = .ok .null)

/-- A member by which `_on_pairing_result_write` knows a chunk. -/
def namedAsChunk (payload : Json) : Bool :=
  payload.has "index" || payload.has "total" || payload.has "chunkIndex"

/-- A chunk that leaves nothing to hand over and is written to the pairing-result
characteristic is named as one. -/
def KnownAsChunk (server : VehicleBleServer) (input : BleInput) : Prop :=
  ∀ value now payload, input = .write .pairingResult value now →
    decodePayload env value = .ok payload → payload.isDict = true →
    LeavesNothing env fl server.pairingResultAssembler now payload → namedAsChunk payload = true

/-- What is written to the pairing-result characteristic is an object, and what a chunk
completes there is one, or `null`. -/
def ObjectsOnly (server : VehicleBleServer) (input : BleInput) : Prop :=
  ∀ value now payload, input = .write .pairingResult value now →
    decodePayload env value = .ok payload →
    payload.isDict = true ∧ ∀ buffer result,
      bufferedIn env fl server.pairingResultAssembler now payload = some buffer →
      buffer.complete = true → env.loads buffer.build = .ok result →
      result.isNone = true ∨ result.isDict = true

variable {env fl}

theorem readAssembled_eq_ok_iff {bytes : Bytes} {result : Json} :
    readAssembled env bytes = .ok result ↔ env.loads bytes = .ok result := by
  rw [readAssembled]
  cases env.loads bytes with
  | error e => exact ⟨nofun, nofun⟩
  | ok value => exact Iff.rfl

section ingest

variable {assembler : Option ChunkState} {now : ℚ} {payload : Json}

theorem bufferedIn_eq_some {buffer : ChunkState}
    (h : bufferedIn env fl assembler now payload = some buffer) :
    ∃ chunk, readChunk env payload = .ok (some chunk) ∧
      buffer = (bufferFor fl now chunk assembler).add chunk.index chunk.data := by
  rw [bufferedIn] at h
  split at h
  · rename_i chunk hread
    exact ⟨chunk, hread, (Option.some.inj h).symm⟩
  · cases h

/-- A chunk that is buffered gives the payload it completes, if it does. -/
theorem ingest_of_bufferedIn {buffer : ChunkState}
    (h : bufferedIn env fl assembler now payload = some buffer) :
    ingest env fl assembler now payload =
      if buffer.complete then (none, readAssembled env buffer.build)
      else (some buffer, .ok .null) := by
  obtain ⟨chunk, hread, rfl⟩ := bufferedIn_eq_some h
  rw [ingest, hread]

/-- What is not buffered is returned as it is, if nothing is raised. -/
theorem ingest_of_not_bufferedIn (h : bufferedIn env fl assembler now payload = none)
    {result : Json} (hresult : (ingest env fl assembler now payload).2 = .ok result) :
    result = payload := by
  rw [bufferedIn] at h
  rw [ingest] at hresult
  cases hread : readChunk env payload with
  | error e =>
    rw [hread] at hresult
    cases hresult
  | ok read =>
    cases read with
    | none =>
      rw [hread] at hresult
      exact (Except.ok.inj hresult).symm
    | some chunk =>
      rw [hread] at h
      cases h

theorem exists_chunk_of_bufferedIn {buffer : ChunkState}
    (h : bufferedIn env fl assembler now payload = some buffer) :
    ∃ chunk, extractChunkMeta env payload = .ok (some chunk) := by
  obtain ⟨chunk, hread, -⟩ := bufferedIn_eq_some h
  rw [readChunk] at hread
  obtain ⟨read, hextract, hread⟩ := bind_eq_ok.mp hread
  cases read with
  | none => cases hread
  | some chunk => exact ⟨chunk, hextract⟩

/-- For an object `None` is returned exactly if it is a chunk that leaves nothing. -/
theorem ingest_eq_null_iff (hdict : payload.isDict = true) :
    (ingest env fl assembler now payload).2 = .ok .null ↔
      LeavesNothing env fl assembler now payload := by
  cases hbuffer : bufferedIn env fl assembler now payload with
  | none =>
    constructor
    · intro h
      rw [← ingest_of_not_bufferedIn hbuffer h] at hdict
      cases hdict
    · rintro ⟨buffer, hsome, -⟩
      rw [hbuffer] at hsome
      cases hsome
  | some buffer =>
    have hleaves : LeavesNothing env fl assembler now payload ↔
        (buffer.complete = true → env.loads buffer.build = .ok .null) := by
      rw [LeavesNothing, hbuffer]
      exact ⟨fun ⟨_, hsome, h⟩ => Option.some.inj hsome ▸ h, fun h => ⟨buffer, rfl, h⟩⟩
    rw [hleaves, ingest_of_bufferedIn hbuffer]
    split_ifs with hcomplete
    · rw [readAssembled_eq_ok_iff]
      exact ⟨fun h _ => h, fun h => h hcomplete⟩
    · exact ⟨fun _ h => absurd h hcomplete, fun _ => rfl⟩

/-! ### What is handed over -/

/-- Of an object, what `ingest` returns is handed over, and where that is `None` the object
itself, unless it is named as a chunk. -/
theorem handed_pairingResultVerdict (hdict : payload.isDict = true) :
    (pairingResultVerdict env fl assembler now payload).2.handed =
      match (ingest env fl assembler now payload).2 with
      | .error _ => none
      | .ok aggregated =>
        if aggregated.isNone then if namedAsChunk payload then none else some payload
        else some aggregated := by
  rw [pairingResultVerdict, if_pos hdict, namedAsChunk]
  cases ingest env fl assembler now payload with
  | mk afterwards returned =>
    cases returned with
    | error e =>
      dsimp only
      split_ifs <;> rfl
    | ok aggregated =>
      dsimp only
      split_ifs <;> rfl

theorem handed_pairingResultVerdict_of_null (hdict : payload.isDict = true)
    (hnull : (ingest env fl assembler now payload).2 = .ok .null) :
    (pairingResultVerdict env fl assembler now payload).2.handed =
      if namedAsChunk payload then none else some payload := by
  rw [handed_pairingResultVerdict hdict, hnull]
  rfl

/-- What is no object is handed over as it is. -/
theorem handed_pairingResultVerdict_of_not_isDict (hdict : payload.isDict = false) :
    (pairingResultVerdict env fl assembler now payload).2.handed = some payload := by
  rw [pairingResultVerdict, hdict]
  rfl

/-- The pairing-result callback hands over the objects that `ingest` returns, of an object that
is known as a chunk if it leaves nothing, and if what chunks complete are objects. -/
theorem handed_pairingResultVerdict_eq_some_iff (hdict : payload.isDict = true)
    (hknown : LeavesNothing env fl assembler now payload → namedAsChunk payload = true)
    (hcompleted : ∀ buffer result, bufferedIn env fl assembler now payload = some buffer →
      buffer.complete = true → env.loads buffer.build = .ok result →
      result.isNone = true ∨ result.isDict = true) {handed : Json} :
    (pairingResultVerdict env fl assembler now payload).2.handed = some handed ↔
      (ingest env fl assembler now payload).2 = .ok handed ∧ handed.isDict = true := by
  cases hreturned : (ingest env fl assembler now payload).2 with
  | error e =>
    rw [handed_pairingResultVerdict hdict, hreturned]
    exact ⟨nofun, nofun⟩
  | ok aggregated =>
    by_cases hnone : aggregated.isNone = true
    · obtain rfl : aggregated = .null := by
        cases aggregated with
        | null => rfl
        | _ => cases hnone
      rw [handed_pairingResultVerdict_of_null hdict hreturned,
        if_pos (hknown ((ingest_eq_null_iff hdict).mp hreturned))]
      constructor
      · nofun
      · rintro ⟨⟨⟩, ⟨⟩⟩
    · have haggregated : aggregated.isDict = true := by
        cases hbuffer : bufferedIn env fl assembler now payload with
        | none => rw [ingest_of_not_bufferedIn hbuffer hreturned, hdict]
        | some buffer =>
          rw [ingest_of_bufferedIn hbuffer] at hreturned
          split_ifs at hreturned with hcomplete
          · exact (hcompleted buffer aggregated hbuffer hcomplete
              (readAssembled_eq_ok_iff.mp hreturned)).resolve_left hnone
          · cases hreturned
            exact absurd rfl hnone
      rw [handed_pairingResultVerdict hdict, hreturned]
      dsimp only
      rw [if_neg hnone]
      constructor
      · rintro ⟨⟩
        exact ⟨rfl, haggregated⟩
      · rintro ⟨⟨⟩, -⟩
        rfl

/-- The command callback hands over the objects that `ingest` returns. -/
theorem handed_commandVerdict_eq_some_iff {handed : Json} :
    (commandVerdict env fl assembler now payload).2.handed = some handed ↔
      (ingest env fl assembler now payload).2 = .ok handed ∧ handed.isDict = true := by
  rw [commandVerdict]
  cases ingest env fl assembler now payload with
  | mk afterwards returned =>
    cases returned with
    | error e =>
      dsimp only
      split_ifs <;> exact ⟨nofun, nofun⟩
    | ok aggregated =>
      cases aggregated with
      | obj members =>
        constructor
        · rintro ⟨⟩
          exact ⟨rfl, rfl⟩
        · rintro ⟨⟨⟩, -⟩
          rfl
      | _ =>
        constructor
        · nofun
        · rintro ⟨⟨⟩, ⟨⟩⟩

end ingest

section handed

variable {server : VehicleBleServer} {value : Bytes} {now : ℚ} {payload : Json}
  {recursionLimit : ℕ}

theorem handed_onPairingResultWrite (h : decodePayload env value = .ok payload) :
    (server.onPairingResultWrite env fl value now).2 =
      (pairingResultVerdict env fl server.pairingResultAssembler now payload).2.handed := by
  rw [VehicleBleServer.onPairingResultWrite, h]
  dsimp only
  cases (pairingResultVerdict env fl server.pairingResultAssembler now payload).2 <;> rfl

theorem handed_onCommandWrite (h : decodePayload env value = .ok payload) :
    (server.onCommandWrite env fl recursionLimit value now).2 =
      (commandVerdict env fl server.chunkAssembler now payload).2.handed := by
  rw [VehicleBleServer.onCommandWrite, h]
  dsimp only
  cases (commandVerdict env fl server.chunkAssembler now payload).2 <;> rfl

/-- What is no payload is not handed over. -/
theorem handed_write_of_error {characteristic : Characteristic} {e : PyError}
    (h : decodePayload env value = .error e) :
    (server.handle env fl recursionLimit (.write characteristic value now)).2 = none := by
  cases characteristic with
  | pairingResult =>
    rw [VehicleBleServer.handle, VehicleBleServer.onPairingResultWrite, h]
  | command => rw [VehicleBleServer.handle, VehicleBleServer.onCommandWrite, h]

/-- For a write whose payload is known, what is returned for it is known. -/
theorem returned_write_iff {characteristic : Characteristic}
    (h : decodePayload env value = .ok payload) {written result : Json} :
    Returned env fl server (.write characteristic value now) written result ↔
      written = payload ∧
        (ingest env fl (server.assembler characteristic) now payload).2 = .ok result := by
  constructor
  · rintro ⟨_, _, _, ⟨⟩, hdecode, hreturned⟩
    obtain rfl : payload = written := Except.ok.inj (h.symm.trans hdecode)
    exact ⟨rfl, hreturned⟩
  · rintro ⟨rfl, hreturned⟩
    exact ⟨characteristic, value, now, rfl, h, hreturned⟩

/-- Nothing is returned for a write that is no payload. -/
theorem not_returned_of_error {characteristic : Characteristic} {e : PyError}
    (h : decodePayload env value = .error e) {written result : Json} :
    ¬Returned env fl server (.write characteristic value now) written result := by
  rintro ⟨_, _, _, ⟨⟩, hdecode, -⟩
  rw [h] at hdecode
  cases hdecode

end handed

/-! ### One input -/

section input

variable {server : VehicleBleServer} {recursionLimit : ℕ} {input : BleInput}

/-- Where the objects returned are handed over and nothing else is, nothing is handed over
for what is incomplete. -/
theorem HandsOverReturned.waitsForMore
    (h : HandsOverReturned env fl recursionLimit server input) :
    WaitsForMore env fl recursionLimit server input := by
  intro payload chunk _ hreturned _
  cases hhanded : (server.handle env fl recursionLimit input).2 with
  | none => rfl
  | some handed =>
    obtain ⟨_, members, rfl, _, _, _, rfl, hdecode, hobject⟩ := (h handed).mp hhanded
    obtain ⟨_, hnull⟩ := (returned_write_iff hdecode).mp hreturned
    rw [hobject] at hnull
    cases hnull

/-- **The pairing-result callback waits** for the chunks that it knows, and the command callback
for all. -/
theorem waitsForMore_iff :
    WaitsForMore env fl recursionLimit server input ↔ KnownAsChunk env fl server input := by
  constructor
  · rintro h value now payload rfl hdecode hdict hleaves
    have hnull := (ingest_eq_null_iff hdict).mpr hleaves
    obtain ⟨buffer, hbuffer, -⟩ := hleaves
    obtain ⟨chunk, hchunk⟩ := exists_chunk_of_bufferedIn hbuffer
    have hnone := h payload chunk hdict ((returned_write_iff hdecode).mpr ⟨rfl, hnull⟩) hchunk
    rw [VehicleBleServer.handle, handed_onPairingResultWrite hdecode,
      handed_pairingResultVerdict_of_null hdict hnull] at hnone
    by_contra hnamed
    rw [if_neg hnamed] at hnone
    cases hnone
  · rintro h payload chunk hdict ⟨characteristic, value, now, rfl, hdecode, hnull⟩ -
    cases characteristic with
    | pairingResult =>
      have hnull' : (ingest env fl server.pairingResultAssembler now payload).2 = .ok .null :=
        hnull
      have hnamed := h value now payload rfl hdecode hdict ((ingest_eq_null_iff hdict).mp hnull')
      rw [VehicleBleServer.handle, handed_onPairingResultWrite hdecode,
        handed_pairingResultVerdict_of_null hdict hnull', if_pos hnamed]
    | command =>
      rw [VehicleBleServer.handle, handed_onCommandWrite hdecode]
      cases hhanded : (commandVerdict env fl server.chunkAssembler now payload).2.handed with
      | none => rfl
      | some handed =>
        obtain ⟨hreturned, hobject⟩ := handed_commandVerdict_eq_some_iff.mp hhanded
        obtain rfl : Json.null = handed := Except.ok.inj (hnull.symm.trans hreturned)
        cases hobject

/-- Where the pairing-result callback hands over the objects returned and nothing else, it
gets objects only. -/
theorem HandsOverReturned.objectsOnly (h : HandsOverReturned env fl recursionLimit server input) :
    ObjectsOnly env fl server input := by
  rintro value now payload rfl hdecode
  have hhandle : (server.onPairingResultWrite env fl value now).2 = _ :=
    handed_onPairingResultWrite hdecode
  have hobject : ∀ handed,
      (pairingResultVerdict env fl server.pairingResultAssembler now payload).2.handed =
        some handed → handed.isDict = true := by
    intro handed hhanded
    obtain ⟨_, members, rfl, -⟩ := (h handed).mp (hhandle.trans hhanded)
    rfl
  have hdict : payload.isDict = true := by
    by_contra hnot
    have hfalse := eq_false_of_ne_true hnot
    exact hnot (hobject payload (handed_pairingResultVerdict_of_not_isDict hfalse))
  refine ⟨hdict, fun buffer result hbuffer hcomplete hloads => ?_⟩
  have hreturned : (ingest env fl server.pairingResultAssembler now payload).2 = .ok result := by
    rw [ingest_of_bufferedIn hbuffer, if_pos hcomplete]
    exact readAssembled_eq_ok_iff.mpr hloads
  by_cases hnone : result.isNone = true
  · exact Or.inl hnone
  · refine Or.inr (hobject result ?_)
    rw [handed_pairingResultVerdict hdict, hreturned]
    exact if_neg hnone

/-- **What is handed over is what was returned**, where incomplete chunks are known as such and
nothing but objects comes. -/
theorem handsOverReturned_iff :
    HandsOverReturned env fl recursionLimit server input ↔
      KnownAsChunk env fl server input ∧ ObjectsOnly env fl server input := by
  refine ⟨fun h => ⟨waitsForMore_iff.mp h.waitsForMore, h.objectsOnly⟩, ?_⟩
  rintro ⟨hknown, hobjects⟩ handed
  cases input with
  | commandNotify notifying => exact ⟨nofun, fun ⟨_, _, _, _, _, _, hne, _⟩ => by cases hne⟩
  | write characteristic value now =>
    cases hdecode : decodePayload env value with
    | error e =>
      rw [handed_write_of_error hdecode]
      exact ⟨nofun, fun ⟨_, _, _, h⟩ => absurd h (not_returned_of_error hdecode)⟩
    | ok payload =>
      have hreturned : (∃ written members, handed = .obj members ∧
          Returned env fl server (.write characteristic value now) written handed) ↔
          (ingest env fl (server.assembler characteristic) now payload).2 = .ok handed ∧
            handed.isDict = true := by
        constructor
        · rintro ⟨written, members, rfl, h⟩
          exact ⟨((returned_write_iff hdecode).mp h).2, rfl⟩
        · rintro ⟨h, hdict⟩
          cases handed with
          | obj members => exact ⟨payload, members, rfl, (returned_write_iff hdecode).mpr ⟨rfl, h⟩⟩
          | _ => cases hdict
      rw [hreturned]
      cases characteristic with
      | command =>
        rw [VehicleBleServer.handle, handed_onCommandWrite hdecode]
        exact handed_commandVerdict_eq_some_iff
      | pairingResult =>
        obtain ⟨hdict, hcompleted⟩ := hobjects value now payload rfl hdecode
        rw [VehicleBleServer.handle, handed_onPairingResultWrite hdecode]
        exact handed_pairingResultVerdict_eq_some_iff hdict
          (hknown value now payload rfl hdecode hdict) hcompleted

end input

/-! ### Every run -/

/-- **Incomplete chunks are not handed over**, in a run, exactly if every chunk that leaves
nothing to hand over and is written to the pairing-result characteristic has one of the names
its callback looks for. **Both callbacks hand over exactly the objects returned** if moreover
objects only come to that characteristic, in one piece or in chunks. -/
theorem incomplete_notHandedOver_iff (env : Platform) (fl : Rounding) (recursionLimit : ℕ)
    (server : VehicleBleServer) (inputs : List BleInput) :
    (Mealy.AtEach (VehicleBleServer.handle env fl recursionLimit)
        (WaitsForMore env fl recursionLimit) server inputs ↔
      Mealy.AtEach (VehicleBleServer.handle env fl recursionLimit) (KnownAsChunk env fl) server
        inputs) ∧
    (Mealy.AtEach (VehicleBleServer.handle env fl recursionLimit)
        (HandsOverReturned env fl recursionLimit) server inputs ↔
      Mealy.AtEach (VehicleBleServer.handle env fl recursionLimit)
        (fun server input => KnownAsChunk env fl server input ∧ ObjectsOnly env fl server input)
        server inputs) :=
  ⟨forall₄_congr fun _ _ _ _ => waitsForMore_iff,
    forall₄_congr fun _ _ _ _ => handsOverReturned_iff⟩

/-- A platform on which every text is a chunk of two parts, under names that no other callback
looks for. -/
def partsPlatform : Platform :=
  { Platform.plain with
    loads := fun _ => .ok (.obj [("part", .int 0), ("parts", .int 2), ("data", .str "\x7b")]) }

/-- The first of two parts of a pairing result is handed over itself. -/
theorem firstPart_handedOver : ¬∀ (env : Platform) (fl : Rounding) (recursionLimit : ℕ)
    (inputs : List BleInput),
    Mealy.AtEach (VehicleBleServer.handle env fl recursionLimit)
      (WaitsForMore env fl recursionLimit) (VehicleBleServer.init env) inputs := by
  intro h
  have hwaits := h partsPlatform .exact 0 [.write .pairingResult [] 0] [] _ [] rfl
    (.obj [("part", .int 0), ("parts", .int 2), ("data", .str "\x7b")])
    ⟨"default", 0, 2, [0x7b]⟩ rfl ⟨.pairingResult, [], 0, rfl, rfl, rfl⟩ rfl
  cases hwaits

/-! ### What a callback does to the process -/

/-- A payload handed over by the callback of a characteristic, as a write the process handles. -/
def Characteristic.handedWrite : Characteristic → Json → Write
  | .pairingResult, payload => .pairingResult payload
  | .command, payload => .command payload

@[simp]
theorem VehicleBleServer.world_publishCommandResponse (server : VehicleBleServer)
    (encoded : Bytes) : (server.publishCommandResponse encoded).world = server.world := by
  rw [publishCommandResponse]
  dsimp only
  split_ifs <;> rfl

@[simp]
theorem VehicleBleServer.world_failCommand (server : VehicleBleServer) (message : String)
    (timestamp : ℤ) : (server.failCommand env message timestamp).world = server.world :=
  world_publishCommandResponse ..

theorem VehicleBleServer.world_handlePairingResult (server : VehicleBleServer) (payload : Json) :
    (server.handlePairingResult env payload).world =
      (exec (DigitalKey.handlePairingResult env payload) server.world).2 := by
  rw [handlePairingResult]
  cases (exec (DigitalKey.handlePairingResult env payload) server.world).1 <;> rfl

theorem VehicleBleServer.world_process (server : VehicleBleServer) (recursionLimit : ℕ)
    (payload : Json) : (server.process env recursionLimit payload).world =
      (exec (DigitalKey.process env recursionLimit payload) server.world).2 := by
  rw [process]
  cases (exec (DigitalKey.process env recursionLimit payload) server.world).1 with
  | error e => exact world_failCommand ..
  | ok answer =>
    dsimp only
    split_ifs
    · rfl
    · exact world_publishCommandResponse ..

/-- **A write does to the process what handling the payload handed over does**; without one
the process is at most asked for the time. -/
theorem world_handle_write (recursionLimit : ℕ) (server : VehicleBleServer)
    (characteristic : Characteristic) (value : Bytes) (now : ℚ) :
    match server.handle env fl recursionLimit (.write characteristic value now) with
    | (after, some payload) =>
      after.world = handleWrite env recursionLimit server.world
        (characteristic.handedWrite payload)
    | (after, none) => ∃ tick, after.world = { server.world with tick := tick } := by
  cases characteristic with
  | pairingResult =>
    rw [VehicleBleServer.handle, VehicleBleServer.onPairingResultWrite]
    cases decodePayload env value with
    | error e => exact ⟨server.world.tick, rfl⟩
    | ok payload =>
      dsimp only
      cases (pairingResultVerdict env fl server.pairingResultAssembler now payload).2 with
      | handOver payload => exact VehicleBleServer.world_handlePairingResult ..
      | wait => exact ⟨server.world.tick, rfl⟩
      | raised e => exact ⟨server.world.tick, rfl⟩
      | chunkError e => exact ⟨server.world.tick + 1, rfl⟩
  | command =>
    rw [VehicleBleServer.handle, VehicleBleServer.onCommandWrite]
    cases decodePayload env value with
    | error e => exact ⟨server.world.tick, VehicleBleServer.world_failCommand ..⟩
    | ok payload =>
      dsimp only
      cases (commandVerdict env fl server.chunkAssembler now payload).2 with
      | handOver payload => exact VehicleBleServer.world_process ..
      | wait => exact ⟨server.world.tick, rfl⟩
      | raised e => exact ⟨server.world.tick, VehicleBleServer.world_failCommand ..⟩
      | chunkError e => exact ⟨server.world.tick + 1, VehicleBleServer.world_failCommand ..⟩

/-- **A run of the server is a run of the process**, as far as its steps are concerned. -/
theorem acts_final (recursionLimit : ℕ) (server : VehicleBleServer) (inputs : List BleInput) :
    Acts server.world
      (Mealy.final (VehicleBleServer.handle env fl recursionLimit) server inputs).world := by
  refine Mealy.final_of_invariant
    (P := fun after : VehicleBleServer => Acts server.world after.world)
    .refl ?_ inputs
  intro after input hacts
  refine hacts.trans ?_
  cases input with
  | commandNotify notifying =>
    rw [VehicleBleServer.handle, VehicleBleServer.onCommandNotifyState]
    dsimp only
    split_ifs
    · rw [VehicleBleServer.world_publishCommandResponse]
    · exact .refl
  | write characteristic value now =>
    have hworld := @world_handle_write env fl recursionLimit after characteristic value now
    split at hworld
    · rename_i hhandle
      rw [hhandle, hworld]
      exact acts_handleWrite ..
    · rename_i hhandle
      obtain ⟨tick, htick⟩ := hworld
      rw [hhandle, htick]
      exact .single (.ask _ tick)

end DigitalKey

end VehicleStack
