import VehicleStack.Lib.Mealy
import VehicleStack.Lib.Rounding
import VehicleStack.DigitalKey.Base64

/-!
# Chunked payloads

`chunks.py`. The telephone may write a payload in parts, each a JSON object of its own that
says which part it is, of how many, and what it carries, under any of several names
(`VehicleStack.DigitalKey.extractChunkMeta`). The assembler keeps the parts of one payload in a
buffer, `None` if there is none (`VehicleStack.DigitalKey.ingest`). It starts the buffer anew
for another id, another number of parts, a buffer that is too old, and part 0.

Times are rational, and their difference is rounded.
-/

namespace VehicleStack

namespace DigitalKey

variable (env : Platform)

/-! ### What a chunk says -/

/-- What a chunk says of itself. -/
structure Chunk where
  id : String
  index : ℤ
  total : ℤ
  data : Bytes

/-- `_coerce_int`. -/
def coerceInt (value : Json) : Except PyError (Option ℤ) :=
  if value.isNone then .ok none
  else
    match pyInt env value with
    | .ok z => .ok (some z)
    | .error e => if e.kind = .typeError ∨ e.kind = .valueError then .ok none else .error e

/-- `_first_non_none`, of the members of an object. -/
def firstNonNone (members : List (String × Json)) (names : List String) : Json :=
  (names.findSome? fun name => (members.lookup name).filter fun value => !value.isNone).getD .null

/-- The names a chunk's index, number of parts, data, encoding and id may have. -/
def indexNames : List String :=
  ["index", "chunkIndex", "chunk_index", "part", "partIndex", "sequence"]
def totalNames : List String :=
  ["total", "chunkTotal", "parts", "chunkCount", "totalChunks", "chunk_count"]
def dataNames : List String := ["data", "chunkData", "payload", "value", "content", "chunk"]
def encodingNames : List String := ["encoding", "dataEncoding"]
def idNames : List String := ["id", "chunkId", "messageId", "requestId", "sessionId", "nonce"]

/-- A whole number, as an item of a list: `isinstance(item, int)`. -/
def intItem? : Json → Option ℤ
  | .int z => some z
  | .bool b => some (if b then 1 else 0)
  | _ => none

/-- `bytes(data)`, of whole numbers. -/
def bytesOfInts (items : List ℤ) : Except PyError Bytes :=
  if items.all fun z => 0 ≤ z ∧ z < 256 then .ok (items.map fun z => UInt8.ofNat z.toNat)
  else .error (valueError "bytes must be in range(0, 256)")

/-- `_to_bytes`, before the encoding is looked at. -/
def rawBytes (data : Json) : Except PyError Bytes :=
  match data with
  | .arr items =>
    match items.mapM intItem? with
    | some ints => bytesOfInts ints
    | none => .ok (Utf8.encode (pyStr env data))
  | _ => .ok (Utf8.encode (pyStr env data))

/-- `encoding_hint and encoding_hint.lower() == "base64"`. -/
def isBase64Hint (hint : Json) : Except PyError Bool :=
  if hint.truthy then
    match hint with
    | .str text => .ok (env.lower text = "base64")
    | _ => .error ⟨.attributeError, "'" ++ hint.typeName ++ "' object has no attribute 'lower'"⟩
  else .ok false

/-- `_to_bytes`. -/
def chunkBytes (data hint : Json) : Except PyError Bytes := do
  let raw ← rawBytes env data
  if ← isBase64Hint env hint then
    (b64decodeValidated raw).mapError fun e =>
      valueError ("Failed to base64-decode chunk data: " ++ e.message)
  else .ok raw

/-- `_extract_chunk_meta`: nothing for what is no chunk. -/
def extractChunkMeta (payload : Json) : Except PyError (Option Chunk) :=
  match payload with
  | .obj members => do
    let index ← coerceInt env (firstNonNone members indexNames)
    let total ← coerceInt env (firstNonNone members totalNames)
    match index, total with
    | some index, some total =>
      let data := firstNonNone members dataNames
      if data.isNone then .ok none
      else do
        let hint ← payload.getFirst encodingNames
        let bytes ← chunkBytes env data hint
        let id ← payload.getFirst idNames
        .ok (some
          { id := if id.isNone then "default" else pyStr env id
            index := index
            total := total
            data := bytes })
    | _, _ => .ok none
  | _ => .ok none

/-- A chunk whose index and number of parts make sense. -/
def readChunk (payload : Json) : Except PyError (Option Chunk) := do
  match ← extractChunkMeta env payload with
  | none => .ok none
  | some chunk =>
    if chunk.total ≤ 0 then .error (valueError ("Invalid chunk total=" ++ toString chunk.total))
    else if 0 ≤ chunk.index ∧ chunk.index < chunk.total then .ok (some chunk)
    else
      .error (valueError ("Chunk index " ++ toString chunk.index ++ " out of bounds for total " ++
        toString chunk.total))

/-! ### The buffer -/

/-- `_ChunkState`. -/
structure ChunkState where
  chunkId : String
  total : ℤ
  created : ℚ
  parts : Dict ℤ Bytes := .empty

/-- `add`. -/
def ChunkState.add (state : ChunkState) (index : ℤ) (data : Bytes) : ChunkState :=
  { state with parts := state.parts.set index data }

/-- `complete`. -/
def ChunkState.complete (state : ChunkState) : Bool :=
  (state.parts.keys.length : ℤ) = state.total &&
    (List.range state.total.toNat).all fun index : ℕ => (state.parts.get? index).isSome

/-- `build`. -/
def ChunkState.build (state : ChunkState) : Bytes :=
  (List.range state.total.toNat).flatMap fun index : ℕ => (state.parts.get? index).getD []

/-- The time a buffer lives, in seconds. -/
def chunkTtl : ℚ := 15

/-- Whether a chunk starts the buffer anew. -/
def ChunkState.restarts (state : ChunkState) (fl : Rounding) (now : ℚ) (chunk : Chunk) : Bool :=
  state.chunkId ≠ chunk.id || state.total ≠ chunk.total ||
    chunkTtl < fl (now - state.created) || chunk.index = 0

/-- The buffer a chunk goes to. -/
def bufferFor (fl : Rounding) (now : ℚ) (chunk : Chunk) (state : Option ChunkState) : ChunkState :=
  match state with
  | some state =>
    if state.restarts fl now chunk then
      { chunkId := chunk.id, total := chunk.total, created := now }
    else state
  | none => { chunkId := chunk.id, total := chunk.total, created := now }

/-- `assembled_bytes`, read as a payload. -/
def readAssembled (bytes : Bytes) : Except PyError Json :=
  (env.loads bytes).mapError fun e =>
    if e.kind ≠ .valueError then e
    else if (Utf8.decode bytes).isNone then
      valueError ("Failed to decode assembled chunk payload: " ++ e.message)
    else valueError ("Assembled chunk payload is not valid JSON: " ++ e.message)

/-- `ingest`: the buffer afterwards, and what is returned, `null` for `None`. -/
def ingest (fl : Rounding) (state : Option ChunkState) (now : ℚ) (payload : Json) :
    Option ChunkState × Except PyError Json :=
  match readChunk env payload with
  | .error e => (state, .error e)
  -- what is no chunk ends the buffer, and is returned as it is
  | .ok none => (none, .ok payload)
  | .ok (some chunk) =>
    let buffer := (bufferFor fl now chunk state).add chunk.index chunk.data
    if buffer.complete then (none, readAssembled env buffer.build) else (some buffer, .ok .null)

end DigitalKey

end VehicleStack
