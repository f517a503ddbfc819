import VehicleStack.DigitalKey.Chunks

/-!
# Reassembly undoes chunking

A payload that was split into parts comes back from the assembler, whatever the order of the
parts after the first one, however often they are repeated, and whatever is written in between
that is no usable chunk: nothing is returned until the last missing part arrives, and then the
payload is (`VehicleStack.DigitalKey.chunks_reassembled`). What the buffer holds on the way are
the parts that have arrived (`VehicleStack.DigitalKey.Buffered`).
-/

namespace VehicleStack

namespace DigitalKey

open List

variable (env : Platform) (fl : Rounding)

/-! ### Parts and deliveries -/

/-- A payload that carries part `i` of `n` under an id, in base64. -/
structure IsPart (id : String) (n i : ℕ) (part : Bytes) (payload : Json) : Prop where
  index : ∃ members, payload = .obj members ∧
    coerceInt env (firstNonNone members indexNames) = .ok (some i) ∧
    coerceInt env (firstNonNone members totalNames) = .ok (some n) ∧
    firstNonNone members dataNames = .str (b64encode part)
  encoding : ∃ hint, payload.getFirst encodingNames = .ok (.str hint) ∧ hint ≠ "" ∧
    env.lower hint = "base64"
  id_eq : ∃ given, payload.getFirst idNames = .ok given ∧ given.truthy = true ∧
    pyStr env given = id

/-- A payload as it is written: which part it is meant to be, if it is one, and when. -/
structure Delivery where
  part : Option ℕ
  now : ℚ
  payload : Json

/-- A delivery is the part it is meant to be, or `ingest` raises a `ValueError` for it before
anything is buffered. -/
def Delivery.Valid (id : String) (parts : List Bytes) (d : Delivery) : Prop :=
  match d.part with
  | some i => ∃ part, parts[i]? = some part ∧ IsPart env id parts.length i part d.payload
  | none => ∃ e, readChunk env d.payload = .error e ∧ e.kind = .valueError

/-- The parts that some deliveries bring. -/
def arrived (deliveries : List Delivery) : List ℕ := deliveries.filterMap Delivery.part

/-- Part 0 comes first and once, and the parts come within the lifetime of the buffer that it
starts. -/
structure Orderly (deliveries : List Delivery) : Prop where
  first : ∀ i rest, arrived deliveries = i :: rest → i = 0 ∧ 0 ∉ rest
  timely : ∀ d₀ ∈ deliveries, ∀ d ∈ deliveries, d₀.part = some 0 → d.part ≠ none →
    d.now - d₀.now ≤ chunkTtl

/-- The last of some deliveries in order brings what was missing until then. -/
structure Completes (n : ℕ) (deliveries : List Delivery) (last : Delivery) : Prop
    extends Orderly (deliveries ++ [last]) where
  incomplete : ∃ i < n, i ∉ arrived deliveries
  complete : ∀ i < n, i ∈ arrived (deliveries ++ [last])

/-- What is returned for a delivery that does not complete the payload: nothing, or the
`ValueError` that is raised. -/
def Delivery.answer (d : Delivery) : Except PyError Json :=
  (readChunk env d.payload).map fun _ => .null

/-- The assembler, as a machine that is fed deliveries. -/
def assembler (state : Option ChunkState) (d : Delivery) :
    Option ChunkState × Except PyError Json :=
  ingest env fl state d.now d.payload

/-! ### What a delivery is read as -/

variable {env} {id : String} {parts : List Bytes}

theorem IsPart.extractChunkMeta {n i : ℕ} {part : Bytes} {payload : Json}
    (h : IsPart env id n i part payload) :
    extractChunkMeta env payload = .ok (some ⟨id, i, n, part⟩) := by
  obtain ⟨⟨members, rfl, hindex, htotal, hdata⟩, ⟨hint, hencoding, hne, hlower⟩,
    ⟨given, hid, htruthy, hstr⟩⟩ := h
  have hhint : isBase64Hint env (.str hint) = .ok true := by
    have hnonempty : (Json.str hint).truthy = true := decide_eq_true hne
    rw [isBase64Hint, if_pos hnonempty, hlower]
    rfl
  have hraw : rawBytes env (.str (b64encode part)) = .ok (Utf8.encode (b64encode part)) := rfl
  have hbytes : chunkBytes env (.str (b64encode part)) (.str hint) = .ok part := by
    rw [chunkBytes, hraw, hhint]
    simp only [bind, Except.bind, if_true, b64decodeValidated_b64encode, Except.mapError]
  have hnone : given.isNone = false := by
    cases given with
    | null => cases htruthy
    | _ => rfl
  rw [DigitalKey.extractChunkMeta]
  simp only [hindex, htotal, hdata, hencoding, hid, bind, Except.bind, hbytes, hnone, hstr]
  rfl

theorem IsPart.readChunk {n i : ℕ} {part : Bytes} {payload : Json}
    (h : IsPart env id n i part payload) (hlt : i < n) :
    readChunk env payload = .ok (some ⟨id, i, n, part⟩) := by
  rw [DigitalKey.readChunk, h.extractChunkMeta]
  simp only [bind, Except.bind]
  rw [if_neg (by omega), if_pos (by omega)]

/-- A part that is due is read as what it is. -/
theorem Delivery.Valid.exists_part {d : Delivery} (h : d.Valid env id parts) {i : ℕ}
    (hd : d.part = some i) :
    ∃ part, parts[i]? = some part ∧
      readChunk env d.payload = .ok (some ⟨id, i, parts.length, part⟩) := by
  rw [Delivery.Valid, hd] at h
  obtain ⟨part, hpart, his⟩ := h
  exact ⟨part, hpart, his.readChunk (List.getElem?_eq_some_iff.mp hpart).1⟩

theorem Delivery.Valid.answer_of_some {d : Delivery} (h : d.Valid env id parts) {i : ℕ}
    (hd : d.part = some i) : d.answer env = .ok .null := by
  obtain ⟨part, -, hread⟩ := h.exists_part hd
  rw [Delivery.answer, hread]
  rfl

/-- What is no part is refused. -/
theorem Delivery.Valid.exists_error {d : Delivery} (h : d.Valid env id parts)
    (hd : d.part = none) : ∃ e, readChunk env d.payload = .error e := by
  rw [Delivery.Valid, hd] at h
  obtain ⟨e, he, -⟩ := h
  exact ⟨e, he⟩

/-- A part, each of its members under the first of the names it may have. -/
def chunkPayload (id : String) (n i : ℕ) (part : Bytes) : Json :=
  .obj [("id", .str id), ("index", .int i), ("total", .int n), ("data", .str (b64encode part)),
    ("encoding", .str "base64")]

theorem isPart_chunkPayload {n i : ℕ} {part : Bytes} (hid : id ≠ "")
    (hlower : env.lower "base64" = "base64") :
    IsPart env id n i part (chunkPayload id n i part) where
  index := ⟨_, rfl, rfl, rfl, rfl⟩
  encoding := ⟨"base64", rfl, by decide, hlower⟩
  id_eq := by
    have htruthy : (Json.str id).truthy = true := decide_eq_true hid
    have hget : (chunkPayload id n i part).getFirst idNames =
        if (Json.str id).truthy then .ok (.str id)
        else (chunkPayload id n i part).getFirst idNames.tail := rfl
    exact ⟨.str id, hget.trans (if_pos htruthy), htruthy, rfl⟩

/-! ### What the buffer holds -/

/-- The buffer holds the parts that have arrived since it was started. -/
structure Buffered (id : String) (parts : List Bytes) (started : ℚ) (seen : List ℕ)
    (buffer : ChunkState) : Prop where
  chunkId : buffer.chunkId = id
  total : buffer.total = parts.length
  created : buffer.created = started
  mem_keys : ∀ i : ℤ, i ∈ buffer.parts.keys ↔ ∃ k ∈ seen, (k : ℤ) = i
  get_eq : ∀ k ∈ seen, buffer.parts.get? k = parts[k]?

variable {started : ℚ} {seen : List ℕ} {buffer : ChunkState}

/-- A buffer that was just started holds nothing. -/
theorem buffered_fresh :
    Buffered id parts started [] { chunkId := id, total := parts.length, created := started } where
  chunkId := rfl
  total := rfl
  created := rfl
  mem_keys := fun _ => ⟨nofun, fun ⟨_, hk, _⟩ => absurd hk not_mem_nil⟩
  get_eq := nofun

theorem Buffered.add (h : Buffered id parts started seen buffer) {i : ℕ} {part : Bytes}
    (hpart : parts[i]? = some part) :
    Buffered id parts started (seen ++ [i]) (buffer.add i part) where
  chunkId := h.chunkId
  total := h.total
  created := h.created
  mem_keys := by
    intro j
    rw [← Dict.get?_isSome_iff, ChunkState.add, Dict.get_set]
    split_ifs with hj
    · exact ⟨fun _ => ⟨i, mem_append_right _ mem_cons_self, hj.symm⟩, fun _ => rfl⟩
    · rw [Dict.get?_isSome_iff, h.mem_keys]
      constructor
      · rintro ⟨k, hk, rfl⟩
        exact ⟨k, mem_append_left _ hk, rfl⟩
      · rintro ⟨k, hk, rfl⟩
        rcases mem_append.mp hk with hk | hk
        · exact ⟨k, hk, rfl⟩
        · exact absurd (congrArg Nat.cast (mem_singleton.mp hk)) hj
  get_eq := by
    intro k hk
    rw [ChunkState.add, Dict.get_set]
    split_ifs with hki
    · rw [← hpart, Nat.cast_injective hki]
    · rcases mem_append.mp hk with hk | hk
      · exact h.get_eq k hk
      · exact absurd (congrArg Nat.cast (mem_singleton.mp hk)) hki

/-- The buffer is complete when every part has arrived. -/
theorem Buffered.complete_iff (h : Buffered id parts started seen buffer)
    (hseen : ∀ k ∈ seen, k < parts.length) :
    buffer.complete = true ↔ ∀ i < parts.length, i ∈ seen := by
  have hsome : ∀ i : ℕ, (buffer.parts.get? i).isSome = true ↔ i ∈ seen := by
    intro i
    rw [Dict.get?_isSome_iff, h.mem_keys]
    exact ⟨fun ⟨k, hk, hki⟩ => Nat.cast_injective hki ▸ hk, fun hi => ⟨i, hi, rfl⟩⟩
  rw [ChunkState.complete, h.total, Int.toNat_natCast, Bool.and_eq_true, List.all_eq_true]
  constructor
  · rintro ⟨-, hall⟩ i hi
    exact (hsome i).mp (hall i (mem_range.mpr hi))
  · intro hall
    refine ⟨decide_eq_true ?_, fun i hi => (hsome i).mpr (hall i (mem_range.mp hi))⟩
    -- every index once: the keys are those below the number of parts
    have hperm : buffer.parts.keys ~ (range parts.length).map Nat.cast := by
      refine (perm_ext_iff_of_nodup buffer.parts.nodup_keys
        (nodup_range.map Nat.cast_injective)).mpr fun i => ?_
      refine (h.mem_keys i).trans ?_
      rw [mem_map]
      exact ⟨fun ⟨k, hk, hki⟩ => ⟨k, mem_range.mpr (hseen k hk), hki⟩,
        fun ⟨k, hk, hki⟩ => ⟨k, hall k (mem_range.mp hk), hki⟩⟩
    rw [hperm.length_eq, length_map, length_range]

/-- Once every part has arrived, the buffer holds what was split. -/
theorem Buffered.build_eq (h : Buffered id parts started seen buffer)
    (hall : ∀ i < parts.length, i ∈ seen) : buffer.build = parts.flatten := by
  have hget : ∀ i ∈ range parts.length, (buffer.parts.get? i).getD [] = parts.getD i [] := by
    intro i hi
    rw [h.get_eq i (hall i (mem_range.mp hi)), List.getD_eq_getElem?_getD]
  rw [ChunkState.build, h.total, Int.toNat_natCast, flatMap_def, map_congr_left hget]
  congr 1
  exact List.ext_getElem (by simp) fun i h₁ h₂ => by simp [h₂]

/-! ### One delivery -/

/-- Part 0 starts the buffer anew. -/
theorem bufferFor_zero (state : Option ChunkState) (now : ℚ) (n : ℤ) (part : Bytes) :
    bufferFor fl now ⟨id, 0, n, part⟩ state =
      { chunkId := id, total := n, created := now } := by
  cases state with
  | none => rfl
  | some state =>
    have hrestarts : state.restarts fl now ⟨id, 0, n, part⟩ = true := by
      rw [ChunkState.restarts, decide_eq_true (rfl : (⟨id, 0, n, part⟩ : Chunk).index = 0),
        Bool.or_true]
    rw [bufferFor, if_pos hrestarts]

/-- A later part goes to the buffer there is, while it lives. -/
theorem Buffered.bufferFor_eq (h : Buffered id parts started seen buffer) {now : ℚ} {i : ℕ}
    (hi : i ≠ 0) (hnow : now - started ≤ chunkTtl) (part : Bytes) :
    bufferFor fl now ⟨id, i, parts.length, part⟩ (some buffer) = buffer := by
  have hlives : ¬ chunkTtl < fl (now - buffer.created) := by
    rw [h.created, not_lt]
    exact fl.le_intCast (n := 15) (by norm_num) hnow
  have hrestarts : ¬ buffer.restarts fl now ⟨id, i, parts.length, part⟩ = true := by
    rw [ChunkState.restarts]
    simp [h.chunkId, h.total, hlives, hi]
  rw [bufferFor, if_neg hrestarts]

/-- What is known of the state after some deliveries: once a part has arrived, a buffer that
part 0 started holds what has arrived. -/
def Holds (id : String) (parts : List Bytes) (deliveries : List Delivery)
    (state : Option ChunkState) : Prop :=
  arrived deliveries ≠ [] → ∃ d₀ ∈ deliveries, d₀.part = some 0 ∧
    ∃ buffer, state = some buffer ∧ Buffered id parts d₀.now (arrived deliveries) buffer

variable {deliveries : List Delivery} {d : Delivery} {state : Option ChunkState}

theorem arrived_concat_of_some {i : ℕ} (hd : d.part = some i) :
    arrived (deliveries ++ [d]) = arrived deliveries ++ [i] := by
  rw [arrived, filterMap_append, filterMap_cons_some hd, filterMap_nil, arrived]

theorem arrived_concat_of_none (hd : d.part = none) :
    arrived (deliveries ++ [d]) = arrived deliveries := by
  rw [arrived, filterMap_append, filterMap_cons_none hd, filterMap_nil, append_nil, arrived]

theorem Orderly.of_concat (h : Orderly (deliveries ++ [d])) : Orderly deliveries where
  first := by
    intro i rest harrived
    cases hd : d.part with
    | none => exact h.first i rest (by rw [arrived_concat_of_none hd, harrived])
    | some j =>
      obtain ⟨hi, hrest⟩ := h.first i (rest ++ [j])
        (by rw [arrived_concat_of_some hd, harrived, cons_append])
      exact ⟨hi, fun hmem => hrest (mem_append_left _ hmem)⟩
  timely := fun d₀ hd₀ d hd => h.timely d₀ (mem_append_left _ hd₀) d (mem_append_left _ hd)

/-- The buffer a part goes to holds what has arrived before it. -/
theorem Holds.buffered_bufferFor (h : Holds id parts deliveries state)
    (horder : Orderly (deliveries ++ [d])) {i : ℕ} (hd : d.part = some i) (part : Bytes) :
    ∃ d₀ ∈ deliveries ++ [d], d₀.part = some 0 ∧
      Buffered id parts d₀.now (arrived deliveries)
        (bufferFor fl d.now ⟨id, i, parts.length, part⟩ state) := by
  cases harrived : arrived deliveries with
  | nil =>
    obtain ⟨rfl, -⟩ := horder.first i []
      (by rw [arrived_concat_of_some hd, harrived, nil_append])
    refine ⟨d, mem_append_right _ mem_cons_self, hd, ?_⟩
    rw [Nat.cast_zero, bufferFor_zero fl]
    exact buffered_fresh
  | cons j rest =>
    obtain ⟨rfl, hrest⟩ := horder.first j (rest ++ [i])
      (by rw [arrived_concat_of_some hd, harrived, cons_append])
    have hi : i ≠ 0 := fun hi => hrest (mem_append_right _ (hi ▸ mem_cons_self))
    obtain ⟨d₀, hd₀, hzero, buffer, rfl, hbuffer⟩ := h (harrived ▸ cons_ne_nil _ _)
    have hnow : d.now - d₀.now ≤ chunkTtl :=
      horder.timely d₀ (mem_append_left _ hd₀) d (mem_append_right _ mem_cons_self) hzero
        (hd ▸ Option.some_ne_none i)
    refine ⟨d₀, mem_append_left _ hd₀, hzero, ?_⟩
    rw [hbuffer.bufferFor_eq fl hi hnow, ← harrived]
    exact hbuffer

/-- What a part does: it is added to the buffer, and the payload is returned once nothing is
missing. -/
theorem Holds.assembler_of_some (h : Holds id parts deliveries state)
    (horder : Orderly (deliveries ++ [d])) (hvalid : d.Valid env id parts) {i : ℕ}
    (hd : d.part = some i) :
    ∃ d₀ ∈ deliveries ++ [d], d₀.part = some 0 ∧
      ∃ buffer, Buffered id parts d₀.now (arrived (deliveries ++ [d])) buffer ∧
        assembler env fl state d =
          if buffer.complete then (none, readAssembled env buffer.build)
          else (some buffer, .ok .null) := by
  obtain ⟨part, hpart, hread⟩ := hvalid.exists_part hd
  obtain ⟨d₀, hd₀, hzero, hbuffer⟩ := h.buffered_bufferFor fl horder hd part
  refine ⟨d₀, hd₀, hzero, (bufferFor fl d.now ⟨id, i, parts.length, part⟩ state).add i part,
    ?_, ?_⟩
  · rw [arrived_concat_of_some hd]
    exact hbuffer.add hpart
  · rw [assembler, ingest, hread]

/-- What is refused leaves the buffer. -/
theorem assembler_of_none (hvalid : d.Valid env id parts) (hd : d.part = none) :
    assembler env fl state d = (state, d.answer env) := by
  obtain ⟨e, he⟩ := hvalid.exists_error hd
  rw [assembler, ingest, Delivery.answer, he]
  rfl

/-! ### A whole run -/

theorem lt_of_mem_arrived (hvalid : ∀ d ∈ deliveries, d.Valid env id parts) :
    ∀ i ∈ arrived deliveries, i < parts.length := by
  intro i hi
  obtain ⟨d, hd, hdi⟩ := mem_filterMap.mp hi
  obtain ⟨part, hpart, -⟩ := (hvalid d hd).exists_part hdi
  exact (List.getElem?_eq_some_iff.mp hpart).1

/-- As long as a part is missing, nothing is returned, and the buffer holds what arrived. -/
theorem run_incomplete (state : Option ChunkState)
    (hvalid : ∀ d ∈ deliveries, d.Valid env id parts)
    (horder : Orderly deliveries) (hmissing : ∃ i < parts.length, i ∉ arrived deliveries) :
    Mealy.outputs (assembler env fl) state deliveries = deliveries.map (Delivery.answer env) ∧
      Holds id parts deliveries (Mealy.final (assembler env fl) state deliveries) := by
  induction deliveries using List.reverseRecOn with
  | nil => exact ⟨rfl, fun h => absurd rfl h⟩
  | append_singleton before d ih =>
    have hd : d.Valid env id parts := hvalid d (mem_append_right _ mem_cons_self)
    have hbefore : ∃ i < parts.length, i ∉ arrived before := by
      obtain ⟨i, hi, hnot⟩ := hmissing
      refine ⟨i, hi, fun hmem => hnot ?_⟩
      rw [arrived, filterMap_append]
      exact mem_append_left _ hmem
    obtain ⟨houts, hholds⟩ := ih (fun d hd => hvalid d (mem_append_left _ hd)) horder.of_concat
      hbefore
    rw [Mealy.outputs_concat, Mealy.final_concat, map_append, map_singleton, houts]
    cases hpart : d.part with
    | none =>
      rw [assembler_of_none fl hd hpart]
      refine ⟨rfl, fun hne => ?_⟩
      rw [arrived_concat_of_none hpart] at hne ⊢
      obtain ⟨d₀, hd₀, hrest⟩ := hholds hne
      exact ⟨d₀, mem_append_left _ hd₀, hrest⟩
    | some i =>
      obtain ⟨d₀, hd₀, hzero, buffer, hbuffer, hstep⟩ :=
        hholds.assembler_of_some fl horder hd hpart
      have hincomplete : ¬ buffer.complete = true := by
        rw [hbuffer.complete_iff (lt_of_mem_arrived hvalid)]
        obtain ⟨j, hj, hnot⟩ := hmissing
        exact fun hall => hnot (hall j hj)
      rw [hstep, if_neg hincomplete, hd.answer_of_some hpart]
      exact ⟨rfl, fun _ => ⟨d₀, hd₀, hzero, buffer, rfl, hbuffer⟩⟩

/-- **Reassembly undoes chunking**: of a payload whose text was split into parts, each written
as a chunk, nothing is returned until the last missing part arrives; then the payload is, and no
buffer is left. Refused chunks in between change nothing. -/
theorem chunks_reassembled {text : String} {members : List (String × Json)} {last : Delivery}
    (hsplit : parts.flatten = Utf8.encode text)
    (hobject : env.loads (Utf8.encode text) = .ok (.obj members))
    (hvalid : ∀ d ∈ deliveries ++ [last], d.Valid env id parts)
    (horder : Completes parts.length deliveries last) (state : Option ChunkState) :
    Mealy.outputs (assembler env fl) state (deliveries ++ [last]) =
        deliveries.map (Delivery.answer env) ++ [.ok (.obj members)] ∧
      Mealy.final (assembler env fl) state (deliveries ++ [last]) = none := by
  obtain ⟨houts, hholds⟩ := run_incomplete fl state
    (fun d hd => hvalid d (mem_append_left _ hd)) horder.of_concat horder.incomplete
  rw [Mealy.outputs_concat, Mealy.final_concat, houts]
  have hlast : last.Valid env id parts := hvalid last (mem_append_right _ mem_cons_self)
  cases hpart : last.part with
  | none =>
    -- a last delivery that is no part would leave something missing
    obtain ⟨i, hi, hnot⟩ := horder.incomplete
    exact absurd (arrived_concat_of_none hpart ▸ horder.complete i hi) hnot
  | some i =>
    obtain ⟨d₀, -, -, buffer, hbuffer, hstep⟩ :=
      hholds.assembler_of_some fl horder.toOrderly hlast hpart
    have hcomplete : buffer.complete = true :=
      (hbuffer.complete_iff (lt_of_mem_arrived hvalid)).mpr horder.complete
    have hread : readAssembled env (Utf8.encode text) = .ok (.obj members) := by
      rw [readAssembled, hobject]
      rfl
    rw [hstep, if_pos hcomplete, hbuffer.build_eq horder.complete, hsplit, hread]
    exact ⟨rfl, rfl⟩

/-- An object whose text is split within a character: the parts are repeated, one is empty, and
what is no chunk of three parts is refused. -/
theorem chunks_reassembled_umlaut :
    let text := "\x7b\"ü\":1\x7d"
    let env : Platform :=
      { Platform.plain with
        loads := fun bytes =>
          if bytes = Utf8.encode text then .ok (.obj [("ü", .int 1)])
          else .error (valueError "Expecting value") }
    let parts : List Bytes := [[0x7b, 0x22, 0xc3], [], [0xbc, 0x22, 0x3a, 0x31, 0x7d]]
    let part := fun i now => Delivery.mk (some i) now (chunkPayload "m" 3 i (parts.getD i []))
    let refused := fun i now => Delivery.mk none now (chunkPayload "m" i i [])
    Mealy.outputs (assembler env .exact) none
        ([refused 0 0, part 0 1, part 2 2, refused 5 3, part 2 4] ++ [part 1 16]) =
      [.error (valueError "Invalid chunk total=0"), .ok .null, .ok .null,
        .error (valueError "Chunk index 5 out of bounds for total 5"), .ok .null,
        .ok (.obj [("ü", .int 1)])] ∧
      Mealy.final (assembler env .exact) none
        ([refused 0 0, part 0 1, part 2 2, refused 5 3, part 2 4] ++ [part 1 16]) = none := by
  intro text env parts part refused
  have hpart : ∀ i < 3, ∀ now, (part i now).Valid env "m" parts := by
    intro i hi now
    refine ⟨parts.getD i [], ?_, isPart_chunkPayload (by decide) rfl⟩
    rw [List.getD_eq_getElem?_getD, List.getElem?_eq_getElem hi, Option.getD_some]
  have hvalid : ∀ d ∈ [refused 0 0, part 0 1, part 2 2, refused 5 3, part 2 4] ++ [part 1 16],
      d.Valid env "m" parts := by
    simp only [cons_append, nil_append, forall_mem_cons]
    exact ⟨⟨_, rfl, rfl⟩, hpart 0 (by decide) 1, hpart 2 (by decide) 2, ⟨_, rfl, rfl⟩,
      hpart 2 (by decide) 4, hpart 1 (by decide) 16, nofun⟩
  have horder : Completes parts.length [refused 0 0, part 0 1, part 2 2, refused 5 3, part 2 4]
      (part 1 16) :=
    { first := fun i rest h => by cases h; exact ⟨rfl, by decide⟩
      timely := by
        intro d₀ hd₀ d hd hzero _
        have hstart : d₀.now = 1 := by
          revert d₀
          simp only [cons_append, nil_append, forall_mem_cons]
          exact ⟨nofun, fun _ => rfl, nofun, nofun, nofun, nofun, nofun⟩
        have hend : d.now ≤ 16 := by
          revert d
          simp only [cons_append, nil_append, forall_mem_cons]
          norm_num [part, refused]
        rw [hstart, chunkTtl]
        linarith
      incomplete := ⟨1, by decide, by decide⟩
      complete := by decide }
  have hsplit : parts.flatten = Utf8.encode text := by decide +kernel
  have hobject : env.loads (Utf8.encode text) = .ok (.obj [("ü", .int 1)]) := if_pos rfl
  have hrun := chunks_reassembled Rounding.exact hsplit hobject hvalid horder none
  rw [map_cons, map_cons, map_cons, map_cons, map_cons, map_nil,
    (hpart 0 (by decide) 1).answer_of_some rfl, (hpart 2 (by decide) 2).answer_of_some rfl,
    (hpart 2 (by decide) 4).answer_of_some rfl] at hrun
  exact hrun

end DigitalKey

end VehicleStack
