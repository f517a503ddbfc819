import VehicleStack.DigitalKey.Encodings

/-!
# Base64, both ways

What `base64.b64encode` writes, and what `base64.b64decode` with `validate=True` accepts.
Both ways of decoding read back what was written
(`VehicleStack.DigitalKey.b64decode_b64encode`,
`VehicleStack.DigitalKey.b64decodeValidated_b64encode`), and
`VehicleStack.DigitalKey.Platform.withBase64` is a platform with these.
-/

namespace VehicleStack

namespace DigitalKey

open List

/-! ### Encoding -/

/-- The character of six bits. -/
def base64Char (v : ℕ) : Char :=
  if v < 26 then Char.ofNat (v + 65)
  else if v < 52 then Char.ofNat (v - 26 + 97)
  else if v < 62 then Char.ofNat (v - 52 + 48)
  else if v = 62 then '+'
  else '/'

/-- Three bytes are four characters; what is missing of the last group is padding. -/
def b64encodeChars : Bytes → List Char
  | [] => []
  | [a] => [base64Char (a.toNat / 4), base64Char (a.toNat % 4 * 16), '=', '=']
  | [a, b] =>
    [base64Char (a.toNat / 4), base64Char (a.toNat % 4 * 16 + b.toNat / 16),
      base64Char (b.toNat % 16 * 4), '=']
  | a :: b :: c :: rest =>
    base64Char (a.toNat / 4) :: base64Char (a.toNat % 4 * 16 + b.toNat / 16) ::
      base64Char (b.toNat % 16 * 4 + c.toNat / 64) :: base64Char (c.toNat % 64) ::
        b64encodeChars rest

/-- `base64.b64encode(data).decode("ascii")`. -/
def b64encode (data : Bytes) : String := String.ofList (b64encodeChars data)

/-- `base64.b64decode(data, validate=True)`: nothing but the alphabet, and at most two
signs of padding behind it. -/
def b64decodeValidated (data : Bytes) : Except PyError Bytes :=
  let chars := data.map fun b => Char.ofNat b.toNat
  if chars.dropWhile (fun c => (base64Value? c).isSome) ∈ [[], ['='], ['=', '=']] then
    a2bBase64 chars 0 0 0 []
  else .error (valueError "Non-base64 digit found")

/-- The same of a string. -/
def b64decodeStrict (s : String) : Except PyError Bytes :=
  if s.toList.any fun c => 128 ≤ c.toNat then
    .error (valueError "string argument should contain only ASCII characters")
  else b64decodeValidated (Utf8.encode s)

/-- A platform whose base64 is Python's. -/
def Platform.withBase64 (env : Platform) : Platform :=
  { env with
    b64encode := DigitalKey.b64encode
    b64decode := DigitalKey.b64decode
    b64decodeStrict := DigitalKey.b64decodeStrict }

/-! ### Characters -/

theorem base64Value_base64Char {v : ℕ} (hv : v < 64) : base64Value? (base64Char v) = some v := by
  revert v
  decide

theorem toNat_base64Char_lt {v : ℕ} (hv : v < 64) : (base64Char v).toNat < 128 := by
  revert v
  decide

theorem base64Char_ne_padding {v : ℕ} (hv : v < 64) : base64Char v ≠ '=' := by
  revert v
  decide

theorem a2bBase64_first {v : ℕ} (hv : v < 64) (rest : List Char) (left pads : ℕ) (out : Bytes) :
    a2bBase64 (base64Char v :: rest) 0 left pads out = a2bBase64 rest 1 v 0 out := by
  rw [a2bBase64, if_neg (base64Char_ne_padding hv), base64Value_base64Char hv]
  rfl

theorem a2bBase64_second {v : ℕ} (hv : v < 64) (rest : List Char) (left pads : ℕ) (out : Bytes) :
    a2bBase64 (base64Char v :: rest) 1 left pads out =
      a2bBase64 rest 2 (v % 16) 0 (out ++ [UInt8.ofNat (left * 4 + v / 16)]) := by
  rw [a2bBase64, if_neg (base64Char_ne_padding hv), base64Value_base64Char hv]
  rfl

theorem a2bBase64_third {v : ℕ} (hv : v < 64) (rest : List Char) (left pads : ℕ) (out : Bytes) :
    a2bBase64 (base64Char v :: rest) 2 left pads out =
      a2bBase64 rest 3 (v % 4) 0 (out ++ [UInt8.ofNat (left * 16 + v / 4)]) := by
  rw [a2bBase64, if_neg (base64Char_ne_padding hv), base64Value_base64Char hv]
  rfl

theorem a2bBase64_fourth {v : ℕ} (hv : v < 64) (rest : List Char) (left pads : ℕ) (out : Bytes) :
    a2bBase64 (base64Char v :: rest) 3 left pads out =
      a2bBase64 rest 0 0 0 (out ++ [UInt8.ofNat (left * 64 + v)]) := by
  rw [a2bBase64, if_neg (base64Char_ne_padding hv), base64Value_base64Char hv]
  rfl

/-! ### Decoding what was encoded -/

/-- A byte put together again. -/
theorem ofNat_eq_of_toNat {a : UInt8} {n : ℕ} (h : n = a.toNat) : UInt8.ofNat n = a := by
  rw [h, UInt8.ofNat_toNat]

/-- The characters of some bytes are read as these bytes. -/
theorem a2bBase64_b64encodeChars (data out : Bytes) :
    a2bBase64 (b64encodeChars data) 0 0 0 out = .ok (out ++ data) := by
  have hlt : ∀ x : UInt8, x.toNat < 256 := UInt8.toNat_lt
  induction data using b64encodeChars.induct generalizing out with
  | case1 => rw [b64encodeChars, a2bBase64, if_pos rfl, append_nil]
  | case2 a =>
    have ha := hlt a
    have hfirst : UInt8.ofNat (a.toNat / 4 * 4 + a.toNat % 4 * 16 / 16) = a :=
      ofNat_eq_of_toNat (by omega)
    rw [b64encodeChars, a2bBase64_first (by omega), a2bBase64_second (by omega), hfirst]
    rfl
  | case3 a b =>
    have ha := hlt a
    have hb := hlt b
    have hfirst : UInt8.ofNat (a.toNat / 4 * 4 + (a.toNat % 4 * 16 + b.toNat / 16) / 16) = a :=
      ofNat_eq_of_toNat (by omega)
    have hsecond : UInt8.ofNat ((a.toNat % 4 * 16 + b.toNat / 16) % 16 * 16 +
        b.toNat % 16 * 4 / 4) = b := ofNat_eq_of_toNat (by omega)
    rw [b64encodeChars, a2bBase64_first (by omega), a2bBase64_second (by omega),
      a2bBase64_third (by omega), hfirst, hsecond, append_assoc]
    rfl
  | case4 a b c rest ih =>
    have ha := hlt a
    have hb := hlt b
    have hc := hlt c
    have hfirst : UInt8.ofNat (a.toNat / 4 * 4 + (a.toNat % 4 * 16 + b.toNat / 16) / 16) = a :=
      ofNat_eq_of_toNat (by omega)
    have hsecond : UInt8.ofNat ((a.toNat % 4 * 16 + b.toNat / 16) % 16 * 16 +
        (b.toNat % 16 * 4 + c.toNat / 64) / 4) = b := ofNat_eq_of_toNat (by omega)
    have hthird : UInt8.ofNat ((b.toNat % 16 * 4 + c.toNat / 64) % 4 * 64 + c.toNat % 64) = c :=
      ofNat_eq_of_toNat (by omega)
    rw [b64encodeChars, a2bBase64_first (by omega), a2bBase64_second (by omega),
      a2bBase64_third (by omega), a2bBase64_fourth (by omega), hfirst, hsecond, hthird, ih]
    simp

/-- The characters are of the alphabet, with at most two signs of padding behind them. -/
theorem b64encodeChars_eq (data : Bytes) :
    ∃ values padding, b64encodeChars data = map base64Char values ++ padding ∧
      (∀ v ∈ values, v < 64) ∧ padding ∈ [[], ['='], ['=', '=']] := by
  have hlt : ∀ x : UInt8, x.toNat < 256 := UInt8.toNat_lt
  induction data using b64encodeChars.induct with
  | case1 => exact ⟨[], [], rfl, nofun, by simp⟩
  | case2 a =>
    have ha := hlt a
    refine ⟨[a.toNat / 4, a.toNat % 4 * 16], ['=', '='], rfl, ?_, by simp⟩
    intro v hv
    rcases mem_pair.mp hv with rfl | rfl <;> omega
  | case3 a b =>
    have ha := hlt a
    have hb := hlt b
    refine ⟨[a.toNat / 4, a.toNat % 4 * 16 + b.toNat / 16, b.toNat % 16 * 4], ['='], rfl, ?_,
      by simp⟩
    intro v hv
    simp only [mem_cons, not_mem_nil, or_false] at hv
    rcases hv with rfl | rfl | rfl <;> omega
  | case4 a b c rest ih =>
    have ha := hlt a
    have hb := hlt b
    have hc := hlt c
    obtain ⟨values, padding, heq, hvalues, hpadding⟩ := ih
    refine ⟨a.toNat / 4 :: (a.toNat % 4 * 16 + b.toNat / 16) :: (b.toNat % 16 * 4 + c.toNat / 64) ::
      (c.toNat % 64) :: values, padding, by rw [b64encodeChars, heq]; rfl, ?_, hpadding⟩
    intro v hv
    simp only [mem_cons] at hv
    rcases hv with rfl | rfl | rfl | rfl | hv
    · omega
    · omega
    · omega
    · omega
    · exact hvalues v hv

theorem toNat_lt_of_mem_b64encode {data : Bytes} {c : Char} (hc : c ∈ (b64encode data).toList) :
    c.toNat < 128 := by
  obtain ⟨values, padding, heq, hvalues, hpadding⟩ := b64encodeChars_eq data
  rw [b64encode, String.toList_ofList, heq, mem_append] at hc
  rcases hc with hc | hc
  · obtain ⟨v, hv, rfl⟩ := mem_map.mp hc
    exact toNat_base64Char_lt (hvalues v hv)
  · have hpad : c = '=' := by
      simp only [mem_cons, not_mem_nil, or_false] at hpadding
      rcases hpadding with rfl | rfl | rfl
      · exact absurd hc not_mem_nil
      · exact mem_singleton.mp hc
      · simpa using hc
    subst hpad
    decide

/-- The bytes of the text are its characters. -/
theorem map_encode_b64encode (data : Bytes) :
    ((Utf8.encode (b64encode data)).map fun b => Char.ofNat b.toNat) = b64encodeChars data := by
  have hlt : ∀ c ∈ (b64encode data).toList, c.toNat < 128 := fun c hc =>
    toNat_lt_of_mem_b64encode hc
  rw [Utf8.encode_of_lt hlt, map_map, ← String.toList_ofList (l := b64encodeChars data)]
  refine (map_congr_left fun c hc => ?_).trans (map_id _)
  have hc' := hlt c hc
  rw [Function.comp_apply, UInt8.toNat_ofNat', Nat.mod_eq_of_lt (by omega), Char.ofNat_toNat]
  rfl

/-- **Base64, read back.** -/
@[simp]
theorem b64decode_b64encode (data : Bytes) : b64decode (b64encode data) = .ok data := by
  have hascii : ((b64encode data).toList.any fun c => 128 ≤ c.toNat) = false := by
    rw [any_eq_false]
    intro c hc h
    exact absurd (of_decide_eq_true h) (Nat.not_le.mpr (toNat_lt_of_mem_b64encode hc))
  rw [b64decode, hascii, b64encode, String.toList_ofList, a2bBase64_b64encodeChars]
  rfl

/-- **Base64, read back strictly.** -/
@[simp]
theorem b64decodeValidated_b64encode (data : Bytes) :
    b64decodeValidated (Utf8.encode (b64encode data)) = .ok data := by
  obtain ⟨values, padding, heq, hvalues, hpadding⟩ := b64encodeChars_eq data
  have hrest : (b64encodeChars data).dropWhile (fun c => (base64Value? c).isSome) = padding := by
    rw [heq, dropWhile_append_of_pos]
    · simp only [mem_cons, not_mem_nil, or_false] at hpadding
      rcases hpadding with rfl | rfl | rfl <;> rfl
    · intro c hc
      obtain ⟨v, hv, rfl⟩ := mem_map.mp hc
      rw [base64Value_base64Char (hvalues v hv)]
      rfl
  rw [b64decodeValidated, map_encode_b64encode]
  rw [hrest, if_pos hpadding, a2bBase64_b64encodeChars]
  rfl

/-- Only of no bytes nothing is written. -/
theorem b64encode_eq_empty {data : Bytes} : b64encode data = "" ↔ data = [] := by
  constructor
  · intro h
    have hread := b64decode_b64encode data
    rw [h] at hread
    exact (Except.ok.inj hread).symm
  · rintro rfl
    rfl

end DigitalKey

end VehicleStack
