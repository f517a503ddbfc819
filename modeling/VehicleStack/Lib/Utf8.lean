import Mathlib.Data.List.Basic

/-!
# UTF-8 as lists of bytes

A string as the list of its bytes and back. Decoding is the inverse of encoding
(`VehicleStack.Utf8.decode_encode`), and a byte below 128 stands for the
character of that code and for no part of another
(`VehicleStack.Utf8.mem_of_mem_encode`), so a text can be cut at an ASCII
separator before it is decoded.
-/

namespace VehicleStack

namespace Utf8

open List

/-- The bytes of a string. -/
def encode (s : String) : List UInt8 := s.toList.flatMap String.utf8EncodeChar

/-- The string some bytes are, if they are one. -/
def decode (bytes : List UInt8) : Option String := String.fromUTF8? bytes.toByteArray

@[simp]
theorem encode_append (s t : String) : encode (s ++ t) = encode s ++ encode t := by
  rw [encode, String.toList_append, flatMap_append]
  rfl

/-- **Reading back**: what was encoded decodes to itself. -/
@[simp]
theorem decode_encode (s : String) : decode (encode s) = some s := by
  have hbytes : (encode s).toByteArray = s.toByteArray := String.utf8Encode_toList
  rw [decode, hbytes, String.fromUTF8?, dif_pos s.isValidUTF8]
  rfl

theorem encode_injective : Function.Injective encode := by
  intro s t h
  rw [← Option.some_inj, ← decode_encode s, h, decode_encode]

/-- A character below 128 is a byte. -/
theorem encodeChar_of_lt {c : Char} (h : c.toNat < 128) :
    String.utf8EncodeChar c = [UInt8.ofNat c.toNat] :=
  if_pos (Nat.le_of_lt_succ h)

/-- A byte below 128 of a character is that character. -/
theorem toNat_of_mem_encodeChar {c : Char} {b : UInt8} (hb : b ∈ String.utf8EncodeChar c)
    (hlt : b.toNat < 128) : b.toNat = c.toNat := by
  by_cases h : c.toNat < 128
  · rw [encodeChar_of_lt h, mem_singleton] at hb
    rw [hb, UInt8.toNat_ofNat', Nat.mod_eq_of_lt (by omega)]
  · exfalso
    have hlarge : ¬ c.val.toNat ≤ 0x7f := fun hle => h (Nat.lt_succ_of_le hle)
    rw [String.utf8EncodeChar, if_neg hlarge] at hb
    split at hb
    · rcases mem_pair.mp hb with rfl | rfl <;> rw [UInt8.toNat_ofNat'] at hlt <;> omega
    · split at hb
      · simp only [mem_cons, not_mem_nil, or_false] at hb
        rcases hb with rfl | rfl | rfl <;> rw [UInt8.toNat_ofNat'] at hlt <;> omega
      · simp only [mem_cons, not_mem_nil, or_false] at hb
        rcases hb with rfl | rfl | rfl | rfl <;> rw [UInt8.toNat_ofNat'] at hlt <;> omega

/-- **A byte below 128 is a character of the string.** -/
theorem mem_of_mem_encode {s : String} {b : UInt8} (hb : b ∈ encode s) (hlt : b.toNat < 128) :
    Char.ofNat b.toNat ∈ s.toList := by
  obtain ⟨c, hc, hbc⟩ := mem_flatMap.mp hb
  rw [toNat_of_mem_encodeChar hbc hlt, Char.ofNat_toNat]
  exact hc

/-- The bytes of a string of characters below 128 are their codes. -/
theorem encode_of_lt {s : String} (h : ∀ c ∈ s.toList, c.toNat < 128) :
    encode s = s.toList.map fun c => UInt8.ofNat c.toNat := by
  rw [← flatMap_pure_eq_map]
  exact flatMap_congr fun c hc => encodeChar_of_lt (h c hc)

end Utf8

end VehicleStack
