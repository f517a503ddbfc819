import Mathlib.Data.List.DropRight

/-!
# Python's text

What the built-in conversions of Python that
`VehicleStack.DigitalKey.Platform` leaves open do, as far as results about both
ends of a connection depend on it: `strip` takes off what Unicode counts as
whitespace, and `upper` maps the ASCII letters and leaves the rest to the tables
of Unicode, which are a parameter.
-/

namespace VehicleStack

namespace DigitalKey

open List

/-- `str.isspace`, for a character. -/
def isPySpace (c : Char) : Bool :=
  (9 ≤ c.toNat ∧ c.toNat ≤ 13) ∨ (28 ≤ c.toNat ∧ c.toNat ≤ 32) ∨
    (0x2000 ≤ c.toNat ∧ c.toNat ≤ 0x200A) ∨
    c.toNat ∈ [0x85, 0xA0, 0x1680, 0x2028, 0x2029, 0x202F, 0x205F, 0x3000]

/-- `str.strip`. -/
def strip (s : String) : String :=
  String.ofList ((s.toList.dropWhile isPySpace).rdropWhile isPySpace)

/-- `str.upper`, given what becomes of characters that are not ASCII. -/
def upper (full : Char → String) (s : String) : String :=
  String.ofList (s.toList.flatMap fun c => if c.toNat < 128 then [c.toUpper] else (full c).toList)

theorem strip_of_not_isPySpace {s : String} (h : s.toList.any isPySpace = false) : strip s = s := by
  have hnone : ∀ c ∈ s.toList, ¬isPySpace c := any_eq_false.mp h
  have hfront : s.toList.dropWhile isPySpace = s.toList := by
    rw [dropWhile_eq_self_iff]
    exact fun hlen => hnone _ (getElem_mem hlen)
  have hback : s.toList.rdropWhile isPySpace = s.toList := by
    rw [rdropWhile_eq_self_iff]
    exact fun hnil => hnone _ (getLast_mem hnil)
  rw [strip, hfront, hback, String.ofList_toList]

/-- The end of a line is taken off. -/
theorem strip_append_newline {s : String} (h : s.toList.any isPySpace = false) :
    strip (s ++ "\n") = s := by
  have hnone : ∀ c ∈ s.toList, ¬isPySpace c := any_eq_false.mp h
  have hend : (s ++ "\n").toList = s.toList ++ ['\n'] := String.toList_append
  rw [strip, hend]
  by_cases hs : s.toList = []
  · rw [hs, String.toList_eq_nil_iff.mp hs]
    rfl
  · obtain ⟨c, cs, hcs⟩ := exists_cons_of_ne_nil hs
    have hc : ¬isPySpace c := hnone c (hcs ▸ mem_cons_self)
    have hfront : (s.toList ++ ['\n']).dropWhile isPySpace = s.toList ++ ['\n'] := by
      rw [hcs, cons_append, dropWhile_cons_of_neg hc]
    have hback : s.toList.rdropWhile isPySpace = s.toList := by
      rw [rdropWhile_eq_self_iff]
      exact fun hnil => hnone _ (getLast_mem hnil)
    rw [hfront, rdropWhile_concat_pos _ _ _ (by decide), hback, String.ofList_toList]

/-! ### Plain text -/

/-- An ASCII character that is no whitespace. -/
def isPlain (c : Char) : Bool := c.toNat < 128 && !isPySpace c

theorem lt_of_isPlain {l : List Char} (h : l.all isPlain) : ∀ c ∈ l, c.toNat < 128 := by
  intro c hc
  have hplain := all_eq_true.mp h c hc
  rw [isPlain, Bool.and_eq_true, decide_eq_true_eq] at hplain
  exact hplain.1

theorem not_isPySpace_of_isPlain {l : List Char} (h : l.all isPlain) :
    l.any isPySpace = false := by
  rw [any_eq_false]
  intro c hc
  have hplain := all_eq_true.mp h c hc
  rw [isPlain, Bool.and_eq_true, Bool.not_eq_true'] at hplain
  rw [hplain.2]
  decide

/-- Decimal digits are plain. -/
theorem isPlain_digits (n : ℕ) : (Nat.toDigits 10 n).all isPlain := by
  rw [all_eq_true]
  intro c hc
  have hdigit : c.isDigit := Nat.isDigit_of_mem_toDigits (by decide) (by decide) hc
  have hzero : '0'.toNat = 48 := rfl
  have hnine : '9'.toNat = 57 := rfl
  rw [Char.isDigit_iff_toNat] at hdigit
  simp only [isPlain, isPySpace, Bool.and_eq_true, Bool.not_eq_true', decide_eq_true_eq,
    decide_eq_false_iff_not, mem_cons, not_mem_nil, or_false]
  omega

end DigitalKey

end VehicleStack
