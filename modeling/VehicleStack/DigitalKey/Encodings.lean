import Mathlib.Tactic.IntervalCases
import VehicleStack.Lib.SelfDelimiting
import VehicleStack.Lib.Utf8
import VehicleStack.DigitalKey.Text
import VehicleStack.DigitalKey.World

/-!
# Python's encodings

What the conversions that `VehicleStack.DigitalKey.Platform` leaves open do to the
fields of a signed payload: `str` of what counts as false, `json.dumps` without
spaces, and `base64.b64decode`, which skips whatever is not of its alphabet.
`VehicleStack.DigitalKey.Platform.python` is a platform with these.

The digits of a float that is not zero, and the quotes and escapes of the `repr` of a
string, are parameters (`VehicleStack.DigitalKey.Tables`).
-/

namespace VehicleStack

namespace DigitalKey

open List

/-! ### Base64 -/

/-- The value of a character in base64, if it has one. -/
def base64Value? (c : Char) : Option ℕ :=
  if 'A' ≤ c ∧ c ≤ 'Z' then some (c.toNat - 'A'.toNat)
  else if 'a' ≤ c ∧ c ≤ 'z' then some (c.toNat - 'a'.toNat + 26)
  else if '0' ≤ c ∧ c ≤ '9' then some (c.toNat - '0'.toNat + 52)
  else if c = '+' then some 62
  else if c = '/' then some 63
  else none

/-- `binascii.a2b_base64`, which is not strict: the characters that are left, the place
in a group of four, the bits left over from the character before, the padding
since, and the bytes so far. -/
def a2bBase64 : List Char → ℕ → ℕ → ℕ → Bytes → Except PyError Bytes
  | [], quadPos, _, _, out =>
    if quadPos = 0 then .ok out
    else if quadPos = 1 then
      .error (valueError ("Invalid base64-encoded string: number of data characters (" ++
        toString (out.length / 3 * 4 + 1) ++ ") cannot be 1 more than a multiple of 4"))
    else .error (valueError "Incorrect padding")
  | c :: rest, quadPos, leftchar, pads, out =>
    if c = '=' then
      if 2 ≤ quadPos then
        -- enough padding ends the input, whatever follows
        if 4 ≤ quadPos + (pads + 1) then .ok out
        else a2bBase64 rest quadPos leftchar (pads + 1) out
      else a2bBase64 rest quadPos leftchar pads out
    else
      match base64Value? c with
      | none => a2bBase64 rest quadPos leftchar pads out
      | some v =>
        match quadPos with
        | 0 => a2bBase64 rest 1 v 0 out
        | 1 => a2bBase64 rest 2 (v % 16) 0 (out ++ [UInt8.ofNat (leftchar * 4 + v / 16)])
        | 2 => a2bBase64 rest 3 (v % 4) 0 (out ++ [UInt8.ofNat (leftchar * 16 + v / 4)])
        | _ => a2bBase64 rest 0 0 0 (out ++ [UInt8.ofNat (leftchar * 64 + v)])

/-- `base64.b64decode` of a string. -/
def b64decode (s : String) : Except PyError Bytes :=
  if s.toList.any fun c => 128 ≤ c.toNat then
    .error (valueError "string argument should contain only ASCII characters")
  else a2bBase64 s.toList 0 0 0 []

/-! ### `str` -/

/-- What `repr` makes of floats that are not zero, and of strings. -/
structure Tables where
  float : UInt64 → String
  str : String → String

/-- `repr` of a float. -/
def Tables.floatRepr (tables : Tables) (bits : UInt64) : String :=
  if bits &&& 0x7FFFFFFFFFFFFFFF = 0 then if bits = 0 then "0.0" else "-0.0"
  else tables.float bits

mutual

/-- `repr`. -/
def pyRepr (tables : Tables) : Json → String
  | .null => "None"
  | .bool b => if b then "True" else "False"
  | .int z => toString z
  | .float bits => tables.floatRepr bits
  | .str s => tables.str s
  | .arr items => "[" ++ pyReprItems tables items ++ "]"
  | .obj members => "\x7b" ++ pyReprMembers tables members ++ "\x7d"

/-- The items of a list, after one another. -/
def pyReprItems (tables : Tables) : List Json → String
  | [] => ""
  | [item] => pyRepr tables item
  | item :: items => pyRepr tables item ++ ", " ++ pyReprItems tables items

/-- The members of a dictionary, after one another. -/
def pyReprMembers (tables : Tables) : List (String × Json) → String
  | [] => ""
  | [(name, value)] => tables.str name ++ ": " ++ pyRepr tables value
  | (name, value) :: members =>
    tables.str name ++ ": " ++ pyRepr tables value ++ ", " ++ pyReprMembers tables members

end

/-! ### JSON -/

/-- What `json.dumps` writes for a character of a string. -/
def escapeChar (c : Char) : List Char :=
  if c = '"' then ['\\', '"']
  else if c = '\\' then ['\\', '\\']
  else if c = '\n' then ['\\', 'n']
  else if c = '\r' then ['\\', 'r']
  else if c = '\t' then ['\\', 't']
  else if c.toNat = 8 then ['\\', 'b']
  else if c.toNat = 12 then ['\\', 'f']
  else if c.toNat < 32 then
    ['\\', 'u', '0', '0', (c.toNat / 16).digitChar, (c.toNat % 16).digitChar]
  else [c]

/-- A string in quotes. -/
def quoted (s : String) : List Char := ['"'] ++ (s.toList.flatMap escapeChar ++ ['"'])

/-- What `json.dumps` writes for a float. -/
def jsonFloat (tables : Tables) (bits : UInt64) : String :=
  if (bits >>> 52) &&& 0x7FF = 0x7FF then
    if bits &&& 0xFFFFFFFFFFFFF ≠ 0 then "NaN"
    else if bits >>> 63 = 0 then "Infinity"
    else "-Infinity"
  else tables.floatRepr bits

mutual

/-- The text of a value, without spaces. -/
def jsonText (tables : Tables) : Json → List Char
  | .null => "null".toList
  | .bool b => (if b then "true" else "false").toList
  | .int z => (toString z).toList
  | .float bits => (jsonFloat tables bits).toList
  | .str s => quoted s
  | .arr items => ['['] ++ jsonItems tables items ++ [']']
  | .obj members => ['{'] ++ jsonMembers tables members ++ ['}']

/-- The items of a list, after one another. -/
def jsonItems (tables : Tables) : List Json → List Char
  | [] => []
  | [item] => jsonText tables item
  | item :: items => jsonText tables item ++ [','] ++ jsonItems tables items

/-- The members of an object, after one another. -/
def jsonMembers (tables : Tables) : List (String × Json) → List Char
  | [] => []
  | [(name, value)] => quoted name ++ [':'] ++ jsonText tables value
  | (name, value) :: members =>
    quoted name ++ [':'] ++ jsonText tables value ++ [','] ++ jsonMembers tables members

end

/-- `json.dumps(value, separators=(",", ":"), ensure_ascii=False)`. -/
def dumpsCompact (tables : Tables) (j : Json) : String := String.ofList (jsonText tables j)

/-- A platform whose text is Python's. -/
def Platform.python (env : Platform) (tables : Tables) : Platform :=
  { env with
    strip := DigitalKey.strip
    repr := pyRepr tables
    b64decode := DigitalKey.b64decode
    encode := Utf8.encode
    dumpsCompact := DigitalKey.dumpsCompact tables }

/-! ### Strings in quotes -/

/-- A character that was written, off the front of a text. -/
def readChar : List Char → Option (Char × List Char)
  | [] => none
  | '\\' :: 'u' :: '0' :: '0' :: hi :: lo :: rest => do
    let h ← hexDigit? hi
    let l ← hexDigit? lo
    some (Char.ofNat (16 * h + l), rest)
  | '\\' :: 'n' :: rest => some ('\n', rest)
  | '\\' :: 'r' :: rest => some ('\r', rest)
  | '\\' :: 't' :: rest => some ('\t', rest)
  | '\\' :: 'b' :: rest => some (Char.ofNat 8, rest)
  | '\\' :: 'f' :: rest => some (Char.ofNat 12, rest)
  | '\\' :: c :: rest => some (c, rest)
  | c :: rest => some (c, rest)

theorem readChar_escapeChar (c : Char) (rest : List Char) :
    readChar (escapeChar c ++ rest) = some (c, rest) := by
  by_cases hlt : c.toNat < 32
  · obtain ⟨n, hn⟩ : ∃ n, n = c.toNat := ⟨_, rfl⟩
    have hc : c = Char.ofNat n := by rw [hn, Char.ofNat_toNat]
    rw [← hn] at hlt
    subst hc
    interval_cases n <;> rfl
  · by_cases hquote : c = '"'
    · subst hquote
      rfl
    · by_cases hbackslash : c = '\\'
      · subst hbackslash
        rfl
      · have hplain : escapeChar c = [c] := by
          unfold escapeChar
          rw [if_neg hquote, if_neg hbackslash]
          have hne : ∀ d : Char, d.toNat < 32 → c ≠ d := fun d hd h => hlt (h ▸ hd)
          rw [if_neg (hne _ (by decide)), if_neg (hne _ (by decide)), if_neg (hne _ (by decide)),
            if_neg (by omega), if_neg (by omega), if_neg hlt]
        rw [hplain, singleton_append]
        unfold readChar
        split <;> simp_all

/-- **A string in quotes** says where it ends. -/
theorem selfDelimiting_quoted : SelfDelimiting quoted := by
  have hchars : SelfDelimiting escapeChar := selfDelimiting_of_read readChar readChar_escapeChar
  refine ((hchars.closed fun c => ?_).opened ['"']).comp fun s t => String.toList_inj.mp
  by_cases hquote : c = '"'
  · exact ⟨'\\', ['"'], if_pos hquote, by decide⟩
  · obtain ⟨d, rest, hd⟩ : ∃ d rest, escapeChar c = d :: rest := by
      unfold escapeChar
      repeat' split
      all_goals exact ⟨_, _, rfl⟩
    refine ⟨d, rest, hd, ?_⟩
    rintro rfl
    -- a text that starts with a quote is read as a quote
    have hread : readChar ('"' :: rest) = some (c, []) := by
      rw [← hd, ← append_nil (escapeChar c), readChar_escapeChar]
    have hquoted : some ('"', rest) = some (c, []) := hread
    exact hquote (Prod.mk.inj (Option.some.inj hquoted)).1.symm

/-! ### Objects -/

/-- The text of some members starts with the name of the first one. -/
theorem jsonMembers_cons (tables : Tables) (name : String) (value : Json)
    (members : List (String × Json)) :
    ∃ rest, jsonMembers tables ((name, value) :: members) =
      quoted name ++ ([':'] ++ (jsonText tables value ++ rest)) := by
  rcases members with _ | ⟨member, members⟩
  · exact ⟨[], by simp [jsonMembers]⟩
  · exact ⟨[','] ++ jsonMembers tables (member :: members), by simp [jsonMembers]⟩

theorem jsonMembers_cons_cons (tables : Tables) (name value : String) (member : String × Json)
    (members : List (String × Json)) :
    jsonMembers tables ((name, .str value) :: member :: members) =
      quoted name ++ ([':'] ++
        (quoted value ++ ([','] ++ jsonMembers tables (member :: members)))) := by
  simp [jsonMembers, jsonText]

/-- Texts that are equal start with members of the same name. -/
theorem name_eq_of_jsonMembers {tables : Tables} {name name' : String} {value value' : Json}
    {members members' : List (String × Json)} {x y : List Char}
    (h : jsonMembers tables ((name, value) :: members) ++ x =
      jsonMembers tables ((name', value') :: members') ++ y) : name = name' := by
  obtain ⟨rest, hrest⟩ := jsonMembers_cons tables name value members
  obtain ⟨rest', hrest'⟩ := jsonMembers_cons tables name' value' members'
  simp only [hrest, hrest', append_assoc] at h
  exact (selfDelimiting_quoted h).1

/-- **A member that is a string** can be told from what follows it. -/
theorem of_jsonMembers_str {tables : Tables} {name name' value value' : String}
    {member member' : String × Json} {members members' : List (String × Json)} {x y : List Char}
    (h : jsonMembers tables ((name, .str value) :: member :: members) ++ x =
      jsonMembers tables ((name', .str value') :: member' :: members') ++ y) :
    value = value' ∧
      jsonMembers tables (member :: members) ++ x =
        jsonMembers tables (member' :: members') ++ y := by
  simp only [jsonMembers_cons_cons, append_assoc] at h
  obtain ⟨-, hvalue⟩ := selfDelimiting_quoted h
  obtain ⟨hvalue, hrest⟩ := selfDelimiting_quoted (append_cancel_left hvalue)
  exact ⟨hvalue, append_cancel_left hrest⟩

end DigitalKey

end VehicleStack
