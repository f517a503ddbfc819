import Mathlib.Algebra.Group.Int.Defs
import Mathlib.Algebra.Group.Nat.Defs
import Mathlib.Data.List.Basic
import Mathlib.Data.Int.Basic

/-!
# The values a payload is made of

What `json.loads` makes of the bytes the telephone writes, and what the digital
key process does with it: whether a value counts as true, what it is called in an
error, what it is as the key of a dictionary. Objects keep the order of their
members; a member that occurs again has replaced the earlier one by the time the
payload is handed on, so the names are taken to differ.

Integers are unbounded, as Python's are. A float is the sixty-four bits of its
double, and strings are sequences of Unicode characters.
-/

namespace VehicleStack

namespace DigitalKey

/-- Bytes. -/
abbrev Bytes := List UInt8

/-- A value of a payload. -/
inductive Json where
  | null
  | bool (b : Bool)
  | int (z : ℤ)
  /-- A float, by the bits of its double. -/
  | float (bits : UInt64)
  | str (s : String)
  | arr (items : List Json)
  | obj (members : List (String × Json))

instance : Inhabited Json := ⟨.null⟩

/-! ### Errors -/

/-- The exceptions that are told apart, `UnicodeDecodeError`, `JSONDecodeError` and
`binascii.Error` being `ValueError`s. -/
inductive ErrorKind where
  | valueError
  | typeError
  | attributeError
  | indexError
  | overflowError
  | runtimeError
  | recursionError
  | osError
  | invalidSignature
  | pairingApiError
  | other
  deriving DecidableEq

/-- An exception that is raised, with what `str` makes of it. -/
structure PyError where
  kind : ErrorKind
  message : String
  deriving DecidableEq

/-- `raise ValueError(message)`. -/
def valueError (message : String) : PyError := ⟨.valueError, message⟩

/-- A computation of two parts that raises nothing. -/
theorem bind_eq_ok {α β : Type} {x : Except PyError α} {f : α → Except PyError β} {b : β} :
    x >>= f = .ok b ↔ ∃ a, x = .ok a ∧ f a = .ok b := by
  cases x with
  | error e => exact ⟨nofun, by rintro ⟨a, ⟨⟩, -⟩⟩
  | ok a => exact ⟨fun h => ⟨a, rfl, h⟩, by rintro ⟨a, ⟨⟩, h⟩; exact h⟩

namespace Json

/-- `type(value).__name__`. -/
def typeName : Json → String
  | null => "NoneType"
  | bool _ => "bool"
  | int _ => "int"
  | float _ => "float"
  | str _ => "str"
  | arr _ => "list"
  | obj _ => "dict"

/-- Whether the value counts as true. -/
def truthy : Json → Bool
  | null => false
  | bool b => b
  | int z => z ≠ 0
  | float bits => bits &&& 0x7FFFFFFFFFFFFFFF ≠ 0
  | str s => s ≠ ""
  | arr items => !items.isEmpty
  | obj members => !members.isEmpty

/-- `x or y`. -/
def or (x y : Json) : Json := if x.truthy then x else y

/-- `x is None`. -/
def isNone : Json → Bool
  | null => true
  | _ => false

/-- `isinstance(x, dict)`. -/
def isDict : Json → Bool
  | obj _ => true
  | _ => false

/-- The member of a name, `payload.get(name, default)`. Only objects have `get`. -/
def getD (j : Json) (name : String) (default : Json) : Except PyError Json :=
  match j with
  | obj members => .ok ((members.lookup name).getD default)
  | _ => .error ⟨.attributeError, "'" ++ j.typeName ++ "' object has no attribute 'get'"⟩

/-- `payload.get(name)`. -/
def get (j : Json) (name : String) : Except PyError Json := j.getD name .null

/-- `name in payload`, for an object. -/
def has (j : Json) (name : String) : Bool :=
  match j with
  | obj members => (members.lookup name).isSome
  | _ => false

/-- The first of some members that counts as true, else the last one:
`payload.get(a) or payload.get(b) or …`. -/
def getFirst (j : Json) : List String → Except PyError Json
  | [] => .ok .null
  | [name] => j.get name
  | name :: names => do
    let x ← j.get name
    if x.truthy then .ok x else j.getFirst names

/-- Of an object there is always one. -/
theorem exists_getFirst (members : List (String × Json)) (names : List String) :
    ∃ value, (obj members).getFirst names = .ok value := by
  induction names with
  | nil => exact ⟨_, rfl⟩
  | cons name names ih =>
    cases names with
    | nil => exact ⟨_, rfl⟩
    | cons next names =>
      obtain ⟨value, hvalue⟩ := ih
      have hget : (obj members).getFirst (name :: next :: names) =
          if ((members.lookup name).getD null).truthy then .ok ((members.lookup name).getD null)
          else (obj members).getFirst (next :: names) := rfl
      rw [hget, hvalue]
      split
      · exact ⟨_, rfl⟩
      · exact ⟨value, rfl⟩

/-- `payload[name] = value`, for the members of an object that is being built. -/
def setMember (members : List (String × Json)) (name : String) (value : Json) :
    List (String × Json) :=
  if members.any fun e => e.1 = name then
    members.map fun e => if e.1 = name then (name, value) else e
  else members ++ [(name, value)]

/-- `str(value)`, where `repr` is what it is of floats, lists and dictionaries. -/
def toStr (repr : Json → String) : Json → String
  | null => "None"
  | bool b => if b then "True" else "False"
  | int z => toString z
  | str s => s
  | j => repr j

/-- An optional string, `None` if it is not there. -/
def ofOption : Option String → Json
  | none => null
  | some s => str s

end Json

/-! ### Keys of dictionaries -/

/-- The integer part of a double, and whether the double is that integer; nothing
for infinities and for what is not a number. -/
def truncateDouble (bits : UInt64) : Option (ℤ × Bool) :=
  let exponent := ((bits >>> 52) &&& 0x7FF).toNat
  let fraction := (bits &&& 0xFFFFFFFFFFFFF).toNat
  -- subnormal numbers have no leading one
  let mantissa := if exponent = 0 then fraction else fraction + 2 ^ 52
  let sign : ℤ := if bits >>> 63 = 0 then 1 else -1
  if exponent = 0x7FF then none
  else if 1075 ≤ exponent then some (sign * mantissa * 2 ^ (exponent - 1075), true)
  else
    let scale := 2 ^ (1075 - max exponent 1)
    some (sign * (mantissa / scale : ℕ), mantissa % scale = 0)

/-- What a value is as the key of a dictionary: numbers that are equal are the same
key, whatever their types. -/
inductive DictKey where
  | none
  | int (z : ℤ)
  | float (bits : UInt64)
  | str (s : String)
  deriving DecidableEq

/-- The key a value is; lists and dictionaries cannot be keys. -/
def Json.dictKey (j : Json) : Except PyError DictKey :=
  match j with
  | .null => .ok .none
  | .bool b => .ok (.int (if b then 1 else 0))
  | .int z => .ok (.int z)
  | .float bits =>
    match truncateDouble bits with
    | some (z, true) => .ok (.int z)
    | _ => .ok (.float bits)
  | .str s => .ok (.str s)
  | .arr _ | .obj _ => .error ⟨.typeError, "unhashable type: '" ++ j.typeName ++ "'"⟩

/-! ### Hexadecimal digits -/

/-- The value of a hexadecimal digit. -/
def hexDigit? (c : Char) : Option ℕ :=
  if '0' ≤ c ∧ c ≤ '9' then some (c.toNat - '0'.toNat)
  else if 'a' ≤ c ∧ c ≤ 'f' then some (c.toNat - 'a'.toNat + 10)
  else if 'A' ≤ c ∧ c ≤ 'F' then some (c.toNat - 'A'.toNat + 10)
  else none

/-- The bytes some hexadecimal digits spell, two digits a byte. -/
def unhexDigits : List Char → Option Bytes
  | [] => some []
  | [_] => none
  | c :: d :: rest => do
    let hi ← hexDigit? c
    let lo ← hexDigit? d
    let bytes ← unhexDigits rest
    some (UInt8.ofNat (16 * hi + lo) :: bytes)

/-- `binascii.unhexlify`. -/
def unhexlify (s : String) : Option Bytes := unhexDigits s.toList

end DigitalKey

end VehicleStack
