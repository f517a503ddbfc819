import VehicleStack.Realtime.IpcServer

/-!
# The messages the IPC server takes

What `parse_message` takes for a message, against the grammar a client writes: fields
between semicolons, of which the last `CMD` is not empty and the last `REQ` is a number below
`2^64` in decimal digits.

The numbers are read by `strtoull`, which skips blanks, takes a sign, stops at a zero
byte and makes zero of nothing at all
(`VehicleStack.Realtime.Reads`). The main result is
`VehicleStack.Realtime.parseMessage_grammar_iff`: a message is taken for what the grammar
says exactly if it has no command, or the last field that `strtoull` reads to its end gives the
number of the last field that is one.
-/

namespace VehicleStack

namespace Realtime

open List

/-! ### The loop -/

/-- `msg.find(';', pos)`. -/
def findSemicolon (msg : List Char) (pos : ℕ) : Option ℕ :=
  ((msg.drop pos).findIdx? (· = ';')).map (pos + ·)

/-- The loop of `parse_message` from a position on, for at most `fuel` turns. -/
def scan (msg : List Char) : ℕ → ℕ → Parsed → Option Parsed
  | 0, _, _ => none
  | fuel + 1, pos, p =>
    if pos ≤ msg.length then
      match findSemicolon msg pos with
      -- `npos`: what is left is the last token
      | none => some (parseToken p ((msg.drop pos).take (msg.length - pos)))
      | some next => scan msg fuel (next + 1) (parseToken p ((msg.drop pos).take (next - pos)))
    else some p

theorem findSemicolon_of_not_mem {msg : List Char} {pos : ℕ} (h : ';' ∉ msg.drop pos) :
    findSemicolon msg pos = none := by
  rw [findSemicolon, Option.map_eq_none_iff, findIdx?_eq_none_iff]
  intro c hc
  exact decide_eq_false fun heq => h (heq ▸ hc)

theorem findSemicolon_of_append {msg token rest : List Char} {pos : ℕ}
    (hsplit : msg.drop pos = token ++ ';' :: rest) (h : ';' ∉ token) :
    findSemicolon msg pos = some (pos + token.length) := by
  have hnone : token.findIdx? (· = ';') = none := by
    rw [findIdx?_eq_none_iff]
    intro c hc
    exact decide_eq_false fun heq => h (heq ▸ hc)
  rw [findSemicolon, hsplit, findIdx?_append, hnone, findIdx?_cons]
  simp

/-- **The loop ends**: with a turn for each position it comes to the tokens between the
semicolons, one after the other. -/
theorem scan_eq (msg : List Char) (fuel pos : ℕ) (p : Parsed) (hpos : pos ≤ msg.length)
    (hfuel : msg.length - pos < fuel) :
    scan msg fuel pos p = some (((msg.drop pos).splitOn ';').foldl parseToken p) := by
  -- every turn moves on by a position at least, so the fuel lasts
  induction fuel generalizing pos p with
  | zero => exact absurd hfuel (Nat.not_lt_zero _)
  | succ fuel ih =>
    rw [scan, if_pos hpos]
    by_cases hmem : ';' ∈ msg.drop pos
    · obtain ⟨token, rest, hsplit, htoken⟩ := eq_append_cons_of_mem hmem
      have hlength : msg.length - pos = token.length + (rest.length + 1) := by
        rw [← length_drop, hsplit, length_append, length_cons]
      have hrest : msg.drop (pos + token.length + 1) = rest := by
        rw [Nat.add_assoc, ← drop_drop, hsplit, ← drop_drop, drop_left, drop_one, tail_cons]
      have htake : (msg.drop pos).take (pos + token.length - pos) = token := by
        rw [Nat.add_sub_cancel_left, hsplit, take_left]
      rw [findSemicolon_of_append hsplit htoken]
      dsimp only
      rw [htake, ih _ _ (by omega) (by omega), hrest, hsplit,
        splitOn_append_cons_self_of_not_mem htoken, foldl_cons]
    · rw [findSemicolon_of_not_mem hmem]
      dsimp only
      rw [take_of_length_le (by rw [length_drop]), splitOn_eq_singleton hmem, foldl_cons, foldl_nil]

/-! ### What `strtoull` reads to the end -/

/-- The signs `strtoull` knows; no sign is one. -/
def IsSign (sign : List Char) : Prop := sign = [] ∨ sign = ['+'] ∨ sign = ['-']

/-- The number a sign and some digits stand for. -/
def signedValue (sign digits : List Char) : UInt64 :=
  if sign = ['-'] then -UInt64.ofNat (Nat.ofDigitChars 10 digits 0)
  else UInt64.ofNat (Nat.ofDigitChars 10 digits 0)

/-- The value of a `REQ` that is taken, and the number it is taken for: what comes before a zero
byte is nothing, or blanks, a sign and digits. -/
inductive Reads (value : List Char) : UInt64 → Prop
  | nothing (h : value.takeWhile (· ≠ '\x00') = []) : Reads value 0
  | numeral (blanks sign digits : List Char)
      (h : value.takeWhile (· ≠ '\x00') = blanks ++ (sign ++ digits))
      (hblanks : ∀ c ∈ blanks, isSpace c) (hsign : IsSign sign) (hnil : digits ≠ [])
      (hdigits : ∀ c ∈ digits, c.isDigit) (hrange : Nat.ofDigitChars 10 digits 0 < 2 ^ 64) :
      Reads value (signedValue sign digits)

/-- `strtoull` once blanks and sign are skipped. -/
theorem strtoull_of_sign {text sign number : List Char} (hsign : IsSign sign)
    (htext : text.dropWhile isSpace = sign ++ number)
    (hplain : sign = [] → ∀ c rest, number = c :: rest → c ≠ '-' ∧ c ≠ '+') :
    strtoull text =
      if number.takeWhile Char.isDigit = [] then (0, text, false)
      else if 2 ^ 64 ≤ Nat.ofDigitChars 10 (number.takeWhile Char.isDigit) 0 then
        (UInt64.ofNat (2 ^ 64 - 1), number.dropWhile Char.isDigit, true)
      else (signedValue sign (number.takeWhile Char.isDigit), number.dropWhile Char.isDigit,
        false) := by
  rcases hsign with rfl | rfl | rfl
  · unfold strtoull
    rw [htext, nil_append]
    split
    rename_i negative rest heq
    have hsame : (negative, rest) = (false, number) := by
      rw [← heq]
      split
      · rename_i tail
        exact absurd rfl (hplain rfl '-' tail rfl).1
      · rename_i tail
        exact absurd rfl (hplain rfl '+' tail rfl).2
      · rfl
    obtain ⟨rfl, rfl⟩ := Prod.mk.inj hsame
    rfl
  · unfold strtoull
    rw [htext]
    rfl
  · unfold strtoull
    rw [htext]
    rfl

/-- Every text has a sign, if only none. -/
theorem exists_sign (text : List Char) : ∃ sign number, IsSign sign ∧ text = sign ++ number ∧
    (sign = [] → ∀ c rest, number = c :: rest → c ≠ '-' ∧ c ≠ '+') := by
  rcases text with - | ⟨c, rest⟩
  · exact ⟨[], [], Or.inl rfl, rfl, fun _ => nofun⟩
  by_cases hplus : c = '+'
  · exact ⟨['+'], rest, Or.inr (Or.inl rfl), by rw [hplus]; rfl, nofun⟩
  by_cases hminus : c = '-'
  · exact ⟨['-'], rest, Or.inr (Or.inr rfl), by rw [hminus]; rfl, nofun⟩
  · refine ⟨[], c :: rest, Or.inl rfl, rfl, ?_⟩
    rintro - c' rest' heq
    obtain rfl := (cons.inj heq).1
    exact ⟨hminus, hplus⟩

theorem not_isSpace_of_sign {sign digits : List Char} (hsign : IsSign sign) (hnil : digits ≠ [])
    (hdigits : ∀ c ∈ digits, c.isDigit) :
    (sign ++ digits).dropWhile isSpace = sign ++ digits := by
  rcases hsign with rfl | rfl | rfl
  · obtain ⟨c, rest, rfl⟩ := exists_cons_of_ne_nil hnil
    exact dropWhile_cons_of_neg (not_isSpace_of_isDigit (hdigits c mem_cons_self))
  · exact dropWhile_cons_of_neg (by decide)
  · exact dropWhile_cons_of_neg (by decide)

/-- **What `strtoull` reads to the end without an error.** -/
theorem strtoull_eq_iff (value : List Char) (n : UInt64) :
    strtoull (value.takeWhile (· ≠ '\x00')) = (n, [], false) ↔ Reads value n := by
  constructor
  · intro h
    obtain ⟨text, htext⟩ : ∃ text, value.takeWhile (· ≠ '\x00') = text := ⟨_, rfl⟩
    rw [htext] at h
    obtain ⟨sign, number, hsign, hnumber, hplain⟩ := exists_sign (text.dropWhile isSpace)
    rw [strtoull_of_sign hsign hnumber hplain] at h
    split_ifs at h with hnil hrange
    · -- nothing was read, so there was nothing
      obtain ⟨rfl, hrest⟩ := Prod.mk.inj h
      exact Reads.nothing (htext.trans (Prod.mk.inj hrest).1)
    · -- out of range
      exact absurd (Prod.mk.inj (Prod.mk.inj h).2).2 nofun
    · -- the digits are all there is behind the sign
      obtain ⟨rfl, hrest⟩ := Prod.mk.inj h
      have hall : number.takeWhile Char.isDigit = number := by
        conv_rhs => rw [← takeWhile_append_dropWhile (p := Char.isDigit) (l := number),
          (Prod.mk.inj hrest).1, append_nil]
      rw [hall] at hnil hrange ⊢
      refine Reads.numeral (text.takeWhile isSpace) sign number ?_ ?_ hsign hnil
        (takeWhile_eq_self_iff.mp hall) (Nat.lt_of_not_le hrange)
      · rw [htext, ← hnumber, takeWhile_append_dropWhile]
      · exact fun c hc => mem_takeWhile_imp hc
  · rintro (hnothing | ⟨blanks, sign, digits, h, hblanks, hsign, hnil, hdigits, hrange⟩)
    · rw [hnothing]
      rfl
    · have hskip : (blanks ++ (sign ++ digits)).dropWhile isSpace = sign ++ digits := by
        rw [dropWhile_append_of_pos hblanks, not_isSpace_of_sign hsign hnil hdigits]
      have hplain : sign = [] → ∀ c rest, digits = c :: rest → c ≠ '-' ∧ c ≠ '+' := by
        rintro - c rest rfl
        have hdigit := hdigits c mem_cons_self
        constructor
        · rintro rfl
          exact absurd hdigit (by decide)
        · rintro rfl
          exact absurd hdigit (by decide)
      have hall : digits.takeWhile Char.isDigit = digits := takeWhile_eq_self_iff.mpr hdigits
      have hrest : digits.dropWhile Char.isDigit = [] := dropWhile_eq_nil_iff.mpr hdigits
      rw [h, strtoull_of_sign hsign hskip hplain, hall, hrest, if_neg hnil, if_neg (by omega)]

/-! ### The grammar -/

/-- What a token says, if it is one of a field. -/
def valueOf (field token : List Char) : Option (List Char) :=
  if field.isPrefixOf token then some (token.drop field.length) else none

/-- The tokens of a message. -/
def tokens (msg : List Char) : List (List Char) := (msg.rdropWhile isEol).splitOn ';'

/-- The values of the fields `CMD` and `REQ`, in order. -/
def cmdValues (msg : List Char) : List (List Char) := (tokens msg).filterMap (valueOf "CMD=".toList)
def reqValues (msg : List Char) : List (List Char) := (tokens msg).filterMap (valueOf "REQ=".toList)

/-- A number below `2^64` in decimal digits. -/
def IsNumber (value : List Char) : Prop :=
  value ≠ [] ∧ (∀ c ∈ value, c.isDigit) ∧ Nat.ofDigitChars 10 value 0 < 2 ^ 64

instance : DecidablePred IsNumber := fun _ => inferInstanceAs (Decidable (_ ∧ _))

/-- The last command, if it is not empty. -/
def lastCmd (msg : List Char) : Option (List Char) := (cmdValues msg).getLast?.filter (· ≠ [])

/-- The last number of a request. -/
def lastNumber (msg : List Char) : Option (List Char) := ((reqValues msg).filter IsNumber).getLast?

/-- **What the grammar says of a message**: it is one if it has a command and a number, and then
these are what is parsed. -/
structure FollowsGrammar (msg : List Char) (p : Parsed) : Prop where
  ok : p.ok = true ↔ (lastCmd msg).isSome ∧ (lastNumber msg).isSome
  fields : ∀ cmd digits, lastCmd msg = some cmd → lastNumber msg = some digits →
    p.cmd = String.ofList (cmd.map Char.toUpper) ∧ p.req.toNat = Nat.ofDigitChars 10 digits 0

/-- `parse_message` comes to an end, and what it has parsed then is what the grammar says. -/
def Complies (msg : List Char) : Prop :=
  ∃ p, (∀ fuel, msg.length < fuel → scan (msg.rdropWhile isEol) fuel 0 {} = some p) ∧
    FollowsGrammar msg p

/-- The number of the last `REQ` that `strtoull` reads to its end. -/
def LastRead (msg : List Char) (n : UInt64) : Prop :=
  ∃ before value later, reqValues msg = before ++ value :: later ∧ Reads value n ∧
    ∀ other ∈ later, ∀ m, ¬ Reads other m

/-! ### What is parsed -/

/-- The number `parse_message` takes a value for, if it takes it. -/
def readWhole (value : List Char) : Option UInt64 :=
  match strtoull (value.takeWhile (· ≠ '\x00')) with
  | (n, rest, overflow) => if !overflow ∧ rest = [] then some n else none

theorem readWhole_eq_some {value : List Char} {n : UInt64} :
    readWhole value = some n ↔ Reads value n := by
  rw [← strtoull_eq_iff, readWhole]
  generalize strtoull (value.takeWhile (· ≠ '\x00')) = result
  obtain ⟨value, rest, overflow⟩ := result
  cases overflow <;> simp [and_comm]

theorem valueOf_of_not {field token : List Char} (h : ∀ text, token ≠ field ++ text) :
    valueOf field token = none := by
  refine if_neg fun hfield => ?_
  obtain ⟨text, htext⟩ := isPrefixOf_iff_prefix.mp hfield
  exact h text htext.symm

/-- **One token**, by the fields it can be of. -/
theorem parseToken_fields (p : Parsed) (token : List Char) :
    (parseToken p token).cmd =
      ((valueOf "CMD=".toList token).map fun text =>
        String.ofList (text.map Char.toUpper)).getD p.cmd ∧
    ((parseToken p token).reqFound, (parseToken p token).req) =
      (((valueOf "REQ=".toList token).bind readWhole).map fun n => (true, n)).getD
        (p.reqFound, p.req) := by
  unfold parseToken
  split
  · exact ⟨rfl, rfl⟩
  · rename_i text
    refine ⟨?_, ?_⟩
    · dsimp only
      split <;> rfl
    · have hvalue : valueOf "REQ=".toList ('R' :: 'E' :: 'Q' :: '=' :: text) = some text := rfl
      rw [hvalue, Option.bind_some, readWhole]
      dsimp only
      split <;> rfl
  · exact ⟨rfl, rfl⟩
  · rename_i hcmd hreq hsrc
    have hnocmd : valueOf "CMD=".toList token = none := valueOf_of_not hcmd
    have hnoreq : valueOf "REQ=".toList token = none := valueOf_of_not hreq
    rw [hnocmd, hnoreq]
    exact ⟨rfl, rfl⟩

/-- **All tokens**: the last command counts, and the last number that is read to its end. -/
theorem foldl_parseToken (tokens : List (List Char)) :
    (tokens.foldl parseToken {}).cmd = String.ofList
      (((tokens.filterMap (valueOf "CMD=".toList)).getLast?.getD []).map Char.toUpper) ∧
    ((tokens.foldl parseToken {}).reqFound, (tokens.foldl parseToken {}).req) =
      (((tokens.filterMap (valueOf "REQ=".toList)).filterMap readWhole).getLast?.map
        fun n => (true, n)).getD (false, 0) := by
  induction tokens using List.reverseRecOn with
  | nil => exact ⟨rfl, rfl⟩
  | append_singleton tokens token ih =>
    obtain ⟨hcmd, hreq⟩ := parseToken_fields (tokens.foldl parseToken {}) token
    rw [foldl_append, foldl_cons, foldl_nil, hcmd, hreq, ih.1, ih.2]
    simp only [filterMap_append, filterMap_cons, filterMap_nil, getLast?_append]
    constructor
    · cases valueOf "CMD=".toList token <;> rfl
    · cases valueOf "REQ=".toList token with
      | none => rfl
      | some value =>
        simp only [Option.bind_some, filterMap_cons, filterMap_nil]
        cases readWhole value <;> rfl

/-- The last number that is read. -/
theorem lastRead_iff {msg : List Char} {n : UInt64} :
    LastRead msg n ↔ ((reqValues msg).filterMap readWhole).getLast? = some n := by
  rw [getLast?_filterMap, findSome?_eq_some_iff]
  constructor
  · rintro ⟨before, value, later, hsplit, hvalue, hlater⟩
    refine ⟨later.reverse, value, before.reverse, by simp [hsplit], readWhole_eq_some.mpr hvalue,
      fun other hother => ?_⟩
    rw [Option.eq_none_iff_forall_ne_some]
    exact fun m hm => hlater other (mem_reverse.mp hother) m (readWhole_eq_some.mp hm)
  · rintro ⟨later, value, before, hsplit, hvalue, hlater⟩
    refine ⟨before.reverse, value, later.reverse, ?_, readWhole_eq_some.mp hvalue,
      fun other hother m hm => ?_⟩
    · rw [← reverse_reverse (reqValues msg), hsplit]
      simp
    · have hnone := hlater other (mem_reverse.mp hother)
      rw [readWhole_eq_some.mpr hm] at hnone
      cases hnone

/-- A number in decimal digits is read as it is. -/
theorem IsNumber.reads {value : List Char} (h : IsNumber value) :
    Reads value (UInt64.ofNat (Nat.ofDigitChars 10 value 0)) := by
  obtain ⟨hnil, hdigits, hrange⟩ := h
  refine Reads.numeral [] [] value ?_ (fun _ => nofun) (Or.inl rfl) hnil hdigits hrange
  rw [nil_append, nil_append, takeWhile_eq_self_iff]
  intro c hc
  rw [decide_eq_true_eq]
  rintro rfl
  exact absurd (hdigits _ hc) (by decide)

/-- If a request has a number, one is read. -/
theorem exists_lastRead {msg : List Char} (h : (lastNumber msg).isSome) :
    ∃ n, LastRead msg n := by
  obtain ⟨digits, hdigits⟩ := Option.isSome_iff_exists.mp h
  obtain ⟨hmem, hnumber⟩ := mem_filter.mp (mem_of_getLast? hdigits)
  have hread := readWhole_eq_some.mpr (of_decide_eq_true hnumber).reads
  have hnil : (reqValues msg).filterMap readWhole ≠ [] :=
    ne_nil_of_mem (mem_filterMap.mpr ⟨digits, hmem, hread⟩)
  exact ⟨_, lastRead_iff.mpr (getLast?_eq_some_getLast hnil)⟩

/-- What `parse_message` returns. -/
theorem ok_parseMessage (msg : List Char) :
    (parseMessage msg).ok = true ↔ (lastCmd msg).isSome ∧ ∃ n, LastRead msg n := by
  obtain ⟨hcmd, hreq⟩ := foldl_parseToken (tokens msg)
  have hfound := congrArg Prod.fst hreq
  dsimp only at hfound
  have hempty : (parseMessage msg).cmd ≠ "" ↔ (lastCmd msg).isSome := by
    rw [parseMessage, ← tokens, hcmd, lastCmd, cmdValues, ne_eq, String.ofList_eq_empty_iff,
      map_eq_nil_iff]
    cases (filterMap (valueOf "CMD=".toList) (tokens msg)).getLast? with
    | none => simp
    | some value => by_cases hvalue : value = [] <;> simp [hvalue]
  have hsome : (parseMessage msg).reqFound = true ↔ ∃ n, LastRead msg n := by
    rw [parseMessage, ← tokens, hfound]
    simp only [lastRead_iff, reqValues]
    cases (filterMap readWhole (filterMap (valueOf "REQ=".toList) (tokens msg))).getLast? with
    | none => simp
    | some n => simp
  rw [Parsed.ok, decide_eq_true_eq, hempty, hsome]

/-- The fields of a message that is taken. -/
theorem fields_parseMessage {msg : List Char} {cmd : List Char} {n : UInt64}
    (hcmd : lastCmd msg = some cmd) (hn : LastRead msg n) :
    (parseMessage msg).cmd = String.ofList (cmd.map Char.toUpper) ∧ (parseMessage msg).req = n := by
  obtain ⟨hparsed, hreq⟩ := foldl_parseToken (tokens msg)
  have hvalue := (Prod.ext_iff.mp hreq).2
  have hlast : (cmdValues msg).getLast? = some cmd := (Option.filter_eq_some_iff.mp hcmd).1
  rw [lastRead_iff, reqValues] at hn
  rw [cmdValues] at hlast
  rw [hn] at hvalue
  rw [hlast] at hparsed
  exact ⟨hparsed, hvalue⟩

/-- **The messages that are taken are those of the grammar**, and for what it says, exactly if a
message has no command, or the last `REQ` that `strtoull` reads to its end gives the number of the
last one that is decimal digits. -/
theorem parseMessage_grammar_iff (bytes : List UInt8) :
    Complies (cppString bytes) ↔ ∀ n, (lastCmd (cppString bytes)).isSome →
      LastRead (cppString bytes) n → ∃ digits, lastNumber (cppString bytes) = some digits ∧
        Nat.ofDigitChars 10 digits 0 = n.toNat := by
  obtain ⟨msg, hmsg⟩ : ∃ msg, msg = cppString bytes := ⟨_, rfl⟩
  rw [← hmsg]
  have hscan : ∀ fuel, msg.length < fuel →
      scan (msg.rdropWhile isEol) fuel 0 {} = some (parseMessage msg) := by
    intro fuel hfuel
    have hcut : msg.rdropWhile isEol <+: msg := rdropWhile_prefix isEol msg
    have hlength := hcut.length_le
    rw [scan_eq _ _ _ _ (Nat.zero_le _) (by omega), drop_zero]
    rfl
  constructor
  · rintro ⟨p, hp, hgrammar⟩ n hcmd hn
    obtain rfl : parseMessage msg = p :=
      Option.some.inj ((hscan _ (Nat.lt_succ_self _)).symm.trans (hp _ (Nat.lt_succ_self _)))
    obtain ⟨cmd, hcmd'⟩ := Option.isSome_iff_exists.mp hcmd
    have hok := (ok_parseMessage msg).mpr ⟨hcmd, n, hn⟩
    obtain ⟨digits, hdigits⟩ := Option.isSome_iff_exists.mp (hgrammar.ok.mp hok).2
    refine ⟨digits, hdigits, ?_⟩
    rw [← (hgrammar.fields cmd digits hcmd' hdigits).2, (fields_parseMessage hcmd' hn).2]
  · intro hlast
    refine ⟨parseMessage msg, hscan, ?_, ?_⟩
    · rw [ok_parseMessage]
      refine and_congr_right fun hcmd => ⟨?_, exists_lastRead⟩
      rintro ⟨n, hn⟩
      obtain ⟨digits, hdigits, -⟩ := hlast n hcmd hn
      exact Option.isSome_iff_exists.mpr ⟨digits, hdigits⟩
    · intro cmd digits hcmd hdigits
      obtain ⟨n, hn⟩ := exists_lastRead (Option.isSome_iff_exists.mpr ⟨digits, hdigits⟩)
      obtain ⟨hparsed, hreq⟩ := fields_parseMessage hcmd hn
      obtain ⟨digits', hdigits', hvalue⟩ := hlast n (Option.isSome_iff_exists.mpr ⟨cmd, hcmd⟩) hn
      obtain rfl := Option.some.inj (hdigits.symm.trans hdigits')
      exact ⟨hparsed, hreq ▸ hvalue.symm⟩

/-- A command with nothing for a number. -/
def unnumbered : List UInt8 := Utf8.encode "CMD=UNLOCK;REQ="

/-- It is taken, for a request with the number zero. -/
theorem unnumbered_not_complies : ¬ Complies (cppString unnumbered) := by
  rintro ⟨p, hscan, hgrammar⟩
  have hparsed : scan ((cppString unnumbered).rdropWhile isEol) 16 0 {} =
      some { cmd := "UNLOCK", req := 0, reqFound := true, src := "" } := by rfl
  obtain rfl := Option.some.inj ((hscan 16 (by decide)).symm.trans hparsed)
  exact absurd (hgrammar.ok.mp (by decide)).2 (by decide)

end Realtime

end VehicleStack
