import VehicleStack.DigitalKey.Text
import VehicleStack.Lib.Dict
import VehicleStack.Lib.KeyedLines
import VehicleStack.Lib.Terminated

/-!
# The environment file

The digital key service takes its settings from the environment, and what is not there from
the file `.env`: `load_env_defaults` of `identity.py` goes through the lines of the file and
sets what is not set yet, so the first entry of a name counts. The script
`enable_pairing.py` writes an entry into the file: `_ensure_env_entry` looks at the last entry
of the name to see whether there is anything to do, and then replaces the first.

The two agree on what an entry is (`VehicleStack.DigitalKey.EnvFile.normalizeEnvLine_eq`) but not
on which of several entries of a name counts. The main result is
`VehicleStack.DigitalKey.EnvFile.loaded_after`: what the service gets after any number of settings
is the last of them, for each name that the file had at most one entry of; where it had several, a
setting equal to the last entry is lost.

A string is the list of its characters here. What the file holds is taken to be UTF-8.
-/

namespace VehicleStack

namespace DigitalKey

namespace EnvFile

open List

/-! ### Lines of a file -/

/-- `str.strip`, on the characters. -/
def trim (l : List Char) : List Char := (l.dropWhile isPySpace).rdropWhile isPySpace

/-- What reading a file as text makes of the ends of its lines. -/
def universalNewlines : List Char → List Char
  | '\r' :: '\n' :: s => '\n' :: universalNewlines s
  | '\r' :: s => '\n' :: universalNewlines s
  | c :: s => c :: universalNewlines s
  | [] => []

/-- The characters `str.splitlines` ends a line at. -/
def isLineBreak (c : Char) : Bool :=
  c.toNat ∈ [10, 11, 12, 13, 28, 29, 30, 0x85, 0x2028, 0x2029]

/-- `path.read_text().splitlines()`, for what is in the file. No carriage return is left by then,
so each of the characters ends a line by itself. -/
def readLines (text : List Char) : List (List Char) :=
  let s := universalNewlines text
  let rest := Terminated.pending isLineBreak s
  Terminated.texts isLineBreak s ++ if rest = [] then [] else [rest]

/-- `"\n".join(line for line in lines if line != "") + "\n"`. -/
def joinLines (lines : List (List Char)) : List Char :=
  ['\n'].intercalate (lines.filter fun line => line ≠ []) ++ ['\n']

/-! ### Entries -/

/-- `line.split("=", 1)`, for a line with that character. -/
def splitEq (line : List Char) : List Char × List Char :=
  (line.takeWhile (· ≠ '='), (line.dropWhile (· ≠ '=')).drop 1)

/-- `"export "`. -/
def exportWord : List Char := "export ".toList

/-- `line[len("export "):]`, if the line starts with that. -/
def dropExport (line : List Char) : List Char :=
  if exportWord <+: line then line.drop exportWord.length else line

/-- `_normalize_env_line`. -/
def normalizeEnvLine (line : List Char) : List Char × List Char :=
  let stripped := trim line
  if stripped = [] ∨ ['#'] <+: stripped ∨ '=' ∉ stripped then ([], line)
  else
    let parts := splitEq (dropExport stripped)
    (trim parts.1, trim parts.2)

/-- What the loop of `load_env_defaults` makes of a line: a name and a value, unless it goes on
with the next line. -/
def parseEnvLine (rawLine : List Char) : Option (List Char × List Char) :=
  let line := trim rawLine
  if line = [] ∨ ['#'] <+: line then none
  else
    let line := dropExport line
    if '=' ∉ line then none
    else
      let parts := splitEq line
      some (trim parts.1, trim parts.2)

/-! ### Writing an entry -/

/-- `_ensure_env_entry`: the file afterwards, which may not have been there. -/
def ensureEnvEntry (key value : List Char) (file : Option (List Char)) : Option (List Char) :=
  let lines := (file.map readLines).getD []
  let existingValue := lines.foldl (fun existing rawLine =>
    let parsedKey := (normalizeEnvLine rawLine).1
    if parsedKey ≠ [] ∧ parsedKey = key then some (trim (splitEq rawLine).2) else existing) none
  if existingValue = some value then file
  else
    let targetLine := key ++ '=' :: value
    let updated := match lines.findIdx? fun rawLine => (normalizeEnvLine rawLine).1 = key with
      | some idx => lines.set idx targetLine
      | none => lines ++ [targetLine]
    some (joinLines updated)

/-! ### Reading the entries -/

/-- `os.environ`. -/
abbrev Environ := Dict (List Char) (List Char)

/-- The operating system turns the name or the value down. -/
def Refused (key value : List Char) : Prop := key = [] ∨ '\x00' ∈ key ∨ '\x00' ∈ value

instance (key value : List Char) : Decidable (Refused key value) :=
  inferInstanceAs (Decidable (_ ∨ _ ∨ _))

/-- `os.environ.setdefault`; nothing if it raises. -/
def setDefault (env : Environ) (key value : List Char) : Option Environ :=
  if (env.get? key).isSome then some env
  else if Refused key value then none
  else some (env.set key value)

/-- The loop of `load_env_defaults`. -/
def loadLines (env : Environ) : List (List Char) → Option Environ
  | [] => some env
  | rawLine :: rest =>
    match parseEnvLine rawLine with
    | none => loadLines env rest
    | some (key, value) => (setDefault env key value).bind fun env => loadLines env rest

/-- `load_env_defaults`: the environment afterwards, if it does not raise. -/
def loadEnvDefaults (file : Option (List Char)) (env : Environ) : Option Environ :=
  match file with
  | none => some env
  | some text => loadLines env (readLines text)

/-! ### White space around a text -/

theorem rdropWhile_append_of_spaces {t : List Char} (ht : ∀ c ∈ t, isPySpace c) (l : List Char) :
    (l ++ t).rdropWhile isPySpace = l.rdropWhile isPySpace := by
  have hreverse : ∀ c ∈ t.reverse, isPySpace c := fun c hc => ht c (mem_reverse.mp hc)
  rw [rdropWhile, reverse_append, dropWhile_append_of_pos hreverse, rdropWhile]

/-- White space behind a text does not matter. -/
theorem trim_append_of_spaces {t : List Char} (ht : ∀ c ∈ t, isPySpace c) (l : List Char) :
    trim (l ++ t) = trim l := by
  rw [trim, dropWhile_append, trim]
  split_ifs with hall
  · have hnil : t.dropWhile isPySpace = [] := dropWhile_eq_nil_iff.mpr ht
    rw [hnil, isEmpty_iff.mp hall]
  · exact rdropWhile_append_of_spaces ht _

theorem trim_rdropWhile (l : List Char) : trim (l.rdropWhile isPySpace) = trim l := by
  have hspaces : ∀ c ∈ l.rtakeWhile isPySpace, isPySpace c := fun c hc => mem_rtakeWhile_imp hc
  rw [← trim_append_of_spaces hspaces, rdropWhile_append_rtakeWhile]

/-- A text without white space at its ends. -/
theorem dropWhile_of_trim_eq {l : List Char} (h : trim l = l) :
    l.dropWhile isPySpace = l ∧ l.rdropWhile isPySpace = l := by
  have hlen : l.length ≤ (l.dropWhile isPySpace).length := by
    calc l.length = (trim l).length := by rw [h]
      _ ≤ (l.dropWhile isPySpace).length := ( rdropWhile_prefix isPySpace _).length_le
  have hfront : l.dropWhile isPySpace = l := (dropWhile_suffix _).eq_of_length_le hlen
  rw [trim, hfront] at h
  exact ⟨hfront, h⟩

theorem trim_subset (l : List Char) : trim l ⊆ l :=
  List.Subset.trans ( rdropWhile_prefix isPySpace _).subset (dropWhile_suffix _).subset

/-- White space around a text with an equals sign is white space around its parts. -/
theorem trim_append_eq (a b : List Char) : trim (a ++ '=' :: b) =
    a.dropWhile isPySpace ++ '=' :: b.rdropWhile isPySpace := by
  have hsign : ∀ l : List Char, ('=' :: l).dropWhile isPySpace = '=' :: l :=
    fun l => dropWhile_cons_of_neg (by decide)
  have hfront : (a ++ '=' :: b).dropWhile isPySpace = a.dropWhile isPySpace ++ '=' :: b := by
    rw [dropWhile_append, hsign]
    split_ifs with hall
    · rw [isEmpty_iff.mp hall, nil_append]
    · rfl
  have hback : ∀ x : List Char, (x ++ '=' :: b).rdropWhile isPySpace =
      x ++ '=' :: b.rdropWhile isPySpace := by
    intro x
    rw [rdropWhile, reverse_append, reverse_cons, append_assoc, singleton_append,
      dropWhile_append, hsign, rdropWhile]
    split_ifs with hall
    · rw [isEmpty_iff.mp hall]
      simp
    · simp
  rw [trim, hfront, hback]

/-! ### What an entry is -/

theorem splitEq_append {a : List Char} (ha : '=' ∉ a) (b : List Char) :
    splitEq (a ++ '=' :: b) = (a, b) := by
  have hpos : ∀ c ∈ a, decide (c ≠ '=') = true := by
    intro c hc
    exact decide_eq_true fun h => ha (h ▸ hc)
  rw [splitEq, takeWhile_append_of_pos hpos, dropWhile_append_of_pos hpos]
  simp

/-- The word in front of an entry stands in front of its name. -/
theorem dropExport_append (a b : List Char) :
    dropExport (a ++ '=' :: b) = dropExport a ++ '=' :: b := by
  have hiff : exportWord <+: a ++ '=' :: b ↔ exportWord <+: a := by
    refine ⟨fun h => ?_, fun h => h.trans (prefix_append _ _)⟩
    rcases Nat.lt_or_ge a.length exportWord.length with hlt | hge
    · -- the sign would be one of the word's letters
      have hsign : a ++ ['='] <+: exportWord := by
        refine prefix_of_prefix_length_le ⟨b, by simp⟩ h ?_
        rw [length_append, length_singleton]
        omega
      have hmem : '=' ∈ exportWord := hsign.subset (mem_append_right _ (mem_singleton_self _))
      exact absurd hmem (by decide)
    · exact prefix_of_prefix_length_le h (prefix_append _ _) hge
  rw [dropExport, dropExport]
  by_cases h : exportWord <+: a
  · rw [if_pos (hiff.mpr h), if_pos h, drop_append_of_le_length h.length_le]
  · rw [if_neg fun h' => h (hiff.mp h'), if_neg h]

theorem dropExport_suffix (l : List Char) : dropExport l <:+ l := by
  rw [dropExport]
  split_ifs
  · exact drop_suffix _ _
  · exact suffix_rfl

/-- **An entry**, by the text before and behind its first equals sign. -/
theorem parseEnvLine_append {a : List Char} (ha : '=' ∉ a) (b : List Char) :
    parseEnvLine (a ++ '=' :: b) =
      if ['#'] <+: a.dropWhile isPySpace ++ '=' :: b.rdropWhile isPySpace then none
      else some (trim (dropExport (a.dropWhile isPySpace)), trim b) := by
  have hname : '=' ∉ dropExport (a.dropWhile isPySpace) := fun h =>
    ha ((dropWhile_suffix _).subset ((dropExport_suffix _).subset h))
  have hne : a.dropWhile isPySpace ++ '=' :: b.rdropWhile isPySpace ≠ [] := by simp
  rw [parseEnvLine, trim_append_eq]
  dsimp only
  by_cases hcomment : ['#'] <+: a.dropWhile isPySpace ++ '=' :: b.rdropWhile isPySpace
  · rw [if_pos (Or.inr hcomment), if_pos hcomment]
  · rw [if_neg (by rintro (h | h); exacts [hne h, hcomment h]), if_neg hcomment,
      dropExport_append, if_neg (by simp), splitEq_append hname, trim_rdropWhile]

/-- A line without an equals sign is no entry. -/
theorem parseEnvLine_of_not_mem {rawLine : List Char} (h : '=' ∉ rawLine) :
    parseEnvLine rawLine = none := by
  have hnone : '=' ∉ dropExport (trim rawLine) := fun hmem =>
    h (trim_subset _ ((dropExport_suffix _).subset hmem))
  rw [parseEnvLine]
  dsimp only
  split_ifs <;> rfl

/-- **Reader and writer agree on what an entry is.** -/
theorem normalizeEnvLine_eq (rawLine : List Char) :
    normalizeEnvLine rawLine = (parseEnvLine rawLine).getD ([], rawLine) := by
  by_cases h : '=' ∈ rawLine
  · obtain ⟨a, b, rfl, ha⟩ := eq_append_cons_of_mem h
    have hname : '=' ∉ dropExport (a.dropWhile isPySpace) := fun h =>
      ha ((dropWhile_suffix _).subset ((dropExport_suffix _).subset h))
    rw [parseEnvLine_append ha, normalizeEnvLine, trim_append_eq]
    dsimp only
    by_cases hcomment : ['#'] <+: a.dropWhile isPySpace ++ '=' :: b.rdropWhile isPySpace
    · rw [if_pos (Or.inr (Or.inl hcomment)), if_pos hcomment, Option.getD_none]
    · rw [if_neg (by simp [hcomment]), if_neg hcomment, Option.getD_some, dropExport_append,
        splitEq_append hname, trim_rdropWhile]
  · rw [parseEnvLine_of_not_mem h, Option.getD_none, normalizeEnvLine]
    exact if_pos (Or.inr (Or.inr fun hmem => h (trim_subset _ hmem)))

/-- The writer finds the value of an entry in the line as it is. -/
theorem trim_splitEq {rawLine key value : List Char}
    (h : parseEnvLine rawLine = some (key, value)) :
    trim (splitEq rawLine).2 = value := by
  have hmem : '=' ∈ rawLine := by
    by_contra hnone
    rw [parseEnvLine_of_not_mem hnone] at h
    cases h
  obtain ⟨a, b, rfl, ha⟩ := eq_append_cons_of_mem hmem
  rw [parseEnvLine_append ha] at h
  split_ifs at h
  rw [splitEq_append ha]
  exact (Prod.mk.inj (Option.some.inj h)).2

/-! ### What is written is read again -/

/-- The lines of a file that may not be there. -/
def fileLines (file : Option (List Char)) : List (List Char) := (file.map readLines).getD []

/-- A text without the characters that end a line. -/
def IsLine (line : List Char) : Prop := ∀ c ∈ line, isLineBreak c = false

theorem universalNewlines_of_not_mem {s : List Char} (h : '\r' ∉ s) : universalNewlines s = s := by
  induction s using universalNewlines.induct with
  | case1 s ih => exact absurd mem_cons_self h
  | case2 s _ ih => exact absurd mem_cons_self h
  | case3 c s _ hc ih =>
    rw [universalNewlines, ih fun hmem => h (mem_cons_of_mem _ hmem)]
    all_goals assumption
  | case4 => rfl

theorem isLine_of_mem_readLines {text line : List Char} (h : line ∈ readLines text) :
    IsLine line := by
  obtain ⟨htexts, hpending⟩ := @Terminated.forall_mem_texts_pending _ isLineBreak
    (universalNewlines text)
  rw [readLines] at h
  rcases mem_append.mp h with hended | hrest
  · exact htexts line hended
  · split_ifs at hrest
    · exact absurd hrest not_mem_nil
    · rwa [mem_singleton.mp hrest]

/-- Lines with a newline between them, and one at the end. -/
theorem intercalate_newline {lines : List (List Char)} (h : lines ≠ []) :
    ['\n'].intercalate lines ++ ['\n'] = lines.flatMap (· ++ ['\n']) := by
  induction lines with
  | nil => exact absurd rfl h
  | cons l ls ih =>
    rcases ls with _ | ⟨l', ls⟩
    · simp
    · rw [intercalate_cons_cons, append_assoc, append_assoc, ih (cons_ne_nil _ _)]
      exact (append_assoc l ['\n'] _).symm

/-- **The lines that are written are read again**, but for the empty ones. -/
theorem readLines_joinLines {lines : List (List Char)} (hlines : ∀ l ∈ lines, IsLine l)
    (hne : ∃ l ∈ lines, l ≠ []) : readLines (joinLines lines) = lines.filter (· ≠ []) := by
  obtain ⟨l₀, hmem, hl₀⟩ := hne
  have hnonempty : lines.filter (· ≠ []) ≠ [] :=
    ne_nil_of_mem (mem_filter.mpr ⟨hmem, decide_eq_true hl₀⟩)
  have hkept : ∀ l ∈ lines.filter (· ≠ []), IsLine l := fun l hl => hlines l (mem_filter.mp hl).1
  have hjoin : joinLines lines = (lines.filter (· ≠ [])).flatMap (· ++ ['\n']) :=
    intercalate_newline hnonempty
  obtain ⟨htexts, hpending⟩ := @Terminated.texts_flatMap _ _ isLineBreak (· ++ ['\n'])
    (lines.filter (· ≠ [])) fun l hl => ⟨l, '\n', rfl, rfl, hkept l hl⟩
  have hreturn : '\r' ∉ joinLines lines := by
    rw [hjoin, mem_flatMap]
    rintro ⟨l, hl, hc⟩
    rcases mem_append.mp hc with hold | hnew
    · exact absurd (hkept l hl _ hold) (by decide)
    · exact absurd hnew (by decide)
  rw [readLines, universalNewlines_of_not_mem hreturn, hjoin, htexts, hpending,
    if_pos rfl, append_nil]
  simp

/-! ### What a setting does to the file -/

/-- A name and a value that make a line of the file. -/
structure Setting where
  key : List Char
  value : List Char
  key_ne_nil : key ≠ []
  trim_key : trim key = key
  trim_value : trim value = value
  not_mem_key : '=' ∉ key
  no_comment : ¬['#'] <+: key
  no_export : ¬exportWord <+: key
  isLine : IsLine (key ++ '=' :: value)
  no_null : '\x00' ∉ key ++ value

namespace Setting

/-- `f"{key}={value}"`. -/
def line (s : Setting) : List Char := s.key ++ '=' :: s.value

theorem parseEnvLine_line (s : Setting) : parseEnvLine s.line = some (s.key, s.value) := by
  have hcomment : ¬['#'] <+: s.key ++ '=' :: s.value := by
    intro h
    obtain ⟨c, cs, hkey⟩ := exists_cons_of_ne_nil s.key_ne_nil
    rw [hkey, cons_append, cons_prefix_cons] at h
    exact s.no_comment (hkey ▸ cons_prefix_cons.mpr ⟨h.1, nil_prefix⟩)
  rw [line, parseEnvLine_append s.not_mem_key, (dropWhile_of_trim_eq s.trim_key).1,
    (dropWhile_of_trim_eq s.trim_value).2, if_neg hcomment, dropExport, if_neg s.no_export,
    s.trim_key, s.trim_value]

theorem not_refused (s : Setting) : ¬Refused s.key s.value := by
  rintro (hnil | hkey | hvalue)
  · exact s.key_ne_nil hnil
  · exact s.no_null (mem_append_left _ hkey)
  · exact s.no_null (mem_append_right _ hvalue)

end Setting

/-- The values of a name in the file. -/
def fileValues (file : Option (List Char)) (key : List Char) : List (List Char) :=
  KeyedLines.values parseEnvLine key (fileLines file)

/-- The writer's test for a line of the name. -/
theorem normalizeEnvLine_fst_iff {key : List Char} (hkey : key ≠ []) (rawLine : List Char) :
    (normalizeEnvLine rawLine).1 = key ↔ (KeyedLines.value? parseEnvLine key rawLine).isSome := by
  rw [normalizeEnvLine_eq, KeyedLines.value?]
  rcases parseEnvLine rawLine with _ | ⟨k, v⟩
  · exact iff_of_false (fun h => hkey h.symm) (by simp)
  · rw [Option.getD_some, Option.bind_some]
    by_cases h : k = key
    · exact iff_of_true h (by simp [h])
    · exact iff_of_false h (by simp [h])

/-- **The value that the writer compares with** is that of the last entry. -/
theorem existingValue_eq {key : List Char} (hkey : key ≠ []) (lines : List (List Char)) :
    lines.foldl (fun existing rawLine =>
      let parsedKey := (normalizeEnvLine rawLine).1
      if parsedKey ≠ [] ∧ parsedKey = key then some (trim (splitEq rawLine).2) else existing)
      none = (KeyedLines.values parseEnvLine key lines).getLast? := by
  induction lines using List.reverseRecOn with
  | nil => rfl
  | append_singleton ls l ih =>
    rw [foldl_append, foldl_cons, foldl_nil, ih, KeyedLines.values_append]
    rcases hl : KeyedLines.value? parseEnvLine key l with _ | v
    · have hother : (normalizeEnvLine l).1 ≠ key := fun h => by
        have hsome := (normalizeEnvLine_fst_iff hkey l).mp h
        rw [hl] at hsome
        cases hsome
      rw [KeyedLines.values_cons_of_none hl]
      dsimp only
      rw [if_neg fun h => hother h.2]
      exact congrArg getLast? (append_nil _).symm
    · have hthis : (normalizeEnvLine l).1 = key :=
        (normalizeEnvLine_fst_iff hkey l).mpr (by rw [hl]; rfl)
      obtain ⟨⟨k, w⟩, hentry, hw⟩ := Option.bind_eq_some_iff.mp hl
      obtain ⟨-, hv⟩ := Option.ite_none_right_eq_some.mp hw
      rw [KeyedLines.values_cons_of_some hl]
      dsimp only
      rw [if_pos ⟨hthis.trans_ne hkey, hthis⟩, trim_splitEq hentry]
      exact hv.trans getLast?_concat.symm

/-- The lines with the first entry of the name replaced, or the new one behind them. -/
theorem updated_eq {key : List Char} (hkey : key ≠ []) (lines : List (List Char))
    (targetLine : List Char) :
    (match lines.findIdx? fun rawLine => (normalizeEnvLine rawLine).1 = key with
      | some idx => lines.set idx targetLine
      | none => lines ++ [targetLine]) = KeyedLines.put parseEnvLine key targetLine lines := by
  have htest : (fun rawLine => decide ((normalizeEnvLine rawLine).1 = key)) =
      fun rawLine => (KeyedLines.value? parseEnvLine key rawLine).isSome :=
    funext fun rawLine => by simp only [normalizeEnvLine_fst_iff hkey, Bool.decide_eq_true]
  rw [htest, KeyedLines.put, KeyedLines.replaceFirst_eq_findIdx?]
  cases lines.findIdx? fun rawLine => (KeyedLines.value? parseEnvLine key rawLine).isSome <;> rfl

/-- A file holds lines. -/
theorem isLine_of_mem_fileLines {file : Option (List Char)} {line : List Char}
    (h : line ∈ fileLines file) : IsLine line := by
  rcases file with _ | text
  · exact absurd h not_mem_nil
  · exact isLine_of_mem_readLines h

/-- **What a setting does to the values of a name**: it is stored, unless it is the last one. -/
theorem fileValues_ensureEnvEntry (s : Setting) (file : Option (List Char)) (key : List Char) :
    fileValues (ensureEnvEntry s.key s.value file) key =
      if key = s.key then KeyedLines.store (fileValues file key) s.value
      else fileValues file key := by
  have hentry : parseEnvLine s.line = some (s.key, s.value) := s.parseEnvLine_line
  rw [ensureEnvEntry]
  dsimp only
  rw [existingValue_eq s.key_ne_nil, updated_eq s.key_ne_nil]
  change fileValues (if (fileValues file s.key).getLast? = some s.value then file else
    some (joinLines (KeyedLines.put parseEnvLine s.key s.line (fileLines file)))) key = _
  by_cases hlast : (fileValues file s.key).getLast? = some s.value
  · rw [if_pos hlast]
    split_ifs with hkey
    · rw [hkey, KeyedLines.store, if_pos hlast]
    · rfl
  · -- the file is written, and what is read from it are the new lines
    have hlines : ∀ l ∈ KeyedLines.put parseEnvLine s.key s.line (fileLines file), IsLine l := by
      intro l hl
      rcases KeyedLines.mem_put hl with rfl | hold
      · exact s.isLine
      · exact isLine_of_mem_fileLines hold
    have hne : ∃ l ∈ KeyedLines.put parseEnvLine s.key s.line (fileLines file), l ≠ [] :=
      ⟨s.line, KeyedLines.self_mem_put, append_ne_nil_of_right_ne_nil _ (cons_ne_nil _ _)⟩
    have hempty : ∀ l : List Char, decide (l ≠ []) = false → parseEnvLine l = none := by
      intro l hl
      rw [not_not.mp (of_decide_eq_false hl)]
      rfl
    rw [if_neg hlast, fileValues, fileLines, Option.map_some, Option.getD_some,
      readLines_joinLines hlines hne, KeyedLines.values_filter hempty]
    split_ifs with hkey
    · rw [hkey, KeyedLines.values_put hentry, KeyedLines.store, if_neg hlast]
      rfl
    · exact KeyedLines.values_put_of_ne hentry hkey _

/-- **Any number of settings**, one after the other. -/
theorem fileValues_foldl (settings : List Setting) (file : Option (List Char)) (key : List Char) :
    fileValues (settings.foldl (fun file s => ensureEnvEntry s.key s.value file) file) key =
      ((settings.filter fun s => key = s.key).map Setting.value).foldl KeyedLines.store
        (fileValues file key) := by
  induction settings generalizing file with
  | nil => rfl
  | cons s settings ih =>
    rw [foldl_cons, ih, fileValues_ensureEnvEntry]
    by_cases hkey : key = s.key
    · rw [if_pos hkey, filter_cons, if_pos (decide_eq_true hkey), map_cons, foldl_cons]
    · rw [if_neg hkey, filter_cons, if_neg (mt of_decide_eq_true hkey)]

/-! ### Loading -/

theorem setDefault_eq_none_iff {env : Environ} {key value : List Char} :
    setDefault env key value = none ↔ env.get? key = none ∧ Refused key value := by
  rw [setDefault]
  rcases henv : env.get? key with _ | old
  · rw [Option.isSome_none, if_neg (by simp)]
    split_ifs with href
    · exact iff_of_true rfl ⟨rfl, href⟩
    · exact iff_of_false (by simp) fun h => href h.2
  · exact iff_of_false (by simp) (by simp)

theorem get?_setDefault {env env' : Environ} {key value : List Char}
    (h : setDefault env key value = some env') (j : List Char) :
    env'.get? j = (env.get? j).or (if j = key then some value else none) := by
  rw [setDefault] at h
  rcases henv : env.get? key with _ | old
  · rw [henv, Option.isSome_none, if_neg (by simp)] at h
    split_ifs at h
    obtain rfl := Option.some.inj h
    rw [Dict.get_set]
    split_ifs with hj
    · rw [hj, henv, Option.none_or]
    · rw [Option.or_none]
  · rw [henv, Option.isSome_some, if_pos rfl] at h
    obtain rfl := Option.some.inj h
    split_ifs with hj
    · rw [hj, henv, Option.some_or]
    · rw [Option.or_none]

/-- A line that is no entry is passed over. -/
theorem loadLines_cons_of_none {rawLine : List Char} (h : parseEnvLine rawLine = none)
    (env : Environ) (rest : List (List Char)) :
    loadLines env (rawLine :: rest) = loadLines env rest := by
  rw [loadLines, h]

theorem loadLines_cons_of_some {rawLine key value : List Char}
    (h : parseEnvLine rawLine = some (key, value)) (env : Environ) (rest : List (List Char)) :
    loadLines env (rawLine :: rest) =
      (setDefault env key value).bind fun env => loadLines env rest := by
  rw [loadLines, h]

/-- The loop succeeds exactly if each value that it sets is taken. -/
theorem exists_loadLines_iff (env : Environ) (lines : List (List Char)) :
    (∃ e, loadLines env lines = some e) ↔ ∀ key value, env.get? key = none →
      (KeyedLines.values parseEnvLine key lines).head? = some value → ¬Refused key value := by
  induction lines generalizing env with
  | nil => exact iff_of_true ⟨env, rfl⟩ fun _ _ _ h => by cases h
  | cons l ls ih =>
    rcases hl : parseEnvLine l with _ | ⟨k, v⟩
    · have hsame : ∀ key, KeyedLines.values parseEnvLine key (l :: ls) =
          KeyedLines.values parseEnvLine key ls := fun key =>
        KeyedLines.values_cons_of_none (by rw [KeyedLines.value?, hl]; rfl) ls
      simp only [loadLines_cons_of_none hl, hsame]
      exact ih env
    · have hself := KeyedLines.values_cons_of_some (KeyedLines.value?_self hl) ls
      have hother : ∀ key, key ≠ k → KeyedLines.values parseEnvLine key (l :: ls) =
          KeyedLines.values parseEnvLine key ls := fun key hne =>
        KeyedLines.values_cons_of_none (KeyedLines.value?_of_ne hl hne) ls
      rw [loadLines_cons_of_some hl]
      rcases hset : setDefault env k v with _ | env'
      · -- the value is turned down
        obtain ⟨hnone, hrefused⟩ := setDefault_eq_none_iff.mp hset
        refine iff_of_false (by rintro ⟨e, he⟩; cases he) fun h => ?_
        exact h k v hnone (by rw [hself]; rfl) hrefused
      · have hget := get?_setDefault hset
        rw [Option.bind_some, ih env']
        refine ⟨fun h key value hnone hvalue => ?_, fun h key value hnone hvalue => ?_⟩
        · by_cases hkey : key = k
          · subst hkey
            rw [hself, head?_cons] at hvalue
            obtain rfl := Option.some.inj hvalue
            intro hrefused
            rw [setDefault_eq_none_iff.mpr ⟨hnone, hrefused⟩] at hset
            cases hset
          · refine h key value ?_ (by rwa [hother key hkey] at hvalue)
            rw [hget, if_neg hkey, hnone, Option.none_or]
        · rw [hget, Option.or_eq_none_iff] at hnone
          have hkey : key ≠ k := fun hkey => by
            rw [if_pos hkey] at hnone
            cases hnone.2
          exact h key value hnone.1 (by rwa [hother key hkey])

/-- **What the loop leaves**: what was there, and the first value of every other name. -/
theorem get?_loadLines {env e : Environ} {lines : List (List Char)}
    (h : loadLines env lines = some e) (key : List Char) :
    e.get? key = (env.get? key).or (KeyedLines.values parseEnvLine key lines).head? := by
  induction lines generalizing env with
  | nil =>
    obtain rfl := Option.some.inj h
    exact Option.or_none.symm
  | cons l ls ih =>
    rcases hl : parseEnvLine l with _ | ⟨k, v⟩
    · rw [loadLines_cons_of_none hl] at h
      rw [ih h, KeyedLines.values_cons_of_none (by rw [KeyedLines.value?, hl]; rfl)]
    · rw [loadLines_cons_of_some hl] at h
      obtain ⟨env', hset, hrest⟩ := Option.bind_eq_some_iff.mp h
      rw [ih hrest, get?_setDefault hset, Option.or_assoc]
      by_cases hkey : key = k
      · subst hkey
        rw [KeyedLines.values_cons_of_some (KeyedLines.value?_self hl), if_pos rfl, Option.some_or,
          head?_cons]
      · rw [KeyedLines.values_cons_of_none (KeyedLines.value?_of_ne hl hkey), if_neg hkey,
          Option.none_or]

theorem loadEnvDefaults_eq (file : Option (List Char)) (env : Environ) :
    loadEnvDefaults file env = loadLines env (fileLines file) := by
  cases file <;> rfl

/-- **The environment of the service after any number of settings.** A name that it had before
keeps its value. Any other name has the last value it was set to, of those that were stored:
none of them is lost if the file had one entry of the name or none, and those equal to the last
entry are lost if it had several. -/
theorem loaded_after {file : Option (List Char)} {env e : Environ}
    (h : loadEnvDefaults file env = some e) (settings : List Setting) :
    ∃ e', loadEnvDefaults
        (settings.foldl (fun file s => ensureEnvEntry s.key s.value file) file) env = some e' ∧
      ∀ key, e'.get? key = (env.get? key).or
        ((KeyedLines.stored (fileValues file key)
          ((settings.filter fun s => key = s.key).map Setting.value)).getLast?.or
            (fileValues file key).head?) := by
  have hvalues := fileValues_foldl settings file
  have hfirst : ∀ key, (fileValues
      (settings.foldl (fun file s => ensureEnvEntry s.key s.value file) file) key).head? =
      (KeyedLines.stored (fileValues file key)
        ((settings.filter fun s => key = s.key).map Setting.value)).getLast?.or
          (fileValues file key).head? := fun key => by
    rw [hvalues, KeyedLines.head?_foldl_store]
  rw [loadEnvDefaults_eq] at h
  rw [loadEnvDefaults_eq]
  have hbefore := (exists_loadLines_iff env (fileLines file)).mp ⟨e, h⟩
  obtain ⟨e', he'⟩ := (exists_loadLines_iff env (fileLines
      (settings.foldl (fun file s => ensureEnvEntry s.key s.value file) file))).mpr
    fun key value hnone hvalue => by
      rcases Option.or_eq_some_iff.mp ((hfirst key).symm.trans hvalue) with hstored | ⟨-, hold⟩
      · -- a setting, and the system takes these
        have hmem := KeyedLines.mem_stored (mem_of_getLast? hstored)
        obtain ⟨s, hs, rfl⟩ := mem_map.mp hmem
        rw [of_decide_eq_true (mem_filter.mp hs).2]
        exact s.not_refused
      · exact hbefore key value hnone hold
  exact ⟨e', he', fun key => (get?_loadLines he' key).trans (congrArg _ (hfirst key))⟩

section Pairing

/-- `"VEHICLE_KEY_PATH"`. -/
def vehicleKeyName : List Char := "VEHICLE_KEY_PATH".toList

/-- `str(private_key_path.relative_to(PROJECT_ROOT))`. -/
def vehicleKeyFile : List Char := "keys/vehicle_private.pem".toList

theorem vehicleKey_trim : trim vehicleKeyName = vehicleKeyName ∧
    trim vehicleKeyFile = vehicleKeyFile := by decide +kernel

theorem vehicleKey_name : vehicleKeyName ≠ [] ∧ '=' ∉ vehicleKeyName ∧
    ¬['#'] <+: vehicleKeyName ∧ ¬exportWord <+: vehicleKeyName := by decide +kernel

theorem vehicleKey_null : '\x00' ∉ vehicleKeyName ++ vehicleKeyFile := by decide +kernel

theorem vehicleKey_line : IsLine (vehicleKeyName ++ '=' :: vehicleKeyFile) := by
  have hall : (vehicleKeyName ++ '=' :: vehicleKeyFile).all (fun c => !isLineBreak c) = true := by
    decide +kernel
  intro c hc
  exact Bool.not_eq_true' _ |>.mp (all_eq_true.mp hall c hc)

/-- What `main` of `enable_pairing.py` sets. -/
def vehicleKeyPath : Setting where
  key := vehicleKeyName
  value := vehicleKeyFile
  key_ne_nil := vehicleKey_name.1
  trim_key := vehicleKey_trim.1
  trim_value := vehicleKey_trim.2
  not_mem_key := vehicleKey_name.2.1
  no_comment := vehicleKey_name.2.2.1
  no_export := vehicleKey_name.2.2.2
  isLine := vehicleKey_line
  no_null := vehicleKey_null

/-- A file with the old path in front of the one that is set: the service goes on with the
old one. -/
theorem loaded_after_vehicleKeyPath : ∃ e', loadEnvDefaults
    ([vehicleKeyPath].foldl (fun file s => ensureEnvEntry s.key s.value file)
      (some "VEHICLE_KEY_PATH=old.pem\nVEHICLE_KEY_PATH=keys/vehicle_private.pem\n".toList))
      Dict.empty = some e' ∧ e'.get? "VEHICLE_KEY_PATH".toList = some "old.pem".toList := by
  obtain ⟨e, he⟩ : ∃ e, loadEnvDefaults
      (some "VEHICLE_KEY_PATH=old.pem\nVEHICLE_KEY_PATH=keys/vehicle_private.pem\n".toList)
      Dict.empty = some e := Option.isSome_iff_exists.mp (by decide +kernel)
  obtain ⟨e', he', hget⟩ := loaded_after he [vehicleKeyPath]
  exact ⟨e', he', (hget _).trans (by decide +kernel)⟩

end Pairing

end EnvFile

end DigitalKey

end VehicleStack
