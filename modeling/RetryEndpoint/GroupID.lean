import RetryEndpoint.Config

/-!
# The group id

`config/config.go`, `parseGroupID`: the group id is written in hexadecimal after `0x`, in decimal, or
in hexadecimal with nothing in front of it.

## The model

`GroupID` is the grammar, which has no order in which things are tried. The source tries decimal
first and reads what is not a decimal number that fits in 16 bits in hexadecimal. There are two
reasons not to be one: a letter, for which this is meant, and a number that is too large. The
second does no harm, as the number is too large in hexadecimal as well.

## What is proved

* `parseGroupID_eq_ok_iff` — `parseGroupID` accepts what the grammar says, and gives what it spells.
* `load_groupID` — so the group id of a configuration that `Load` accepts is the one that the flag
  spells.
-/

namespace RetryEndpoint.Config

open Go Cache

/-- `GroupID s n`: the string `s` spells the group id `n`. -/
inductive GroupID : List Char → ℕ → Prop where
  /-- `0x` or `0X`, and hexadecimal digits. -/
  | hexPrefixed {x : Char} {s : List Char} {n : ℕ} (hx : x = 'x' ∨ x = 'X') (hs : Numeral 16 s n) (hn : n ≤ 0xFFFF) :
      GroupID ('0' :: x :: s) n
  /-- Decimal digits. -/
  | decimal {s : List Char} {n : ℕ} (hs : Numeral 10 s n) (hn : n ≤ 65535) : GroupID s n
  /-- Hexadecimal digits, with a letter. -/
  | hex {s : List Char} {n : ℕ} (hs : Numeral 16 s n) (hletter : ∃ c ∈ s, c.isAlpha = true) (hn : n ≤ 0xFFFF) :
      GroupID s n

/-! ### The grammar -/

theorem toNat_le (v : UInt16) : v.toNat ≤ 0xFFFF := Nat.le_of_lt_succ v.toNat_lt

theorem not_isDigitOf_x {x : Char} (hx : x = 'x' ∨ x = 'X') : ¬ isDigitOf 16 x = true := by
  rcases hx with rfl | rfl <;> decide

/-- What starts with `0x` is no numeral. -/
theorem not_numeral_x {base n : ℕ} (hb : base ≤ 16) {x : Char} (hx : x = 'x' ∨ x = 'X') {s : List Char} :
    ¬ Numeral base ('0' :: x :: s) n := by
  intro h
  exact not_isDigitOf_x hx (isDigitOf_mono hb (h.digits x (by simp)))

/-- A numeral in decimal has no letter. -/
theorem not_isAlpha_of_numeral {s : List Char} {n : ℕ} (h : Numeral 10 s n) : ¬ ∃ c ∈ s, c.isAlpha = true := by
  rintro ⟨c, hc, halpha⟩
  have hdigit := h.digits c hc
  exact (isAlpha_iff_not_isDigit (isDigitOf_mono (by decide) hdigit)).mp halpha (by rwa [← isDigitOf_ten])

/-- **Digits without a letter spell no more in decimal than in hexadecimal.** So those that are too
large in decimal are too large in hexadecimal, however many zeros there are in front. -/
theorem exists_decimal_le {s : List Char} {n : ℕ} (h : Numeral 16 s n) (hletter : ¬ ∃ c ∈ s, c.isAlpha = true) :
    ∃ m ≤ n, Numeral 10 s m := by
  refine ⟨digitsVal 10 0 s, ?_, h.ne_nil, ?_, rfl⟩
  · rw [← h.value]
    exact digitsVal_le (by decide) le_rfl s
  · intro c hc
    rw [isDigitOf_ten]
    by_contra hdigit
    exact hletter ⟨c, hc, (isAlpha_iff_not_isDigit (h.digits c hc)).mpr hdigit⟩

theorem not_groupID_nil {n : ℕ} : ¬ GroupID [] n := by
  intro h
  cases h with
  | decimal hs => exact hs.ne_nil rfl
  | hex hs => exact hs.ne_nil rfl

/-- After `0x`. -/
theorem groupID_prefixed_iff {x : Char} (hx : x = 'x' ∨ x = 'X') {s : List Char} {n : ℕ} :
    GroupID ('0' :: x :: s) n ↔ Numeral 16 s n ∧ n ≤ 0xFFFF := by
  constructor
  · intro h
    cases h with
    | hexPrefixed _ hs hn => exact ⟨hs, hn⟩
    | decimal hs => exact absurd hs (not_numeral_x (by decide) hx)
    | hex hs => exact absurd hs (not_numeral_x le_rfl hx)
  · rintro ⟨hs, hn⟩
    exact .hexPrefixed hx hs hn

/-- Without it. -/
theorem groupID_plain_iff {s : List Char} (hx : ¬ ∃ x t, (x = 'x' ∨ x = 'X') ∧ s = '0' :: x :: t) {n : ℕ} :
    GroupID s n ↔ (Numeral 10 s n ∨ Numeral 16 s n ∧ ∃ c ∈ s, c.isAlpha = true) ∧ n ≤ 0xFFFF := by
  constructor
  · intro h
    cases h with
    | hexPrefixed hx' => exact absurd ⟨_, _, hx', rfl⟩ hx
    | decimal hs hn => exact ⟨.inl hs, hn⟩
    | hex hs hletter hn => exact ⟨.inr ⟨hs, hletter⟩, hn⟩
  · rintro ⟨hs | ⟨hs, hletter⟩, hn⟩
    · exact .decimal hs hn
    · exact .hex hs hletter hn

/-- A string spells one group id. -/
theorem GroupID.unique {s : List Char} {n m : ℕ} (hn : GroupID s n) (hm : GroupID s m) : n = m := by
  by_cases hx : ∃ x t, (x = 'x' ∨ x = 'X') ∧ s = '0' :: x :: t
  · obtain ⟨x, t, hx, rfl⟩ := hx
    exact ((groupID_prefixed_iff hx).mp hn).1.unique ((groupID_prefixed_iff hx).mp hm).1
  · rcases ((groupID_plain_iff hx).mp hn).1 with hs | ⟨hs, hletter⟩ <;>
      rcases ((groupID_plain_iff hx).mp hm).1 with hs' | ⟨hs', hletter'⟩
    · exact hs.unique hs'
    · exact absurd hletter' (not_isAlpha_of_numeral hs)
    · exact absurd hletter (not_isAlpha_of_numeral hs')
    · exact hs.unique hs'

theorem GroupID.le {s : List Char} {n : ℕ} (h : GroupID s n) : n ≤ 0xFFFF := by
  cases h with
  | hexPrefixed _ _ hn => exact hn
  | decimal _ hn => exact hn
  | hex _ _ hn => exact hn

/-- Decimal digits spell the number that they are in decimal. -/
theorem GroupID.value_of_isDigit {s : List Char} {n : ℕ} (h : GroupID s n) (hs : ∀ c ∈ s, c.isDigit = true) :
    digitsVal 10 0 s = n := by
  cases h with
  | @hexPrefixed x _ _ hx =>
    have hdigit : isDigitOf 10 x = true := by
      rw [isDigitOf_ten]
      exact hs x (by simp)
    exact absurd (isDigitOf_mono (by decide) hdigit) (not_isDigitOf_x hx)
  | decimal hnum => exact hnum.value
  | hex hnum hletter =>
    obtain ⟨c, hc, halpha⟩ := hletter
    exact absurd (hs c hc) ((isAlpha_iff_not_isDigit (hnum.digits c hc)).mp halpha)

/-- There is no space in it. -/
theorem GroupID.trimSpace_eq {s : List Char} {n : ℕ} (h : GroupID s n) : trimSpace s = s := by
  apply trimSpace_eq_self
  cases h with
  | hexPrefixed hx hs =>
    rw [List.forall_mem_cons, List.forall_mem_cons]
    refine ⟨by decide, ?_, hs.isSpace⟩
    rcases hx with rfl | rfl <;> decide
  | decimal hs => exact hs.isSpace
  | hex hs => exact hs.isSpace

/-! ### The parser -/

theorem toLower_eq_x_iff {c : Char} : c.toLower = 'x' ↔ c = 'x' ∨ c = 'X' := by
  rw [← Char.toNat_inj, ← Char.toNat_inj, ← Char.toNat_inj, toNat_toLower]
  change _ = 120 ↔ c.toNat = 120 ∨ c.toNat = 88
  split_ifs <;> omega

theorem toLower_eq_zero_iff {c : Char} : c.toLower = '0' ↔ c = '0' := by
  rw [← Char.toNat_inj, ← Char.toNat_inj, toNat_toLower]
  change _ = 48 ↔ c.toNat = 48
  split_ifs <;> omega

/-- What `strings.HasPrefix(strings.ToLower(s), "0x")` looks for. -/
theorem take_toLower_iff {s : List Char} :
    (s.map Char.toLower).take 2 = ['0', 'x'] ↔ ∃ x t, (x = 'x' ∨ x = 'X') ∧ s = '0' :: x :: t := by
  constructor
  · intro h
    rcases s with - | ⟨c, - | ⟨x, t⟩⟩
    · cases h
    · simp at h
    · simp only [List.map_cons, List.take_succ_cons, List.take_zero, List.cons.injEq, and_true] at h
      obtain rfl := toLower_eq_zero_iff.mp h.1
      exact ⟨x, t, toLower_eq_x_iff.mp h.2, rfl⟩
  · rintro ⟨x, t, hx, rfl⟩
    rcases hx with rfl | rfl <;> rfl

/-- The end of `parseGroupID`: what is left is read in the base that was settled on. -/
def readGroupID (s : List Char) (base : ℕ) : Except Err UInt16 :=
  match parseUint s base 16 with
  | .error e => .error (e.text s)
  | .ok n => .ok (UInt16.ofNat n)

theorem readGroupID_eq_ok_iff {s : List Char} {base : ℕ} (hb : 0 < base) {v : UInt16} :
    readGroupID s base = .ok v ↔ Numeral base s v.toNat := by
  have hv : parseUint s base 16 = .ok v.toNat ↔ Numeral base s v.toNat :=
    (parseUint_eq_ok_iff hb).trans (and_iff_left v.toNat_lt)
  rw [← hv, readGroupID]
  cases hp : parseUint s base 16 with
  | error e => simp
  | ok n =>
    have hlt : n < 2 ^ 16 := ((parseUint_eq_ok_iff hb).mp hp).2
    simp only [Except.ok.injEq]
    constructor
    · rintro rfl
      rw [UInt16.toNat_ofNat', Nat.mod_eq_of_lt hlt]
    · rintro rfl
      exact UInt16.ofNat_toNat

/-- What `parseGroupID` does after `0x`. -/
theorem parseGroupID_prefixed {s t : List Char} {x : Char} (hx : x = 'x' ∨ x = 'X')
    (hs : trimSpace s = '0' :: x :: t) :
    parseGroupID s = readGroupID t 16 := by
  have hlow := take_toLower_iff.mpr ⟨x, t, hx, hs⟩
  simp only [parseGroupID, if_pos hlow]
  simp only [hs, reduceCtorEq, if_false]
  rfl

/-- What it does with a decimal number that fits. -/
theorem parseGroupID_decimal {s : List Char} {n : ℕ} (hn : Numeral 10 (trimSpace s) n) (hle : n ≤ 65535) :
    parseGroupID s = readGroupID (trimSpace s) 10 := by
  have hlow : ¬ ((trimSpace s).map Char.toLower).take 2 = ['0', 'x'] := by
    intro hlow
    obtain ⟨x, t, hx, ht⟩ := take_toLower_iff.mp hlow
    exact not_numeral_x (by decide) hx (ht ▸ hn)
  have hp : parseUint (trimSpace s) 10 16 = .ok n := (parseUint_eq_ok_iff (by decide)).mpr ⟨hn, by omega⟩
  simp only [parseGroupID, if_neg hlow, if_neg hn.ne_nil, readGroupID, hp]

/-- What it does otherwise. -/
theorem parseGroupID_plain {s : List Char} (hne : trimSpace s ≠ [])
    (hx : ¬ ∃ x t, (x = 'x' ∨ x = 'X') ∧ trimSpace s = '0' :: x :: t)
    (hn : ¬ ∃ n ≤ 65535, Numeral 10 (trimSpace s) n) : parseGroupID s = readGroupID (trimSpace s) 16 := by
  have hlow := mt take_toLower_iff.mp hx
  cases hp : parseUint (trimSpace s) 10 16 with
  | error e =>
    simp only [parseGroupID, if_neg hlow, if_neg hne, hp]
    rfl
  | ok n =>
    obtain ⟨hnum, hlt⟩ := (parseUint_eq_ok_iff (by decide)).mp hp
    exact absurd ⟨n, by omega, hnum⟩ hn

/-- **What `parseGroupID` accepts** is the grammar, and it gives what is spelled. -/
theorem parseGroupID_eq_ok_iff {s : List Char} {v : UInt16} :
    parseGroupID s = .ok v ↔ GroupID (trimSpace s) v.toNat := by
  have hv := toNat_le v
  by_cases hne : trimSpace s = []
  · simp [parseGroupID, hne, not_groupID_nil]
  by_cases hx : ∃ x t, (x = 'x' ∨ x = 'X') ∧ trimSpace s = '0' :: x :: t
  · obtain ⟨x, t, hx, ht⟩ := hx
    rw [parseGroupID_prefixed hx ht, readGroupID_eq_ok_iff (by decide), ht, groupID_prefixed_iff hx, and_iff_left hv]
  rw [groupID_plain_iff hx, and_iff_left hv]
  by_cases hdec : ∃ n ≤ 65535, Numeral 10 (trimSpace s) n
  · obtain ⟨n, hle, hn⟩ := hdec
    rw [parseGroupID_decimal hn hle, readGroupID_eq_ok_iff (by decide)]
    constructor
    · intro h
      exact .inl h
    · rintro (h | ⟨-, hletter⟩)
      · exact h
      · exact absurd hletter (not_isAlpha_of_numeral hn)
  -- what is left is read in hexadecimal, and has a letter: without one it would have been read in decimal
  · rw [parseGroupID_plain hne hx hdec, readGroupID_eq_ok_iff (by decide)]
    constructor
    · intro h
      refine .inr ⟨h, ?_⟩
      by_contra hletter
      obtain ⟨m, hm, hnum⟩ := exists_decimal_le h hletter
      exact hdec ⟨m, hm.trans hv, hnum⟩
    · rintro (h | ⟨h, -⟩)
      · exact absurd ⟨_, hv, h⟩ hdec
      · exact h

/-- What is in the grammar is read as it is. -/
theorem GroupID.parse {s : List Char} {v : UInt16} (h : GroupID s v.toNat) : parseGroupID s = .ok v := by
  rw [parseGroupID_eq_ok_iff, h.trimSpace_eq]
  exact h

/-- `parseGroupID` fails on what is not in the grammar. -/
theorem parseGroupID_eq_error_iff {s : List Char} :
    (∃ err, parseGroupID s = .error err) ↔ ¬ ∃ n, GroupID (trimSpace s) n := by
  constructor
  · rintro ⟨err, herr⟩ ⟨n, hn⟩
    have hmod : (UInt16.ofNat n).toNat = n := by
      rw [UInt16.toNat_ofNat', Nat.mod_eq_of_lt (Nat.lt_succ_of_le hn.le)]
    rw [parseGroupID_eq_ok_iff.mpr (hmod.symm ▸ hn)] at herr
    cases herr
  · intro h
    cases hp : parseGroupID s with
    | error err => exact ⟨err, rfl⟩
    | ok v => exact absurd ⟨_, parseGroupID_eq_ok_iff.mp hp⟩ h

/-- A parser reads the group ids of the grammar, and nothing else. -/
structure ReadsGroupID (parse : List Char → Except Err UInt16) : Prop where
  /-- It accepts what the grammar says once spaces are trimmed, and gives what is spelled. -/
  ok_iff : ∀ s v, parse s = .ok v ↔ GroupID (trimSpace s) v.toNat
  /-- It fails on anything else. -/
  error_iff : ∀ s, (∃ err, parse s = .error err) ↔ ¬ ∃ n, GroupID (trimSpace s) n
  /-- What a string spells is unambiguous. -/
  unique : ∀ s n m, GroupID s n → GroupID s m → n = m
  /-- Decimal digits that spell too large a number are rejected. -/
  too_large : ∀ s, (∀ c ∈ trimSpace s, c.isDigit = true) → 65535 < digitsVal 10 0 (trimSpace s) →
    ∃ err, parse s = .error err
  /-- A number in decimal is read back, with any zeros in front. -/
  decimal : ∀ (n : UInt16) s, Numeral 10 s n.toNat → parse s = .ok n
  /-- So is a number in hexadecimal, in small letters or capitals. -/
  hex : ∀ (n : UInt16) s, Numeral 16 s n.toNat → parse ('0' :: 'x' :: s) = .ok n ∧ parse ('0' :: 'X' :: s) = .ok n
  /-- These are the numbers as they are usually written. -/
  written : ∀ n : UInt16,
    parse (Nat.toDigits 10 n.toNat) = .ok n ∧ parse ('0' :: 'x' :: Nat.toDigits 16 n.toNat) = .ok n

/-- **`parseGroupID` reads its grammar.** -/
theorem parseGroupID_reads_grammar : ReadsGroupID parseGroupID where
  ok_iff _ _ := parseGroupID_eq_ok_iff
  error_iff _ := parseGroupID_eq_error_iff
  unique _ _ _ hn hm := hn.unique hm
  too_large s hs hlarge := by
    rw [parseGroupID_eq_error_iff]
    rintro ⟨n, hn⟩
    rw [hn.value_of_isDigit hs] at hlarge
    exact absurd hn.le (not_le.mpr hlarge)
  decimal n s hs := GroupID.parse (.decimal hs (toNat_le n))
  hex n s hs := by
    constructor
    · exact GroupID.parse (.hexPrefixed (.inl rfl) hs (toNat_le n))
    · exact GroupID.parse (.hexPrefixed (.inr rfl) hs (toNat_le n))
  written n := by
    have hdec := numeral_toDigits (by decide : 1 < 10) (by decide) n.toNat
    have hhex := numeral_toDigits (by decide : 1 < 16) le_rfl n.toNat
    constructor
    · exact GroupID.parse (.decimal hdec (toNat_le n))
    · exact GroupID.parse (.hexPrefixed (.inl rfl) hhex (toNat_le n))

-- Zeros in front do not make a number hexadecimal; a letter does.
example : parseGroupID "0010".toList = .ok 10 ∧ parseGroupID "000B".toList = .ok 11 := by decide

/-- The group id of a configuration is the one that the flag spells. -/
theorem load_groupID {env : Env} {f : Flags} {cfg : Config} (h : load env f = .ok cfg) :
    GroupID (trimSpace f.mcGroupID.toList) cfg.mcGroupID.toNat := by
  have hgid := (load_eq_ok_iff.mp h).mcGroupID
  rw [← parseGroupID_eq_ok_iff]
  unfold checkGroupID at hgid
  split at hgid
  next hp => rw [hp, ← hgid]
  next => cases hgid

end RetryEndpoint.Config
