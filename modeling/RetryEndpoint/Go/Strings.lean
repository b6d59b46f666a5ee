import RetryEndpoint.Go.Bytes

/-!
# Strings

What a program uses of Go's `strings`, `strconv` and `fmt` to read its configuration and
to say what is wrong with it. A string is a list of characters while it is taken apart.

## The model

`parseUint` is the loop of `strconv.ParseUint` for a base that is given: it stops at the
first character that is not a digit of the base, and also at the first point at which the
number is too large, whatever follows. `Numeral` says what is to be read, without the loop.
`quote` is `%q` and `durationString` is `%s` of a `time.Duration`.

## What is proved

* `parseUint_eq_ok_iff` — `ParseUint` accepts the numerals of the base that fit, and gives what
  they spell.
* `digitsVal_le` — the same digits spell no smaller number in a greater base.
* `numeral_toDigits` — the digits of a number spell it.
-/

namespace RetryEndpoint.Go

/-- `unicode.IsSpace`. -/
def isSpace (c : Char) : Bool :=
  let n := c.toNat
  (9 ≤ n && n ≤ 13) || n == 0x20 || n == 0x85 || n == 0xA0 || n == 0x1680 || (0x2000 ≤ n && n ≤ 0x200A) ||
    n == 0x2028 || n == 0x2029 || n == 0x202F || n == 0x205F || n == 0x3000

/-- `strings.TrimSpace`. -/
def trimSpace (s : List Char) : List Char := ((s.dropWhile isSpace).reverse.dropWhile isSpace).reverse

/-- Where there is no space, nothing is trimmed. -/
theorem trimSpace_eq_self {s : List Char} (h : ∀ c ∈ s, isSpace c = false) : trimSpace s = s := by
  have hdrop : ∀ {t : List Char}, (∀ c ∈ t, isSpace c = false) → t.dropWhile isSpace = t := by
    intro t ht
    cases t with
    | nil => rfl
    | cons c t => rw [List.dropWhile_cons, if_neg (by simp [ht c])]
  rw [trimSpace, hdrop h, hdrop (by simpa using h), List.reverse_reverse]

/-! ### Numbers -/

/-- The value of a digit, in any base up to 36. -/
def digitVal (c : Char) : Option ℕ :=
  let n := c.toNat
  if 48 ≤ n ∧ n ≤ 57 then some (n - 48)
  else if 97 ≤ n ∧ n ≤ 122 then some (n - 97 + 10)
  else if 65 ≤ n ∧ n ≤ 90 then some (n - 65 + 10)
  else none

/-- Why a number is not read. -/
inductive NumErr where
  /-- `ErrSyntax`. -/
  | errSyntax
  /-- `ErrRange`. -/
  | errRange
  deriving DecidableEq

/-- The loop of `ParseUint`, with `n` read so far. -/
def parseDigits (base maxVal : ℕ) : ℕ → List Char → Except NumErr ℕ
  | n, [] => .ok n
  | n, c :: cs =>
    match digitVal c with
    | none => .error .errSyntax
    | some d =>
      if base ≤ d then .error .errSyntax
      else if maxVal < n * base + d then .error .errRange
      else parseDigits base maxVal (n * base + d) cs

/-- `strconv.ParseUint(s, base, bitSize)`, for a base from 2 to 36. -/
def parseUint (s : List Char) (base bitSize : ℕ) : Except NumErr ℕ :=
  if s = [] then .error .errSyntax else parseDigits base (2 ^ bitSize - 1) 0 s

/-! ### What `ParseUint` accepts -/

/-- Whether a character is a digit of a base. -/
def isDigitOf (base : ℕ) (c : Char) : Bool := (digitVal c).any (· < base)

/-- The number that digits spell after `n`. -/
def digitsVal (base n : ℕ) (s : List Char) : ℕ := s.foldl (fun n c => n * base + (digitVal c).getD 0) n

/-- `Numeral base s n`: the string `s` is one or more digits of the base, and they spell `n`. -/
structure Numeral (base : ℕ) (s : List Char) (n : ℕ) : Prop where
  /-- There is a digit. -/
  ne_nil : s ≠ []
  /-- There is nothing else. -/
  digits : ∀ c ∈ s, isDigitOf base c = true
  /-- The number. -/
  value : digitsVal base 0 s = n

theorem Numeral.unique {base : ℕ} {s : List Char} {n m : ℕ} (hn : Numeral base s n) (hm : Numeral base s m) :
    n = m := hn.value.symm.trans hm.value

theorem isDigitOf_iff {base : ℕ} {c : Char} : isDigitOf base c = true ↔ ∃ d, digitVal c = some d ∧ d < base := by
  simp [isDigitOf, Option.any_eq_true]

/-- A digit of a base is one of every greater base. -/
theorem isDigitOf_mono {base base' : ℕ} (h : base ≤ base') {c : Char} (hc : isDigitOf base c = true) :
    isDigitOf base' c = true := by
  obtain ⟨d, hd, hlt⟩ := isDigitOf_iff.mp hc
  exact isDigitOf_iff.mpr ⟨d, hd, hlt.trans_le h⟩

/-- Further digits do not make a number smaller. -/
theorem le_digitsVal {base : ℕ} (hb : 0 < base) (n : ℕ) (s : List Char) : n ≤ digitsVal base n s := by
  induction s generalizing n with
  | nil => exact le_rfl
  | cons c s ih =>
    calc
      n ≤ n * base := Nat.le_mul_of_pos_right n hb
      _ ≤ n * base + (digitVal c).getD 0 := Nat.le_add_right _ _
      _ ≤ digitsVal base n (c :: s) := ih _

/-- The same digits spell no smaller number in a greater base. -/
theorem digitsVal_le {base base' n n' : ℕ} (hb : base ≤ base') (hn : n ≤ n') (s : List Char) :
    digitsVal base n s ≤ digitsVal base' n' s := by
  induction s generalizing n n' with
  | nil => exact hn
  | cons c s ih =>
    apply ih
    exact Nat.add_le_add_right (Nat.mul_le_mul hn hb) _

/-- The loop of `ParseUint` gives up too early on no number that fits: what it has read is no
greater than the number. -/
theorem parseDigits_eq_ok_iff {base maxVal n m : ℕ} (hb : 0 < base) (hn : n ≤ maxVal) {s : List Char} :
    parseDigits base maxVal n s = .ok m ↔
      (∀ c ∈ s, isDigitOf base c = true) ∧ digitsVal base n s = m ∧ m ≤ maxVal := by
  induction s generalizing n with
  | nil =>
    simp only [parseDigits, Except.ok.injEq, List.not_mem_nil, false_implies, implies_true, true_and]
    constructor
    · rintro rfl
      exact ⟨rfl, hn⟩
    · rintro ⟨h, -⟩
      exact h
  | cons c s ih =>
    rw [List.forall_mem_cons, isDigitOf_iff, parseDigits]
    cases hc : digitVal c with
    | none => simp
    | some d =>
      have hstep : digitsVal base n (c :: s) = digitsVal base (n * base + d) s := by
        rw [digitsVal, List.foldl_cons, hc]
        rfl
      rw [hstep]
      dsimp only
      split_ifs with hd hmax
      · simp [not_lt.mpr hd]
      · have hle := le_digitsVal hb (n * base + d) s
        constructor
        · intro h
          cases h
        · rintro ⟨-, rfl, hm⟩
          omega
      · rw [ih (not_lt.mp hmax)]
        simp [not_le.mp hd]

/-- **What `ParseUint` accepts** is the numerals that fit. -/
theorem parseUint_eq_ok_iff {s : List Char} {base bitSize n : ℕ} (hb : 0 < base) :
    parseUint s base bitSize = .ok n ↔ Numeral base s n ∧ n < 2 ^ bitSize := by
  have hpos : 0 < 2 ^ bitSize := Nat.pow_pos (by decide)
  unfold parseUint
  split_ifs with hs
  · constructor
    · intro h
      cases h
    · rintro ⟨h, -⟩
      exact absurd hs h.ne_nil
  · rw [parseDigits_eq_ok_iff hb (Nat.zero_le _)]
    constructor
    · rintro ⟨hd, hv, hle⟩
      exact ⟨⟨hs, hd, hv⟩, by omega⟩
    · rintro ⟨h, hlt⟩
      exact ⟨h.digits, h.value, by omega⟩

theorem digitVal_digitChar {d : ℕ} (h : d < 16) : digitVal d.digitChar = some d := by
  have key : ∀ d < 16, digitVal (Nat.digitChar d) = some d := by decide
  exact key d h

theorem isDigitOf_digitChar {base d : ℕ} (hb : base ≤ 16) (h : d < base) : isDigitOf base d.digitChar = true :=
  isDigitOf_iff.mpr ⟨d, digitVal_digitChar (h.trans_le hb), h⟩

theorem numeral_digitChar {base d : ℕ} (hb : base ≤ 16) (h : d < base) : Numeral base [d.digitChar] d where
  ne_nil := by simp
  digits := by simpa using isDigitOf_digitChar hb h
  value := by simp [digitsVal, digitVal_digitChar (h.trans_le hb)]

/-- A further digit. -/
theorem Numeral.snoc {base n d : ℕ} {s : List Char} (hs : Numeral base s n) (hb : base ≤ 16) (h : d < base) :
    Numeral base (s ++ [d.digitChar]) (n * base + d) where
  ne_nil := by simp
  digits := by
    intro c hc
    rcases List.mem_append.mp hc with hc | hc
    · exact hs.digits c hc
    · rw [List.mem_singleton.mp hc]
      exact isDigitOf_digitChar hb h
  value := by
    have hv := hs.value
    rw [digitsVal] at hv ⊢
    rw [List.foldl_append, hv]
    simp [digitVal_digitChar (h.trans_le hb)]

/-- The digits of a number are a numeral that spells it. -/
theorem numeral_toDigits {base : ℕ} (hb : 1 < base) (hb' : base ≤ 16) (n : ℕ) : Numeral base (base.toDigits n) n := by
  induction n using Nat.strong_induction_on with
  | h n ih =>
    rw [Nat.toDigits_eq_if hb]
    split_ifs with hlt
    · exact numeral_digitChar hb' hlt
    · have hquot := ih (n / base) (Nat.div_lt_self (by omega) hb)
      have hsnoc := hquot.snoc hb' (Nat.mod_lt n (by omega))
      rwa [Nat.div_add_mod'] at hsnoc

/-! ### Decimal and hexadecimal digits -/

/-- A digit is a decimal digit or a letter. -/
theorem toNat_of_digitVal {c : Char} {d : ℕ} (h : digitVal c = some d) :
    (c.toNat = 48 + d ∧ d < 10) ∨ ((c.toNat = 87 + d ∨ c.toNat = 55 + d) ∧ 10 ≤ d ∧ d < 36) := by
  simp only [digitVal] at h
  split_ifs at h <;> have := Option.some.inj h <;> omega

theorem isAlpha_iff_range {c : Char} :
    c.isAlpha = true ↔ (65 ≤ c.toNat ∧ c.toNat ≤ 90) ∨ 97 ≤ c.toNat ∧ c.toNat ≤ 122 := by
  change (decide (65 ≤ c.val ∧ c.val ≤ 90) || (decide (97 ≤ c.val) && decide (c.val ≤ 122))) = true ↔ _
  simp [UInt32.le_iff_toNat_le]

theorem isDigitOf_ten (c : Char) : isDigitOf 10 c = c.isDigit := by
  rw [Bool.eq_iff_iff, isDigitOf_iff, Char.isDigit_iff_toNat]
  change _ ↔ 48 ≤ c.toNat ∧ c.toNat ≤ 57
  constructor
  · rintro ⟨d, hd, hlt⟩
    have := toNat_of_digitVal hd
    omega
  · intro h
    exact ⟨c.toNat - 48, if_pos h, by omega⟩

/-- A hexadecimal digit is a letter or a decimal digit, and not both. -/
theorem isAlpha_iff_not_isDigit {c : Char} (h : isDigitOf 16 c = true) : c.isAlpha = true ↔ ¬ c.isDigit = true := by
  obtain ⟨d, hd, hlt⟩ := isDigitOf_iff.mp h
  have := toNat_of_digitVal hd
  rw [isAlpha_iff_range, Char.isDigit_iff_toNat]
  change _ ↔ ¬ (48 ≤ c.toNat ∧ c.toNat ≤ 57)
  omega

/-- No digit is a space. -/
theorem isSpace_of_isDigitOf {base : ℕ} {c : Char} (h : isDigitOf base c = true) : isSpace c = false := by
  obtain ⟨d, hd, -⟩ := isDigitOf_iff.mp h
  have := toNat_of_digitVal hd
  simp only [isSpace, Bool.or_eq_false_iff, Bool.and_eq_false_iff, decide_eq_false_iff_not, beq_eq_false_iff_ne]
  omega

theorem Numeral.isSpace {base n : ℕ} {s : List Char} (h : Numeral base s n) : ∀ c ∈ s, isSpace c = false := by
  intro c hc
  exact isSpace_of_isDigitOf (h.digits c hc)

/-- A capital letter is made small, anything else is left. -/
theorem toNat_toLower (c : Char) :
    c.toLower.toNat = if 65 ≤ c.toNat ∧ c.toNat ≤ 90 then c.toNat + 32 else c.toNat := by
  unfold Char.toLower
  split_ifs with h h' h'
  · change (c.val + 32).toNat = c.toNat + 32
    rw [UInt32.toNat_add]
    change (c.toNat + 32) % 2 ^ 32 = c.toNat + 32
    omega
  · exact absurd h h'
  · exact absurd h' h
  · rfl

/-! ### Texts -/

/-- A number in decimal. -/
def decimalString (n : ℕ) : String := String.ofList (Nat.toDigits 10 n)

/-- `%d` of an `int`. -/
def intString (n : ℤ) : String := (if n < 0 then "-" else "") ++ decimalString n.natAbs

/-- How `%q` writes a character. -/
def quoteChar (c : Char) : List Char :=
  let hex (n : ℕ) : Char := if n < 10 then Char.ofNat (48 + n) else Char.ofNat (87 + n)
  if c = '"' then ['\\', '"']
  else if c = '\\' then ['\\', '\\']
  else if c.toNat = 7 then ['\\', 'a']
  else if c.toNat = 8 then ['\\', 'b']
  else if c.toNat = 12 then ['\\', 'f']
  else if c = '\n' then ['\\', 'n']
  else if c = '\r' then ['\\', 'r']
  else if c = '\t' then ['\\', 't']
  else if c.toNat = 11 then ['\\', 'v']
  else if c.toNat < 32 ∨ c.toNat = 127 then ['\\', 'x', hex (c.toNat / 16), hex (c.toNat % 16)]
  else [c]

/-- `fmt.Sprintf("%q", s)`, for a string whose characters beyond ASCII are printable. -/
def quote (s : List Char) : String := String.ofList (['"'] ++ s.flatMap quoteChar ++ ['"'])

/-- The error of `ParseUint`. -/
def NumErr.text (s : List Char) : NumErr → String
  | .errSyntax => "strconv.ParseUint: parsing " ++ quote s ++ ": invalid syntax"
  | .errRange => "strconv.ParseUint: parsing " ++ quote s ++ ": value out of range"

/-- `n / 10 ^ prec` in decimal, without the zeros at its end. -/
def fracString (n prec : ℕ) : String :=
  let digits := Nat.toDigits 10 (n % 10 ^ prec)
  let padded := List.replicate (prec - digits.length) '0' ++ digits
  let kept := (padded.reverse.dropWhile (· = '0')).reverse
  decimalString (n / 10 ^ prec) ++ if kept = [] then "" else String.ofList ('.' :: kept)

/-- `time.Duration.String`. -/
def durationString (d : Duration) : String :=
  let u := d.natAbs
  let seconds := fracString (u % 60000000000) 9 ++ "s"
  let minutes := u / 60000000000
  let body :=
    if u = 0 then "0s"
    else if u < 1000 then decimalString u ++ "ns"
    else if u < 1000000 then fracString u 3 ++ "µs"
    else if u < 1000000000 then fracString u 6 ++ "ms"
    else if minutes = 0 then seconds
    else if minutes < 60 then decimalString minutes ++ "m" ++ seconds
    else decimalString (minutes / 60) ++ "h" ++ decimalString (minutes % 60) ++ "m" ++ seconds
  (if d < 0 then "-" else "") ++ body

end RetryEndpoint.Go
