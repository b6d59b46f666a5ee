import RetryEndpoint.RateLimit.Limiter
import RetryEndpoint.Theory.Runs

/-!
# The tiers by their keys

The chain tier and the group tier keep their state under texts made of the source address and
a number, `"%s:%016x"` and `"%s:%d"`. The text of an IPv6 address has colons of its own.

## The model

An `Event` is a call of `AllowChain` or of `AllowGroup`, at an instant. Two addresses are equal,
as `net.IP.Equal` has it, when they are the same once an IPv4 address is written in its 16-byte
form (`ip16`). What is assumed of `net.IP.String` is that addresses with the same text are equal.

## What is proved

* `chainText_inj`, `groupText_inj` — the texts determine the address's text and the number.
* `tiers_independent` — so the verdicts on the calls for one address and one number are those of
  the run with only these calls.
-/

namespace RetryEndpoint.RateLimit

open Go Theory

/-! ### The keys -/

/-- A text is cut at the last separator in one way. -/
theorem append_cons_inj_of_last {α : Type} {c : α} {s s' t t' : List α} (ht : c ∉ t) (ht' : c ∉ t')
    (h : s ++ c :: t = s' ++ c :: t') : s = s' ∧ t = t' := by
  rcases List.append_eq_append_iff.mp h with ⟨a, rfl, ha⟩ | ⟨a, rfl, ha⟩
  · cases a with
    | nil => simpa using ha
    | cons x a =>
      obtain ⟨-, rfl⟩ := List.cons.inj ha
      simp at ht
  · cases a with
    | nil => simpa [eq_comm] using ha
    | cons x a =>
      obtain ⟨-, rfl⟩ := List.cons.inj ha
      simp at ht'

theorem hexDigit_inj : ∀ m < 16, ∀ n < 16, hexDigit m = hexDigit n → m = n := by decide

/-- Numbers with the same lower digits are the same modulo the power of the base. -/
theorem mod_pow_eq_of_digits {b m n k : ℕ} (h : ∀ i < k, m / b ^ i % b = n / b ^ i % b) : m % b ^ k = n % b ^ k := by
  induction k with
  | zero => simp [Nat.mod_one]
  | succ k ih =>
    rw [Nat.mod_pow_succ, Nat.mod_pow_succ, ih fun i hi => h i (Nat.lt_succ_of_lt hi), h k (Nat.lt_succ_self k)]

theorem hex16_inj {v w : UInt64} (h : hex16 v = hex16 w) : v = w := by
  have hdigit : ∀ i < 16, v.toNat / 16 ^ i % 16 = w.toNat / 16 ^ i % 16 := by
    intro i hi
    have hget := List.map_inj_left.mp h (15 - i) (by simp; omega)
    rw [Nat.sub_sub_self (by omega)] at hget
    exact hexDigit_inj _ (Nat.mod_lt _ (by decide)) _ (Nat.mod_lt _ (by decide)) hget
  have hmod := mod_pow_eq_of_digits hdigit
  rw [show 16 ^ 16 = 2 ^ 64 by norm_num, Nat.mod_eq_of_lt v.toNat_lt, Nat.mod_eq_of_lt w.toNat_lt] at hmod
  exact UInt64.toNat_inj.mp hmod

@[simp] theorem length_hex16 (v : UInt64) : (hex16 v).length = 16 := by simp [hex16]

/-- **The keys of the chain tier** determine the text of the address and the `HashKey`. -/
theorem chainText_inj {s s' : Bytes} {v w : UInt64} (h : s ++ ascii [':'] ++ hex16 v = s' ++ ascii [':'] ++ hex16 w) :
    s = s' ∧ v = w := by
  obtain ⟨hs, hv⟩ := List.append_inj' h (by simp)
  exact ⟨List.append_cancel_right hs, hex16_inj hv⟩

theorem colon_not_mem_decimal (v : UInt32) : 58 ∉ decimal v := by
  intro h
  obtain ⟨c, hc, hcolon⟩ := List.mem_map.mp h
  have hdigit : c.isDigit := Nat.isDigit_of_mem_toDigits (by decide) (by decide) hc
  obtain ⟨hlo, hhi⟩ := Char.isDigit_iff_toNat.mp hdigit
  have hn := congrArg UInt8.toNat hcolon
  rw [UInt8.toNat_ofNat'] at hn
  simp at hn hlo hhi
  omega

/-- **The keys of the group tier** determine the text of the address and the group. -/
theorem groupText_inj {s s' : Bytes} {v w : UInt32}
    (h : s ++ ascii [':'] ++ decimal v = s' ++ ascii [':'] ++ decimal w) : s = s' ∧ v = w := by
  rw [List.append_assoc, List.append_assoc] at h
  obtain ⟨hs, hv⟩ := append_cons_inj_of_last (colon_not_mem_decimal v) (colon_not_mem_decimal w) h
  exact ⟨hs, decimal_inj hv⟩

/-! ### Runs of calls -/

/-- What is assumed of `net.IP.String`: addresses with one text are equal. -/
def IPTextInjective (D : Deps) : Prop := ∀ ip ip', D.ipString ip = D.ipString ip' → ip16 ip = ip16 ip'

/-- The key of the chain tier determines the address and the `HashKey`. -/
theorem chainKey_inj {D : Deps} (hD : IPTextInjective D) {ip ip' : Bytes} {k k' : UInt64}
    (h : chainKey D ip k = chainKey D ip' k') : ip16 ip = ip16 ip' ∧ k = k' := by
  obtain ⟨htext, hk⟩ := chainText_inj h
  exact ⟨hD _ _ htext, hk⟩

/-- That of the group tier determines the address and the group. -/
theorem groupKey_inj {D : Deps} (hD : IPTextInjective D) {ip ip' : Bytes} {i i' : UInt32}
    (h : groupKey D ip i = groupKey D ip' i') : ip16 ip = ip16 ip' ∧ i = i' := by
  obtain ⟨htext, hi⟩ := groupText_inj h
  exact ⟨hD _ _ htext, hi⟩

/-- A call of one of the two tiers. -/
inductive TierCall where
  /-- `AllowChain`. -/
  | chain (srcIP : Bytes) (hashKey : UInt64)
  /-- `AllowGroup`. -/
  | group (srcIP : Bytes) (groupIdx : UInt32)

/-- A call, at an instant. -/
structure TierEvent where
  /-- The call. -/
  call : TierCall
  /-- The instant. -/
  time : Time

/-- The call is `AllowChain` for that address and `HashKey`. -/
def TierEvent.onChain (ip : Bytes) (hashKey : UInt64) (e : TierEvent) : Bool :=
  match e.call with
  | .chain srcIP k => decide (ip16 srcIP = ip16 ip ∧ k = hashKey)
  | .group _ _ => false

/-- The call is `AllowGroup` for that address and group. -/
def TierEvent.onGroup (ip : Bytes) (groupIdx : UInt32) (e : TierEvent) : Bool :=
  match e.call with
  | .chain _ _ => false
  | .group srcIP i => decide (ip16 srcIP = ip16 ip ∧ i = groupIdx)

namespace Limiter

variable {D : Deps}

/-- One call: the verdict, and the limiter after it. -/
def tierCall (l : Limiter D) (e : TierEvent) : Bool × Limiter D :=
  match e.call with
  | .chain srcIP hashKey => l.allowChain srcIP hashKey e.time
  | .group srcIP groupIdx => l.allowGroup srcIP groupIdx e.time

/-- The limiter after a run. -/
def tiersAfter (l : Limiter D) (es : List TierEvent) : Limiter D := runFrom (fun l e => (l.tierCall e).2) l es

/-- The verdicts of a run on the calls that `keep` selects, in order. -/
def verdictsOn (keep : TierEvent → Bool) (l : Limiter D) (es : List TierEvent) : List Bool :=
  seen (fun l e => (l.tierCall e).2) (fun l e => if keep e then some (l.tierCall e).1 else none) l es

/-- The two limiters agree on what the chain tier keeps for an address and a `HashKey`. -/
def AgreeOnChain (ip : Bytes) (hashKey : UInt64) (l l' : Limiter D) : Prop :=
  ∀ ip', ip16 ip' = ip16 ip → l.chainLimiter.Agree l'.chainLimiter (chainKey D ip' hashKey)

/-- They agree on what the group tier keeps for an address and a group. -/
def AgreeOnGroup (ip : Bytes) (groupIdx : UInt32) (l l' : Limiter D) : Prop :=
  ∀ ip', ip16 ip' = ip16 ip → l.groupLimiter.Agree l'.groupLimiter (groupKey D ip' groupIdx)

/-- The verdicts of the chain tier on one key do not depend on the other calls. -/
theorem chain_verdicts_filter (hD : IPTextInjective D) {ip : Bytes} {hashKey : UInt64} (hz : hashKey ≠ 0)
    (l : Limiter D) (es : List TierEvent) :
    l.verdictsOn (TierEvent.onChain ip hashKey) es =
      l.verdictsOn (TierEvent.onChain ip hashKey) (es.filter (TierEvent.onChain ip hashKey)) := by
  refine seen_filter (R := AgreeOnChain ip hashKey) ?_ ?_ ?_ (fun _ _ => .refl ..) es
  · rintro l l' ⟨call, t⟩ h
    cases call with
    | group => rfl
    | chain srcIP k =>
      by_cases hk : ip16 srcIP = ip16 ip ∧ k = hashKey
      · obtain ⟨hip, rfl⟩ := hk
        simp only [tierCall, allowChain, if_neg hz, (h srcIP hip).allow_fst t]
      · simp [TierEvent.onChain, hk]
  · rintro l l' ⟨call, t⟩ h hkeep ip' hip'
    cases call with
    | group => cases hkeep
    | chain srcIP k =>
      obtain ⟨-, rfl⟩ := of_decide_eq_true hkeep
      simp only [tierCall, allowChain, if_neg hz]
      exact (h ip' hip').allow ..
  · rintro l l' ⟨call, t⟩ h hskip
    refine ⟨by simp [hskip], fun ip' hip' => ?_⟩
    cases call with
    | group => exact h ip' hip'
    | chain srcIP k =>
      by_cases hk : k = 0
      · simpa only [tierCall, allowChain, if_pos hk] using h ip' hip'
      · -- the key is that of another address or of another `HashKey`
        have hne : chainKey D srcIP k ≠ chainKey D ip' hashKey := by
          intro heq
          obtain ⟨hip, hkey⟩ := chainKey_inj hD heq
          exact of_decide_eq_false hskip ⟨hip.trans hip', hkey⟩
        simp only [tierCall, allowChain, if_neg hk]
        exact (h ip' hip').skip hne t

/-- Nor do those of the group tier. -/
theorem group_verdicts_filter (hD : IPTextInjective D) (ip : Bytes) (groupIdx : UInt32) (l : Limiter D)
    (es : List TierEvent) :
    l.verdictsOn (TierEvent.onGroup ip groupIdx) es =
      l.verdictsOn (TierEvent.onGroup ip groupIdx) (es.filter (TierEvent.onGroup ip groupIdx)) := by
  refine seen_filter (R := AgreeOnGroup ip groupIdx) ?_ ?_ ?_ (fun _ _ => .refl ..) es
  · rintro l l' ⟨call, t⟩ h
    cases call with
    | chain => rfl
    | group srcIP i =>
      by_cases hi : ip16 srcIP = ip16 ip ∧ i = groupIdx
      · obtain ⟨hip, rfl⟩ := hi
        simp only [tierCall, allowGroup, (h srcIP hip).allow_fst t]
      · simp [TierEvent.onGroup, hi]
  · rintro l l' ⟨call, t⟩ h hkeep ip' hip'
    cases call with
    | chain => cases hkeep
    | group srcIP i => exact (h ip' hip').allow ..
  · rintro l l' ⟨call, t⟩ h hskip
    refine ⟨by simp [hskip], fun ip' hip' => ?_⟩
    cases call with
    | chain srcIP k =>
      have hsame : (l.tierCall ⟨.chain srcIP k, t⟩).2.groupLimiter = l.groupLimiter := by
        simp only [tierCall, allowChain]
        split_ifs <;> rfl
      rw [hsame]
      exact h ip' hip'
    | group srcIP i =>
      have hne : groupKey D srcIP i ≠ groupKey D ip' groupIdx := by
        intro heq
        obtain ⟨hip, hidx⟩ := groupKey_inj hD heq
        exact of_decide_eq_false hskip ⟨hip.trans hip', hidx⟩
      exact (h ip' hip').skip hne t

/-- A run in which the two tiers keep their keys apart. -/
structure Independent (l : Limiter D) (es : List TierEvent) : Prop where
  /-- The verdicts on one address and `HashKey` are those of the run with these calls only. -/
  chain : ∀ ip hashKey, hashKey ≠ 0 → l.verdictsOn (TierEvent.onChain ip hashKey) es =
    l.verdictsOn (TierEvent.onChain ip hashKey) (es.filter (TierEvent.onChain ip hashKey))
  /-- So are those on one address and group. -/
  group : ∀ ip groupIdx, l.verdictsOn (TierEvent.onGroup ip groupIdx) es =
    l.verdictsOn (TierEvent.onGroup ip groupIdx) (es.filter (TierEvent.onGroup ip groupIdx))
  /-- A `HashKey` of zero is admitted and changes nothing. -/
  zero : ∀ pre post ip t, es = pre ++ ⟨.chain ip 0, t⟩ :: post →
    (l.tiersAfter pre).tierCall ⟨.chain ip 0, t⟩ = (true, l.tiersAfter pre)
  /-- The keys of the chain tier are apart, for all texts. -/
  chain_keys : ∀ (s s' : Bytes) (v w : UInt64),
    s ++ ascii [':'] ++ hex16 v = s' ++ ascii [':'] ++ hex16 w → s = s' ∧ v = w
  /-- So are those of the group tier. -/
  group_keys : ∀ (s s' : Bytes) (v w : UInt32),
    s ++ ascii [':'] ++ decimal v = s' ++ ascii [':'] ++ decimal w → s = s' ∧ v = w

/-- **The chain tier and the group tier are independent from key to key**, from any state of the
limiter on. -/
theorem tiers_independent (hD : IPTextInjective D) (l : Limiter D) (es : List TierEvent) : l.Independent es where
  chain _ _ hz := chain_verdicts_filter hD hz l es
  group ip groupIdx := group_verdicts_filter hD ip groupIdx l es
  zero _ _ _ _ _ := rfl
  chain_keys _ _ _ _ := chainText_inj
  group_keys _ _ _ _ := groupText_inj

/-- `2001:db8::1`. -/
def listener : Bytes := [0x20, 0x01, 0x0d, 0xb8, 0, 0, 0, 0, 0, 0, 0, 0, 0, 0, 0, 1]

/-- `2001:db8::1:2`. -/
def longer : Bytes := [0x20, 0x01, 0x0d, 0xb8, 0, 0, 0, 0, 0, 0, 0, 0, 0, 1, 0, 2]

/-- The texts of the two, and for other addresses their bytes behind one that is in no text. -/
def textOf (ip : Bytes) : Bytes :=
  if ip = listener then bytesOf "2001:db8::1" else if ip = longer then bytesOf "2001:db8::1:2" else 0 :: ip

/-- The address of a text. -/
def ofText (text : Bytes) : Bytes :=
  if text = bytesOf "2001:db8::1" then listener else if text = bytesOf "2001:db8::1:2" then longer else text.tail

theorem ofText_textOf (ip : Bytes) : ofText (textOf ip) = ip := by
  have hne {text : Bytes} (ht : text.head? = some 50) : 0 :: ip ≠ text := by
    rintro rfl
    cases ht
  unfold textOf
  split_ifs with h₁ h₂
  · rw [h₁]
    decide
  · rw [h₂]
    decide
  · rw [ofText, if_neg (hne (by decide)), if_neg (hne (by decide))]
    rfl

/-- The stand-ins of `countdown`, with these texts. -/
def withTexts : Deps := { countdown with ipString := textOf }

theorem ipTextInjective_withTexts : IPTextInjective withTexts := by
  intro ip ip' (h : textOf ip = textOf ip')
  rw [← ofText_textOf ip, h, ofText_textOf]

/-- Two sources, the text of one being the text of the other with a number behind it. -/
theorem tiers_independent_of_colons :
    textOf longer = textOf listener ++ ascii [':'] ++ decimal 2 ∧
      (newLimiter withTexts ⟨100, 10, 0, 0, 500, minute, 100, minute, 200, 50⟩).Independent
        [⟨.group listener 2, 0⟩, ⟨.group longer 3, 1⟩, ⟨.chain listener 7, 2⟩, ⟨.chain listener 0, 3⟩] :=
  ⟨by decide, tiers_independent ipTextInjective_withTexts ..⟩

end Limiter

end RetryEndpoint.RateLimit
