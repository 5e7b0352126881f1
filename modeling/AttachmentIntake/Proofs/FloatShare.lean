import AttachmentIntake.Signature
import Mathlib

/-! Shares in floating point. The quotient of two numbers of characters is rounded to 53 bits, and so
is the limit of 80 percent that it is compared with. Rounding is off by less than the least distance
between such a quotient and four fifths, so the comparison comes out as if there was none. -/

namespace AttachmentIntake.FloatingPoint

open Float.Model Float.Model.UnpackedFloat

/-- A positive number with this mantissa and exponent. -/
def Holds (x : UnpackedFloat) (mantissa : Nat) (exponent : Int) : Prop :=
  ∃ h, x = .finite .positive mantissa exponent h

theorem lt_iff {x y : UnpackedFloat} {m m' : Nat} {e e' : Int} (hx : Holds x m e)
    (hy : Holds y m' e') : x.lt y = true ↔ e < e' ∨ (e = e' ∧ m < m') := by
  obtain ⟨hm, rfl⟩ := hx
  obtain ⟨hm', rfl⟩ := hy
  have hcompare : (UnpackedFloat.finite .positive m e hm).lt (.finite .positive m' e' hm') = true ↔
      (compare e e').then (compare m m') = .lt := by
    simp [UnpackedFloat.lt, UnpackedFloat.compare]
  rw [hcompare, Ordering.then_eq_lt, Int.compare_eq_lt, Int.compare_eq_eq, Nat.compare_eq_lt]

theorem log2_eq {m : Nat} (h : 2 ^ 52 ≤ m) (h' : m < 2 ^ 53) : m.log2 = 52 :=
  (Nat.log2_eq_iff (by omega)).mpr ⟨h, h'⟩

/-! ### Packing and rounding -/

/-- A number with a mantissa of 53 bits survives being packed into 64 bits. -/
theorem unpack_pack {m : Nat} {e : Int} (hm : 2 ^ 52 ≤ m) (hm' : m < 2 ^ 53) (he : -1000 ≤ e)
    (he' : e ≤ 100) (h : 0 < m) :
    (Float.Model.pack (.finite .positive m e h)).unpack = .finite .positive m e h := by
  have hlog := log2_eq hm hm'
  obtain ⟨b, hb⟩ : ∃ b : Nat, (b : Int) = e + 1075 := ⟨(e + 1075).toNat, by omega⟩
  have hbias : (e + (Format.binary64.exponentBias : Int) +
      (Format.binary64.mantissaBitsWithoutImplicit : Int)).toNat = b := by
    simp [Format.exponentBias]
    omega
  have htop : BitVec.ofNat 11 b ≠ -1#11 := by
    intro heq
    have hnat := congrArg BitVec.toNat heq
    simp at hnat
    omega
  have hlow : BitVec.ofNat 11 b ≠ 0#11 := by
    intro heq
    have hnat := congrArg BitVec.toNat heq
    simp at hnat
    omega
  have hmantissa : (1#1 ++ BitVec.ofNat 52 m).toNat = m := by
    have hbits : (BitVec.ofNat 52 m).toNat = m - 2 ^ 52 := by
      rw [BitVec.toNat_ofNat]
      omega
    rw [BitVec.toNat_append, hbits, Nat.shiftLeft_eq, Nat.mul_comm,
      ← Nat.two_pow_add_eq_or_of_lt (by omega)]
    simp
    omega
  have hexponent : ((BitVec.ofNat 11 b).toNat : Int) -
      ((Format.binary64.exponentBias : Int) + ((52 : Nat) : Int)) = e := by
    simp [Format.exponentBias]
    omega
  unfold Float.Model.pack Float.Model.unpack
  simp only [UnpackedFloat.pack, hlog, hbias]
  rw [if_neg (by simp; omega), if_pos (by simp [Format.mantissaBits])]
  simp only [UnpackedFloat.unpack, unpackExponent_packComponents, unpackMantissa_packComponents,
    unpackSign_packComponents]
  rw [if_neg htop, if_neg hlow]
  simp only [hmantissa, hexponent]
  rfl

theorem targetExponent_eq {m k : Nat} {e : Int} (hm : m.log2 = 52 + k) (he : -1000 ≤ e) :
    Format.binary64.targetExponent (totalExponent m e) = e + k := by
  simp [Format.targetExponent, totalExponent, Format.mantissaBits, Format.minExponent, hm]
  omega

theorem shiftToTargetExponent_eq {m k : Nat} {e : Int} (hm : m.log2 = 52 + k) (he : -1000 ≤ e)
    (acc : Accuracy) : shiftToTargetExponent .binary64 m e acc =
      (ExtendedMantissa.ofMantissaAndAccuracy m acc >>> k, e + k) := by
  have hk : (e + (k : Int) - e).toNat = k := by omega
  simp only [shiftToTargetExponent, shiftToExponent, targetExponent_eq hm he, hk]

theorem mantissa_ofMantissaAndAccuracy (m : Nat) (acc : Accuracy) :
    (ExtendedMantissa.ofMantissaAndAccuracy m acc).mantissa = m := by
  cases acc with
  | exact => rfl
  | inexact o => cases o <;> rfl

theorem shift_zero (em : ExtendedMantissa) : em >>> 0 = em := rfl

theorem shift_one (em : ExtendedMantissa) : em >>> 1 = em.shiftRightOne := rfl

theorem mantissa_shift (m : Nat) (acc : Accuracy) {k : Nat} (hk : k ≤ 1) :
    (ExtendedMantissa.ofMantissaAndAccuracy m acc >>> k).mantissa = m / 2 ^ k := by
  interval_cases k
  · rw [shift_zero, mantissa_ofMantissaAndAccuracy, Nat.pow_zero, Nat.div_one]
  · rw [shift_one, ExtendedMantissa.shiftRightOne, mantissa_ofMantissaAndAccuracy, Nat.pow_one]

theorem roundedMantissa_bounds (em : ExtendedMantissa) :
    em.mantissa ≤ em.roundedMantissa ∧ em.roundedMantissa ≤ em.mantissa + 1 := by
  obtain ⟨m, r, s⟩ := em
  cases r <;> cases s <;>
    simp [ExtendedMantissa.roundedMantissa, ExtendedMantissa.accuracy, Accuracy.roundToNearestEven]
  omega

theorem holds_of_shifted {q : Nat} {e f : Int} {acc : Accuracy} {em : ExtendedMantissa}
    (h : shiftToTargetExponent .binary64 q e acc = (em, f)) (hlow : 2 ^ 52 ≤ em.roundedMantissa)
    (hhigh : em.roundedMantissa < 2 ^ 53) (hf : -1000 ≤ f) :
    Holds (roundWithAccuracy .binary64 .positive q e acc) em.roundedMantissa f := by
  have hsecond := shiftToTargetExponent_eq (k := 0) (log2_eq hlow hhigh) hf .exact
  refine ⟨by omega, ?_⟩
  simp only [roundWithAccuracy, h, hsecond]
  rw [dif_neg (by rw [shift_zero, mantissa_ofMantissaAndAccuracy]; omega)]
  simp only [shift_zero, mantissa_ofMantissaAndAccuracy, Int.natCast_zero, Int.add_zero]

theorem holds_round_exact {q : Nat} {e : Int} (hlow : 2 ^ 52 ≤ q) (hhigh : q < 2 ^ 53)
    (he : -1000 ≤ e) : Holds (roundWithAccuracy .binary64 .positive q e .exact) q e := by
  have hfirst := shiftToTargetExponent_eq (k := 0) (log2_eq hlow hhigh) he .exact
  rw [Int.natCast_zero, Int.add_zero] at hfirst
  exact holds_of_shifted hfirst hlow hhigh he

/-- A mantissa that is at most one bit too long is rounded by at most one unit. If that makes it
too long again, it is a power of two. -/
theorem exists_holds_round {q k : Nat} {e : Int} (hq : q.log2 = 52 + k) (hk : k ≤ 1)
    (he : -1000 ≤ e) (acc : Accuracy) : ∃ r, q / 2 ^ k ≤ r ∧ r ≤ q / 2 ^ k + 1 ∧
      (r < 2 ^ 53 → Holds (roundWithAccuracy .binary64 .positive q e acc) r (e + k)) ∧
      (2 ^ 53 ≤ r → Holds (roundWithAccuracy .binary64 .positive q e acc) (2 ^ 52) (e + k + 1)) := by
  have hne : q ≠ 0 := by
    rintro rfl
    simp at hq
    omega
  obtain ⟨hlow, hhigh⟩ := (Nat.log2_eq_iff hne).mp hq
  have hbounds : 2 ^ 52 ≤ q / 2 ^ k ∧ q / 2 ^ k < 2 ^ 53 := by
    interval_cases k <;> omega
  have hfirst := shiftToTargetExponent_eq hq he acc
  have hmantissa := mantissa_shift q acc hk
  generalize ExtendedMantissa.ofMantissaAndAccuracy q acc >>> k = em at hfirst hmantissa
  obtain ⟨hle, hle'⟩ := roundedMantissa_bounds em
  rw [hmantissa] at hle hle'
  refine ⟨em.roundedMantissa, hle, hle', fun hr => ?_, fun hr => ?_⟩
  · exact holds_of_shifted hfirst (by omega) hr (by omega)
  · have hmax : em.roundedMantissa = 2 ^ 53 := by omega
    have hlog : (2 ^ 53).log2 = 52 + 1 := Nat.log2_two_pow
    have hsecond := shiftToTargetExponent_eq (k := 1) (e := e + k) hlog (by omega) .exact
    refine ⟨by decide, ?_⟩
    simp only [roundWithAccuracy, hfirst, hmax, hsecond]
    rfl

/-! ### Natural numbers and their quotients -/

/-- The mantissa of a natural number of at most 53 bits. -/
def mantissa (n : Nat) : Nat := n * 2 ^ (52 - n.log2)

theorem mantissa_bounds {n : Nat} (hpos : 0 < n) (h : n < 2 ^ 53) :
    2 ^ 52 ≤ mantissa n ∧ mantissa n < 2 ^ 53 := by
  have hlog : n.log2 < 53 := (Nat.log2_lt (by omega)).mpr h
  obtain ⟨hlow, hhigh⟩ := (Nat.log2_eq_iff (by omega : n ≠ 0)).mp rfl
  have hfull : 2 ^ n.log2 * 2 ^ (52 - n.log2) = 2 ^ 52 := by
    rw [← Nat.pow_add]
    congr 1
    omega
  have htwice : 2 ^ (n.log2 + 1) * 2 ^ (52 - n.log2) = 2 ^ 53 := by
    rw [Nat.pow_succ, Nat.mul_right_comm, hfull]
    rfl
  unfold mantissa
  constructor
  · rw [← hfull]
    exact Nat.mul_le_mul_right _ hlow
  · rw [← htwice]
    exact Nat.mul_lt_mul_of_pos_right hhigh (Nat.two_pow_pos _)

theorem mantissa_mul {p n : Nat} (hpn : p.log2 ≤ n.log2) (hn : n.log2 ≤ 52) :
    mantissa p * n = mantissa n * p * 2 ^ (n.log2 - p.log2) := by
  have hsplit : 52 - p.log2 = (52 - n.log2) + (n.log2 - p.log2) := by omega
  rw [mantissa, mantissa, hsplit, Nat.pow_add]
  ring

/-- Numbers of at most 53 bits are not rounded. -/
theorem holds_ofNat {n : Nat} (hpos : 0 < n) (h : n < 2 ^ 53) :
    Holds n.toUInt64.toFloat.toModel.unpack (mantissa n) (n.log2 - 52) := by
  obtain ⟨hlow, hhigh⟩ := mantissa_bounds hpos h
  have hlog : n.log2 < 53 := (Nat.log2_lt (by omega)).mpr h
  have htarget : Format.binary64.targetExponent (totalExponent n 0) = (n.log2 : Int) - 52 := by
    simp [Format.targetExponent, totalExponent, Format.mantissaBits, Format.minExponent]
    omega
  have hshift : ((0 : Int) - ((n.log2 : Int) - 52)).toNat = 52 - n.log2 := by omega
  have hexponent : (0 : Int) - ((52 - n.log2 : Nat) : Int) = n.log2 - 52 := by omega
  have hround : UnpackedFloat.ofNat .binary64 n =
      roundWithAccuracy .binary64 .positive (mantissa n) (n.log2 - 52) .exact := by
    unfold UnpackedFloat.ofNat UnpackedFloat.ofInt UnpackedFloat.normalize
    rw [Int.compare_eq_gt.mpr (by omega)]
    simp only [Int.toNat_natCast, UnpackedFloat.round, htarget, decreaseExponent, hshift, hexponent,
      Nat.shiftLeft_eq, mantissa]
  have hsame : n.toUInt64.toNat = n := by
    simp
    omega
  obtain ⟨hm, hfinite⟩ := holds_round_exact hlow hhigh (e := n.log2 - 52) (by omega)
  refine ⟨hm, ?_⟩
  change (Float.Model.pack (UnpackedFloat.ofNat .binary64 n.toUInt64.toNat)).unpack = _
  rw [hsame, hround, hfinite]
  exact unpack_pack hlow hhigh (by omega) (by omega) hm

/-- The quotient of two mantissas is taken with 53 bits behind the point before it is rounded. -/
theorem div_eq {m m' : Nat} {e f : Int} (hm : m.log2 = 52) (hm' : m'.log2 = 52)
    (h : 0 < m) (h' : 0 < m') (he : -100 ≤ e) (hf : f ≤ 100) :
    ∃ acc, UnpackedFloat.div .binary64 (.finite .positive m e h) (.finite .positive m' f h') =
      roundWithAccuracy .binary64 .positive (m * 2 ^ 53 / m') (e - f - 53) acc := by
  have htarget : min (e - f) (Format.binary64.targetExponent
      (totalExponent m e - totalExponent m' f)) = e - f - 53 := by
    simp [Format.targetExponent, totalExponent, Format.mantissaBits, Format.minExponent, hm, hm']
    omega
  have hshift : (e - f - (e - f - 53)).toNat = 53 := by omega
  refine ⟨accuracyOfFraction (m * 2 ^ 53 % m') m', ?_⟩
  simp only [UnpackedFloat.div, divCore, htarget, hshift, Nat.shiftLeft_eq]
  rfl

theorem quotient_bounds {a b n x : Nat} (hb : 0 < b) (hn : 0 < n) (h : a * n = b * x) :
    a * 2 ^ 53 / b * n ≤ x * 2 ^ 53 ∧ x * 2 ^ 53 < (a * 2 ^ 53 / b + 1) * n := by
  have hlow : a * 2 ^ 53 / b * b ≤ a * 2 ^ 53 := Nat.div_mul_le_self _ _
  have hhigh : a * 2 ^ 53 < b * (a * 2 ^ 53 / b + 1) := Nat.lt_mul_div_succ _ hb
  generalize a * 2 ^ 53 / b = q at hlow hhigh ⊢
  constructor
  · refine Nat.le_of_mul_le_mul_left ?_ hb
    calc b * (q * n) = q * b * n := by ring
      _ ≤ a * 2 ^ 53 * n := Nat.mul_le_mul_right n hlow
      _ = a * n * 2 ^ 53 := by ring
      _ = b * (x * 2 ^ 53) := by rw [h]; ring
  · refine Nat.lt_of_mul_lt_mul_left (a := b) ?_
    calc b * (x * 2 ^ 53) = a * n * 2 ^ 53 := by rw [h]; ring
      _ = a * 2 ^ 53 * n := by ring
      _ < b * (q + 1) * n := Nat.mul_lt_mul_of_pos_right hhigh hn
      _ = b * ((q + 1) * n) := by ring

theorem quotient_normal {a b : Nat} (ha : 2 ^ 52 ≤ a) (ha' : a < 2 ^ 53) (hb : 2 ^ 52 ≤ b)
    (hb' : b < 2 ^ 53) : 2 ^ 52 ≤ a * 2 ^ 53 / b ∧ a * 2 ^ 53 / b < 2 ^ 54 := by
  rw [Nat.le_div_iff_mul_le (by omega), Nat.div_lt_iff_lt_mul (by omega)]
  omega

theorem exists_log2 {q : Nat} (h : 2 ^ 52 ≤ q) (h' : q < 2 ^ 54) : ∃ k ≤ 1, q.log2 = 52 + k := by
  by_cases hq : q < 2 ^ 53
  · exact ⟨0, by omega, log2_eq h hq⟩
  · exact ⟨1, by omega, (Nat.log2_eq_iff (by omega)).mpr ⟨by omega, h'⟩⟩

/-- `q` is `p / n` in units of `2 ^ (-d - 53)`, rounded down, and `r` what becomes of it when the
`k` bits that are too many are rounded off. -/
structure Rounded (p n d k q r : Nat) : Prop where
  low : q * n ≤ p * 2 ^ d * 2 ^ 53
  high : p * 2 ^ d * 2 ^ 53 < (q + 1) * n
  shift : k ≤ 1
  normal : 2 ^ (52 + k) ≤ q ∧ q < 2 ^ (53 + k)
  near : q / 2 ^ k ≤ r ∧ r ≤ q / 2 ^ k + 1

variable {p n d k q r : Nat}

theorem Rounded.le_of_lt (h : Rounded p n d k q r) (hdk : d < k) : n ≤ p := by
  have hk := h.shift
  obtain ⟨rfl, rfl⟩ : d = 0 ∧ k = 1 := by omega
  have hmul : 2 ^ 53 * n ≤ q * n := Nat.mul_le_mul_right n h.normal.1
  have hlow := h.low
  omega

theorem Rounded.two_mul_lt (h : Rounded p n d k q r) (hkd : k < d) : 2 * p < n := by
  have hpow : 2 ^ (k + 1) ≤ 2 ^ d := Nat.pow_le_pow_right (by decide) hkd
  have hscale : p * 2 ^ (k + 1) * 2 ^ 53 ≤ p * 2 ^ d * 2 ^ 53 :=
    Nat.mul_le_mul_right _ (Nat.mul_le_mul_left p hpow)
  refine Nat.lt_of_mul_lt_mul_left (a := 2 ^ (53 + k)) ?_
  calc 2 ^ (53 + k) * (2 * p) = p * 2 ^ (k + 1) * 2 ^ 53 := by ring
    _ < (q + 1) * n := hscale.trans_lt h.high
    _ ≤ 2 ^ (53 + k) * n := Nat.mul_le_mul_right n h.normal.2

theorem Rounded.bounds_of_eq (h : Rounded p n k k q r) :
    q / 2 ^ k * n ≤ p * 2 ^ 53 ∧ p * 2 ^ 53 < (q / 2 ^ k + 1) * n := by
  have hpos : 0 < 2 ^ k := Nat.two_pow_pos k
  constructor
  · refine Nat.le_of_mul_le_mul_left ?_ hpos
    calc 2 ^ k * (q / 2 ^ k * n) = q / 2 ^ k * 2 ^ k * n := by ring
      _ ≤ q * n := Nat.mul_le_mul_right n (Nat.div_mul_le_self q _)
      _ ≤ p * 2 ^ k * 2 ^ 53 := h.low
      _ = 2 ^ k * (p * 2 ^ 53) := by ring
  · refine Nat.lt_of_mul_lt_mul_left (a := 2 ^ k) ?_
    calc 2 ^ k * (p * 2 ^ 53) = p * 2 ^ k * 2 ^ 53 := by ring
      _ < (q + 1) * n := h.high
      _ ≤ 2 ^ k * (q / 2 ^ k + 1) * n :=
        Nat.mul_le_mul_right n (Nat.lt_mul_div_succ q hpos)
      _ = 2 ^ k * ((q / 2 ^ k + 1) * n) := by ring

end AttachmentIntake.FloatingPoint

/-! ### The limit -/

namespace AttachmentIntake.Signature

open FloatingPoint Float.Model Float.Model.UnpackedFloat

variable {p n : Nat}

theorem unpack_share (hp : 0 < p) (hle : p ≤ n) (hn : n < 2 ^ 50) :
    ∃ acc, (share p n).toModel.unpack = (Float.Model.pack (roundWithAccuracy .binary64 .positive
      (mantissa p * 2 ^ 53 / mantissa n) ((p.log2 : Int) - n.log2 - 53) acc)).unpack := by
  obtain ⟨hpm, hpfinite⟩ := holds_ofNat hp (by omega)
  obtain ⟨hnm, hnfinite⟩ := holds_ofNat (n := n) (by omega) (by omega)
  obtain ⟨hplow, hphigh⟩ := mantissa_bounds hp (by omega)
  obtain ⟨hnlow, hnhigh⟩ := mantissa_bounds (n := n) (by omega) (by omega)
  have hlog : n.log2 < 50 := (Nat.log2_lt (by omega)).mpr hn
  obtain ⟨acc, hdiv⟩ := div_eq (log2_eq hplow hphigh) (log2_eq hnlow hnhigh) hpm hnm
    (e := (p.log2 : Int) - 52) (f := (n.log2 : Int) - 52) (by omega) (by omega)
  have hexponent : (p.log2 : Int) - 52 - ((n.log2 : Int) - 52) - 53 = p.log2 - n.log2 - 53 := by
    omega
  rw [hexponent] at hdiv
  refine ⟨acc, ?_⟩
  change (Float.Model.pack (UnpackedFloat.div .binary64 p.toUInt64.toFloat.toModel.unpack
    n.toUInt64.toFloat.toModel.unpack)).unpack = _
  rw [hpfinite, hnfinite, hdiv]

/-- A share is the quotient with its mantissa rounded; where rounding carries over, the mantissa is
a power of two. -/
theorem exists_rounded (hp : 0 < p) (hle : p ≤ n) (hn : n < 2 ^ 50) :
    ∃ d k q r m, ∃ f : Int, Rounded p n d k q r ∧ Holds (share p n).toModel.unpack m f ∧
      ((r < 2 ^ 53 ∧ m = r ∧ f = k - d - 53) ∨ (2 ^ 53 ≤ r ∧ m = 2 ^ 52 ∧ f = k - d - 52)) := by
  obtain ⟨hplow, hphigh⟩ := mantissa_bounds hp (by omega)
  obtain ⟨hnlow, hnhigh⟩ := mantissa_bounds (n := n) (by omega) (by omega)
  have hlog : n.log2 < 50 := (Nat.log2_lt (by omega)).mpr hn
  have hlogs : p.log2 ≤ n.log2 :=
    (Nat.le_log2 (by omega)).mpr ((Nat.log2_self_le (by omega)).trans hle)
  obtain ⟨acc, hshare⟩ := unpack_share hp hle hn
  obtain ⟨d, hd⟩ : ∃ d, n.log2 = p.log2 + d := ⟨n.log2 - p.log2, by omega⟩
  have hmul := mantissa_mul hlogs (by omega)
  rw [hd, Nat.add_sub_cancel_left, Nat.mul_assoc] at hmul
  have hexponent : (p.log2 : Int) - n.log2 - 53 = -d - 53 := by omega
  rw [hexponent] at hshare
  obtain ⟨hlow, hhigh⟩ := quotient_bounds (by omega) (by omega) hmul
  obtain ⟨hq, hq'⟩ := quotient_normal hplow hphigh hnlow hnhigh
  generalize mantissa p * 2 ^ 53 / mantissa n = q at *
  obtain ⟨k, hk, hqlog⟩ := exists_log2 hq hq'
  have hnormal : 2 ^ (52 + k) ≤ q ∧ q < 2 ^ (53 + k) := by
    have hself := (Nat.log2_eq_iff (by omega : q ≠ 0)).mp hqlog
    rwa [show 52 + k + 1 = 53 + k by omega] at hself
  obtain ⟨r, hr, hr', hsmall, hfull⟩ := exists_holds_round hqlog hk (e := -d - 53) (by omega) acc
  have hrounded : Rounded p n d k q r := ⟨hlow, hhigh, hk, hnormal, hr, hr'⟩
  have hrlow : 2 ^ 52 ≤ r := by
    interval_cases k <;> omega
  by_cases hcase : r < 2 ^ 53
  · obtain ⟨hm, hfinite⟩ := hsmall hcase
    rw [hfinite, unpack_pack hrlow hcase (by omega) (by omega)] at hshare
    exact ⟨d, k, q, r, r, _, hrounded, ⟨hm, hshare⟩, .inl ⟨hcase, rfl, by omega⟩⟩
  · obtain ⟨hm, hfinite⟩ := hfull (by omega)
    rw [hfinite, unpack_pack (by omega) (by omega) (by omega) (by omega)] at hshare
    exact ⟨d, k, q, r, 2 ^ 52, _, hrounded, ⟨hm, hshare⟩, .inr ⟨by omega, rfl, by omega⟩⟩

/-- The mantissa of 0.80: five times it is two more than `4 * 2 ^ 53`. -/
def fourFifths : Nat := 7205759403792794

theorem holds_fourFifths : Holds (0.80 : Float).toModel.unpack fourFifths (-53) :=
  ⟨by decide, rfl⟩

theorem fourFifths_lt_iff {low r : Nat} (hn : 0 < n) (hn' : n < 2 ^ 50)
    (hlow : low * n ≤ p * 2 ^ 53) (hhigh : p * 2 ^ 53 < (low + 1) * n) (hr : low ≤ r)
    (hr' : r ≤ low + 1) : fourFifths < r ↔ 4 * n < 5 * p := by
  constructor
  · intro h
    have hmul : fourFifths * n ≤ low * n := Nat.mul_le_mul_right n (by omega)
    unfold fourFifths at hmul
    omega
  · intro h
    by_contra hnot
    have hmul : (low + 1) * n ≤ (fourFifths + 1) * n := Nat.mul_le_mul_right n (by omega)
    unfold fourFifths at hmul
    omega

theorem gt_iff {limit x : Float} : limit < x ↔ limit.toModel.unpack.lt x.toModel.unpack = true :=
  decide_eq_true_iff

theorem not_gt_share_zero (hpos : 0 < n) (hn : n < 2 ^ 50) : ¬ (0.80 : Float) < share 0 n := by
  obtain ⟨hm, hfinite⟩ := holds_ofNat hpos (by omega)
  have hzero : (0 : Nat).toUInt64.toFloat.toModel.unpack = .zero .positive := rfl
  have hshare : (share 0 n).toModel.unpack = .zero .positive := by
    change (Float.Model.pack (UnpackedFloat.div .binary64 (0 : Nat).toUInt64.toFloat.toModel.unpack
      n.toUInt64.toFloat.toModel.unpack)).unpack = _
    rw [hzero, hfinite, UnpackedFloat.div]
    rfl
  obtain ⟨hm', hlimit⟩ := holds_fourFifths
  rw [gt_iff, hshare, hlimit]
  simp [UnpackedFloat.lt, UnpackedFloat.compare]

/-- The comparison of a share with 80 percent is exact. -/
theorem gt_share_iff (hpos : 0 < n) (hle : p ≤ n) (hn : n < 2 ^ 50) :
    (0.80 : Float) < share p n ↔ 4 * n < 5 * p := by
  rcases Nat.eq_zero_or_pos p with rfl | hp
  · have hnot := not_gt_share_zero hpos hn
    simp only [hnot, false_iff]
    omega
  obtain ⟨d, k, q, r, m, f, hrounded, hholds, hcase⟩ := exists_rounded hp hle hn
  rw [gt_iff, lt_iff holds_fourFifths hholds]
  rcases Nat.lt_trichotomy d k with hdk | rfl | hkd
  · have hnp := hrounded.le_of_lt hdk
    omega
  · obtain ⟨hlow, hhigh⟩ := hrounded.bounds_of_eq
    rw [← fourFifths_lt_iff (by omega) hn hlow hhigh hrounded.near.1 hrounded.near.2]
    unfold fourFifths
    omega
  · have htwo := hrounded.two_mul_lt hkd
    unfold fourFifths
    omega

end AttachmentIntake.Signature
