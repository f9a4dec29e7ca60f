import Mathlib.Algebra.Order.Ring.Int
import Swatch.Proofs.Binary64.Rounding

/-!
# Finite numbers as whole numbers of units

A finite number is a signed count of units (`Units`). Comparison is that of the counts, and the
result of an operation is the exact result rounded once (`nearest`), as long as that is not too
large (`Units.add`, `Units.mul`, `Units.div`). What is known of `nearest` is what is known of
rounding: it keeps the order (`nearest_mono`) and never crosses a number with 53 significant bits
(`nearest_le`, `le_nearest`).
-/

namespace Swatch.Binary64

/-! ## Signed rounding -/

/-- The rounded ratio with its sign. -/
def nearest (num : Int) (den : Nat) : Int :=
  signed (num < 0) (roundUnits num.natAbs den)

/-- A signed number of units with at most 53 significant bits. -/
def ExactInt (units : Int) : Prop :=
  Exact units.natAbs

theorem ExactInt.neg {units : Int} (exact : ExactInt units) : ExactInt (-units) := by
  rwa [ExactInt, Int.natAbs_neg]

/-- A power of two times a number has the same significant bits. -/
theorem ExactInt.times {units : Int} {k : Nat} (exact : ExactInt units) (shift : Nat)
    (power : k = 2 ^ shift) :
    ExactInt (k * units) := by
  rw [ExactInt, Int.natAbs_mul, Int.natAbs_natCast, power, Nat.mul_comm]
  exact exact.shift shift

section Nearest

variable {num num' k : Int} {den : Nat}

theorem nearest_of_nonneg (nonneg : 0 ≤ num) : nearest num den = roundUnits num.natAbs den := by
  have plus : ¬num < 0 := by omega
  simp [nearest, signed, plus]

theorem nearest_of_neg (negative : num < 0) : nearest num den = -(roundUnits num.natAbs den) := by
  simp [nearest, signed, negative]

theorem roundUnits_zero (den : Nat) : roundUnits 0 den = 0 := by
  simp [roundUnits, roundEven]

@[simp] theorem nearest_zero (den : Nat) : nearest 0 den = 0 := by
  rw [nearest_of_nonneg le_rfl, Int.natAbs_zero, roundUnits_zero]
  rfl

theorem nearest_neg (num : Int) (den : Nat) : nearest (-num) den = -nearest num den := by
  rcases lt_trichotomy num 0 with negative | rfl | positive
  · rw [nearest_of_neg negative, nearest_of_nonneg (by omega), Int.natAbs_neg, neg_neg]
  · rw [neg_zero, nearest_zero, neg_zero]
  · rw [nearest_of_nonneg positive.le, nearest_of_neg (by omega), Int.natAbs_neg]

theorem natAbs_nearest (num : Int) (den : Nat) :
    (nearest num den).natAbs = roundUnits num.natAbs den := by
  rcases lt_or_ge num 0 with negative | nonneg
  · rw [nearest_of_neg negative, Int.natAbs_neg, Int.natAbs_natCast]
  · rw [nearest_of_nonneg nonneg, Int.natAbs_natCast]

theorem exact_nearest (positive : 0 < den) (num : Int) : ExactInt (nearest num den) := by
  rw [ExactInt, natAbs_nearest]
  exact exact_roundUnits positive _

theorem nearest_nonneg (nonneg : 0 ≤ num) : 0 ≤ nearest num den := by
  rw [nearest_of_nonneg nonneg]
  exact Int.natCast_nonneg _

theorem nearest_nonpos (nonpos : num ≤ 0) : nearest num den ≤ 0 := by
  have opposite : 0 ≤ nearest (-num) den := nearest_nonneg (by omega)
  rw [nearest_neg] at opposite
  omega

private theorem natAbs_mul_den {a b : Int} (nonneg : 0 ≤ a) (le : a ≤ b * den)
    (positive : 0 < den) :
    0 ≤ b ∧ a.natAbs ≤ b.natAbs * den := by
  have scale : (0 : Int) < den := by exact_mod_cast positive
  have sign : 0 ≤ b := by
    by_contra negative
    have := Int.mul_neg_of_neg_of_pos (by omega : b < 0) scale
    omega
  refine ⟨sign, ?_⟩
  zify
  rwa [abs_of_nonneg nonneg, abs_of_nonneg sign]

theorem nearest_le (positive : 0 < den) (exact : ExactInt k) (below : num ≤ k * den) :
    nearest num den ≤ k := by
  have scale : (0 : Int) < den := by exact_mod_cast positive
  rcases lt_or_ge num 0 with negative | nonneg
  · rcases lt_or_ge k 0 with less | more
    · have size : k.natAbs * den ≤ num.natAbs := by
        zify
        rw [abs_of_neg negative, abs_of_neg less]
        linarith
      have least := le_roundUnits positive exact size
      rw [nearest_of_neg negative]
      omega
    · exact (nearest_nonpos negative.le).trans more
  · obtain ⟨sign, size⟩ := natAbs_mul_den nonneg below positive
    have most := roundUnits_le positive exact size
    rw [nearest_of_nonneg nonneg]
    omega

theorem le_nearest (positive : 0 < den) (exact : ExactInt k) (above : k * den ≤ num) :
    k ≤ nearest num den := by
  have opposite : nearest (-num) den ≤ -k := nearest_le positive exact.neg (by linarith)
  rw [nearest_neg] at opposite
  omega

/-- A greater number is not rounded to a smaller one. -/
theorem nearest_mono (positive : 0 < den) (le : num ≤ num') :
    nearest num den ≤ nearest num' den := by
  have step {a b : Int} (nonneg : 0 ≤ a) (le : a ≤ b) : nearest a den ≤ nearest b den := by
    have sizes : a.natAbs * den ≤ b.natAbs * den := Nat.mul_le_mul_right den (by omega)
    have rounded := roundUnits_mono positive positive sizes
    rw [nearest_of_nonneg nonneg, nearest_of_nonneg (nonneg.trans le)]
    omega
  rcases lt_or_ge num 0 with negative | nonneg
  · rcases lt_or_ge num' 0 with negative' | nonneg'
    · have opposite : nearest (-num') den ≤ nearest (-num) den := step (by omega) (by omega)
      rw [nearest_neg, nearest_neg] at opposite
      omega
    · exact (nearest_nonpos negative.le).trans (nearest_nonneg nonneg')
  · exact step nonneg le

/-- Rounding moves a ratio by at most half the distance between the neighbours of a greater one. -/
theorem nearest_near (positive : 0 < den) (shift : Nat) (nonneg : 0 ≤ num)
    (le : num ≤ (2 ^ (53 + shift) : Nat) * den) :
    2 * num ≤ (2 * nearest num den + (2 ^ shift : Nat)) * den ∧
      (2 * nearest num den - (2 ^ shift : Nat)) * den ≤ 2 * num := by
  obtain ⟨size, rfl⟩ := Int.eq_ofNat_of_zero_le nonneg
  have bound : size ≤ 2 ^ (53 + shift) * den := by exact_mod_cast le
  have near := roundUnits_near positive shift bound
  rw [nearest_of_nonneg nonneg, Int.natAbs_natCast]
  generalize 2 ^ shift = step at near ⊢
  constructor
  · have lower : ((2 * size : Nat) : Int) ≤
        ((2 * (roundUnits size den * den) + den * step : Nat) : Int) := by
      exact_mod_cast near.1
    push_cast at lower
    linarith
  · have upper : ((2 * (roundUnits size den * den) : Nat) : Int) ≤
        ((2 * size + den * step : Nat) : Int) := by
      exact_mod_cast near.2
    push_cast at upper
    linarith

theorem nearest_eq_zero_iff : nearest num 1 = 0 ↔ num = 0 := by
  rw [← Int.natAbs_eq_zero, natAbs_nearest, roundUnits_eq_zero_iff, Int.natAbs_eq_zero]

end Nearest

/-! ## Finite numbers -/

/-- The number is finite, of so many units. -/
def Units (x : Binary64) (units : Int) : Prop :=
  ∃ negative size, x = finite negative size ∧ signed negative size = units

theorem natAbs_signed (negative : Bool) (units : Nat) : (signed negative units).natAbs = units := by
  cases negative <;> simp [signed]

theorem signed_not (negative : Bool) (units : Nat) :
    signed (!negative) units = -signed negative units := by
  cases negative <;> simp [signed]

section Units

variable {x y : Binary64} {a b : Int}

theorem Units.eq (first : Units x a) (second : Units x b) : a = b := by
  obtain ⟨s, m, rfl, rfl⟩ := first
  obtain ⟨t, n, same, rfl⟩ := second
  cases same
  rfl

theorem Units.lt_iff (first : Units x a) (second : Units y b) : x.lt y = true ↔ a < b := by
  obtain ⟨s, m, rfl, rfl⟩ := first
  obtain ⟨t, n, rfl, rfl⟩ := second
  simp [lt]

theorem Units.not_lt_self (own : Units x a) : x.lt x = false := by
  rw [Bool.eq_false_iff, Ne, own.lt_iff own]
  exact lt_irrefl a

theorem Units.same_iff (first : Units x a) (second : Units y b) : x.same y = true ↔ a = b := by
  obtain ⟨s, m, rfl, rfl⟩ := first
  obtain ⟨t, n, rfl, rfl⟩ := second
  simp [same]

theorem Units.le_iff (first : Units x a) (second : Units y b) : x.le y = true ↔ a ≤ b := by
  rw [le, Bool.or_eq_true, first.lt_iff second, first.same_iff second, le_iff_lt_or_eq]

theorem Units.larger (first : Units x a) (second : Units y b) : Units (x.larger y) (max a b) := by
  unfold Binary64.larger
  split
  next less =>
    rw [max_eq_right ((first.lt_iff second).mp less).le]
    exact second
  next other =>
    rw [first.lt_iff second, not_lt] at other
    rw [max_eq_left other]
    exact first

theorem Units.smaller (first : Units x a) (second : Units y b) :
    Units (x.smaller y) (min a b) := by
  unfold Binary64.smaller
  split
  next less =>
    rw [min_eq_right ((second.lt_iff first).mp less).le]
    exact second
  next other =>
    rw [second.lt_iff first, not_lt] at other
    rw [min_eq_left other]
    exact first

theorem Units.neg (own : Units x a) : Units (-x) (-a) := by
  obtain ⟨s, m, rfl, rfl⟩ := own
  exact ⟨!s, m, rfl, signed_not s m⟩

/-! ## Operations -/

/-- A number of units that is far from too large. -/
def roomUnits : Nat := 2 ^ 1200

theorem roomUnits_lt : roomUnits < unitsLimit := by
  rw [roomUnits, unitsLimit, Nat.pow_eq]
  exact Nat.pow_lt_pow_right (by decide) (by decide)

/-- A power of two as a whole number is within the room. -/
theorem pow_le_roomUnits {k : Nat} (small : k ≤ 126) : 2 ^ k * unitsPerOne ≤ roomUnits := by
  rw [pow_mul_unitsPerOne, roomUnits]
  exact Nat.pow_le_pow_right (by decide) (by omega)

/-- The units are within the room on both sides of zero. -/
def InRoom (units : Int) : Prop :=
  units.natAbs ≤ roomUnits

theorem inRoom_iff {units : Int} :
    InRoom units ↔ -(roomUnits : Int) ≤ units ∧ units ≤ roomUnits := by
  unfold InRoom
  omega

theorem inRoom_nearest {num : Int} {den : Nat} (positive : 0 < den)
    (size : num.natAbs ≤ roomUnits * den) : InRoom (nearest num den) := by
  rw [InRoom, natAbs_nearest]
  exact roundUnits_le positive (exact_pow 1200) size

theorem units_ofRatio {num : Int} {den : Nat} (negative : Bool)
    (sign : num < 0 → negative = true) (sign' : 0 < num → negative = false)
    (small : InRoom (nearest num den)) :
    Units (ofRatio negative num.natAbs den) (nearest num den) := by
  rw [InRoom, natAbs_nearest] at small
  unfold ofRatio
  dsimp only
  rw [if_pos (small.trans_lt roomUnits_lt)]
  refine ⟨negative, _, rfl, ?_⟩
  rcases lt_trichotomy num 0 with minus | rfl | plus
  · rw [sign minus, nearest_of_neg minus]
    rfl
  · rw [nearest_zero, Int.natAbs_zero, roundUnits_zero]
    cases negative <;> rfl
  · rw [sign' plus, nearest_of_nonneg plus.le]
    rfl

/-- The order of two numbers does not matter for their sum. -/
theorem sum_comm (x y : Binary64) : x + y = y + x := by
  change x.add y = y.add x
  cases x <;> cases y <;> simp only [Binary64.add, Int.add_comm, Bool.and_comm]
  next s t => cases s <;> cases t <;> rfl

theorem Units.add (first : Units x a) (second : Units y b) (small : InRoom (nearest (a + b) 1)) :
    Units (x + y) (nearest (a + b) 1) := by
  obtain ⟨s, m, rfl, rfl⟩ := first
  obtain ⟨t, n, rfl, rfl⟩ := second
  change Units (Binary64.add _ _) _
  unfold Binary64.add
  dsimp only
  split
  next zero =>
    rw [zero, nearest_zero]
    exact ⟨_, 0, rfl, by cases (s && t) <;> rfl⟩
  next nonzero =>
    exact units_ofRatio _ (fun minus => by simpa using minus) (fun plus => by simpa using plus.le)
      small

theorem Units.sub (first : Units x a) (second : Units y b) (small : InRoom (nearest (a - b) 1)) :
    Units (x - y) (nearest (a - b) 1) := by
  rw [sub_eq_add_neg] at small ⊢
  exact first.add second.neg small

theorem signed_mul (s t : Bool) (m n : Nat) :
    signed s m * signed t n = signed (s != t) (m * n : Nat) := by
  cases s <;> cases t <;> simp [signed]

theorem eq_true_of_signed_neg {negative : Bool} {units : Nat} (minus : signed negative units < 0) :
    negative = true := by
  cases negative with
  | true => rfl
  | false => exact absurd minus (by simp [signed])

theorem eq_false_of_signed_pos {negative : Bool} {units : Nat} (plus : 0 < signed negative units) :
    negative = false := by
  cases negative with
  | true => exact absurd plus (by simp [signed])
  | false => rfl

theorem mul_finite (s t : Bool) (m n : Nat) :
    finite s m * finite t n = ofRatio (s != t) (m * n) unitsPerOne :=
  Binary64.mul.eq_1 s m t n

theorem div_finite (s t : Bool) (m : Nat) {n : Nat} (nonzero : n ≠ 0) :
    finite s m / finite t n = ofRatio (s != t) (m * unitsPerOne) n :=
  (Binary64.div.eq_1 s m t n).trans (if_neg nonzero)

theorem Units.mul (first : Units x a) (second : Units y b)
    (small : InRoom (nearest (a * b) unitsPerOne)) :
    Units (x * y) (nearest (a * b) unitsPerOne) := by
  obtain ⟨s, m, rfl, rfl⟩ := first
  obtain ⟨t, n, rfl, rfl⟩ := second
  rw [signed_mul] at small ⊢
  rw [mul_finite]
  have ratio := units_ofRatio _ eq_true_of_signed_neg eq_false_of_signed_pos small
  rwa [natAbs_signed] at ratio

/-- The quotient by a number that is not zero. -/
theorem Units.div (first : Units x a) (second : Units y b) (nonzero : b ≠ 0)
    (small : InRoom (nearest (a * unitsPerOne * b.sign) b.natAbs)) :
    Units (x / y) (nearest (a * unitsPerOne * b.sign) b.natAbs) := by
  obtain ⟨s, m, rfl, rfl⟩ := first
  obtain ⟨t, n, rfl, rfl⟩ := second
  have positive : n ≠ 0 := by
    rintro rfl
    exact nonzero (by cases t <;> rfl)
  have scaled : signed s m * unitsPerOne * (signed t n).sign =
      signed (s != t) (m * unitsPerOne : Nat) := by
    have sign : (n : Int).sign = 1 := Int.sign_eq_one_of_pos (by omega)
    cases s <;> cases t <;> simp [signed, sign]
  rw [scaled, natAbs_signed] at small ⊢
  rw [div_finite s t m positive]
  have own := units_ofRatio _ eq_true_of_signed_neg eq_false_of_signed_pos small
  rwa [natAbs_signed] at own

/-! ## Rounded numbers -/

/-- At most 53 bits of the number are significant, if it is finite. -/
def Rounded (x : Binary64) : Prop :=
  ∀ negative size, x = finite negative size → Exact size

theorem Rounded.exact (rounded : Rounded x) (own : Units x a) : ExactInt a := by
  obtain ⟨negative, size, rfl, rfl⟩ := own
  rw [ExactInt, natAbs_signed]
  exact rounded negative size rfl

theorem rounded_ofRatio (negative : Bool) (num : Nat) {den : Nat} (positive : 0 < den) :
    Rounded (ofRatio negative num den) := by
  intro sign size same
  unfold ofRatio at same
  dsimp only at same
  split at same
  next =>
    cases same
    exact exact_roundUnits positive num
  next => cases same

theorem rounded_ofNat (n : Nat) : Rounded (ofNat n) :=
  rounded_ofRatio false (n * unitsPerOne) Nat.one_pos

theorem rounded_zero (negative : Bool) : Rounded (finite negative 0) := by
  intro sign size same
  cases same
  exact exact_zero

theorem rounded_add (x y : Binary64) : Rounded (x + y) := by
  change Rounded (Binary64.add x y)
  fun_cases Binary64.add x y with
  | case1 => exact rounded_zero _
  | case2 => exact rounded_ofRatio _ _ Nat.one_pos
  | _ => exact fun _ _ same => by cases same

theorem rounded_sub (x y : Binary64) : Rounded (x - y) :=
  rounded_add x (-y)

theorem rounded_div (x y : Binary64) : Rounded (x / y) := by
  change Rounded (Binary64.div x y)
  fun_cases Binary64.div x y with
  | case3 s m t n nonzero => exact rounded_ofRatio _ _ (Nat.pos_of_ne_zero nonzero)
  | case4 => exact rounded_zero _
  | _ => exact fun _ _ same => by cases same

end Units

end Swatch.Binary64
