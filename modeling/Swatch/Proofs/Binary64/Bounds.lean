import Swatch.Binary64.Decimal
import Swatch.Proofs.Binary64.Units

/-!
# Bounds of computations

Numbers between two counts of units (`Between`) or between two whole numbers (`Within`), and what
the operations do to such bounds. Since rounding never crosses a number with 53 significant bits,
the bounds of an exact result are those of the rounded one (`nearest_between`), and a computation
that starts within bounds stays finite.
-/

namespace Swatch.Binary64

/-! ## Whole numbers as units -/

theorem unitsPerOne_pos : 0 < unitsPerOne := by
  rw [unitsPerOne_pow]
  exact Nat.two_pow_pos 1074

theorem unitsPerOne_cast_pos : (0 : Int) < unitsPerOne := by
  exact_mod_cast unitsPerOne_pos

theorem Exact.ones {k : Nat} (exact : Exact k) : Exact (k * unitsPerOne) := by
  obtain ⟨digits, shift, small, rfl⟩ := exact
  exact ⟨digits, shift + 1074, small, by rw [unitsPerOne_pow, Nat.pow_add, Nat.mul_assoc]⟩

/-- A count of units that bounds a computation: no result is rounded past it, and it is far from too
large. -/
structure Bound (units : Int) : Prop where
  exact : ExactInt units
  small : InRoom units

theorem Bound.neg {units : Int} (bound : Bound units) : Bound (-units) :=
  ⟨bound.exact.neg, by rw [InRoom, Int.natAbs_neg]; exact bound.small⟩

theorem bound_ones {k : Int} (less : k.natAbs < 2 ^ 53) : Bound (k * unitsPerOne) := by
  refine ⟨?_, ?_⟩
  · rw [ExactInt, Int.natAbs_mul, Int.natAbs_natCast]
    exact (exact_of_lt less).ones
  · rw [InRoom, Int.natAbs_mul, Int.natAbs_natCast]
    exact (Nat.mul_le_mul_right _ less.le).trans (pow_le_roomUnits (by decide))

theorem bound_zero : Bound 0 :=
  ⟨exact_zero, Nat.zero_le _⟩

/-- The bounds of a ratio are those of the rounded ratio. -/
theorem nearest_between (num : Int) {low high : Int} {den : Nat} (positive : 0 < den)
    (least : Bound low)
    (most : Bound high) (lower : low * den ≤ num) (upper : num ≤ high * den) :
    low ≤ nearest num den ∧ nearest num den ≤ high ∧ InRoom (nearest num den) := by
  have above := le_nearest positive least.exact lower
  have below := nearest_le positive most.exact upper
  refine ⟨above, below, inRoom_iff.mpr ?_⟩
  have room := (inRoom_iff.mp least.small).1
  have room' := (inRoom_iff.mp most.small).2
  exact ⟨room.trans above, below.trans room'⟩

/-! ## Counts of units -/

/-- The number is finite and between two counts of units. -/
def Between (x : Binary64) (low high : Int) : Prop :=
  ∃ units, Units x units ∧ low ≤ units ∧ units ≤ high

section Between

variable {x y : Binary64} {u v low high : Int}

theorem Between.widen {low' high' : Int} (between : Between x low high) (lower : low' ≤ low)
    (upper : high ≤ high') : Between x low' high' := by
  obtain ⟨units, own, least, most⟩ := between
  exact ⟨units, own, lower.trans least, most.trans upper⟩

theorem Units.add_between (first : Units x u) (second : Units y v) (least : Bound low)
    (most : Bound high) (lower : low ≤ u + v) (upper : u + v ≤ high) :
    Between (x + y) low high := by
  obtain ⟨above, below, small⟩ := nearest_between (u + v) Nat.one_pos least most
    (by rwa [Nat.cast_one, Int.mul_one]) (by rwa [Nat.cast_one, Int.mul_one])
  exact ⟨_, first.add second small, above, below⟩

theorem Units.sub_between (first : Units x u) (second : Units y v) (least : Bound low)
    (most : Bound high) (lower : low ≤ u - v) (upper : u - v ≤ high) :
    Between (x - y) low high :=
  first.add_between second.neg least most (by rwa [← sub_eq_add_neg]) (by rwa [← sub_eq_add_neg])

theorem Units.mul_between (first : Units x u) (second : Units y v) (least : Bound low)
    (most : Bound high) (lower : low * unitsPerOne ≤ u * v) (upper : u * v ≤ high * unitsPerOne) :
    Between (x * y) low high := by
  obtain ⟨above, below, small⟩ := nearest_between (u * v) unitsPerOne_pos least most lower upper
  exact ⟨_, first.mul second small, above, below⟩

theorem Units.div_between (first : Units x u) (second : Units y v) (positive : 0 < v)
    (least : Bound low) (most : Bound high) (lower : low * v ≤ u * unitsPerOne)
    (upper : u * unitsPerOne ≤ high * v) : Between (x / y) low high := by
  have size : (v.natAbs : Int) = v := Int.natAbs_of_nonneg positive.le
  have sign : u * unitsPerOne * v.sign = u * unitsPerOne := by
    rw [Int.sign_eq_one_of_pos positive, Int.mul_one]
  obtain ⟨above, below, small⟩ := nearest_between (u * unitsPerOne * v.sign)
    (Int.natAbs_pos.mpr positive.ne') least most (by rwa [size, sign]) (by rwa [size, sign])
  exact ⟨_, first.div second positive.ne' small, above, below⟩

end Between

/-! ## Results next to the exact ones -/

/-- Half the distance between the neighbours of one. -/
@[irreducible] def halfStep : Nat := 2 ^ 1021

theorem halfStep_pow : halfStep = 2 ^ 1021 := by
  unfold halfStep
  rfl

theorem halfStep_pos : (0 : Int) < halfStep := by
  have positive : 0 < halfStep := by
    rw [halfStep_pow]
    exact Nat.two_pow_pos 1021
  exact_mod_cast positive

/-- One is 53 binary digits of half steps. -/
theorem pow_mul_halfStep : 2 ^ 53 * halfStep = unitsPerOne := by
  rw [halfStep_pow, unitsPerOne_pow, ← Nat.pow_add]

theorem unitsPerOne_eq : (unitsPerOne : Int) = 9007199254740992 * halfStep := by
  have whole := pow_mul_halfStep
  norm_num at whole
  exact_mod_cast whole.symm

/-- From one half on, a number is a whole number of half steps. -/
theorem exists_steps {units : Int} (exact : ExactInt units) (large : unitsPerOne ≤ 2 * units) :
    ∃ count : Int, units = halfStep * count := by
  have scale := unitsPerOne_cast_pos
  have from_half : 2 ^ (52 + 1021) ≤ units.natAbs := by
    have half : 2 * 2 ^ (52 + 1021) = unitsPerOne := by rw [unitsPerOne_pow, ← Nat.pow_succ']
    omega
  obtain ⟨count, multiple⟩ := Exact.dvd exact from_half
  have nonneg : 0 ≤ units := by omega
  have cast : (units.natAbs : Int) = (halfStep * count : Nat) := by rw [multiple, halfStep_pow]
  refine ⟨count, ?_⟩
  rwa [Int.natAbs_of_nonneg nonneg, Nat.cast_mul] at cast

section Near

variable {x y : Binary64} {u v : Int}

/-- A sum up to two is at most half a step beside the exact one. -/
theorem Units.add_near (first : Units x u) (second : Units y v) (nonneg : 0 ≤ u + v)
    (le : u + v ≤ 2 * unitsPerOne) :
    ∃ w, Units (x + y) w ∧ 0 ≤ w ∧ w ≤ 2 * unitsPerOne ∧ w ≤ u + v + halfStep ∧
      u + v ≤ w + halfStep := by
  obtain ⟨above, below, small⟩ := nearest_between (u + v) Nat.one_pos bound_zero
    (bound_ones (k := 2) (by decide)) (by simpa using nonneg) (by simpa using le)
  have limit : 2 ^ (53 + 1022) = 2 * unitsPerOne := by rw [unitsPerOne_pow, ← Nat.pow_succ']
  have grid : 2 ^ 1022 = 2 * halfStep := by rw [halfStep_pow, ← Nat.pow_succ']
  have near := nearest_near Nat.one_pos 1022 nonneg
    (by rw [limit]; simpa using le)
  rw [grid] at near
  push_cast at near
  exact ⟨_, first.add second small, above, below, by omega, by omega⟩

theorem Units.sub_near (first : Units x u) (second : Units y v) (nonneg : 0 ≤ u - v)
    (le : u - v ≤ 2 * unitsPerOne) :
    ∃ w, Units (x - y) w ∧ 0 ≤ w ∧ w ≤ 2 * unitsPerOne ∧ w ≤ u - v + halfStep ∧
      u - v ≤ w + halfStep :=
  first.add_near second.neg nonneg le

/-- A product up to one is at most a quarter of a step beside the exact one. -/
theorem Units.mul_near (first : Units x u) (second : Units y v) (nonneg : 0 ≤ u * v)
    (le : u * v ≤ unitsPerOne * unitsPerOne) :
    ∃ w, Units (x * y) w ∧ 0 ≤ w ∧ w ≤ unitsPerOne ∧
      2 * (u * v) ≤ (2 * w + halfStep) * unitsPerOne ∧
      (2 * w - halfStep) * unitsPerOne ≤ 2 * (u * v) := by
  obtain ⟨above, below, small⟩ := nearest_between (u * v) unitsPerOne_pos bound_zero
    (bound_ones (k := 1) (by decide)) (by rw [Int.zero_mul]; exact nonneg)
    (by rw [Int.one_mul]; exact le)
  have near := nearest_near unitsPerOne_pos 1021 nonneg
    (by rw [← unitsPerOne_pow]; exact le)
  rw [← halfStep_pow] at near
  rw [Int.one_mul] at below
  exact ⟨_, first.mul second small, above, below, near⟩

end Near

/-! ## Whole numbers -/

/-- The number is finite and between two whole numbers. -/
def Within (x : Binary64) (low high : Int) : Prop :=
  Between x (low * unitsPerOne) (high * unitsPerOne)

section Within

variable {x y : Binary64} {a b c d : Int}

theorem ones_le_ones (le : a ≤ b) : a * (unitsPerOne : Int) ≤ b * unitsPerOne :=
  Int.mul_le_mul_of_nonneg_right le unitsPerOne_cast_pos.le

theorem Within.widen (within : Within x a b) (lower : c ≤ a) (upper : b ≤ d) : Within x c d :=
  Between.widen within (ones_le_ones lower) (ones_le_ones upper)

theorem units_ofNat {n : Nat} (small : n < 2 ^ 53) : Units (ofNat n) (n * unitsPerOne) := by
  have exact : Exact (n * unitsPerOne) := (exact_of_lt small).ones
  have less : n * unitsPerOne < unitsLimit := by
    have most : n * unitsPerOne ≤ 2 ^ 53 * unitsPerOne := Nat.mul_le_mul_right _ small.le
    exact (most.trans (pow_le_roomUnits (by decide))).trans_lt roomUnits_lt
  refine ⟨false, n * unitsPerOne, ?_, by simp [signed]⟩
  rw [ofNat, ofRatio, roundUnits_of_exact exact, if_pos less]

theorem within_ofNat {n : Nat} (small : n < 2 ^ 53) : Within (ofNat n) n n :=
  ⟨n * unitsPerOne, units_ofNat small, le_rfl, le_rfl⟩

theorem units_one : Units 1 unitsPerOne := by
  have own := units_ofNat (n := 1) (by decide)
  rw [Nat.cast_one, Int.one_mul] at own
  exact own

theorem ofInt_natCast (n : Nat) : ofInt n = ofNat n := by
  have plus : ¬(n : Int) < 0 := by omega
  rw [ofInt, ofNat, decide_eq_false plus, Int.natAbs_natCast]

theorem within_ofInt {n : Int} (nonneg : 0 ≤ n) (small : n < 2 ^ 53) : Within (ofInt n) n n := by
  obtain ⟨n, rfl⟩ := Int.eq_ofNat_of_zero_le nonneg
  rw [ofInt_natCast]
  exact within_ofNat (by omega)

/-- The units of one half. -/
def halfUnits : Nat := 2 ^ 1073

theorem halfUnits_double : 2 * (halfUnits : Int) = unitsPerOne := by
  have whole : 2 * halfUnits = unitsPerOne := by
    rw [halfUnits, unitsPerOne_pow, ← Nat.pow_succ']
  exact_mod_cast whole

theorem units_half : Units (1 / 2) halfUnits := by
  have same : (1 / 2 : Binary64) = finite false halfUnits := by decide +kernel
  exact ⟨false, halfUnits, same, rfl⟩

/-! ## Choices -/

theorem Within.larger (first : Within x a b) (second : Within y a b) :
    Within (x.larger y) a b := by
  obtain ⟨u, ux, lower, upper⟩ := first
  obtain ⟨v, vy, lower', upper'⟩ := second
  exact ⟨max u v, ux.larger vy, le_max_of_le_left lower, max_le upper upper'⟩

theorem Within.smaller (first : Within x a b) (second : Within y a b) :
    Within (x.smaller y) a b := by
  obtain ⟨u, ux, lower, upper⟩ := first
  obtain ⟨v, vy, lower', upper'⟩ := second
  exact ⟨min u v, ux.smaller vy, le_min lower lower', min_le_of_left_le upper⟩

theorem nan_lt (x : Binary64) : nan.lt x = false := by
  cases x <;> rfl

/-- Whatever is brought into a range is finite and within it. -/
theorem Units.clamp_between {low high : Binary64} {u v : Int} (least : Units low u)
    (most : Units high v) (le : u ≤ v) (x : Binary64) : Between (clamp low high x) u v := by
  have top : Between (Binary64.larger low high) u v :=
    ⟨_, least.larger most, le_max_left _ _, max_le le le_rfl⟩
  cases x with
  | finite negative units =>
    have own : Units (finite negative units) (signed negative units) := ⟨_, _, rfl, rfl⟩
    exact ⟨_, least.larger (most.smaller own), le_max_left _ _, max_le le (min_le_left _ _)⟩
  | infinite negative =>
    obtain ⟨t, n, rfl, -⟩ := most
    cases negative with
    | true =>
      have start : Between low u v := ⟨u, least, le_rfl, le⟩
      obtain ⟨s, m, rfl, -⟩ := least
      exact start
    | false => exact top
  | nan =>
    rw [clamp, Binary64.smaller, nan_lt, if_neg Bool.false_ne_true]
    exact top

theorem clamp_within {n : Nat} (small : n < 2 ^ 53) (x : Binary64) :
    Within (clamp 0 (ofNat n) x) 0 n :=
  (units_ofNat (n := 0) (by decide)).clamp_between (units_ofNat small)
    (ones_le_ones (Int.natCast_nonneg n)) x

/-! ## Operations -/

theorem Within.add (first : Within x a b) (second : Within y c d)
    (low : (a + c).natAbs < 2 ^ 53) (high : (b + d).natAbs < 2 ^ 53) :
    Within (x + y) (a + c) (b + d) := by
  obtain ⟨u, ux, lower, upper⟩ := first
  obtain ⟨v, vy, lower', upper'⟩ := second
  refine ux.add_between vy (bound_ones low) (bound_ones high) ?_ ?_ <;> rw [Int.add_mul] <;> omega

theorem Within.neg (within : Within x a b) : Within (-x) (-b) (-a) := by
  obtain ⟨u, ux, lower, upper⟩ := within
  refine ⟨-u, ux.neg, ?_, ?_⟩ <;> rw [Int.neg_mul] <;> omega

theorem Within.sub (first : Within x a b) (second : Within y c d)
    (low : (a - d).natAbs < 2 ^ 53) (high : (b - c).natAbs < 2 ^ 53) :
    Within (x - y) (a - d) (b - c) :=
  first.add second.neg low high

/-- A product with a number that is not negative. -/
theorem Within.mul (first : Within x a b) (second : Within y 0 d) (nonpos : a ≤ 0) (nonneg : 0 ≤ b)
    (low : (a * d).natAbs < 2 ^ 53) (high : (b * d).natAbs < 2 ^ 53) :
    Within (x * y) (a * d) (b * d) := by
  obtain ⟨u, ux, lower, upper⟩ := first
  obtain ⟨v, vy, lower', upper'⟩ := second
  have scale := unitsPerOne_cast_pos.le
  rw [Int.zero_mul] at lower'
  refine ux.mul_between vy (bound_ones low) (bound_ones high) ?_ ?_
  · calc a * d * unitsPerOne * unitsPerOne = a * unitsPerOne * (d * unitsPerOne) := by ring
      _ ≤ a * unitsPerOne * v :=
        Int.mul_le_mul_of_nonpos_left (mul_nonpos_of_nonpos_of_nonneg nonpos scale) upper'
      _ ≤ u * v := Int.mul_le_mul_of_nonneg_right lower lower'
  · calc u * v ≤ b * unitsPerOne * v := Int.mul_le_mul_of_nonneg_right upper lower'
      _ ≤ b * unitsPerOne * (d * unitsPerOne) :=
        Int.mul_le_mul_of_nonneg_left upper' (mul_nonneg nonneg scale)
      _ = b * d * unitsPerOne * unitsPerOne := by ring

/-- A quotient by a number that is at least one. -/
theorem Within.div (within : Within x a b) {v : Int} (own : Units y v) (large : unitsPerOne ≤ v)
    (nonpos : a ≤ 0) (nonneg : 0 ≤ b) (low : a.natAbs < 2 ^ 53) (high : b.natAbs < 2 ^ 53) :
    Within (x / y) a b := by
  obtain ⟨u, ux, lower, upper⟩ := within
  have scale := unitsPerOne_cast_pos
  refine ux.div_between own (scale.trans_le large) (bound_ones low) (bound_ones high) ?_ ?_
  · calc a * unitsPerOne * v ≤ a * unitsPerOne * unitsPerOne :=
        Int.mul_le_mul_of_nonpos_left (mul_nonpos_of_nonpos_of_nonneg nonpos scale.le) large
      _ ≤ u * unitsPerOne := Int.mul_le_mul_of_nonneg_right lower scale.le
  · calc u * unitsPerOne ≤ b * unitsPerOne * unitsPerOne :=
        Int.mul_le_mul_of_nonneg_right upper scale.le
      _ ≤ b * unitsPerOne * v :=
        Int.mul_le_mul_of_nonneg_left large (mul_nonneg nonneg scale.le)

/-- A quotient by a numeral. -/
theorem Within.div_ofNat (within : Within x a b) {n : Nat} (positive : 1 ≤ n) (small : n < 2 ^ 53)
    (nonpos : a ≤ 0) (nonneg : 0 ≤ b) (low : a.natAbs < 2 ^ 53) (high : b.natAbs < 2 ^ 53) :
    Within (x / ofNat n) a b := by
  refine within.div (units_ofNat small) ?_ nonpos nonneg low high
  exact_mod_cast Nat.le_mul_of_pos_left unitsPerOne positive

/-- A quotient of two numbers of which the second is not the smaller one. -/
theorem within_div_of_le {u v : Int} (first : Units x u) (second : Units y v) (nonneg : 0 ≤ u)
    (positive : 0 < v) (le : u ≤ v) : Within (x / y) 0 1 := by
  have scale := unitsPerOne_cast_pos.le
  refine first.div_between second positive (bound_ones (by decide)) (bound_ones (by decide)) ?_ ?_
  · rw [Int.zero_mul, Int.zero_mul]
    exact mul_nonneg nonneg scale
  · rw [Int.one_mul, Int.mul_comm u]
    exact Int.mul_le_mul_of_nonneg_left le scale

/-! ## Remainders and whole parts -/

/-- A remainder is between zero and the period, if there is one. -/
theorem wrap_cases (period : Nat) (positive : 0 < period) (small : period < 2 ^ 53)
    (x : Binary64) : x.wrap period = nan ∨ Within (x.wrap period) 0 period := by
  cases x with
  | infinite negative => exact .inl rfl
  | nan => exact .inl rfl
  | finite negative size =>
    right
    have room : 0 < period * unitsPerOne := Nat.mul_pos positive unitsPerOne_pos
    have less := Nat.mod_lt size room
    unfold wrap
    dsimp only
    generalize size % (period * unitsPerOne) = remainder at less
    split
    next =>
      exact ⟨0, ⟨false, 0, rfl, rfl⟩, by rw [Int.zero_mul],
        mul_nonneg (Int.natCast_nonneg period) unitsPerOne_cast_pos.le⟩
    split
    next =>
      have whole : ((period * unitsPerOne - remainder : Nat) : Int).natAbs =
          period * unitsPerOne - remainder := Int.natAbs_natCast _
      obtain ⟨least, most, fits⟩ := nearest_between
        (period * unitsPerOne - remainder : Nat) Nat.one_pos
        (bound_ones (k := 0) (by decide)) (bound_ones (k := period) small) (by simp)
        (by rw [Nat.cast_one, Int.mul_one]; exact_mod_cast Nat.sub_le _ _)
      have own := units_ofRatio false (fun minus => absurd minus (by omega))
        (fun _ => rfl) fits
      rw [whole] at own
      exact ⟨_, own, least, most⟩
    next =>
      refine ⟨remainder, ⟨false, remainder, rfl, rfl⟩, by simp, ?_⟩
      exact_mod_cast less.le

/-- A number kept to some decimal places is still between zero and a whole number. -/
theorem Within.roundedTo {n : Nat} (within : Within x 0 n) (small : n < 2 ^ 53) (places : Nat) :
    Within (x.roundedTo places) 0 n := by
  obtain ⟨u, ⟨negative, size, rfl, rfl⟩, lower, upper⟩ := within
  have tens : 0 < 10 ^ places := Nat.pow_pos (by decide)
  have most : size ≤ n * unitsPerOne := by
    cases negative with
    | false =>
      rw [← Nat.cast_mul] at upper
      exact Int.ofNat_le.mp upper
    | true =>
      rw [Int.zero_mul] at lower
      have zeroSize : size = 0 := by simpa [signed] using lower
      omega
  have whole : roundEven (size * 10 ^ places) unitsPerOne ≤ n * 10 ^ places :=
    roundEven_le unitsPerOne_pos (by
      rw [Nat.mul_right_comm]
      exact Nat.mul_le_mul_right _ most)
  have sign : 0 < ((roundEven (size * 10 ^ places) unitsPerOne * unitsPerOne : Nat) : Int) →
      negative = false := by
    intro positiveSize
    cases negative with
    | false => rfl
    | true =>
      rw [Int.zero_mul] at lower
      have zeroSize : size = 0 := by simpa [signed] using lower
      have zero : roundEven (0 * 10 ^ places) unitsPerOne ≤ 0 :=
        roundEven_le unitsPerOne_pos (by rw [Nat.zero_mul, Nat.zero_mul])
      rw [zeroSize, Nat.le_zero.mp zero, Nat.zero_mul] at positiveSize
      exact absurd positiveSize (lt_irrefl _)
  obtain ⟨least, high, fits⟩ := nearest_between
    (roundEven (size * 10 ^ places) unitsPerOne * unitsPerOne : Nat) tens
    (bound_ones (k := 0) (by decide)) (bound_ones (k := n) (by simpa using small))
    (by rw [Int.zero_mul, Int.zero_mul]; exact Int.natCast_nonneg _)
    (by
      have scaled := Nat.mul_le_mul_right unitsPerOne whole
      rw [Nat.mul_right_comm] at scaled
      rw [← Nat.cast_mul, ← Nat.cast_mul]
      exact Int.ofNat_le.mpr scaled)
  have own := units_ofRatio negative (fun minus => absurd minus (by omega)) sign fits
  rw [Int.natAbs_natCast] at own
  exact ⟨_, own, least, high⟩

theorem ofRatio_ne_nan (negative : Bool) (num den : Nat) : ofRatio negative num den ≠ nan := by
  unfold ofRatio
  dsimp only
  split <;> exact Binary64.noConfusion

theorem Within.wrap (within : Within x a b) (period : Nat) (positive : 0 < period)
    (small : period < 2 ^ 53) : Within (x.wrap period) 0 period := by
  obtain ⟨u, ⟨negative, size, rfl, -⟩, -⟩ := within
  refine (wrap_cases period positive small _).resolve_left ?_
  unfold Binary64.wrap
  dsimp only
  split
  next => exact Binary64.noConfusion
  split
  next => exact ofRatio_ne_nan _ _ _
  next => exact Binary64.noConfusion

/-- A finite number has a greatest whole number that is not above it. -/
theorem Between.floor {low high : Int} (between : Between x low high) :
    ∃ whole, x.floor = .ok whole ∧ low / unitsPerOne ≤ whole ∧ whole ≤ high / unitsPerOne := by
  obtain ⟨u, ⟨negative, size, rfl, rfl⟩, lower, upper⟩ := between
  exact ⟨_, rfl, Int.ediv_le_ediv unitsPerOne_cast_pos lower,
    Int.ediv_le_ediv unitsPerOne_cast_pos upper⟩

end Within

/-! ## Zero -/

section Zero

variable {x y : Binary64} {v : Int}

theorem units_zero : Units 0 0 := by
  have own := units_ofNat (n := 0) (by decide)
  rwa [Nat.cast_zero, Int.zero_mul] at own

theorem Units.zero_add (first : Units x 0) (second : Units y 0) : Units (x + y) 0 := by
  obtain ⟨w, own, above, below⟩ := first.add_between second bound_zero bound_zero le_rfl le_rfl
  rwa [le_antisymm below above] at own

theorem Units.zero_sub (first : Units x 0) (second : Units y 0) : Units (x - y) 0 :=
  first.zero_add second.neg

theorem Units.zero_mul (first : Units x 0) (second : Units y v) : Units (x * y) 0 := by
  obtain ⟨w, own, above, below⟩ := first.mul_between second bound_zero bound_zero
    (by rw [Int.zero_mul, Int.zero_mul]) (by rw [Int.zero_mul, Int.zero_mul])
  rwa [le_antisymm below above] at own

theorem Units.mul_zero (first : Units x v) (second : Units y 0) : Units (x * y) 0 := by
  obtain ⟨w, own, above, below⟩ := first.mul_between second bound_zero bound_zero
    (by rw [Int.mul_zero, Int.zero_mul]) (by rw [Int.mul_zero, Int.zero_mul])
  rwa [le_antisymm below above] at own

theorem Units.zero_div_ofNat (own : Units x 0) {n : Nat} (positive : 1 ≤ n) (small : n < 2 ^ 53) :
    Units (x / ofNat n) 0 := by
  have within : Within x 0 0 := ⟨0, own, by rw [Int.zero_mul], by rw [Int.zero_mul]⟩
  obtain ⟨w, part, above, below⟩ :=
    within.div_ofNat positive small le_rfl le_rfl (by decide) (by decide)
  rw [Int.zero_mul] at above below
  rwa [le_antisymm below above] at part

end Zero

end Swatch.Binary64
