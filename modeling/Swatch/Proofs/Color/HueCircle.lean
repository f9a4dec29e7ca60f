import Swatch.Proofs.Binary64.Nearness

/-!
# The hue circle

A channel rises over one sixth of the circle, stays at its greatest over two, falls over one and is
at its least over the other two. `hill` is that course over the rational numbers, `share` the same
for places outside of one turn, and a `Sector` tells the shares of the three channels between two
neighbouring pure colors. The channels that are computed at a place are those of its shares, up to a
small error (`channelAt_near`, `channelsAt_near`): the course is continuous, so neither the rounded
bounds of its parts nor the rounded place can move a channel far.
-/

namespace Swatch.Color

open Binary64

/-! ## The course of a channel -/

/-- The course of a channel over one turn that starts where the channel starts to rise. -/
def hill (turn : ℚ) : ℚ :=
  max 0 (min 1 (min (6 * turn) (4 - 6 * turn)))

/-- The course of a channel from one turn before the first to one turn behind it. -/
def share (turn : ℚ) : ℚ :=
  hill (turn - 1) + hill turn + hill (turn + 1)

section Hill

variable {s t e : ℚ}

theorem hill_nonneg (t : ℚ) : 0 ≤ hill t :=
  le_max_left _ _

theorem hill_le_one (t : ℚ) : hill t ≤ 1 :=
  max_le zero_le_one (min_le_left _ _)

/-- The course is at most six times as steep as the place moves. -/
theorem hill_lipschitz (close : |s - t| ≤ e) : |hill s - hill t| ≤ 6 * e := by
  have rise : |6 * s - 6 * t| ≤ 6 * e := by
    rw [← mul_sub, abs_mul, abs_of_pos (by norm_num : (0 : ℚ) < 6)]
    linarith
  have fall : |(4 - 6 * s) - (4 - 6 * t)| ≤ 6 * e := by
    rwa [sub_sub_sub_cancel_left, abs_sub_comm]
  have nonneg : 0 ≤ 6 * e := (abs_nonneg _).trans rise
  have sides := (abs_min_sub_min_le_max (6 * s) (4 - 6 * s) (6 * t) (4 - 6 * t)).trans
    (max_le rise fall)
  have top := (abs_min_sub_min_le_max 1 (min (6 * s) (4 - 6 * s)) 1 (min (6 * t) (4 - 6 * t))).trans
    (max_le (by rwa [sub_self, abs_zero]) sides)
  exact (abs_max_sub_max_le_max 0 _ 0 _).trans (max_le (by rwa [sub_self, abs_zero]) top)

theorem hill_of_before (before : t ≤ 0) : hill t = 0 := by
  refine max_eq_left ((min_le_right _ _).trans ((min_le_left _ _).trans ?_))
  linarith

theorem hill_of_rise (lower : 0 ≤ t) (upper : 6 * t ≤ 1) : hill t = 6 * t := by
  rw [hill, min_eq_left (by linarith : 6 * t ≤ 4 - 6 * t), min_eq_right upper,
    max_eq_right (by linarith)]

theorem hill_of_top (lower : 1 ≤ 6 * t) (upper : 2 * t ≤ 1) : hill t = 1 := by
  rw [hill, min_eq_left (le_min lower (by linarith)), max_eq_right zero_le_one]

theorem hill_of_fall (lower : 1 ≤ 2 * t) (upper : 3 * t ≤ 2) : hill t = 4 - 6 * t := by
  rw [hill, min_eq_right (by linarith : 4 - 6 * t ≤ 6 * t), min_eq_right (by linarith),
    max_eq_right (by linarith)]

theorem hill_of_behind (behind : 2 ≤ 3 * t) : hill t = 0 := by
  refine max_eq_left ((min_le_right _ _).trans ((min_le_right _ _).trans ?_))
  linarith

/-- A little behind the first sixth the course is still next to its rise. -/
theorem hill_near_rise (nonneg : 0 ≤ t) (before : t ≤ 1 / 6 + e) (slack : 0 ≤ e)
    (small : e ≤ 1 / 12) :
    |6 * t - hill t| ≤ 6 * e := by
  rcases le_total (6 * t) 1 with rises | past
  · rw [hill_of_rise nonneg rises, sub_self, abs_zero]
    linarith
  · rw [hill_of_top past (by linarith), abs_of_nonneg (by linarith)]
    linarith

/-- A little before the second sixth the course is next to its top. -/
theorem hill_near_top (risen : 1 / 6 - e ≤ t) (before : t ≤ 1 / 2) (slack : 0 ≤ e)
    (small : e ≤ 1 / 12) : |1 - hill t| ≤ 6 * e := by
  rcases le_total (6 * t) 1 with rises | past
  · rw [hill_of_rise (by linarith) rises, abs_of_nonneg (by linarith)]
    linarith
  · rw [hill_of_top past (by linarith), sub_self, abs_zero]
    linarith

/-- A little behind the fourth sixth the course is still next to its fall. -/
theorem hill_near_fall (half : 1 / 2 ≤ t) (before : t ≤ 2 / 3 + e) (slack : 0 ≤ e) :
    |6 * (2 / 3 - t) - hill t| ≤ 6 * e := by
  rcases le_total (3 * t) 2 with falls | past
  · have same : 6 * (2 / 3 - t) = 4 - 6 * t := by ring
    rw [hill_of_fall (by linarith) falls, same, sub_self, abs_zero]
    linarith
  · rw [hill_of_behind past, sub_zero, abs_le]
    constructor <;> linarith

/-- A little before the fifth sixth the course is next to its foot. -/
theorem hill_near_foot (late : 2 / 3 - e ≤ t) (slack : 0 ≤ e) (small : e ≤ 1 / 12) :
    |0 - hill t| ≤ 6 * e := by
  rcases le_total 2 (3 * t) with past | falls
  · rw [hill_of_behind past, sub_self, abs_zero]
    linarith
  · rw [hill_of_fall (by linarith) falls, zero_sub, abs_neg, abs_of_nonneg (by linarith)]
    linarith

/-- At a place on the first turn, or at most so far from it, only one turn counts. -/
theorem share_near {v : ℚ} {k : Int} (nonneg : 0 ≤ v) (le_one : v ≤ 1)
    (close : |v - (t + k)| ≤ e) (small : e ≤ 1 / 12) (lower : -(1 / 3) ≤ t) (upper : t ≤ 4 / 3) :
    |hill v - share t| ≤ 18 * e := by
  have moved := hill_lipschitz close
  rw [abs_le] at close
  have before {s : ℚ} (below : s ≤ e) : hill s ≤ 6 * e := by
    have beside := hill_lipschitz (s := s) (t := min s 0) (e := e) (by
      rcases le_total s 0 with less | more
      · rw [min_eq_left less, sub_self, abs_zero]
        linarith
      · rw [min_eq_right more, sub_zero, abs_of_nonneg more]
        exact below)
    rw [hill_of_before (min_le_right _ _), sub_zero] at beside
    exact (le_abs_self _).trans beside
  have range : -2 < k ∧ k < 2 := by
    constructor
    · have above : (-2 : ℚ) < k := by linarith
      exact_mod_cast above
    · have below : (k : ℚ) < 2 := by linarith
      exact_mod_cast below
  have positive := hill_nonneg (t - 1)
  have positive' := hill_nonneg t
  have positive'' := hill_nonneg (t + 1)
  obtain rfl | rfl | rfl : k = -1 ∨ k = 0 ∨ k = 1 := by omega
  · push_cast at close moved
    rw [← sub_eq_add_neg] at close moved
    have here : hill t = 0 := hill_of_behind (by linarith)
    have behind : hill (t + 1) = 0 := hill_of_behind (by linarith)
    rw [share, here, behind, add_zero, add_zero]
    linarith [abs_nonneg (hill v - hill (t - 1))]
  · rw [Int.cast_zero, add_zero] at close moved
    have first := before (s := t - 1) (by linarith)
    have behind : hill (t + 1) = 0 := hill_of_behind (by linarith)
    rw [abs_le] at moved
    rw [share, behind, abs_le]
    constructor <;> linarith
  · push_cast at close moved
    have first := before (s := t - 1) (by linarith)
    have here := before (s := t) (by linarith)
    rw [abs_le] at moved
    rw [share, abs_le]
    constructor <;> linarith

theorem share_eq {k : Int} (nonneg : 0 ≤ t + k) (le_one : t + k ≤ 1) (lower : -(1 / 3) ≤ t)
    (upper : t ≤ 4 / 3) : share t = hill (t + k) := by
  have near := share_near (k := k) (e := 0) nonneg le_one (by rw [sub_self, abs_zero])
    (by norm_num) lower upper
  rw [mul_zero, abs_nonpos_iff, sub_eq_zero] at near
  exact near.symm

theorem share_here (nonneg : 0 ≤ t) (le_one : t ≤ 1) : share t = hill t := by
  have own := share_eq (t := t) (k := 0) (by simpa) (by simpa) (by linarith) (by linarith)
  rwa [Int.cast_zero, add_zero] at own

theorem share_before (lower : -(1 / 3) ≤ t) (nonpos : t ≤ 0) : share t = hill (t + 1) := by
  have own := share_eq (t := t) (k := 1) (by push_cast; linarith) (by push_cast; linarith) lower
    (by linarith)
  rwa [Int.cast_one] at own

theorem share_behind (ge_one : 1 ≤ t) (upper : t ≤ 4 / 3) : share t = hill (t - 1) := by
  have own := share_eq (t := t) (k := -1) (by push_cast; linarith) (by push_cast; linarith)
    (by linarith) upper
  rwa [Int.cast_neg, Int.cast_one, ← sub_eq_add_neg] at own

theorem share_bounds (lower : -(1 / 3) ≤ t) (upper : t ≤ 4 / 3) : 0 ≤ share t ∧ share t ≤ 1 := by
  rcases lt_or_ge t 0 with negative | nonneg
  · rw [share_before lower negative.le]
    exact ⟨hill_nonneg _, hill_le_one _⟩
  rcases le_or_gt t 1 with first | later
  · rw [share_here nonneg first]
    exact ⟨hill_nonneg _, hill_le_one _⟩
  · rw [share_behind later.le upper]
    exact ⟨hill_nonneg _, hill_le_one _⟩

end Hill

/-! ## Sectors -/

/-- A place on the circle between two neighbouring pure colors, with the shares of the channels.
`part` is how far the place is from the first color to the second. -/
inductive Sector : (turn red green blue : ℚ) → Prop
  | redToYellow {part : ℚ} (nonneg : 0 ≤ part) (le_one : part ≤ 1) :
      Sector (part / 6) 1 part 0
  | yellowToGreen {part : ℚ} (nonneg : 0 ≤ part) (le_one : part ≤ 1) :
      Sector ((1 + part) / 6) (1 - part) 1 0
  | greenToCyan {part : ℚ} (nonneg : 0 ≤ part) (le_one : part ≤ 1) :
      Sector ((2 + part) / 6) 0 1 part
  | cyanToBlue {part : ℚ} (nonneg : 0 ≤ part) (le_one : part ≤ 1) :
      Sector ((3 + part) / 6) 0 (1 - part) 1
  | blueToMagenta {part : ℚ} (nonneg : 0 ≤ part) (le_one : part ≤ 1) :
      Sector ((4 + part) / 6) part 0 1
  | magentaToRed {part : ℚ} (nonneg : 0 ≤ part) (le_one : part ≤ 1) :
      Sector ((5 + part) / 6) 1 0 (1 - part)

/-- Every place on the circle is in a sector. -/
theorem sector_of_turn {turn : ℚ} (nonneg : 0 ≤ turn) (le_one : turn ≤ 1) :
    Sector turn (share (turn + 1 / 3)) (share turn) (share (turn - 1 / 3)) := by
  rcases le_total (6 * turn) 1 with first | more
  · obtain ⟨part, rfl⟩ : ∃ part, turn = part / 6 := ⟨6 * turn, by ring⟩
    rw [share_here (by linarith) (by linarith), share_here nonneg le_one,
      share_before (by linarith) (by linarith), hill_of_top (by linarith) (by linarith),
      hill_of_rise (by linarith) (by linarith), hill_of_behind (by linarith)]
    have own : Sector (part / 6) 1 part 0 := .redToYellow (by linarith) (by linarith)
    rwa [show 6 * (part / 6) = part by ring]
  rcases le_total (6 * turn) 2 with second | more
  · obtain ⟨part, rfl⟩ : ∃ part, turn = (1 + part) / 6 := ⟨6 * turn - 1, by ring⟩
    rw [share_here (by linarith) (by linarith), share_here nonneg le_one,
      share_before (by linarith) (by linarith), hill_of_fall (by linarith) (by linarith),
      hill_of_top (by linarith) (by linarith), hill_of_behind (by linarith)]
    have own : Sector ((1 + part) / 6) (1 - part) 1 0 := .yellowToGreen (by linarith) (by linarith)
    rwa [show 4 - 6 * ((1 + part) / 6 + 1 / 3) = 1 - part by ring]
  rcases le_total (6 * turn) 3 with third | more
  · obtain ⟨part, rfl⟩ : ∃ part, turn = (2 + part) / 6 := ⟨6 * turn - 2, by ring⟩
    rw [share_here (by linarith) (by linarith), share_here nonneg le_one,
      share_here (by linarith) (by linarith), hill_of_behind (by linarith),
      hill_of_top (by linarith) (by linarith), hill_of_rise (by linarith) (by linarith)]
    have own : Sector ((2 + part) / 6) 0 1 part := .greenToCyan (by linarith) (by linarith)
    rwa [show 6 * ((2 + part) / 6 - 1 / 3) = part by ring]
  rcases le_total (6 * turn) 4 with fourth | more
  · obtain ⟨part, rfl⟩ : ∃ part, turn = (3 + part) / 6 := ⟨6 * turn - 3, by ring⟩
    rw [share_here (by linarith) (by linarith), share_here nonneg le_one,
      share_here (by linarith) (by linarith), hill_of_behind (by linarith),
      hill_of_fall (by linarith) (by linarith), hill_of_top (by linarith) (by linarith)]
    have own : Sector ((3 + part) / 6) 0 (1 - part) 1 := .cyanToBlue (by linarith) (by linarith)
    rwa [show 4 - 6 * ((3 + part) / 6) = 1 - part by ring]
  rcases le_total (6 * turn) 5 with fifth | last
  · obtain ⟨part, rfl⟩ : ∃ part, turn = (4 + part) / 6 := ⟨6 * turn - 4, by ring⟩
    rw [share_behind (by linarith) (by linarith), share_here nonneg le_one,
      share_here (by linarith) (by linarith), hill_of_rise (by linarith) (by linarith),
      hill_of_behind (by linarith), hill_of_top (by linarith) (by linarith)]
    have own : Sector ((4 + part) / 6) part 0 1 := .blueToMagenta (by linarith) (by linarith)
    rwa [show 6 * ((4 + part) / 6 + 1 / 3 - 1) = part by ring]
  · obtain ⟨part, rfl⟩ : ∃ part, turn = (5 + part) / 6 := ⟨6 * turn - 5, by ring⟩
    rw [share_behind (by linarith) (by linarith), share_here nonneg le_one,
      share_here (by linarith) (by linarith), hill_of_top (by linarith) (by linarith),
      hill_of_behind (by linarith), hill_of_fall (by linarith) (by linarith)]
    have own : Sector ((5 + part) / 6) 1 0 (1 - part) := .magentaToRed (by linarith) (by linarith)
    rwa [show 4 - 6 * ((5 + part) / 6 - 1 / 3) = 1 - part by ring]

/-! ## The channels that are computed -/

/-- The channels are those at a place on the circle, between a least and a greatest value. -/
structure Hued (red green blue : Binary64) (turn low high error : ℚ) : Prop where
  red : Near red (low + (high - low) * share (turn + 1 / 3)) error
  green : Near green (low + (high - low) * share turn) error
  blue : Near blue (low + (high - low) * share (turn - 1 / 3)) error

section Numerals

theorem near_one : Near 1 1 0 :=
  (near_ofNat (n := 1) (by decide)).of_eq Nat.cast_one

theorem near_two : Near 2 2 0 :=
  near_numeral 2 (by decide)

theorem near_six : Near 6 6 0 :=
  near_numeral 6 (by decide)

theorem near_sixth : Near (1 / 6) (1 / 6) grain :=
  (near_one.div near_six (m := 6) (k := 1) (by norm_num) (by norm_num)
    (by norm_num [abs_of_pos]) (by norm_num)).widen (by norm_num)

theorem near_thirds {x : Binary64} {q : ℚ} (own : Near x q 0) (nonneg : 0 ≤ q) (small : q ≤ 3) :
    Near (x / 3) (q / 3) grain := by
  have three : Near 3 3 0 := near_numeral 3 (by decide)
  refine (own.div three (m := 3) (k := 1) (by norm_num) (by norm_num) ?_
    (by norm_num)).widen (by norm_num)
  rw [abs_of_nonneg (by positivity)]
  linarith

end Numerals

section Channels

variable {low high turn : Binary64} {a b t : ℚ}

/-- A slope between the least and the greatest value, as steep as a channel rises. -/
theorem slope_near (least : Near low a (14 * grain)) (greatest : Near high b (14 * grain))
    (height : |b - a| ≤ 1) (small : |a| ≤ 1) {part : Binary64} {v : ℚ}
    (rise : Near part v (2 * grain)) (inside : |v| ≤ 1) :
    Near (low + (high - low) * part * 6) (a + (b - a) * (6 * v)) (214 * grain) := by
  have slope : Near (high - low) (b - a) (29 * grain) :=
    (greatest.sub least (by norm_num [grain]; linarith)).widen (by norm_num [grain])
  have product : Near ((high - low) * part) ((b - a) * v) (33 * grain) :=
    (slope.mul rise height inside (by norm_num [grain])).widen (by norm_num [grain])
  have bounded : |(b - a) * v| ≤ 1 := by
    rw [abs_mul]
    exact mul_le_one₀ height (abs_nonneg v) inside
  have ramp : Near ((high - low) * part * 6) ((b - a) * v * 6) (199 * grain) :=
    (product.mul near_six bounded (m := 6) (by norm_num [abs_of_pos])
      (by norm_num [grain])).widen (by norm_num [grain])
  have total : |a + (b - a) * v * 6| ≤ 7 := by
    have six : |(b - a) * v * 6| ≤ 6 := by
      rw [abs_mul, abs_of_pos (by norm_num : (0 : ℚ) < 6)]
      linarith
    exact (abs_add_le _ _).trans (by linarith)
  have sum := least.add ramp (by norm_num [grain]; linarith)
  exact (sum.widen (by norm_num [grain])).of_eq (by ring)

/-- The channel that is computed at a place is that of its share. -/
theorem channelAt_near (least : Near low a (14 * grain)) (greatest : Near high b (14 * grain))
    (place : Near turn t (3 * grain)) (nonneg : 0 ≤ a) (le_one : a ≤ 1) (nonneg' : 0 ≤ b)
    (le_one' : b ≤ 1) (lower : -(1 / 3) ≤ t) (upper : t ≤ 4 / 3) :
    Near (channelAt low high turn) (a + (b - a) * share t) (512 * grain) := by
  have positive := grain_pos
  have height : |b - a| ≤ 1 := abs_le.mpr ⟨by linarith, by linarith⟩
  have small : |a| ≤ 1 := abs_le.mpr ⟨by linarith, le_one⟩
  obtain ⟨v, k, wrapped, from_zero, to_one, close⟩ := place.wrap
  have course := share_near (e := 4 * grain) from_zero to_one (by linarith) (by norm_num [grain])
    lower upper
  -- What is computed from a value next to the course of the channel is next to that of its share.
  have settle {c : Binary64} {q : ℚ} (near : Near c (a + (b - a) * q) (214 * grain))
      (beside : |q - hill v| ≤ 6 * grain) :
      Near c (a + (b - a) * share t) (512 * grain) := by
    have apart : |q - share t| ≤ 78 * grain := by
      have triangle := abs_add_le (q - hill v) (hill v - share t)
      rw [sub_add_sub_cancel] at triangle
      linarith
    refine (near.move (q := a + (b - a) * share t) (e := 78 * grain) ?_).widen (by linarith)
    rw [add_sub_add_left_eq_sub, ← mul_sub, abs_mul]
    calc |b - a| * |q - share t| ≤ 1 * |q - share t| :=
          mul_le_mul_of_nonneg_right height (abs_nonneg _)
      _ ≤ 78 * grain := by rwa [one_mul]
  have small_grain : grain ≤ 1 / 12 := by norm_num [grain]
  have thirds : Near (2 / 3) (2 / 3) grain := near_thirds near_two (by norm_num) (by norm_num)
  unfold channelAt
  dsimp only
  split
  next before =>
    have early := wrapped.lt_of_lt near_sixth before
    refine settle (slope_near least greatest height small (wrapped.widen (by linarith)) ?_)
      (hill_near_rise from_zero (by linarith) positive.le small_grain)
    exact abs_le.mpr ⟨by linarith, to_one⟩
  next later =>
  have risen := wrapped.le_of_not_lt near_sixth (by simpa using later)
  split
  next before =>
    have early := wrapped.lt_of_lt near_half before
    exact settle ((greatest.widen (by linarith)).of_eq (by ring : b = a + (b - a) * 1))
      (hill_near_top (by linarith) (by linarith) positive.le small_grain)
  next later =>
  have half := wrapped.le_of_not_lt near_half (by simpa using later)
  split
  next before =>
    have early := wrapped.lt_of_lt thirds before
    have left : Near (2 / 3 - turn.wrap 1) (2 / 3 - v) (2 * grain) :=
      (thirds.sub wrapped (by
        have size : |2 / 3 - v| ≤ 1 := abs_le.mpr ⟨by linarith, by linarith⟩
        norm_num [grain]
        linarith)).widen (by linarith)
    refine settle (slope_near least greatest height small left ?_)
      (hill_near_fall (by linarith) (by linarith) positive.le)
    exact abs_le.mpr ⟨by linarith, by linarith⟩
  next later =>
    have late := wrapped.le_of_not_lt thirds (by simpa using later)
    exact settle ((least.widen (by linarith)).of_eq (by ring : a = a + (b - a) * 0))
      (hill_near_foot (by linarith) positive.le small_grain)

/-- A saturation takes the channels neither below zero nor above one. -/
theorem reach_bounds {l s : ℚ} (nonneg : 0 ≤ l) (le_one : l ≤ 1) (nonneg' : 0 ≤ s)
    (le_one' : s ≤ 1) :
    0 ≤ s * min l (1 - l) ∧ s * min l (1 - l) ≤ l ∧ s * min l (1 - l) ≤ 1 - l := by
  have room : 0 ≤ min l (1 - l) := le_min nonneg (by linarith)
  have less := mul_le_of_le_one_left room le_one'
  exact ⟨mul_nonneg nonneg' room, less.trans (min_le_left _ _), less.trans (min_le_right _ _)⟩

section Extremes

variable {lightness saturation : Binary64} {l s : ℚ}

/-- Next to one half both ways to the greatest channel lead to nearly the same value. -/
theorem near_high {x : Binary64} {m : ℚ} (near : Near x (l + s * m) (8 * grain))
    (close : |m - min l (1 - l)| ≤ 2 * grain) (nonneg : 0 ≤ s) (le_one : s ≤ 1) :
    Near x (l + s * min l (1 - l)) (10 * grain) := by
  refine (near.move (e := 2 * grain) ?_).widen (by linarith [grain_pos])
  rw [add_sub_add_left_eq_sub, ← mul_sub, abs_mul]
  calc |s| * |m - min l (1 - l)| ≤ 1 * (2 * grain) :=
        mul_le_mul (by rwa [abs_of_nonneg nonneg]) close (abs_nonneg _) zero_le_one
    _ = 2 * grain := one_mul _

/-- The greatest channel of a dark color. -/
theorem high_near_dark (light : Near lightness l grain) (full : Near saturation s grain)
    (nonneg : 0 ≤ l) (le_one : l ≤ 1) (nonneg' : 0 ≤ s) (le_one' : s ≤ 1) :
    Near (lightness * (1 + saturation)) (l + s * l) (8 * grain) := by
  have factor : Near (1 + saturation) (1 + s) (2 * grain) :=
    (near_one.add full (by rw [abs_of_nonneg] <;> norm_num [grain] <;> linarith)).widen
      (by linarith [grain_pos])
  have product := light.mul factor (k := 1) (m := 2) (by rwa [abs_of_nonneg nonneg])
    (by rw [abs_of_nonneg] <;> linarith) (by norm_num [grain])
  exact (product.widen (by norm_num [grain])).of_eq (by ring)

/-- The greatest channel of a bright color. -/
theorem high_near_bright (light : Near lightness l grain) (full : Near saturation s grain)
    (nonneg : 0 ≤ l) (le_one : l ≤ 1) (nonneg' : 0 ≤ s) (le_one' : s ≤ 1) :
    Near (lightness + saturation - lightness * saturation) (l + s * (1 - l)) (8 * grain) := by
  have sum : Near (lightness + saturation) (l + s) (3 * grain) :=
    (light.add full (by rw [abs_of_nonneg] <;> norm_num [grain] <;> linarith)).widen
      (by linarith [grain_pos])
  have product := light.mul full (k := 1) (m := 1) (by rwa [abs_of_nonneg nonneg])
    (by rwa [abs_of_nonneg nonneg']) (by norm_num [grain])
  have less : l * s ≤ l := mul_le_of_le_one_right nonneg le_one'
  have least : 0 ≤ l * s := mul_nonneg nonneg nonneg'
  have rest := sum.sub product (by
    have size : |l + s - l * s| ≤ 2 := abs_le.mpr ⟨by linarith, by linarith⟩
    norm_num [grain]
    linarith)
  exact (rest.widen (by norm_num [grain])).of_eq (by ring)

/-- The greatest channel of a lightness and a saturation. -/
theorem high_near (light : Near lightness l grain) (full : Near saturation s grain) (nonneg : 0 ≤ l)
    (le_one : l ≤ 1) (nonneg' : 0 ≤ s) (le_one' : s ≤ 1) :
    Near (if lightness.le (1 / 2) then lightness * (1 + saturation)
        else lightness + saturation - lightness * saturation)
      (l + s * min l (1 - l)) (10 * grain) := by
  have positive := grain_pos
  split
  next dark =>
    have less := light.le_of_le near_half dark
    refine near_high (high_near_dark light full nonneg le_one nonneg' le_one') ?_ nonneg' le_one'
    rcases le_total l (1 - l) with low | high
    · rw [min_eq_left low, sub_self, abs_zero]
      linarith
    · rw [min_eq_right high, abs_of_nonneg (by linarith)]
      linarith
  next bright =>
    have more := light.lt_of_not_le near_half (by simpa using bright)
    refine near_high (high_near_bright light full nonneg le_one nonneg' le_one') ?_ nonneg' le_one'
    rcases le_total l (1 - l) with low | high
    · rw [min_eq_left low, abs_of_nonneg (by linarith)]
      linarith
    · rw [min_eq_right high, sub_self, abs_zero]
      linarith

/-- The least channel of a lightness and a saturation. -/
theorem low_near (light : Near lightness l grain) (full : Near saturation s grain) (nonneg : 0 ≤ l)
    (le_one : l ≤ 1) (nonneg' : 0 ≤ s) (le_one' : s ≤ 1) :
    Near (2 * lightness - (if lightness.le (1 / 2) then lightness * (1 + saturation)
        else lightness + saturation - lightness * saturation))
      (l - s * min l (1 - l)) (14 * grain) := by
  have positive := grain_pos
  obtain ⟨reach, below, above⟩ := reach_bounds nonneg le_one nonneg' le_one'
  have double : Near (2 * lightness) (2 * l) (3 * grain) :=
    (near_two.mul light (k := 2) (m := 1) (by norm_num [abs_of_pos])
      (by rwa [abs_of_nonneg nonneg]) (by norm_num [grain])).widen (by linarith)
  have least := double.sub (high_near light full nonneg le_one nonneg' le_one') (by
    have size : |2 * l - (l + s * min l (1 - l))| ≤ 1 := abs_le.mpr ⟨by linarith, by linarith⟩
    norm_num [grain]
    linarith)
  exact (least.widen (by linarith)).of_eq (by ring)

end Extremes

/-- The three channels that are computed between a least and a greatest value are those at the
place. -/
theorem hued_channelAt (place : Near turn t grain) (from_zero : 0 ≤ t) (to_one : t ≤ 1)
    (least : Near low a (14 * grain)) (greatest : Near high b (14 * grain)) (nonneg : 0 ≤ a)
    (le_one : a ≤ 1) (nonneg' : 0 ≤ b) (le_one' : b ≤ 1) :
    Hued (channelAt low high (turn + 1 / 3)) (channelAt low high turn)
      (channelAt low high (turn - 1 / 3)) t a b (512 * grain) := by
  have positive := grain_pos
  have third : Near (1 / 3) (1 / 3) grain := near_thirds near_one (by norm_num) (by norm_num)
  have ahead : Near (turn + 1 / 3) (t + 1 / 3) (3 * grain) :=
    (place.add third (by rw [abs_of_nonneg] <;> norm_num [grain] <;> linarith)).widen (by linarith)
  have back : Near (turn - 1 / 3) (t - 1 / 3) (3 * grain) :=
    (place.sub third (by
      have size : |t - 1 / 3| ≤ 1 := abs_le.mpr ⟨by linarith, by linarith⟩
      norm_num [grain]
      linarith)).widen (by linarith)
  have channel {place : Binary64} {t : ℚ} (near : Near place t (3 * grain))
      (lower : -(1 / 3) ≤ t) (upper : t ≤ 4 / 3) :=
    channelAt_near least greatest near nonneg le_one nonneg' le_one' lower upper
  exact ⟨channel ahead (by linarith) (by linarith),
    channel (place.widen (by linarith)) (by linarith) (by linarith),
    channel back (by linarith) (by linarith)⟩

/-- Where hardly anything is between the least and the greatest value, every share is next to each
number between them. -/
theorem near_of_faint {x : Binary64} {l d place : ℚ} (near : Near x l grain) (nonneg : 0 ≤ d)
    (faint : d ≤ grain) (lower : -(1 / 3) ≤ place) (upper : place ≤ 4 / 3) :
    Near x (l - d + (l + d - (l - d)) * share place) (512 * grain) := by
  obtain ⟨from_zero, to_one⟩ := share_bounds lower upper
  refine (near.move (e := grain) ?_).widen (by linarith)
  have part : d * share place ≤ d := mul_le_of_le_one_right nonneg to_one
  have part' : 0 ≤ d * share place := mul_nonneg nonneg from_zero
  rw [abs_le]
  constructor <;> linarith

/-- The channels that are computed are those at the place, as far below and above the lightness as
the saturation takes them. -/
theorem channelsAt_near {lightness saturation : Binary64} {l s : ℚ} (place : Near turn t grain)
    (light : Near lightness l grain) (full : Near saturation s grain) (from_zero : 0 ≤ t)
    (to_one : t ≤ 1) (nonneg : 0 ≤ l) (le_one : l ≤ 1) (nonneg' : 0 ≤ s) (le_one' : s ≤ 1) :
    Hued (channelsAt turn lightness saturation).1 (channelsAt turn lightness saturation).2.1
      (channelsAt turn lightness saturation).2.2 t (l - s * min l (1 - l)) (l + s * min l (1 - l))
      (512 * grain) := by
  have positive := grain_pos
  obtain ⟨reach, below, above⟩ := reach_bounds nonneg le_one nonneg' le_one'
  unfold channelsAt
  split
  next zero =>
    -- The saturation is so small that all channels are next to the lightness.
    have small := full.close_of_same (near_ofNat (n := 0) (by decide)) zero
    rw [Nat.cast_zero, sub_zero, abs_of_nonneg nonneg', add_zero] at small
    have faint : s * min l (1 - l) ≤ grain :=
      (mul_le_of_le_one_right nonneg' ((min_le_left _ _).trans le_one)).trans small
    have channel {place : ℚ} (lower : -(1 / 3) ≤ place) (upper : place ≤ 4 / 3) :=
      near_of_faint light reach faint lower upper
    exact ⟨channel (by linarith) (by linarith), channel (by linarith) (by linarith),
      channel (by linarith) (by linarith)⟩
  · exact hued_channelAt place from_zero to_one (low_near light full nonneg le_one nonneg' le_one')
      ((high_near light full nonneg le_one nonneg' le_one').widen (by linarith)) (by linarith)
      (by linarith) (by linarith) (by linarith)

end Channels

end Swatch.Color
