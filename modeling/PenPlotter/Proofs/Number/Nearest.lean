import PenPlotter.Proofs.Number.Shortest

/-!
Rounding is to the nearest. A number lies among the values of two magnitudes that follow one
another, and rounding takes the nearer of these, halfway the even one. As values grow with their
magnitudes, no other magnitude comes nearer. The numbers that round to infinity are those from
the middle between the last finite value and the one that would follow it.
-/

namespace PenPlotter

/-- Of two neighbours, whose middle is known, the one nearer to a number, halfway the even one. -/
structure IsHalfEven (x middle : ℚ) (below rounded : Nat) : Prop where
  down : x < middle → rounded = below
  tie : x = middle → rounded = below + below % 2
  up : middle < x → rounded = below + 1

/-- The choice stays the same at another scale and after an even number of more neighbours. -/
theorem IsHalfEven.scaled {x middle : ℚ} {below rounded : Nat}
    (choice : IsHalfEven x middle below rounded) {unit : ℚ} (positive : 0 < unit) {before : Nat}
    (even : Even before)
    : IsHalfEven (x * unit) (middle * unit) (before + below) (before + rounded) := by
  constructor
  · intro down
    rw [choice.down ((mul_lt_mul_iff_left₀ positive).mp down)]
  · intro tie
    rw [choice.tie (mul_right_cancel₀ positive.ne' tie), Nat.add_mod,
      Nat.even_iff.mp even, Nat.zero_add, Nat.mod_mod, Nat.add_assoc]
  · intro up
    rw [choice.up ((mul_lt_mul_iff_left₀ positive).mp up), Nat.add_assoc]

theorem IsHalfEven.bounds {x middle : ℚ} {below rounded : Nat}
    (choice : IsHalfEven x middle below rounded)
    : below ≤ rounded ∧ rounded ≤ below + 1 := by
  rcases lt_trichotomy x middle with down | tie | up
  · rw [choice.down down]
    omega
  · rw [choice.tie tie]
    omega
  · rw [choice.up up]
    omega

/-- The choice is determined. -/
theorem IsHalfEven.unique {x middle : ℚ} {below rounded other : Nat}
    (choice : IsHalfEven x middle below rounded) (choiceToo : IsHalfEven x middle below other)
    : rounded = other := by
  rcases lt_trichotomy x middle with down | tie | up
  · rw [choice.down down, choiceToo.down down]
  · rw [choice.tie tie, choiceToo.tie tie]
  · rw [choice.up up, choiceToo.up up]

namespace Ratio

variable {r : Ratio}

/-- A quotient is its whole part and the rest. -/
theorem toRat_eq_floor_add (den : 0 < r.den)
    : r.toRat = r.floor + ((r.num % r.den : Nat) : ℚ) / r.den := by
  have nonzero : (r.den : ℚ) ≠ 0 := by positivity
  rw [toRat, floor, div_eq_iff nonzero, add_mul, div_mul_cancel₀ _ nonzero]
  exact_mod_cast (Nat.div_add_mod' r.num r.den).symm

theorem floor_le_toRat (den : 0 < r.den) : (r.floor : ℚ) ≤ r.toRat := by
  rw [toRat_eq_floor_add den, le_add_iff_nonneg_right]
  positivity

theorem toRat_lt_floor_add_one (den : 0 < r.den) : r.toRat < r.floor + 1 := by
  have positive : (0 : ℚ) < r.den := by positivity
  rw [toRat_eq_floor_add den, add_lt_add_iff_left, div_lt_one positive]
  exact_mod_cast Nat.mod_lt r.num den

/-- The rest is compared with one half in whole numbers. -/
theorem isHalfEven_roundHalfEven (den : 0 < r.den)
    : IsHalfEven r.toRat (r.floor + 1 / 2) r.floor r.roundHalfEven := by
  have positive : (0 : ℚ) < r.den := by positivity
  have less : r.toRat < r.floor + 1 / 2 ↔ 2 * (r.num % r.den) < r.den := by
    rw [toRat_eq_floor_add den, add_lt_add_iff_left, div_lt_div_iff₀ positive two_pos, one_mul,
      mul_comm]
    exact_mod_cast Iff.rfl
  have same : r.toRat = r.floor + 1 / 2 ↔ 2 * (r.num % r.den) = r.den := by
    rw [toRat_eq_floor_add den, add_right_inj, div_eq_div_iff positive.ne' two_ne_zero, one_mul,
      mul_comm]
    exact_mod_cast Iff.rfl
  rw [roundHalfEven, compareHalf]
  constructor
  · intro down
    rw [Nat.compare_eq_lt.mpr (less.mp down)]
  · intro tie
    rw [Nat.compare_eq_eq.mpr (same.mp tie)]
  · intro up
    have more : r.den < 2 * (r.num % r.den) := by
      have notLess := mt less.mpr up.not_gt
      have notSame := mt same.mpr up.ne'
      omega
    rw [Nat.compare_eq_gt.mpr more]

/-- Quotients that stand for one number are rounded alike. -/
theorem roundHalfEven_eq_of_toRat {other : Ratio} (den : 0 < r.den) (denToo : 0 < other.den)
    (same : r.toRat = other.toRat)
    : r.roundHalfEven = other.roundHalfEven := by
  have choice := isHalfEven_roundHalfEven den
  have whole : r.floor = other.floor := by rw [floor_eq, floor_eq, same]
  rw [same, whole] at choice
  exact choice.unique (isHalfEven_roundHalfEven denToo)

end Ratio

namespace BinaryFormat

variable (f : BinaryFormat)

-----------------------------------------------------------------------------------------
-- Values in order
-----------------------------------------------------------------------------------------

/-- A magnitude in an octave, by its place there. -/
theorem toRat_value_of_place (octave : Nat) {place : Nat} (inside : place < f.step)
    : (f.value (octave * f.step + f.step + place)).toRat
      = (f.step + place) * (2 : ℚ) ^ (f.leastExponent + octave) := by
  have octaves : (octave * f.step + f.step + place) / f.step = octave + 1 := by
    rw [← Nat.succ_mul, Nat.mul_comm, Nat.mul_add_div f.step_pos, Nat.div_eq_of_lt inside]
  have remains : (octave * f.step + f.step + place) % f.step = place := by
    rw [← Nat.succ_mul, Nat.mul_add_mod_of_lt inside]
  rw [toRat_value, significand, exponent, octaves, remains, if_neg octave.succ_ne_zero,
    Nat.add_sub_cancel, Nat.cast_add, add_comm (place : ℚ)]

/-- A magnitude that counts some octaves and then a significand stands for this significand, with
the exponent of that many octaves. The significand may also be the first of the next octave.
-/
theorem toRat_value_of_octaves {octaves significand : Nat}
    (normal : octaves = 0 ∨ f.step ≤ significand) (inside : significand ≤ 2 * f.step)
    : (f.value (octaves * f.step + significand)).toRat
      = significand * (2 : ℚ) ^ (f.leastExponent + octaves) := by
  rcases Nat.lt_or_ge significand f.step with below | above
  · obtain rfl : octaves = 0 := normal.resolve_right (Nat.not_le.mpr below)
    have first : significand / f.step = 0 := Nat.div_eq_of_lt below
    rw [Nat.zero_mul, Nat.zero_add, toRat_value, BinaryFormat.significand, exponent, first,
      if_pos rfl]
  · obtain ⟨place, rfl⟩ := Nat.exists_eq_add_of_le above
    rw [← Nat.add_assoc]
    rcases Nat.lt_or_ge place f.step with within | next
    · rw [f.toRat_value_of_place octaves within, Nat.cast_add]
    · obtain rfl : place = f.step := by omega
      have carried := f.toRat_value_of_place (octaves + 1) f.step_pos
      rw [Nat.succ_mul, Nat.add_zero] at carried
      rw [carried, Nat.cast_succ, ← add_assoc, zpow_add_one₀ two_ne_zero]
      push_cast
      ring

/-- Any magnitude counts some octaves and then a significand. -/
theorem exists_octaves (magnitude : Nat)
    : ∃ octaves significand,
        (octaves = 0 ∨ f.step ≤ significand)
        ∧ significand < 2 * f.step
        ∧ magnitude = octaves * f.step + significand := by
  rcases f.magnitude_cases magnitude with ⟨small, -, -⟩ | ⟨octave, place, inside, split, -, -⟩
  · exact ⟨0, magnitude, Or.inl rfl, by omega, by omega⟩
  · exact ⟨octave, f.step + place, Or.inr (Nat.le_add_right _ place), by omega, by omega⟩

/-- Values grow with their magnitudes: from one to the next by a unit of the last place. -/
theorem toRat_value_strictMono : StrictMono fun magnitude => (f.value magnitude).toRat := by
  apply strictMono_nat_of_lt_succ
  intro magnitude
  obtain ⟨octaves, significand, normal, inside, rfl⟩ := f.exists_octaves magnitude
  have unit : (0 : ℚ) < 2 ^ (f.leastExponent + octaves) := by positivity
  have next : octaves = 0 ∨ f.step ≤ significand + 1 :=
    normal.imp_right (fun above => above.trans (Nat.le_succ _))
  rw [f.toRat_value_of_octaves normal inside.le, Nat.add_assoc,
    f.toRat_value_of_octaves next inside, mul_lt_mul_iff_left₀ unit]
  exact_mod_cast Nat.lt_succ_self significand

theorem toRat_value_zero : (f.value 0).toRat = 0 := by
  have value := f.toRat_value_of_octaves (.inl rfl) (Nat.zero_le (2 * f.step))
  simpa using value

theorem toRat_value_pos {magnitude : Nat} (some : 0 < magnitude)
    : 0 < (f.value magnitude).toRat := by
  rw [← f.toRat_value_zero]
  exact f.toRat_value_strictMono some

/-- The middle between the value of a magnitude and that of the next one. -/
def midpoint (magnitude : Nat) : ℚ :=
  ((f.value magnitude).toRat + (f.value (magnitude + 1)).toRat) / 2

theorem midpoint_strictMono : StrictMono f.midpoint := by
  intro magnitude other less
  have low := f.toRat_value_strictMono less
  have high := f.toRat_value_strictMono (Nat.succ_lt_succ less)
  rw [midpoint, midpoint]
  linarith

/-- The middle after a magnitude is half a unit of its last place above its value. -/
theorem midpoint_of_octaves {octaves significand : Nat}
    (normal : octaves = 0 ∨ f.step ≤ significand) (inside : significand < 2 * f.step)
    : f.midpoint (octaves * f.step + significand)
      = (significand + 1 / 2) * (2 : ℚ) ^ (f.leastExponent + octaves) := by
  rw [midpoint, Nat.add_assoc, f.toRat_value_of_octaves normal inside.le,
    f.toRat_value_of_octaves (normal.imp_right Nat.le_succ_of_le) inside]
  push_cast
  ring

theorem midpoint_zero : f.midpoint 0 = 2 ^ (f.leastExponent - 1) := by
  have middle := f.midpoint_of_octaves (.inl rfl) (Nat.mul_pos Nat.two_pos f.step_pos)
  rw [Nat.zero_mul, Nat.cast_zero, Nat.cast_zero, zero_add, add_zero] at middle
  rw [middle, zpow_sub_one₀ two_ne_zero]
  ring

-----------------------------------------------------------------------------------------
-- The two neighbours
-----------------------------------------------------------------------------------------

/-- A number lies between the values of two neighbours, and one of them is what it rounds to. -/
structure RoundsTo (x : ℚ) (below rounded : Nat) : Prop where
  low : (f.value below).toRat ≤ x
  high : x < (f.value (below + 1)).toRat
  halfEven : IsHalfEven x (f.midpoint below) below rounded

/-- At its last place a positive quotient counts less than two octaves. It counts at least one
unless the last place is the least of all.
-/
theorem floor_inUnits_bounds {r : Ratio} (num : 0 < r.num) (den : 0 < r.den)
    : let significand := (r.inUnits 2 (f.lastPlace r)).floor
      (f.lastPlace r = f.leastExponent ∨ f.step ≤ significand) ∧ significand < 2 * f.step := by
  intro significand
  have positive : 0 < r.toRat := by
    rw [Ratio.toRat]
    positivity
  have unit : (0 : ℚ) < 2 ^ f.lastPlace r := by positivity
  have place : f.lastPlace r = max (Int.log 2 r.toRat - f.fractionBits) f.leastExponent := by
    rw [lastPlace, Ratio.floorLog2_eq num den]
  have counted : significand = ⌊r.toRat / (2 : ℚ) ^ f.lastPlace r⌋₊ := by
    rw [← Nat.cast_two, ← Ratio.toRat_inUnits, ← Ratio.floor_eq]
  have octave (shift : Nat)
      : ((2 ^ (f.fractionBits + shift) : Nat) : ℚ) * 2 ^ f.lastPlace r
        = 2 ^ (f.lastPlace r + f.fractionBits + shift) := by
    rw [zpow_add₀ two_ne_zero, zpow_add₀ two_ne_zero, zpow_natCast, zpow_natCast, pow_add]
    push_cast
    ring
  rw [counted]
  constructor
  · rcases eq_or_ne (f.lastPlace r) f.leastExponent with least | above
    · exact Or.inl least
    · have known : f.lastPlace r + f.fractionBits + (0 : Nat) = Int.log 2 r.toRat := by omega
      right
      apply Nat.le_floor
      rw [le_div_iff₀ unit]
      calc (f.step : ℚ) * 2 ^ f.lastPlace r
          = 2 ^ Int.log 2 r.toRat := by rw [← known, ← octave 0]; rfl
        _ ≤ r.toRat := Int.zpow_log_le_self one_lt_two positive
  · have twice : 2 * f.step = 2 ^ (f.fractionBits + 1) := by
      rw [Nat.pow_succ']
      rfl
    have bound : Int.log 2 r.toRat + 1 ≤ f.lastPlace r + f.fractionBits + (1 : Nat) := by omega
    rw [twice, Nat.floor_lt (by positivity), div_lt_iff₀ unit, octave 1]
    calc r.toRat
        < 2 ^ (Int.log 2 r.toRat + 1) := Int.lt_zpow_succ_log_self one_lt_two _
      _ ≤ 2 ^ (f.lastPlace r + f.fractionBits + (1 : Nat)) :=
          zpow_le_zpow_right₀ one_le_two bound

/-- The last place tells the octaves, and rounding counts units there. -/
theorem exists_octaves_nearest {r : Ratio} (num : 0 < r.num)
    : ∃ octaves : Nat,
        f.leastExponent + octaves = f.lastPlace r
        ∧ f.nearest r
          = min (octaves * f.step + (r.inUnits 2 (f.lastPlace r)).roundHalfEven)
              f.infinity := by
  have least : f.leastExponent ≤ f.lastPlace r := le_max_right _ _
  obtain ⟨octaves, place⟩ := Int.le.dest least
  refine ⟨octaves, place, ?_⟩
  rw [f.nearest_of_num_pos num, ← place, add_sub_cancel_left, Int.toNat_natCast]

/-- What is counted is rounded to at most two octaves: it may be carried to the first of the next
one.
-/
theorem roundHalfEven_inUnits_bounds {r : Ratio} (num : 0 < r.num) (den : 0 < r.den)
    : let significand := (r.inUnits 2 (f.lastPlace r)).roundHalfEven
      (f.lastPlace r = f.leastExponent ∨ f.step ≤ significand) ∧ significand ≤ 2 * f.step := by
  intro significand
  obtain ⟨normal, inside⟩ := f.floor_inUnits_bounds num den
  have counted : 0 < (r.inUnits 2 (f.lastPlace r)).den :=
    Ratio.den_inUnits_pos Nat.two_pos _ den
  obtain ⟨low, high⟩ := (Ratio.isHalfEven_roundHalfEven counted).bounds
  exact ⟨normal.imp_right fun above => above.trans low, high.trans inside⟩

variable {f}

theorem even_step (fraction : 0 < f.fractionBits) : Even f.step :=
  (Nat.even_pow.mpr ⟨even_two, fraction.ne'⟩ : Even (2 ^ f.fractionBits))

theorem roundsTo_zero : f.RoundsTo 0 0 0 := by
  have middle : 0 < f.midpoint 0 := by
    rw [f.midpoint_zero]
    positivity
  refine ⟨f.toRat_value_zero.le, ?_, ?_⟩
  · rw [← f.toRat_value_zero]
    exact f.toRat_value_strictMono Nat.zero_lt_one
  · exact ⟨fun _ => rfl, fun _ => rfl, fun up => absurd up middle.not_gt⟩

/-- A quotient that counts units of an octave is rounded to a neighbour in this octave. The lower
neighbour has the whole part for its significand.
-/
theorem roundsTo_of_octaves (fraction : 0 < f.fractionBits) {count : Ratio} (den : 0 < count.den)
    {octaves : Nat} (normal : octaves = 0 ∨ f.step ≤ count.floor)
    (inside : count.floor < 2 * f.step)
    : f.RoundsTo (count.toRat * 2 ^ (f.leastExponent + octaves))
        (octaves * f.step + count.floor) (octaves * f.step + count.roundHalfEven) := by
  have unit : (0 : ℚ) < 2 ^ (f.leastExponent + octaves) := by positivity
  refine ⟨?_, ?_, ?_⟩
  · rw [f.toRat_value_of_octaves normal inside.le]
    exact mul_le_mul_of_nonneg_right (Ratio.floor_le_toRat den) unit.le
  · rw [Nat.add_assoc, f.toRat_value_of_octaves (normal.imp_right Nat.le_succ_of_le) inside,
      mul_lt_mul_iff_left₀ unit, Nat.cast_succ]
    exact Ratio.toRat_lt_floor_add_one den
  · rw [f.midpoint_of_octaves normal inside]
    exact (Ratio.isHalfEven_roundHalfEven den).scaled unit ((even_step fraction).mul_left octaves)

/-- A quotient lies between two neighbours, and it is rounded to one of them, or to infinity if
that comes first.
-/
theorem exists_roundsTo (fraction : 0 < f.fractionBits) {r : Ratio} (den : 0 < r.den)
    : ∃ below rounded,
        f.RoundsTo r.toRat below rounded ∧ f.nearest r = min rounded f.infinity := by
  rcases Nat.eq_zero_or_pos r.num with zero | num
  · have none : r.toRat = 0 := by rw [Ratio.toRat, zero, Nat.cast_zero, zero_div]
    refine ⟨0, 0, ?_, ?_⟩
    · rw [none]
      exact roundsTo_zero
    · rw [nearest, if_pos zero, Nat.zero_min]
  · obtain ⟨normal, inside⟩ := f.floor_inUnits_bounds num den
    have counted : 0 < (r.inUnits 2 (f.lastPlace r)).den :=
      Ratio.den_inUnits_pos Nat.two_pos _ den
    obtain ⟨octaves, place, nearest⟩ := f.exists_octaves_nearest num
    have number
        : r.toRat
          = (r.inUnits 2 (f.lastPlace r)).toRat * 2 ^ (f.leastExponent + octaves) := by
      rw [place, Ratio.toRat_inUnits, Nat.cast_ofNat, div_mul_cancel₀]
      positivity
    have leading : octaves = 0 ∨ f.step ≤ (r.inUnits 2 (f.lastPlace r)).floor :=
      normal.imp_left (by omega)
    have rounds := roundsTo_of_octaves fraction counted leading inside
    rw [← number] at rounds
    exact ⟨_, _, rounds, nearest⟩

-----------------------------------------------------------------------------------------
-- The nearest magnitude
-----------------------------------------------------------------------------------------

/-- What is rounded to is a neighbour, and the other neighbour is farther, or as near and odd. -/
theorem RoundsTo.cases {x : ℚ} {below rounded : Nat} (rounds : f.RoundsTo x below rounded)
    : let low := x - (f.value below).toRat
      let high := (f.value (below + 1)).toRat - x
      rounded = below ∧ (low < high ∨ low = high ∧ below % 2 = 0)
        ∨ rounded = below + 1 ∧ (high < low ∨ low = high ∧ below % 2 = 1) := by
  intro low high
  have middle : f.midpoint below = x + (high - low) / 2 := by
    rw [midpoint]
    ring
  rcases lt_trichotomy x (f.midpoint below) with down | tie | up
  · exact Or.inl ⟨rounds.halfEven.down down, Or.inl (by linarith)⟩
  · have same : low = high := by linarith
    have choice := rounds.halfEven.tie tie
    rcases Nat.mod_two_eq_zero_or_one below with even | odd
    · exact Or.inl ⟨by omega, Or.inr ⟨same, even⟩⟩
    · exact Or.inr ⟨by omega, Or.inr ⟨same, odd⟩⟩
  · exact Or.inr ⟨rounds.halfEven.up up, Or.inl (by linarith)⟩

/-- A magnitude up to the lower neighbour has a value below the number. -/
theorem RoundsTo.distance_low {x : ℚ} {below rounded : Nat} (rounds : f.RoundsTo x below rounded)
    {other : Nat} (before : other ≤ below)
    : |(f.value other).toRat - x| = x - (f.value other).toRat := by
  have less := f.toRat_value_strictMono.monotone before
  rw [abs_of_nonpos (sub_nonpos.mpr (less.trans rounds.low)), neg_sub]

/-- A magnitude from the upper neighbour has a value above the number. -/
theorem RoundsTo.distance_high {x : ℚ} {below rounded : Nat} (rounds : f.RoundsTo x below rounded)
    {other : Nat} (after : below < other)
    : |(f.value other).toRat - x| = (f.value other).toRat - x := by
  have more := f.toRat_value_strictMono.monotone after
  exact abs_of_pos (sub_pos.mpr (rounds.high.trans_le more))

/-- Of all magnitudes the rounded one is nearest. Another is as near only if it is odd, and then
the rounded one is even. Magnitudes beyond the two neighbours are farther than these.
-/
theorem RoundsTo.lt_or_tie {x : ℚ} {below rounded : Nat} (rounds : f.RoundsTo x below rounded)
    {other : Nat} (different : other ≠ rounded)
    : |(f.value rounded).toRat - x| < |(f.value other).toRat - x|
      ∨ |(f.value rounded).toRat - x| = |(f.value other).toRat - x|
        ∧ rounded % 2 = 0 ∧ other % 2 = 1 := by
  have grows := f.toRat_value_strictMono
  have low := rounds.distance_low le_rfl
  have high := rounds.distance_high (Nat.lt_succ_self below)
  rcases Nat.lt_or_ge below other with after | before
  · have distance := rounds.distance_high after
    rcases Nat.eq_or_lt_of_le after with rfl | beyond
    · rcases rounds.cases with ⟨rfl, less | ⟨same, even⟩⟩ | ⟨rfl, -⟩
      · exact Or.inl (by linarith)
      · exact Or.inr ⟨by linarith, even, by omega⟩
      · exact absurd rfl different
    · have farther := grows beyond
      left
      rcases rounds.cases with ⟨rfl, less | ⟨same, -⟩⟩ | ⟨rfl, -⟩ <;> linarith
  · have distance := rounds.distance_low before
    rcases Nat.eq_or_lt_of_le before with rfl | beyond
    · rcases rounds.cases with ⟨rfl, -⟩ | ⟨rfl, less | ⟨same, odd⟩⟩
      · exact absurd rfl different
      · exact Or.inl (by linarith)
      · exact Or.inr ⟨by linarith, by omega, odd⟩
    · have farther := grows beyond
      left
      rcases rounds.cases with ⟨rfl, -⟩ | ⟨rfl, less | ⟨same, -⟩⟩ <;> linarith

/-- A finite magnitude is nearest to a number if no finite magnitude has a value nearer to it, and
if its significand is even when another one has a value as near.
-/
structure IsNearest (f : BinaryFormat) (magnitude : Nat) (x : ℚ) : Prop where
  finite : magnitude < f.infinity
  near
    : ∀ other < f.infinity,
        |(f.value magnitude).toRat - x| ≤ |(f.value other).toRat - x|
  even
    : ∀ other < f.infinity,
        other ≠ magnitude
        → |(f.value other).toRat - x| = |(f.value magnitude).toRat - x|
        → Even (f.significand magnitude)

/-- The significand of a magnitude is even when the magnitude is, as octaves are even. -/
theorem even_significand_iff (fraction : 0 < f.fractionBits) {magnitude : Nat}
    : Even (f.significand magnitude) ↔ magnitude % 2 = 0 := by
  have octaves := (even_step fraction).mul_left (f.exponent magnitude - f.leastExponent).toNat
  rw [← Nat.even_iff]
  conv_rhs => rw [← f.octaves_add_significand magnitude]
  rw [Nat.even_add, iff_true_left octaves]

theorem RoundsTo.isNearest (fraction : 0 < f.fractionBits) {x : ℚ} {below rounded : Nat}
    (rounds : f.RoundsTo x below rounded) (finite : rounded < f.infinity)
    : f.IsNearest rounded x := by
  refine ⟨finite, ?_, ?_⟩
  · intro other _
    rcases eq_or_ne other rounded with rfl | different
    · exact le_rfl
    · rcases rounds.lt_or_tie different with less | ⟨same, -, -⟩
      · exact less.le
      · exact same.le
  · intro other _ different same
    rcases rounds.lt_or_tie different with less | ⟨-, even, -⟩
    · exact absurd same less.ne'
    · exact (even_significand_iff fraction).mpr even

/-- Nothing else than what is rounded to is nearest. -/
theorem RoundsTo.eq_of_isNearest (fraction : 0 < f.fractionBits) {x : ℚ} {below rounded : Nat}
    (rounds : f.RoundsTo x below rounded) (finite : rounded < f.infinity) {magnitude : Nat}
    (nearest : f.IsNearest magnitude x)
    : magnitude = rounded := by
  by_contra different
  rcases rounds.lt_or_tie different with less | ⟨same, -, odd⟩
  · exact (nearest.near rounded finite).not_gt less
  · have even := nearest.even rounded finite (Ne.symm different) same
    rw [even_significand_iff fraction] at even
    omega

-----------------------------------------------------------------------------------------
-- Overflow
-----------------------------------------------------------------------------------------

/-- The numbers rounded to a magnitude or to one before it are those below the middle after it,
and this middle itself if the magnitude is even.
-/
theorem RoundsTo.le_iff {x : ℚ} {below rounded : Nat} (rounds : f.RoundsTo x below rounded)
    (magnitude : Nat)
    : rounded ≤ magnitude
      ↔ x < f.midpoint magnitude ∨ x = f.midpoint magnitude ∧ magnitude % 2 = 0 := by
  have grows := f.toRat_value_strictMono
  have next := grows (Nat.lt_succ_self magnitude)
  have low := rounds.low
  have high := rounds.high
  rw [midpoint]
  rcases lt_trichotomy below magnitude with before | rfl | after
  · have less := grows.monotone before
    refine iff_of_true ?_ (Or.inl (by linarith))
    rcases rounds.cases with ⟨same, -⟩ | ⟨same, -⟩ <;> omega
  · rcases rounds.cases with ⟨rfl, less | ⟨same, even⟩⟩ | ⟨rfl, less | ⟨same, odd⟩⟩
    · exact iff_of_true le_rfl (Or.inl (by linarith))
    · exact iff_of_true le_rfl (Or.inr ⟨by linarith, even⟩)
    · refine iff_of_false (Nat.not_succ_le_self below) ?_
      rintro (down | ⟨tie, -⟩) <;> linarith
    · refine iff_of_false (Nat.not_succ_le_self below) ?_
      rintro (down | ⟨-, even⟩)
      · linarith
      · omega
  · have more := grows.monotone after
    refine iff_of_false ?_ ?_
    · rcases rounds.cases with ⟨same, -⟩ | ⟨same, -⟩ <;> omega
    · rintro (down | ⟨tie, -⟩) <;> linarith

/-- The least number that is rounded to infinity: the middle between the last finite value and the
one that would follow it.
-/
def overflow (f : BinaryFormat) : ℚ :=
  f.midpoint (f.infinity - 1)

/-- Infinity comes after an odd magnitude, as it begins an octave. -/
theorem exists_last (fraction : 0 < f.fractionBits) (exponent : 0 < f.exponentBits)
    : ∃ last, f.infinity = last + 1 ∧ last % 2 = 1 := by
  have octaves : 0 < 2 ^ f.exponentBits - 1 := by
    have more := Nat.one_lt_two_pow exponent.ne'
    omega
  have positive : 0 < f.infinity := Nat.mul_pos octaves f.step_pos
  have even : f.infinity % 2 = 0 := Nat.even_iff.mp ((even_step fraction).mul_left _)
  exact ⟨f.infinity - 1, by omega, by omega⟩

/-- A quotient below the overflow is rounded to the magnitude nearest to it, and any other to
infinity.
-/
theorem nearest_lt_infinity_iff (fraction : 0 < f.fractionBits) (exponent : 0 < f.exponentBits)
    {r : Ratio} (den : 0 < r.den)
    : f.nearest r < f.infinity ↔ r.toRat < f.overflow := by
  obtain ⟨below, rounded, rounds, nearest⟩ := exists_roundsTo fraction den
  obtain ⟨last, infinity, odd⟩ := exists_last fraction exponent
  rw [nearest, overflow, infinity, min_lt_iff, Nat.add_sub_cancel, Nat.lt_succ_iff,
    rounds.le_iff last]
  simp [odd]

/-- A quotient that is rounded to a finite magnitude lies between two neighbours for it. -/
theorem exists_roundsTo_nearest (fraction : 0 < f.fractionBits) {r : Ratio} (den : 0 < r.den)
    (finite : f.nearest r < f.infinity)
    : ∃ below, f.RoundsTo r.toRat below (f.nearest r) := by
  obtain ⟨below, rounded, rounds, nearest⟩ := exists_roundsTo fraction den
  have same : f.nearest r = rounded := by
    rw [nearest] at finite ⊢
    omega
  exact ⟨below, by rwa [same]⟩

theorem nearest_le_infinity (r : Ratio) : f.nearest r ≤ f.infinity := by
  rw [nearest]
  split
  · exact Nat.zero_le _
  · exact Nat.min_le_right _ _

theorem toRat_value_infinity (exponent : 0 < f.exponentBits)
    : (f.value f.infinity).toRat = 2 ^ 2 ^ (f.exponentBits - 1) := by
  obtain ⟨bits, known⟩ := Nat.exists_eq_add_of_le' exponent
  have least : f.leastExponent = 2 - ((2 ^ bits : Nat) : ℤ) - f.fractionBits := by
    rw [leastExponent, known]
    rfl
  have infinity : f.infinity = (2 * 2 ^ bits - 1) * f.step := by
    change (2 ^ f.exponentBits - 1) * f.step = _
    rw [known, Nat.pow_succ']
  have positive := Nat.two_pow_pos bits
  rw [known, Nat.add_sub_cancel]
  generalize 2 ^ bits = half at least infinity positive ⊢
  have octaves : f.infinity = (2 * half - 2) * f.step + f.step := by
    rw [infinity, ← Nat.succ_mul]
    congr 1
    omega
  have place : f.leastExponent + (2 * half - 2 : Nat) = half - f.fractionBits := by omega
  have unit : (f.step : ℚ) = 2 ^ (f.fractionBits : ℤ) := by
    rw [zpow_natCast]
    exact Nat.cast_pow 2 f.fractionBits
  rw [octaves, f.toRat_value_of_octaves (.inr le_rfl) (by omega), place, unit,
    ← zpow_add₀ two_ne_zero, add_sub_cancel, zpow_natCast]

theorem overflow_lt (fraction : 0 < f.fractionBits) (exponent : 0 < f.exponentBits)
    : f.overflow < 2 ^ 2 ^ (f.exponentBits - 1) := by
  obtain ⟨last, infinity, -⟩ := exists_last fraction exponent
  have value := toRat_value_infinity exponent
  have less := f.toRat_value_strictMono (Nat.lt_succ_self last)
  rw [infinity] at value
  rw [overflow, midpoint, infinity, Nat.add_sub_cancel, value]
  linarith

-----------------------------------------------------------------------------------------
-- The limits of double precision
-----------------------------------------------------------------------------------------

/-- Rounding reaches infinity half a unit below the power of two that would follow. -/
theorem overflow_binary64 : binary64.overflow = 2 ^ 1024 - 2 ^ 970 := by
  have last : binary64.infinity - 1 = 2045 * binary64.step + (2 ^ 53 - 1) := rfl
  have place : binary64.leastExponent + (2045 : Nat) = (971 : Nat) := rfl
  have top : (2 : ℚ) ^ 1024 = 2 ^ 54 * 2 ^ 970 := pow_add 2 54 970
  rw [overflow, last, binary64.midpoint_of_octaves (.inr (by decide)) (by decide), place,
    zpow_natCast, pow_succ' (2 : ℚ) 970, top]
  generalize (2 : ℚ) ^ 970 = half
  norm_num
  ring

/-- The last subnormal is rounded to up to half a unit below the least normal number. -/
theorem midpoint_subnormal
    : binary64.midpoint (2 ^ 52 - 1) = 2 ^ (-1022 : ℤ) - 2 ^ (-1075 : ℤ) := by
  have last : 2 ^ 52 - 1 = 0 * binary64.step + (2 ^ 52 - 1) := rfl
  have place : binary64.leastExponent + (0 : Nat) = -1074 := rfl
  have normal : (2 : ℚ) ^ (-1022 : ℤ) = 2 ^ (52 : ℤ) * 2 ^ (-1074 : ℤ) :=
    zpow_add₀ two_ne_zero 52 (-1074)
  have half : (2 : ℚ) ^ (-1075 : ℤ) = 2 ^ (-1074 : ℤ) * 2⁻¹ := zpow_sub_one₀ two_ne_zero (-1074)
  rw [last, binary64.midpoint_of_octaves (.inl rfl) (by decide), place, normal, half]
  generalize (2 : ℚ) ^ (-1074 : ℤ) = unit
  norm_num
  ring

end BinaryFormat

namespace Decimal

variable {f : BinaryFormat} {d : Decimal}

theorem toRat_ratio (d : Decimal) : d.ratio.toRat = d.coefficient * (10 : ℚ) ^ d.exponent :=
  Ratio.toRat_scaled _ 10 _

theorem den_ratio_pos (d : Decimal) : 0 < d.ratio.den :=
  Ratio.den_scaled_pos (by decide) _ _

/-- A coefficient with so large an exponent is beyond the finite range. -/
theorem nearest_ratio_of_huge (fraction : 0 < f.fractionBits) (exponent : 0 < f.exponentBits)
    (some : d.coefficient ≠ 0) (huge : ((2 ^ f.exponentBits : Nat) : Int) < d.exponent)
    : f.nearest d.ratio = f.infinity := by
  have notFinite : ¬f.nearest d.ratio < f.infinity := by
    rw [BinaryFormat.nearest_lt_infinity_iff fraction exponent d.den_ratio_pos, not_lt,
      toRat_ratio]
    have one : (1 : ℚ) ≤ d.coefficient := by exact_mod_cast Nat.pos_of_ne_zero some
    calc f.overflow
        ≤ 2 ^ 2 ^ (f.exponentBits - 1) := (BinaryFormat.overflow_lt fraction exponent).le
      _ ≤ 2 ^ 2 ^ f.exponentBits :=
          pow_le_pow_right₀ one_le_two (Nat.pow_le_pow_right Nat.two_pos (Nat.sub_le _ _))
      _ ≤ 10 ^ 2 ^ f.exponentBits := by
          gcongr
          norm_num
      _ = (10 : ℚ) ^ ((2 ^ f.exponentBits : Nat) : ℤ) := (zpow_natCast _ _).symm
      _ ≤ 10 ^ d.exponent := zpow_le_zpow_right₀ (by norm_num) huge.le
      _ ≤ d.coefficient * 10 ^ d.exponent := le_mul_of_one_le_left (by positivity) one
  exact le_antisymm (BinaryFormat.nearest_le_infinity _) (not_lt.mp notFinite)

/-- A coefficient with so small an exponent is below the middle between zero and the least value.
The exponent is less than the size of the coefficient and the depth of the format together.
-/
theorem nearest_ratio_of_tiny (fraction : 0 < f.fractionBits)
    (deep : 0 ≤ f.leastExponent + (2 ^ f.exponentBits : Nat))
    (tiny : d.exponent + (2 ^ f.exponentBits : Nat) + d.coefficient.log2 < 0)
    : f.nearest d.ratio = 0 := by
  obtain ⟨below, rounded, rounds, nearest⟩ :=
    BinaryFormat.exists_roundsTo (f := f) fraction d.den_ratio_pos
  have small : d.ratio.toRat < f.midpoint 0 := by
    generalize 2 ^ f.exponentBits = depth at deep tiny
    have top : (d.coefficient : ℚ) < 2 ^ ((d.coefficient.log2 : ℤ) + 1) := by
      exact_mod_cast Nat.lt_log2_self
    have fives : (5 : ℚ) ^ d.exponent ≤ 5 ^ (-1 : ℤ) :=
      zpow_le_zpow_right₀ (by norm_num) (by omega)
    have place : (d.coefficient.log2 : ℤ) + 1 + d.exponent ≤ f.leastExponent := by omega
    have ten : (10 : ℚ) = 2 * 5 := by norm_num
    rw [toRat_ratio, BinaryFormat.midpoint_zero]
    calc d.coefficient * (10 : ℚ) ^ d.exponent
        < 2 ^ ((d.coefficient.log2 : ℤ) + 1) * 10 ^ d.exponent := by gcongr
      _ = 2 ^ ((d.coefficient.log2 : ℤ) + 1 + d.exponent) * 5 ^ d.exponent := by
          rw [ten, mul_zpow, zpow_add₀ two_ne_zero _ d.exponent, mul_assoc]
      _ ≤ 2 ^ f.leastExponent * 2⁻¹ := by
          gcongr
          · norm_num
          · refine fives.trans ?_
            norm_num
      _ = 2 ^ (f.leastExponent - 1) := (zpow_sub_one₀ two_ne_zero _).symm
  have zero : rounded = 0 := Nat.le_zero.mp ((rounds.le_iff 0).mpr (Or.inl small))
  rw [nearest, zero, Nat.zero_min]

/-- The shortcuts for extreme exponents give what the quotient is rounded to. -/
theorem nearest_eq_nearest_ratio (fraction : 0 < f.fractionBits) (exponent : 0 < f.exponentBits)
    (deep : 0 ≤ f.leastExponent + (2 ^ f.exponentBits : Nat)) (d : Decimal)
    : d.nearest f = f.nearest d.ratio := by
  rw [nearest]
  split
  next zero => rw [BinaryFormat.nearest, if_pos (num_ratio_eq_zero zero)]
  next some =>
    split
    next huge => exact (nearest_ratio_of_huge fraction exponent some huge).symm
    next =>
      split
      next tiny => exact (nearest_ratio_of_tiny fraction deep tiny).symm
      next => rfl

end Decimal

end PenPlotter
