import Mathlib.Algebra.Group.Nat.Defs
import TokenRisk.Binary64.Basic

/-!
# Order of doubles and their sums

Every double that is a number has a rank, its number of units, where an infinity ranks one step
beyond the largest finite double; the order of the doubles is that of their ranks, and but for the
sign of zero a rank tells the double. Rounding to the grid never turns a larger magnitude into a
smaller double and leaves alone what is on the grid. So who adds the same to a later moment comes to
no earlier one, who adds something that is not negative comes to no less, and a sum depends on
nothing but the ranks of what is added.

## Key results

- `Binary64.nearestQuotient_mono`: rounding to the grid is monotone
- `Binary64.exists_finite_of_le`: a smaller quotient rounds to no larger double
- `Binary64.lt_add_of_le`: what lies before a sum lies before any later sum
- `Binary64.add_mono`: who adds more to something larger comes to no smaller sum
- `Binary64.eqv_foldl_add`: sums of doubles with the same ranks have the same rank
- `Binary64.le_foldl_add`: adding what is not negative makes no sum smaller
-/

namespace TokenRisk

/-! ## Rounded quotients -/

theorem roundQuotient_le {num den k : Nat} (h : num ≤ k * den) : roundQuotient num den ≤ k := by
  have hq : num / den ≤ k := Nat.div_le_of_le_mul (by rwa [Nat.mul_comm])
  rcases Nat.lt_or_eq_of_le hq with hlt | rfl
  · simp only [roundQuotient]
    split <;> (try split) <;> (try split) <;> (try split) <;> omega
  · -- A quotient that reaches the bound leaves no remainder to round up.
    have hr : num % den = 0 := by
      have hdiv := Nat.div_add_mod num den
      rw [Nat.mul_comm] at hdiv
      omega
    simp [roundQuotient, hr]

theorem le_roundQuotient {num den k : Nat} (hden : 0 < den) (h : k * den ≤ num) :
    k ≤ roundQuotient num den := by
  have hq : k ≤ num / den := (Nat.le_div_iff_mul_le hden).mpr h
  simp only [roundQuotient]
  split <;> (try split) <;> (try split) <;> (try split) <;> omega

theorem roundQuotient_mono {num num' den : Nat} (hden : 0 < den) (h : num ≤ num') :
    roundQuotient num den ≤ roundQuotient num' den := by
  rcases Nat.lt_or_eq_of_le (Nat.div_le_div_right h : num / den ≤ num' / den) with hlt | heq
  · -- Between the quotients lies a whole number, and neither rounds past it.
    have hup : num ≤ num' / den * den := by
      have hlt' : num < num' / den * den := (Nat.div_lt_iff_lt_mul hden).mp hlt
      omega
    have hdown : num' / den * den ≤ num' := Nat.div_mul_le_self num' den
    exact Nat.le_trans (roundQuotient_le hup) (le_roundQuotient hden hdown)
  · have hdiv := Nat.div_add_mod num den
    have hdiv' := Nat.div_add_mod num' den
    rw [heq] at hdiv
    have hr : num % den ≤ num' % den := by omega
    -- With the same quotient, whatever rounds the smaller remainder up does so with the larger one.
    simp only [roundQuotient, heq]
    grind

namespace Binary64

/-! ## The grid -/

/-- The exponent of the grid at a magnitude. -/
private def gridExponent (n : Nat) : Nat := n.log2 + 1 - 53

/-- The magnitude on the grid that is nearest to a quotient of units, be it in range or not. -/
def nearestQuotient (num den : Nat) : Nat :=
  roundQuotient num (den * 2 ^ gridExponent (num / den)) * 2 ^ gridExponent (num / den)

/-- The magnitude on the grid that is nearest to a number of units, be it in range or not. -/
def nearest (n : Nat) : Nat :=
  roundQuotient n (2 ^ gridExponent n) * 2 ^ gridExponent n

theorem nearestQuotient_one (n : Nat) : nearestQuotient n 1 = nearest n := by
  simp [nearestQuotient, nearest]

private theorem gridExponent_mono {n m : Nat} (h : n ≤ m) : gridExponent n ≤ gridExponent m := by
  have hlog : n.log2 ≤ m.log2 := by
    by_cases hn : n = 0
    · simp [hn]
    · exact (Nat.le_log2 (by omega)).mpr (Nat.le_trans (Nat.log2_self_le hn) h)
  simp only [gridExponent]
  omega

/-- `roundQuotient` on the grid is a mantissa of at most 53 bits, or the next power of two. -/
private theorem mantissa_le (num : Nat) {den : Nat} (hden : 0 < den) :
    roundQuotient num (den * 2 ^ gridExponent (num / den)) ≤ 2 ^ 53 := by
  refine roundQuotient_le ?_
  have hlog : num / den < 2 ^ ((num / den).log2 + 1) := Nat.lt_log2_self
  have hexp : (num / den).log2 + 1 ≤ 53 + gridExponent (num / den) := by
    simp only [gridExponent]
    omega
  have hpow : 2 ^ ((num / den).log2 + 1) ≤ 2 ^ (53 + gridExponent (num / den)) :=
    Nat.pow_le_pow_right (by decide) hexp
  have hlt : num < 2 ^ (53 + gridExponent (num / den)) * den :=
    (Nat.div_lt_iff_lt_mul hden).mp (Nat.lt_of_lt_of_le hlog hpow)
  calc num ≤ 2 ^ (53 + gridExponent (num / den)) * den := Nat.le_of_lt hlt
    _ = 2 ^ 53 * (den * 2 ^ gridExponent (num / den)) := by
      rw [Nat.pow_add, Nat.mul_assoc, Nat.mul_comm den]

/-- Above the bottom of the grid, `roundQuotient` has all bits of the mantissa. -/
private theorem le_mantissa (num : Nat) {den : Nat} (hden : 0 < den)
    (h : gridExponent (num / den) ≠ 0) :
    2 ^ 52 ≤ roundQuotient num (den * 2 ^ gridExponent (num / den)) := by
  refine le_roundQuotient (Nat.mul_pos hden (Nat.two_pow_pos _)) ?_
  have hq : num / den ≠ 0 := by
    intro hzero
    rw [hzero] at h
    exact h rfl
  -- The exponent is chosen so that the quotient has 53 bits.
  have hexp : 52 + gridExponent (num / den) = (num / den).log2 := by
    simp only [gridExponent] at h ⊢
    omega
  have hle : 2 ^ (52 + gridExponent (num / den)) ≤ num / den := by
    rw [hexp]
    exact Nat.log2_self_le hq
  calc 2 ^ 52 * (den * 2 ^ gridExponent (num / den))
      = 2 ^ (52 + gridExponent (num / den)) * den := by
        rw [Nat.pow_add, Nat.mul_assoc, Nat.mul_comm den]
    _ ≤ num := (Nat.le_div_iff_mul_le hden).mp hle

/-- `nearestQuotient` is monotone. -/
theorem nearestQuotient_mono {num num' den : Nat} (hden : 0 < den) (h : num ≤ num') :
    nearestQuotient num den ≤ nearestQuotient num' den := by
  have hexp : gridExponent (num / den) ≤ gridExponent (num' / den) :=
    gridExponent_mono (Nat.div_le_div_right h)
  rcases Nat.lt_or_eq_of_le hexp with hlt | heq
  · -- On a coarser grid even the least mantissa is past the greatest on the finer one.
    have hlow : nearestQuotient num den ≤ 2 ^ 53 * 2 ^ gridExponent (num / den) :=
      Nat.mul_le_mul_right _ (mantissa_le num hden)
    have hhigh : 2 ^ 52 * 2 ^ gridExponent (num' / den) ≤ nearestQuotient num' den :=
      Nat.mul_le_mul_right _ (le_mantissa num' hden (by omega))
    rw [← Nat.pow_add] at hlow hhigh
    have hpow : 2 ^ (53 + gridExponent (num / den)) ≤ 2 ^ (52 + gridExponent (num' / den)) :=
      Nat.pow_le_pow_right (by decide) (by omega)
    exact Nat.le_trans hlow (Nat.le_trans hpow hhigh)
  · simp only [nearestQuotient, heq]
    exact Nat.mul_le_mul_right _
      (roundQuotient_mono (Nat.mul_pos hden (Nat.two_pow_pos _)) h)

/-- `nearest` is monotone. -/
theorem nearest_mono {n m : Nat} (h : n ≤ m) : nearest n ≤ nearest m := by
  rw [← nearestQuotient_one, ← nearestQuotient_one]
  exact nearestQuotient_mono Nat.one_pos h

@[simp] theorem nearest_zero : nearest 0 = 0 := rfl

/-- The `gridExponent` at the magnitude of a finite double is its exponent. -/
private theorem gridExponent_units (x : Finite) : gridExponent x.units = x.exponent := by
  obtain ⟨hmantissa, _, hcanonical⟩ := x.canonical
  have hunits : x.units = x.mantissa * 2 ^ x.exponent := rfl
  by_cases hzero : x.exponent = 0
  · -- At the bottom of the grid, the magnitude is the mantissa.
    rw [hunits, hzero, Nat.pow_zero, Nat.mul_one, gridExponent]
    have hlog : x.mantissa.log2 < 53 := by
      by_cases hm : x.mantissa = 0
      · rw [hm]
        decide
      · exact (Nat.log2_lt hm).mpr hmantissa
    omega
  · have hlow : 2 ^ 52 ≤ x.mantissa := hcanonical.resolve_left hzero
    have hpow := Nat.two_pow_pos x.exponent
    have hne : x.units ≠ 0 := by
      rw [hunits]
      exact Nat.mul_ne_zero (by omega) (by omega)
    -- Elsewhere the mantissa has all of its bits.
    have hlog : x.units.log2 = 52 + x.exponent := by
      rw [Nat.log2_eq_iff hne, hunits, Nat.pow_add, Nat.add_right_comm, Nat.pow_add 2 53]
      exact ⟨Nat.mul_le_mul_right _ hlow, Nat.mul_lt_mul_of_pos_right hmantissa hpow⟩
    rw [gridExponent, hlog]
    omega

/-- `nearest` leaves what is on the grid as it is. -/
private theorem nearest_units (x : Finite) : nearest x.units = x.units := by
  have hunits : x.units = x.mantissa * 2 ^ x.exponent := rfl
  have hround : roundQuotient x.units (2 ^ x.exponent) = x.mantissa :=
    Nat.le_antisymm (roundQuotient_le (Nat.le_of_eq hunits))
      (le_roundQuotient (Nat.two_pow_pos _) (Nat.le_of_eq hunits.symm))
  rw [nearest, gridExponent_units, hround, ← hunits]

/-- `ofUnits` of nothing is a zero. -/
theorem ofUnits_zero (negative : Bool) (den : Nat) :
    ofUnits negative 0 den = .finite (Finite.zero negative) := by
  have hexponent : (0 / den).log2 + 1 - 53 = 0 := by
    rw [Nat.zero_div]
    rfl
  have hmantissa : roundQuotient 0 (den * twoTo 0) = 0 :=
    Nat.le_zero.mp (roundQuotient_le (Nat.zero_le _))
  have hne : ¬ 0 = twoTo 53 := by decide
  simp only [ofUnits, hexponent, hmantissa, if_neg hne]
  rfl

/-! ## Ranks -/

/-- The greatest exponent of a finite double. -/
private def topExponent : Nat := 2045

/-- The magnitude at which the finite doubles end. -/
private def limit : Nat := 2 ^ 53 * 2 ^ topExponent

private theorem limit_pos : 0 < limit := Nat.mul_pos (Nat.two_pow_pos _) (Nat.two_pow_pos _)

/-- The rank of a double among those that are numbers. -/
def rank : Binary64 → Int
  | .nan => 0
  | .infinite negative => if negative then -(limit : Int) else limit
  | .finite x => x.signedUnits

/-- The finite doubles lie within the `limit`. -/
private theorem units_lt_limit (x : Finite) : x.units < limit := by
  obtain ⟨hmantissa, hexponent, _⟩ := x.canonical
  have hpow : 2 ^ x.exponent ≤ 2 ^ topExponent := Nat.pow_le_pow_right (by decide) hexponent
  have hunits : x.units = x.mantissa * 2 ^ x.exponent := rfl
  have hlt : x.mantissa * 2 ^ x.exponent < 2 ^ 53 * 2 ^ x.exponent :=
    Nat.mul_lt_mul_of_pos_right hmantissa (Nat.two_pow_pos _)
  rw [hunits, limit]
  exact Nat.lt_of_lt_of_le hlt (Nat.mul_le_mul_left _ hpow)

private theorem rank_finite_bounds (x : Finite) :
    -(limit : Int) < x.signedUnits ∧ x.signedUnits < (limit : Int) := by
  have h := units_lt_limit x
  simp only [Finite.signedUnits]
  split <;> omega

/-- All ranks lie within the `limit`. -/
private theorem rank_le_limit (x : Binary64) : -(limit : Int) ≤ x.rank ∧ x.rank ≤ limit := by
  have hpos := limit_pos
  cases x with
  | nan => exact ⟨by simp only [rank]; omega, by simp only [rank]; omega⟩
  | infinite negative =>
    cases negative <;> simp only [rank, Bool.false_eq_true, ↓reduceIte] <;> omega
  | finite x =>
    have hbounds := rank_finite_bounds x
    simp only [rank]
    omega

/-- To `lt`, numbers are ordered by `rank`. -/
theorem lt_iff_rank_lt {x y : Binary64} (hx : x ≠ .nan) (hy : y ≠ .nan) :
    x.lt y = true ↔ x.rank < y.rank := by
  have hpos := limit_pos
  match x, y with
  | .nan, _ => exact absurd rfl hx
  | .infinite _, .nan | .finite _, .nan => exact absurd rfl hy
  | .infinite a, .infinite b =>
    cases a <;> cases b <;>
      simp only [lt, rank, Bool.not_true, Bool.not_false, Bool.and_true, Bool.and_false,
        Bool.false_eq_true, ↓reduceIte, true_iff, false_iff] <;> omega
  -- A finite double lies strictly between the infinities.
  | .infinite a, .finite y =>
    have hbounds := rank_finite_bounds y
    cases a <;> simp only [lt, rank, Bool.false_eq_true, ↓reduceIte, true_iff, false_iff] <;> omega
  | .finite x, .infinite b =>
    have hbounds := rank_finite_bounds x
    cases b <;>
      simp only [lt, rank, Bool.not_true, Bool.not_false, Bool.false_eq_true, ↓reduceIte, true_iff,
        false_iff] <;> omega
  | .finite x, .finite y => simp [lt, rank]

theorem ne_nan_of_lt {x y : Binary64} (h : x.lt y = true) : x ≠ .nan ∧ y ≠ .nan := by
  constructor
  · rintro rfl
    cases h
  · rintro rfl
    cases x <;> cases h

/-- To `le`, numbers are ordered by `rank`, and nothing else is in order. -/
theorem le_iff_rank_le {x y : Binary64} :
    x.le y = true ↔ x ≠ .nan ∧ y ≠ .nan ∧ x.rank ≤ y.rank := by
  by_cases hx : x = .nan
  · simp [hx, le]
  · by_cases hy : y = .nan
    · subst hy
      cases x <;> simp [le]
    · have hle : x.le y = !y.lt x := by
        cases x <;> cases y <;> first | rfl | exact absurd rfl hx | exact absurd rfl hy
      have hlt := lt_iff_rank_lt hy hx
      rw [hle, Bool.not_eq_true', ← Bool.not_eq_true, hlt, Int.not_lt]
      exact ⟨fun h => ⟨hx, hy, h⟩, fun h => h.2.2⟩

theorem le_of_lt {x y : Binary64} (h : x.lt y = true) : x.le y = true := by
  obtain ⟨hx, hy⟩ := ne_nan_of_lt h
  exact le_iff_rank_le.mpr ⟨hx, hy, Int.le_of_lt ((lt_iff_rank_lt hx hy).mp h)⟩

/-- Two numbers are in order by `le`, or by `lt` the other way. -/
theorem le_or_lt {x y : Binary64} (hx : x ≠ .nan) (hy : y ≠ .nan) :
    x.le y = true ∨ y.lt x = true := by
  rw [le_iff_rank_le, lt_iff_rank_lt hy hx]
  by_cases h : x.rank ≤ y.rank
  · exact .inl ⟨hx, hy, h⟩
  · exact .inr (Int.not_le.mp h)

theorem not_lt_of_le {x y : Binary64} (h : x.le y = true) : ¬ y.lt x = true := by
  obtain ⟨hx, hy, hle⟩ := le_iff_rank_le.mp h
  rw [lt_iff_rank_lt hy hx]
  omega

theorem lt_of_le_of_lt {x y z : Binary64} (hxy : x.le y = true) (hyz : y.lt z = true) :
    x.lt z = true := by
  obtain ⟨hx, hy, hle⟩ := le_iff_rank_le.mp hxy
  obtain ⟨_, hz⟩ := ne_nan_of_lt hyz
  have hlt := (lt_iff_rank_lt hy hz).mp hyz
  exact (lt_iff_rank_lt hx hz).mpr (Int.lt_of_le_of_lt hle hlt)

theorem lt_of_lt_of_le {x y z : Binary64} (hxy : x.lt y = true) (hyz : y.le z = true) :
    x.lt z = true := by
  obtain ⟨hy, hz, hle⟩ := le_iff_rank_le.mp hyz
  obtain ⟨hx, _⟩ := ne_nan_of_lt hxy
  have hlt := (lt_iff_rank_lt hx hy).mp hxy
  exact (lt_iff_rank_lt hx hz).mpr (Int.lt_of_lt_of_le hlt hle)

theorem le_trans {x y z : Binary64} (hxy : x.le y = true) (hyz : y.le z = true) :
    x.le z = true := by
  obtain ⟨hx, _, hle⟩ := le_iff_rank_le.mp hxy
  obtain ⟨_, hz, hle'⟩ := le_iff_rank_le.mp hyz
  exact le_iff_rank_le.mpr ⟨hx, hz, Int.le_trans hle hle'⟩

/-- A finite double other than zero is known by its `signedUnits`. -/
theorem Finite.eq_of_signedUnits_eq {x y : Finite} (h : x.signedUnits = y.signedUnits)
    (hne : x.signedUnits ≠ 0) : x = y := by
  have hsigned (z : Finite) :
      z.signedUnits = if z.negative then -(z.units : Int) else z.units := rfl
  have hparts : x.negative = y.negative ∧ x.units = y.units := by
    rw [hsigned] at hne
    rw [hsigned, hsigned] at h
    cases hx : x.negative <;> cases hy : y.negative <;>
      simp only [hx, hy, Bool.false_eq_true, ↓reduceIte] at h hne <;>
      first | omega | exact ⟨rfl, by omega⟩
  -- The units tell the exponent, and with it the mantissa.
  have hexponent : x.exponent = y.exponent := by
    rw [← gridExponent_units, ← gridExponent_units, hparts.2]
  have hmantissa : x.mantissa = y.mantissa := by
    have hunits : x.mantissa * 2 ^ x.exponent = y.mantissa * 2 ^ y.exponent := hparts.2
    rw [hexponent] at hunits
    exact Nat.eq_of_mul_eq_mul_right (Nat.two_pow_pos _) hunits
  cases x
  cases y
  simp_all

/-! ## Equal ranks -/

/-- To `eqv`, numbers are equal when they have the same `rank`. -/
theorem eqv_iff {x y : Binary64} :
    x.eqv y = true ↔ x ≠ .nan ∧ y ≠ .nan ∧ x.rank = y.rank := by
  rw [eqv, Bool.and_eq_true, le_iff_rank_le, le_iff_rank_le]
  constructor
  · intro ⟨⟨hx, hy, hle⟩, _, _, hge⟩
    exact ⟨hx, hy, Int.le_antisymm hle hge⟩
  · intro ⟨hx, hy, heq⟩
    exact ⟨⟨hx, hy, Int.le_of_eq heq⟩, hy, hx, Int.le_of_eq heq.symm⟩

theorem eqv_refl {x : Binary64} (hx : x ≠ .nan) : x.eqv x = true :=
  eqv_iff.mpr ⟨hx, hx, rfl⟩

theorem le_of_eqv {x y : Binary64} (h : x.eqv y = true) : x.le y = true ∧ y.le x = true :=
  (Bool.and_eq_true _ _).mp h

theorem le_refl {x : Binary64} (hx : x ≠ .nan) : x.le x = true :=
  (le_of_eqv (eqv_refl hx)).1

/-- An infinity is equal by `eqv` to itself alone. -/
theorem eq_infinite_of_eqv {negative : Bool} {x : Binary64}
    (h : (Binary64.infinite negative).eqv x = true) : x = .infinite negative := by
  cases x with
  | nan => cases h
  | infinite a => cases negative <;> cases a <;> first | rfl | cases h
  | finite x => cases negative <;> cases h

/-- A finite double. -/
def IsFinite (x : Binary64) : Prop :=
  ∃ y : Finite, x = .finite y

instance (x : Binary64) : Decidable x.IsFinite :=
  match x with
  | .nan => .isFalse fun ⟨_, h⟩ => nomatch h
  | .infinite _ => .isFalse fun ⟨_, h⟩ => nomatch h
  | .finite y => .isTrue ⟨y, rfl⟩

theorem IsFinite.ne_nan {x : Binary64} (h : x.IsFinite) : x ≠ .nan := by
  obtain ⟨y, rfl⟩ := h
  simp

/-- What is `eqv` to a finite double has its units. -/
theorem exists_finite_of_eqv {x : Finite} {y : Binary64}
    (h : (Binary64.finite x).eqv y = true) : ∃ z : Finite, y = .finite z ∧
      z.signedUnits = x.signedUnits := by
  cases y with
  | nan => cases h
  | infinite a => cases a <;> cases h
  | finite z => exact ⟨z, rfl, (eqv_iff.mp h).2.2.symm⟩

/-- Numbers that are `eqv` are the same unless they are zeros. -/
theorem eq_of_eqv_of_pos {x y : Binary64} (h : x.eqv y = true) (hpos : Binary64.zero.lt x = true) :
    x = y := by
  cases x with
  | nan => cases hpos
  | infinite negative => exact (eq_infinite_of_eqv h).symm
  | finite x =>
    obtain ⟨z, rfl, hunits⟩ := exists_finite_of_eqv h
    have hlt : (0 : Int) < x.signedUnits := (lt_iff_rank_lt (by simp [zero]) (by simp)).mp hpos
    rw [Finite.eq_of_signedUnits_eq hunits.symm (by omega)]

/-! ## Sums -/

/-- The `rank` of a signed number of units once it is rounded to the grid. -/
private def roundedRank (n : Int) : Int :=
  if n < 0 then -(min (nearest n.natAbs) limit : Nat) else (min (nearest n.natAbs) limit : Nat)

private theorem roundedRank_mono {n m : Int} (h : n ≤ m) : roundedRank n ≤ roundedRank m := by
  simp only [roundedRank]
  by_cases hn : n < 0 <;> by_cases hm : m < 0
  · have hmono := nearest_mono (show m.natAbs ≤ n.natAbs by omega)
    rw [if_pos hn, if_pos hm]
    omega
  · rw [if_pos hn, if_neg hm]
    omega
  · omega
  · have hmono := nearest_mono (show n.natAbs ≤ m.natAbs by omega)
    rw [if_neg hn, if_neg hm]
    omega

private theorem roundedRank_le (n : Int) : roundedRank n ≤ limit := by
  simp only [roundedRank]
  split <;> omega

/-- What `ofParts` makes of a mantissa and an exponent on the grid is finite below the `limit`, and
infinite from there on. -/
private theorem ofParts_spec (negative : Bool) (m e : Nat) (hm : m < 2 ^ 53)
    (he : e = 0 ∨ 2 ^ 52 ≤ m) :
    (∃ x : Finite, ofParts negative m e = .finite x ∧ x.negative = negative ∧
      x.units = m * 2 ^ e ∧ m * 2 ^ e < limit) ∨
    (ofParts negative m e = .infinite negative ∧ limit ≤ m * 2 ^ e) := by
  simp only [ofParts]
  split
  · rename_i h
    exact .inl ⟨⟨negative, m, e, h⟩, rfl, rfl, rfl, units_lt_limit ⟨negative, m, e, h⟩⟩
  · rename_i h
    -- The mantissa is small enough and so is its lower bound, so the exponent is too large.
    have htop : topExponent + 1 ≤ e := Nat.lt_of_not_le fun hle => h ⟨hm, hle, he⟩
    have hpow : 2 ^ (topExponent + 1) ≤ 2 ^ e := Nat.pow_le_pow_right (by decide) htop
    have hmantissa : 2 ^ 52 ≤ m := he.resolve_left (by omega)
    refine .inr ⟨rfl, ?_⟩
    have hlimit : limit = 2 ^ 52 * 2 ^ (topExponent + 1) := by
      simp only [limit, Nat.pow_succ 2 topExponent]
      omega
    rw [hlimit]
    exact Nat.mul_le_mul hmantissa hpow

/-- What `ofUnits` makes of a quotient is finite if the `nearestQuotient` is below the `limit`, and
infinite from there on. -/
private theorem ofUnits_spec (negative : Bool) (num : Nat) {den : Nat} (hden : 0 < den) :
    (∃ x : Finite, ofUnits negative num den = .finite x ∧ x.negative = negative ∧
      x.units = nearestQuotient num den ∧ nearestQuotient num den < limit) ∨
    (ofUnits negative num den = .infinite negative ∧ limit ≤ nearestQuotient num den) := by
  -- The mantissa may be rounded up to one bit more than there is room for.
  have hunits : ofUnits negative num den =
      if roundQuotient num (den * 2 ^ gridExponent (num / den)) = 2 ^ 53 then
        ofParts negative (2 ^ 52) (gridExponent (num / den) + 1)
      else ofParts negative (roundQuotient num (den * 2 ^ gridExponent (num / den)))
        (gridExponent (num / den)) := rfl
  rw [hunits]
  split
  · -- The mantissa was rounded up to the next power of two.
    rename_i hround
    have hnearest : nearestQuotient num den = 2 ^ 52 * 2 ^ (gridExponent (num / den) + 1) := by
      simp only [nearestQuotient, hround, Nat.pow_succ 2 (gridExponent (num / den))]
      omega
    rw [hnearest]
    exact ofParts_spec negative _ _ (by decide) (.inr (Nat.le_refl _))
  · rename_i hround
    -- Otherwise it fits, and above the smallest exponent it is long enough.
    have hle := mantissa_le num hden
    refine ofParts_spec negative _ _ (by omega) ?_
    by_cases hzero : gridExponent (num / den) = 0
    · exact .inl hzero
    · exact .inr (le_mantissa num hden hzero)

/-- A quotient below one that `ofUnits` rounds to a finite double is rounded to one too, and to none
above it. -/
theorem exists_finite_of_le {negative : Bool} {num num' den : Nat} {y : Finite} (hden : 0 < den)
    (h : num ≤ num') (hy : ofUnits negative num' den = .finite y) :
    ∃ x, ofUnits negative num den = .finite x ∧ x.negative = negative ∧ x.units ≤ y.units := by
  have hmono := nearestQuotient_mono hden h
  rcases ofUnits_spec negative num' hden with ⟨y', hy', _, hunits', hlt⟩ | ⟨hinf, _⟩
  · obtain rfl : y = y' := Binary64.finite.inj (hy.symm.trans hy')
    rcases ofUnits_spec negative num hden with ⟨x, hx, hnegative, hunits, _⟩ | ⟨_, hlimit⟩
    · exact ⟨x, hx, hnegative, by omega⟩
    · omega
  · rw [hinf] at hy
    cases hy

/-- A rounded sum is a number, and has the `roundedRank`. -/
private theorem rank_round (n : Int) :
    ofUnits (n < 0) n.natAbs 1 ≠ .nan ∧ (ofUnits (n < 0) n.natAbs 1).rank = roundedRank n := by
  have hspec := ofUnits_spec (n < 0) n.natAbs Nat.one_pos
  rw [nearestQuotient_one] at hspec
  rcases hspec with ⟨x, hx, hnegative, hunits, hlt⟩ | ⟨hinf, hle⟩
  · rw [hx]
    refine ⟨by simp, ?_⟩
    simp only [rank, Finite.signedUnits, hnegative, hunits, roundedRank, decide_eq_true_eq]
    split <;> omega
  · rw [hinf]
    refine ⟨by simp, ?_⟩
    simp only [rank, roundedRank, decide_eq_true_eq]
    split <;> omega

/-- The sum of finite doubles is a number whose `rank` depends on the exact sum alone. -/
private theorem rank_add (x y : Finite) :
    (Binary64.finite x).add (.finite y) ≠ .nan ∧
      ((Binary64.finite x).add (.finite y)).rank = roundedRank (x.signedUnits + y.signedUnits) := by
  simp only [add]
  split
  · rename_i hzero
    rw [hzero]
    refine ⟨by simp, ?_⟩
    simp [rank, Finite.signedUnits, Finite.units, Finite.zero, roundedRank]
  · exact rank_round _

private theorem not_lt_negInfinity (x : Binary64) : x.lt (.infinite true) = false := by
  cases x <;> simp [lt]

private theorem eq_infinity_of_le {y : Binary64} (h : (Binary64.infinite false).le y = true) :
    y = .infinite false := by
  cases y <;> simp_all [le, lt]

private theorem not_lt_add_of_negInfinity (now t : Binary64) :
    now.lt ((Binary64.infinite true).add t) = false := by
  cases t with
  | nan => cases now <;> rfl
  | infinite b => cases b <;> cases now <;> simp [add, lt]
  | finite t => exact not_lt_negInfinity now

/-- What lies before a sum of `add` lies before any later sum. -/
theorem lt_add_of_le {now x y t : Binary64} (hxy : x.le y = true) (h : now.lt (x.add t) = true) :
    now.lt (y.add t) = true := by
  obtain ⟨_, hy, hrank⟩ := le_iff_rank_le.mp hxy
  obtain ⟨hnow, hsum⟩ := ne_nan_of_lt h
  cases x with
  | nan => exact absurd rfl hsum
  | infinite a =>
    cases a with
    | true => rw [not_lt_add_of_negInfinity] at h; cases h
    | false => rwa [eq_infinity_of_le hxy]
  | finite x =>
    cases t with
    | nan => exact absurd rfl hsum
    | infinite b =>
      -- The sum is infinite, and so is the later one.
      cases b with
      | true => simp [add, not_lt_negInfinity] at h
      | false =>
        cases y with
        | nan => exact absurd rfl hy
        | infinite a => cases a <;> first | exact h | simp [le, lt] at hxy
        | finite y => exact h
    -- Both sums are finite or rounded to infinity, so their ranks decide.
    | finite t =>
      obtain ⟨_, hxt⟩ := rank_add x t
      rw [lt_iff_rank_lt hnow hsum, hxt] at h
      cases y with
      | nan => exact absurd rfl hy
      | infinite a =>
        cases a with
        | true => simp [le, lt] at hxy
        | false =>
          refine (lt_iff_rank_lt hnow (by simp [add])).mpr ?_
          exact Int.lt_of_lt_of_le h (roundedRank_le _)
      | finite y =>
        obtain ⟨hyt, hyt'⟩ := rank_add y t
        rw [lt_iff_rank_lt hnow hyt, hyt']
        exact Int.lt_of_lt_of_le h (roundedRank_mono (Int.add_le_add_right hrank t.signedUnits))

/-- `roundedRank` leaves a rank on the grid as it is. -/
private theorem roundedRank_signedUnits (x : Finite) :
    roundedRank x.signedUnits = x.signedUnits := by
  have hlimit := units_lt_limit x
  have habs : x.signedUnits.natAbs = x.units := by
    simp only [Finite.signedUnits]
    split <;> omega
  rw [roundedRank, habs, nearest_units]
  simp only [Finite.signedUnits]
  split <;> split <;> omega

/-- Sums by `add` of numbers that are `eqv` are so, too. -/
theorem eqv_add {x x' y y' : Binary64} (hx : x.eqv x' = true) (hy : y.eqv y' = true)
    (hfinite : y.IsFinite) : (x.add y).eqv (x'.add y') = true := by
  obtain ⟨y, rfl⟩ := hfinite
  obtain ⟨z, rfl, hunits⟩ := exists_finite_of_eqv hy
  cases x with
  | nan => cases hx
  | infinite negative =>
    rw [eq_infinite_of_eqv hx]
    exact eqv_refl (by simp [add])
  | finite x =>
    obtain ⟨w, rfl, hunits'⟩ := exists_finite_of_eqv hx
    obtain ⟨hne, hrank⟩ := rank_add x y
    obtain ⟨hne', hrank'⟩ := rank_add w z
    exact eqv_iff.mpr ⟨hne, hne', by rw [hrank, hrank', hunits, hunits']⟩

/-- `add` of zero adds nothing. -/
theorem eqv_zero_add {x : Binary64} (h : x.IsFinite) : (zero.add x).eqv x = true := by
  obtain ⟨x, rfl⟩ := h
  obtain ⟨hne, hrank⟩ := rank_add (Finite.zero false) x
  refine eqv_iff.mpr ⟨hne, by simp, ?_⟩
  have hsum : (Finite.zero false).signedUnits + x.signedUnits = x.signedUnits := by
    rw [show (Finite.zero false).signedUnits = 0 from rfl, Int.zero_add]
  rw [zero, hrank, hsum, roundedRank_signedUnits]
  rfl

/-- To `add` something that is not negative comes to no less. -/
theorem le_add_of_nonneg {x y : Binary64} (hx : x ≠ .nan) (hfinite : y.IsFinite)
    (hy : zero.le y = true) : x.le (x.add y) = true := by
  obtain ⟨y, rfl⟩ := hfinite
  have hnonneg : (0 : Int) ≤ y.signedUnits := (le_iff_rank_le.mp hy).2.2
  cases x with
  | nan => exact absurd rfl hx
  | infinite negative => exact le_refl hx
  | finite x =>
    obtain ⟨hne, hrank⟩ := rank_add x y
    refine le_iff_rank_le.mpr ⟨hx, hne, ?_⟩
    calc x.signedUnits = roundedRank x.signedUnits := (roundedRank_signedUnits x).symm
      _ ≤ roundedRank (x.signedUnits + y.signedUnits) := roundedRank_mono (by omega)
      _ = _ := hrank.symm

/-- To `add` more to something larger comes to no smaller sum. -/
theorem add_mono {x x' y y' : Binary64} (hx : x.le x' = true) (hy : y.le y' = true)
    (hfinite : y.IsFinite) (hfinite' : y'.IsFinite) : (x.add y).le (x'.add y') = true := by
  obtain ⟨y, rfl⟩ := hfinite
  obtain ⟨y', rfl⟩ := hfinite'
  obtain ⟨hne, hne', hrank⟩ := le_iff_rank_le.mp hx
  have hrank' : y.signedUnits ≤ y'.signedUnits := (le_iff_rank_le.mp hy).2.2
  -- A sum with a finite summand is a number where the other summand is one.
  have hsum : x.add (.finite y) ≠ .nan :=
    (eqv_iff.mp (eqv_add (eqv_refl hne) (eqv_refl (by simp)) ⟨y, rfl⟩)).1
  have hsum' : x'.add (.finite y') ≠ .nan :=
    (eqv_iff.mp (eqv_add (eqv_refl hne') (eqv_refl (by simp)) ⟨y', rfl⟩)).1
  refine le_iff_rank_le.mpr ⟨hsum, hsum', ?_⟩
  have hbounds := rank_le_limit (x.add (.finite y))
  have hbounds' := rank_le_limit (x'.add (.finite y'))
  -- Next to an infinity the sums are infinite as well, so only finite doubles are really added.
  cases x with
  | nan => exact absurd rfl hne
  | infinite a =>
    -- From minus infinity the sum can only rise, and plus infinity leaves no room above.
    cases a with
    | true => exact hbounds'.1
    | false =>
      rw [eq_infinity_of_le hx]
      exact Int.le_refl _
  -- A finite sum has no infinity below it but minus infinity.
  | finite x =>
    cases x' with
    | nan => exact absurd rfl hne'
    | infinite b =>
      cases b with
      | true => simp [le, lt] at hx
      | false => exact hbounds.2
    | finite x' =>
      -- Both sums are rounded, and rounding keeps the order.
      rw [(rank_add x y).2, (rank_add x' y').2]
      exact roundedRank_mono (Int.add_le_add hrank hrank')

/-- `add` of finite doubles to a number comes to a number. -/
theorem foldl_add_ne_nan (l : List Binary64) (hl : ∀ y ∈ l, y.IsFinite) {x : Binary64}
    (hx : x ≠ .nan) : l.foldl add x ≠ .nan := by
  induction l generalizing x with
  | nil => exact hx
  | cons y l ih =>
    obtain ⟨hy, hl⟩ := List.forall_mem_cons.mp hl
    exact ih hl (eqv_iff.mp (eqv_add (eqv_refl hx) (eqv_refl hy.ne_nan) hy)).1

/-- A sum of `add` depends on the ranks of what is added alone. -/
theorem eqv_foldl_add {l l' : List Binary64} (hl : ∀ y ∈ l, y.IsFinite)
    (hl' : ∀ y ∈ l', y.IsFinite) (h : l.map rank = l'.map rank) {x x' : Binary64}
    (hx : x.eqv x' = true) : (l.foldl add x).eqv (l'.foldl add x') = true := by
  induction l generalizing l' x x' with
  | nil =>
    rw [List.map_eq_nil_iff.mp h.symm]
    exact hx
  | cons y l ih =>
    cases l' with
    | nil => cases h
    | cons y' l' =>
      obtain ⟨hy, hl⟩ := List.forall_mem_cons.mp hl
      obtain ⟨hy', hl'⟩ := List.forall_mem_cons.mp hl'
      obtain ⟨hrank, hrest⟩ := List.cons.inj h
      -- One more summand is added to sums that are equal by their order.
      have hstep := eqv_add hx (eqv_iff.mpr ⟨hy.ne_nan, hy'.ne_nan, hrank⟩) hy
      exact ih hl hl' hrest hstep

/-- `add` of what is not negative makes no sum smaller. -/
theorem le_foldl_add (l : List Binary64) (hl : ∀ y ∈ l, y.IsFinite)
    (hnonneg : ∀ y ∈ l, zero.le y = true) {x : Binary64} (hx : x ≠ .nan) :
    x.le (l.foldl add x) = true := by
  induction l generalizing x with
  | nil => exact le_refl hx
  | cons y l ih =>
    obtain ⟨hy, hl⟩ := List.forall_mem_cons.mp hl
    obtain ⟨hypos, hnonneg⟩ := List.forall_mem_cons.mp hnonneg
    have hstep := le_add_of_nonneg hx hy hypos
    exact le_trans hstep (ih hl hnonneg (le_iff_rank_le.mp hstep).2.1)

end Binary64

end TokenRisk
