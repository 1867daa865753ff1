import PublicSite.Proofs.Booking.Total

/-!
# Which price is the lower one

A higher price is never left lower by the same rule, and of two rules of one kind the one
with the higher value never leaves more.  Rounding and the bound at zero keep every order,
so only what a percentage leaves before them has to be compared: it grows with the price
while the percentage is at most a hundred, and it falls as the percentage grows.
-/

namespace PublicSite.Booking.DiscountRule

variable {rule other : DiscountRule Rat} {price higher : Rat}

/-- What is left of a price in the order of what is rounded. -/
theorem apply_percent_le (isPercent : rule.kind = .percent) (otherIsPercent : other.kind = .percent)
    (ordered : price * (1 - rule.value / 100) ≤ higher * (1 - other.value / 100)) :
    rule.apply price ≤ other.apply higher := by
  rw [apply_percent isPercent, apply_percent otherIsPercent]
  have rounded := Price.nearestOfRat_le_nearestOfRat ordered
  exact max_le_max (Int.cast_le.mpr rounded) le_rfl

/-- What a percentage leaves is a whole number of units. -/
theorem exists_units_of_percent (isPercent : rule.kind = .percent) (price : Rat) :
    ∃ units : Nat, rule.apply price = units := by
  obtain ⟨units, whole⟩ := Int.eq_ofNat_of_zero_le
    (le_max_right (Price.nearestOfRat (price * (1 - rule.value / 100))) 0)
  refine ⟨units, ?_⟩
  rw [apply_percent isPercent]
  exact_mod_cast congrArg (Int.cast : Int → Rat) whole

/-! ## One rule and two prices -/

/-- The rule takes an amount off, or not more than everything. -/
def IsModerate (rule : DiscountRule Rat) : Prop :=
  rule.kind = .amount ∨ rule.kind = .percent ∧ rule.value ≤ 100

theorem apply_mono (moderate : rule.IsModerate) : Monotone rule.apply := by
  intro price higher ordered
  rcases moderate with isAmount | ⟨isPercent, atMostAll⟩
  · rw [apply_amount isAmount, apply_amount isAmount]
    exact max_le_max (sub_le_sub_right ordered rule.value) le_rfl
  · apply apply_percent_le isPercent isPercent
    have leaves : 0 ≤ 1 - rule.value / 100 := by linarith
    exact mul_le_mul_of_nonneg_right ordered leaves

/-- Nothing is left when at least everything is taken off. -/
theorem apply_eq_zero (isPercent : rule.kind = .percent) (everything : 100 ≤ rule.value)
    (nonneg : 0 ≤ price) : rule.apply price = 0 := by
  have leaves : 1 - rule.value / 100 ≤ 0 := by linarith
  have rounded := Price.nearestOfRat_le_nearestOfRat (mul_nonpos_of_nonneg_of_nonpos nonneg leaves)
  rw [Price.nearestOfRat_zero] at rounded
  rw [apply_percent isPercent]
  exact max_eq_right (Int.cast_nonpos.mpr rounded)

theorem apply_le_apply_of_le (nonneg : 0 ≤ price) (ordered : price ≤ higher) :
    rule.apply price ≤ rule.apply higher := by
  cases kind : rule.kind with
  | amount => exact apply_mono (Or.inl kind) ordered
  | percent =>
      rcases le_total rule.value 100 with atMostAll | everything
      · exact apply_mono (Or.inr ⟨kind, atMostAll⟩) ordered
      · rw [apply_eq_zero kind everything nonneg]
        exact rule.apply_nonneg higher

/-! ## Two rules and one price -/

theorem apply_le_apply_of_value_le (sameKind : other.kind = rule.kind)
    (stronger : rule.value ≤ other.value) (nonneg : 0 ≤ price) :
    other.apply price ≤ rule.apply price := by
  cases kind : rule.kind with
  | amount =>
      rw [apply_amount (sameKind.trans kind), apply_amount kind]
      exact max_le_max (sub_le_sub_left stronger price) le_rfl
  | percent =>
      apply apply_percent_le (sameKind.trans kind) kind
      have less : 1 - other.value / 100 ≤ 1 - rule.value / 100 := by linarith
      exact mul_le_mul_of_nonneg_left less nonneg

/-- What a rule leaves is never negative, and whole when the rule is a percentage.  Of two
prices from zero on, the higher one is left at least as high; with a moderate rule that is so
for all prices.  Of two rules of one kind, the one with the higher value leaves at most as
much. -/
theorem apply_ordered (rule : DiscountRule Rat) :
    (∀ price, 0 ≤ rule.apply price) ∧
      (rule.kind = .percent → ∀ price, ∃ units : Nat, rule.apply price = units) ∧
      (rule.IsModerate → Monotone rule.apply) ∧
      (∀ price higher, 0 ≤ price → price ≤ higher → rule.apply price ≤ rule.apply higher) ∧
      (∀ other : DiscountRule Rat, other.kind = rule.kind → rule.value ≤ other.value →
        ∀ price, 0 ≤ price → other.apply price ≤ rule.apply price) := by
  refine ⟨rule.apply_nonneg, ?whole, apply_mono, ?prices, ?rules⟩
  case whole => exact fun isPercent price => exists_units_of_percent isPercent price
  case prices => exact fun price higher nonneg ordered => apply_le_apply_of_le nonneg ordered
  case rules =>
    exact fun other sameKind stronger price nonneg =>
      apply_le_apply_of_value_le sameKind stronger nonneg

/-- A tenth and a half off prices of which one is rounded up. -/
theorem apply_ordered_tenth :
    let tenth : DiscountRule Rat := { code := "SPRING", kind := .percent, value := 10 }
    let half : DiscountRule Rat := { code := "HALF", kind := .percent, value := 50 }
    tenth.IsModerate ∧ half.kind = tenth.kind ∧ tenth.value ≤ half.value ∧
      (∃ units : Nat, tenth.apply (5 / 9) = units) ∧
      tenth.apply (1 / 2) ≤ tenth.apply (5 / 9) ∧ half.apply (5 / 9) ≤ tenth.apply (5 / 9) := by
  intro tenth half
  have moderate : tenth.IsModerate := Or.inr ⟨rfl, by norm_num [tenth]⟩
  have stronger : tenth.value ≤ half.value := by norm_num [tenth, half]
  obtain ⟨-, whole, mono, -, rules⟩ := apply_ordered tenth
  refine ⟨moderate, rfl, stronger, whole rfl _, mono moderate ?_, rules half rfl stronger _ ?_⟩
  · norm_num
  · norm_num

end PublicSite.Booking.DiscountRule
