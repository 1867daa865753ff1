import Mathlib.Tactic.NormNum
import PublicSite.Proofs.Booking.Selection

/-!
# What a discounted price can be

Counted in exact numbers, a rule that takes something off leaves a price from zero
up to the price itself, with one exception.  What a percentage leaves is rounded to
whole units, and so a price with a fraction can be rounded up to the next whole
unit, by at most half a unit.
-/

namespace PublicSite.Booking

namespace DiscountRule

variable {rule : DiscountRule Rat} {price : Rat}

/-- What a percentage leaves of a price is rounded up beyond the price. -/
def Overshoots (rule : DiscountRule Rat) (price : Rat) : Prop :=
  rule.kind = .percent ∧ ⌊price⌋ + 1 / 2 ≤ price * (1 - rule.value / 100)

theorem apply_amount (isAmount : rule.kind = .amount) (price : Rat) :
    rule.apply price = max (price - rule.value) 0 := by
  rw [apply, isAmount]
  exact Price.atLeastZero_rat _

theorem apply_percent (isPercent : rule.kind = .percent) (price : Rat) :
    rule.apply price = max (Price.nearestOfRat (price * (1 - rule.value / 100)) : Rat) 0 := by
  rw [apply, isPercent]
  exact Price.atLeastZero_rat _

theorem apply_nonneg (rule : DiscountRule Rat) (price : Rat) : 0 ≤ rule.apply price := by
  cases kind : rule.kind with
  | amount => rw [apply_amount kind]; exact le_max_right _ _
  | percent => rw [apply_percent kind]; exact le_max_right _ _

/-- A percentage that is not negative leaves no more than there was. -/
theorem remainder_le (nonneg : 0 ≤ price) (reduces : 0 ≤ rule.value) :
    price * (1 - rule.value / 100) ≤ price := by
  have lost : 0 ≤ price * (rule.value / 100) := by positivity
  calc
    price * (1 - rule.value / 100) = price - price * (rule.value / 100) := by ring
    _ ≤ price := sub_le_self price lost

theorem apply_le (nonneg : 0 ≤ price) (reduces : 0 ≤ rule.value)
    (stays : ¬ rule.Overshoots price) : rule.apply price ≤ price := by
  cases kind : rule.kind with
  | amount =>
      rw [apply_amount kind]
      exact max_le (sub_le_self price reduces) nonneg
  | percent =>
      have below : price * (1 - rule.value / 100) < ⌊price⌋ + 1 / 2 :=
        not_le.mp fun high => stays ⟨kind, high⟩
      rw [apply_percent kind]
      refine max_le ?_ nonneg
      rcases lt_or_ge (price * (1 - rule.value / 100)) 0 with negative | remains
      · have atMostZero : (Price.nearestOfRat (price * (1 - rule.value / 100)) : Rat) ≤ 0 := by
          exact_mod_cast Price.nearestOfRat_nonpos negative
        exact atMostZero.trans nonneg
      · have rounded : (Price.nearestOfRat (price * (1 - rule.value / 100)) : Rat) ≤ ⌊price⌋ := by
          exact_mod_cast (Price.nearestOfRat_le_iff remains ⌊price⌋).mpr below
        exact rounded.trans (Int.floor_le price)

/-- What overshoots comes to the next whole unit. -/
theorem apply_of_overshoots (nonneg : 0 ≤ price) (reduces : 0 ≤ rule.value)
    (overshoots : rule.Overshoots price) : rule.apply price = ⌊price⌋ + 1 := by
  obtain ⟨kind, high⟩ := overshoots
  have floorNonneg : (0 : Rat) ≤ ⌊price⌋ := by exact_mod_cast Int.floor_nonneg.mpr nonneg
  have remains : 0 ≤ price * (1 - rule.value / 100) := by linarith
  have upper : Price.nearestOfRat (price * (1 - rule.value / 100)) ≤ ⌊price⌋ + 1 := by
    rw [Price.nearestOfRat_le_iff remains]
    have lost := remainder_le nonneg reduces
    have next := Int.lt_floor_add_one price
    push_cast
    linarith
  have lower : ⌊price⌋ < Price.nearestOfRat (price * (1 - rule.value / 100)) := by
    rw [← not_le, Price.nearestOfRat_le_iff remains]
    exact not_lt.mpr high
  have rounded : Price.nearestOfRat (price * (1 - rule.value / 100)) = ⌊price⌋ + 1 :=
    le_antisymm upper lower
  rw [apply_percent kind, rounded, Int.cast_add, Int.cast_one]
  exact max_eq_left (by linarith)

/-- A price in whole units is never left for a higher one. -/
theorem not_overshoots_intCast (reduces : 0 ≤ rule.value) {units : Int} (nonneg : 0 ≤ units) :
    ¬ rule.Overshoots (units : Rat) := by
  rintro ⟨_, high⟩
  have lost : (units : Rat) * (1 - rule.value / 100) ≤ units :=
    remainder_le (Int.cast_nonneg nonneg) reduces
  rw [Int.floor_intCast] at high
  linarith

theorem apply_le_iff (nonneg : 0 ≤ price) (reduces : 0 ≤ rule.value) :
    rule.apply price ≤ price ↔ ¬ rule.Overshoots price := by
  constructor
  · intro bounded overshoots
    rw [apply_of_overshoots nonneg reduces overshoots] at bounded
    exact absurd (Int.lt_floor_add_one price) (not_lt.mpr bounded)
  · exact apply_le nonneg reduces

end DiscountRule

/-- No rule leaves less than nothing, and neither does the lack of one. -/
theorem total_nonneg {configured : List (DiscountRule Rat)} {request : QuoteRequest Rat}
    {default : Locale} {answer : Quote Rat}
    (answered : quote configured request default = .ok answer) : 0 ≤ answer.total := by
  have answers := quote_answers answered
  rw [answers.total_eq]
  cases answer.discount with
  | none => exact Price.isAmount_rat.mp answers.accepted
  | some rule => exact rule.apply_nonneg _

/-- The total of a quote is never negative.  With a rule that is not negative it is at most
the base price, unless the rule overshoots; then it is the next whole unit, at most half a
unit more.  No amount overshoots, and no rule does on a price in whole units. -/
theorem quote_total_bounds {configured : List (DiscountRule Rat)} {request : QuoteRequest Rat}
    {default : Locale} {answer : Quote Rat}
    (answered : quote configured request default = .ok answer) :
    0 ≤ answer.total ∧
      ∀ rule, answer.discount = some rule → 0 ≤ rule.value →
        (answer.total ≤ request.basePrice ↔ ¬ rule.Overshoots request.basePrice) ∧
        (0 ≤ answer.discountAmount ↔ ¬ rule.Overshoots request.basePrice) ∧
        (rule.Overshoots request.basePrice →
          answer.total = ⌊request.basePrice⌋ + 1 ∧
            answer.total ≤ request.basePrice + 1 / 2) ∧
        (rule.kind = .amount → ¬ rule.Overshoots request.basePrice) ∧
        (∀ units : Int, request.basePrice = units → ¬ rule.Overshoots request.basePrice) := by
  refine ⟨total_nonneg answered, fun rule applied reduces => ?_⟩
  have answers := quote_answers answered
  have nonneg : 0 ≤ request.basePrice := Price.isAmount_rat.mp answers.accepted
  have total : answer.total = rule.apply request.basePrice := by
    rw [answers.total_eq, applied]
    rfl
  have bounded_iff : answer.total ≤ request.basePrice ↔ ¬ rule.Overshoots request.basePrice := by
    rw [total, DiscountRule.apply_le_iff nonneg reduces]
  refine ⟨bounded_iff, ?difference, ?overshooting, ?amount, ?whole⟩
  case difference =>
    rw [answers.discountAmount_eq, ← bounded_iff]
    exact sub_nonneg
  case overshooting =>
    intro overshoots
    have next : answer.total = ⌊request.basePrice⌋ + 1 := by
      rw [total, DiscountRule.apply_of_overshoots nonneg reduces overshoots]
    have high := overshoots.2
    have lost := DiscountRule.remainder_le nonneg reduces
    refine ⟨next, ?_⟩
    rw [next]
    linarith
  case amount =>
    intro isAmount overshoots
    exact absurd (isAmount.symm.trans overshoots.1) (by decide)
  case whole =>
    intro units whole
    rw [whole] at nonneg ⊢
    exact DiscountRule.not_overshoots_intCast reduces (Int.cast_nonneg_iff.mp nonneg)

/-- A tenth off a price with a fraction. -/
theorem quote_total_bounds_tenth :
    let rule : DiscountRule Rat := { code := "SPRING", kind := .percent, value := 10 }
    let request : QuoteRequest Rat := { basePrice := 99 / 10, discountCode := some "spring" }
    ∃ answer, quote [rule] request .en = .ok answer ∧ answer.discount = some rule ∧
      0 ≤ rule.value ∧ 0 ≤ answer.total ∧ answer.total ≤ request.basePrice := by
  intro rule request
  have accepted : Price.isAmount request.basePrice = true :=
    Price.isAmount_rat.mpr (by norm_num [request])
  have reduces : 0 ≤ rule.value := by norm_num [rule]
  have stays : ¬ rule.Overshoots request.basePrice := by
    have floor : ⌊(99 / 10 : Rat)⌋ = 9 := by norm_num
    rintro ⟨_, high⟩
    rw [floor] at high
    norm_num [rule, request] at high
  obtain ⟨answer, answered⟩ := exists_quote accepted [rule] .en
  have applied : answer.discount = some rule :=
    ((quote_answers answered).appliesFirst.matched _ rfl (by decide) [] rule [] rfl (by decide)
      (by simp)).1
  obtain ⟨nonneg, bounds⟩ := quote_total_bounds answered
  obtain ⟨bounded_iff, _⟩ := bounds rule applied reduces
  exact ⟨answer, answered, applied, reduces, nonneg, bounded_iff.mpr stays⟩

/-- A fiftieth off the same price leaves more than it, since it is rounded up. -/
theorem basePrice_lt_total :
    let rule : DiscountRule Rat := { code := "SPRING", kind := .percent, value := 2 }
    let request : QuoteRequest Rat := { basePrice := 99 / 10, discountCode := some "spring" }
    ∃ answer, quote [rule] request .en = .ok answer ∧ answer.discount = some rule ∧
      0 ≤ rule.value ∧ request.basePrice < answer.total ∧ answer.discountAmount < 0 := by
  intro rule request
  have accepted : Price.isAmount request.basePrice = true :=
    Price.isAmount_rat.mpr (by norm_num [request])
  have floor : ⌊(99 / 10 : Rat)⌋ = 9 := by norm_num
  have overshoots : rule.Overshoots request.basePrice := by
    refine ⟨rfl, ?_⟩
    rw [floor]
    norm_num [rule, request]
  obtain ⟨answer, answered⟩ := exists_quote accepted [rule] .en
  have answers := quote_answers answered
  obtain ⟨applied, total⟩ :=
    answers.appliesFirst.matched _ rfl (by decide) [] rule [] rfl (by decide) (by simp)
  rw [DiscountRule.apply_of_overshoots (by norm_num [request]) (by norm_num [rule]) overshoots,
    floor] at total
  have more : request.basePrice < answer.total := by
    rw [total]
    norm_num [request]
  refine ⟨answer, answered, applied, by norm_num [rule], more, ?_⟩
  rw [answers.discountAmount_eq]
  exact sub_neg.mpr more

end PublicSite.Booking
