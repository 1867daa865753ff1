import Mathlib.Data.List.Forall2
import PublicSite.Booking.Discount
import PublicSite.Proofs.Decimal.Reading
import PublicSite.Proofs.Text.Trimming

/-!
# The rules that entries make

An entry of the service makes a rule exactly when it is an object with a code that is not
blank, an amount that is a finite number, and a truth value that says whether the amount is
a percentage.  Each entry is looked at on its own, so an answer makes the rules of its
usable entries in their order, and a usable rule always has a trimmed code that is not
blank and a finite value.
-/

namespace PublicSite.Booking

open PublicSite.Text PublicSite.Decimal PublicSite.Json

/-! ## Amounts -/

/-- The number that an amount stands for.  A text stands for the decimal number that it
holds, with white space around it perhaps. -/
inductive IsAmountOf : Value → Float → Prop where
  | integer (number : Int) : IsAmountOf (.integer number) (Float.ofInt number)
  | float (number : Float) : IsAmountOf (.float number) number
  | text {text : String} {number : Float} (isDecimal : IsDecimal (trim text.toList) number) :
      IsAmountOf (.text text) number

theorem numberOf?_eq_some_iff {amount : Value} {number : Float}
    (finite : number.isFinite = true) :
    numberOf? amount = some number ↔ IsAmountOf amount number := by
  constructor
  · intro read
    cases amount with
    | integer whole =>
        obtain rfl := Option.some.inj read
        exact .integer whole
    | float value =>
        obtain rfl := Option.some.inj read
        exact .float value
    | text text => exact .text ((readDouble?_eq_some_iff finite).mp read)
    | null | bool | array | object => exact nomatch read
  · intro isAmount
    cases isAmount with
    | integer => rfl
    | float => rfl
    | text isDecimal => exact (readDouble?_eq_some_iff finite).mpr isDecimal

theorem ofFloat?_float (number : Float) :
    (Price.ofFloat? number : Option Float) = if number.isFinite then some number else none :=
  rfl

theorem ofFloat?_eq_some_iff {number value : Float} :
    (Price.ofFloat? number : Option Float) = some value ↔
      value.isFinite = true ∧ number = value := by
  rw [ofFloat?_float]
  constructor
  · intro known
    split at known
    · rename_i finite
      obtain rfl := Option.some.inj known
      exact ⟨finite, rfl⟩
    · exact nomatch known
  · rintro ⟨finite, rfl⟩
    exact if_pos finite

/-! ## Entries -/

/-- What a rule takes from the entry that makes it. -/
structure Makes (entry : Value) (rule : DiscountRule Float) : Prop where
  code : ∃ code, entry.member? "code" = some (.text code) ∧ isBlank code.toList = false ∧
    rule.code = trimmed code
  value : ∃ amount, entry.member? "amount" = some amount ∧ IsAmountOf amount rule.value ∧
    rule.value.isFinite = true
  kind : ∃ isPercentage, entry.member? "is_percentage" = some (.bool isPercentage) ∧
    rule.kind = if isPercentage then .percent else .amount
  name : rule.name = ((entry.member? "name").bind Value.text?).bind nonBlank?
  currencyCode : rule.currencyCode = (entry.member? "currency_code").bind Value.text?
  currencySymbol : rule.currencySymbol = (entry.member? "currency_symbol").bind Value.text?

/-- An entry that has all that a rule needs. -/
structure IsUsable (entry : Value) : Prop where
  isObject : ∃ members, entry = .object members
  code : ∃ code, entry.member? "code" = some (.text code) ∧ isBlank code.toList = false
  amount : ∃ amount number, entry.member? "amount" = some amount ∧ IsAmountOf amount number ∧
    number.isFinite = true
  isPercentage : ∃ isPercentage, entry.member? "is_percentage" = some (.bool isPercentage)

theorem text?_eq_some_iff {value : Value} {text : String} :
    value.text? = some text ↔ value = .text text := by
  cases value <;> simp [Value.text?]

theorem truthOf?_eq_some_iff {value : Value} {truth : Bool} :
    truthOf? value = some truth ↔ value = .bool truth := by
  cases value <;> simp [truthOf?]

/-- An entry makes the rule that is taken from it and no other one. -/
theorem serviceRule?_eq_some_iff {entry : Value} {rule : DiscountRule Float} :
    serviceRule? entry = some rule ↔ Makes entry rule := by
  simp only [serviceRule?, Option.bind_eq_bind, Option.bind_eq_some_iff, Option.pure_def,
    Option.some.injEq, text?_eq_some_iff, truthOf?_eq_some_iff, ofFloat?_eq_some_iff,
    nonBlank?_eq_some_iff]
  constructor
  · rintro ⟨_, hasCode, code, rfl, _, ⟨notBlank, rfl⟩, amount, hasAmount, number, read, _,
      ⟨finite, rfl⟩, _, hasTruth, isPercentage, rfl, rfl⟩
    exact {
      code := ⟨code, hasCode, notBlank, rfl⟩
      value := ⟨amount, hasAmount, (numberOf?_eq_some_iff finite).mp read, finite⟩
      kind := ⟨isPercentage, hasTruth, rfl⟩
      name := rfl
      currencyCode := rfl
      currencySymbol := rfl }
  · intro makes
    obtain ⟨code, hasCode, notBlank, codeTaken⟩ := makes.code
    obtain ⟨amount, hasAmount, isAmount, finite⟩ := makes.value
    obtain ⟨isPercentage, hasTruth, kindTaken⟩ := makes.kind
    refine ⟨_, hasCode, code, rfl, _, ⟨notBlank, rfl⟩, amount, hasAmount, _,
      (numberOf?_eq_some_iff finite).mpr isAmount, _, ⟨finite, rfl⟩, _, hasTruth, _, rfl, ?_⟩
    rw [← codeTaken, ← kindTaken, ← makes.name, ← makes.currencyCode, ← makes.currencySymbol]

/-- Exactly the usable entries make a rule. -/
theorem isUsable_iff {entry : Value} : IsUsable entry ↔ ∃ rule, Makes entry rule := by
  constructor
  · intro usable
    obtain ⟨code, hasCode, notBlank⟩ := usable.code
    obtain ⟨amount, number, hasAmount, isAmount, finite⟩ := usable.amount
    obtain ⟨isPercentage, hasTruth⟩ := usable.isPercentage
    exact ⟨{
      code := trimmed code
      kind := if isPercentage then .percent else .amount
      value := number
      name := ((entry.member? "name").bind Value.text?).bind nonBlank?
      currencyCode := (entry.member? "currency_code").bind Value.text?
      currencySymbol := (entry.member? "currency_symbol").bind Value.text? },
      ⟨code, hasCode, notBlank, rfl⟩, ⟨amount, hasAmount, isAmount, finite⟩,
      ⟨isPercentage, hasTruth, rfl⟩, rfl, rfl, rfl⟩
  · rintro ⟨rule, makes⟩
    obtain ⟨code, hasCode, notBlank, -⟩ := makes.code
    obtain ⟨amount, hasAmount, isAmount, finite⟩ := makes.value
    obtain ⟨isPercentage, hasTruth, -⟩ := makes.kind
    refine ⟨?_, ⟨code, hasCode, notBlank⟩, ⟨amount, _, hasAmount, isAmount, finite⟩,
      ⟨isPercentage, hasTruth⟩⟩
    cases entry with
    | object members => exact ⟨members, rfl⟩
    | null | bool | integer | float | text | array => exact nomatch hasCode

theorem isUsable_iff_isSome {entry : Value} :
    IsUsable entry ↔ (serviceRule? entry : Option (DiscountRule Float)).isSome = true := by
  simp only [isUsable_iff, Option.isSome_iff_exists, serviceRule?_eq_some_iff]

instance (entry : Value) : Decidable (IsUsable entry) :=
  decidable_of_iff _ isUsable_iff_isSome.symm

/-! ## Usable rules -/

/-- A rule with a trimmed code that is not blank, and a finite value. -/
structure DiscountRule.IsSound (rule : DiscountRule Float) : Prop where
  isTrimmed : trimmed rule.code = rule.code
  notBlank : isBlank rule.code.toList = false
  finite : rule.value.isFinite = true

theorem isSound_of_trimmed {code : String} {kind : DiscountKind} {value : Float}
    {name currencyCode currencySymbol : Option String} (notBlank : isBlank code.toList = false)
    (finite : value.isFinite = true) :
    DiscountRule.IsSound ⟨trimmed code, kind, value, name, currencyCode, currencySymbol⟩ where
  isTrimmed := trimmed_trimmed code
  notBlank := by rw [toList_trimmed, isBlank_trim, notBlank]
  finite := finite

theorem Makes.isSound {entry : Value} {rule : DiscountRule Float} (makes : Makes entry rule) :
    rule.IsSound := by
  obtain ⟨code, -, notBlank, codeTaken⟩ := makes.code
  obtain ⟨amount, -, -, finite⟩ := makes.value
  obtain ⟨_, kind, value, name, currencyCode, currencySymbol⟩ := rule
  obtain rfl := codeTaken
  exact isSound_of_trimmed notBlank finite

/-! ## Answers of the service -/

theorem forall₂_filterMap {α β : Type} (f : α → Option β) (items : List α) :
    List.Forall₂ (fun item made => f item = some made)
      (items.filter fun item => (f item).isSome) (items.filterMap f) := by
  induction items with
  | nil => exact .nil
  | cons item rest ih =>
      cases made : f item with
      | none =>
          rw [List.filter_cons_of_neg (by simp [made]), List.filterMap_cons_none made]
          exact ih
      | some result =>
          rw [List.filter_cons_of_pos (by simp [made]), List.filterMap_cons_some made]
          exact .cons made ih

/-- The rules of an array come from its usable entries, in their order. -/
theorem forall₂_makes_serviceRules (entries : List Value) :
    List.Forall₂ Makes (entries.filter IsUsable) (serviceRules (.array entries)) := by
  have made := forall₂_filterMap (serviceRule? (α := Float)) entries
  simp only [serviceRule?_eq_some_iff] at made
  have sameEntries : (fun entry => decide (IsUsable entry)) =
      fun entry => (serviceRule? entry : Option (DiscountRule Float)).isSome := by
    funext entry
    exact Bool.eq_iff_iff.mpr (by rw [decide_eq_true_iff, isUsable_iff_isSome])
  rw [sameEntries]
  exact made

/-- An entry alone makes at most one rule. -/
theorem serviceRules_singleton (entry : Value) :
    (serviceRules (.array [entry]) : List (DiscountRule Float)) = (serviceRule? entry).toList := by
  cases made : (serviceRule? entry : Option (DiscountRule Float)) <;>
    simp [serviceRules, serviceEntries, made]

theorem serviceEntries_of_data {payload : Value} {entries : List Value}
    (hasData : payload.member? "data" = some (.array entries)) :
    serviceEntries payload = entries := by
  cases payload with
  | object => rw [serviceEntries, hasData]; nofun
  | null | bool | integer | float | text | array => exact nomatch hasData

theorem serviceEntries_of_other {payload : Value} (notArray : ∀ entries, payload ≠ .array entries)
    (noData : ∀ entries, payload.member? "data" ≠ some (.array entries)) :
    serviceEntries payload = [] := by
  unfold serviceEntries
  split
  · exact absurd rfl (notArray _)
  · split
    · rename_i hasData
      exact absurd hasData (noData _)
    · rfl

theorem isSound_of_mem_serviceRules {payload : Value} {rule : DiscountRule Float}
    (member : rule ∈ serviceRules payload) : rule.IsSound := by
  obtain ⟨entry, -, made⟩ := List.mem_filterMap.mp member
  exact (serviceRule?_eq_some_iff.mp made).isSound

/-! ## Configured entries -/

/-- A configured entry with a code that is not blank and a finite value. -/
def isUsableStatic (entry : Config.StaticRule Float) : Bool :=
  entry.value.isFinite && !isBlank entry.code.toList

/-- The rule of a usable configured entry. -/
def staticRule (entry : Config.StaticRule Float) : DiscountRule Float :=
  { code := trimmed entry.code, kind := entry.kind, value := entry.value }

theorem configuredRule?_eq (entry : Config.StaticRule Float) :
    configuredRule? entry = if isUsableStatic entry then some (staticRule entry) else none := by
  unfold configuredRule? isUsableStatic nonBlank?
  rw [ofFloat?_float]
  cases finite : entry.value.isFinite <;> cases blank : isBlank entry.code.toList <;>
    simp [staticRule]

/-- The configured rules come from the usable entries, in their order. -/
theorem configuredRules_eq (entries : List (Config.StaticRule Float)) :
    configuredRules entries = (entries.filter isUsableStatic).map staticRule := by
  rw [configuredRules, ← List.filterMap_eq_map, List.filterMap_filter]
  exact List.filterMap_congr fun entry _ => configuredRule?_eq entry

theorem isSound_of_mem_configuredRules {entries : List (Config.StaticRule Float)}
    {rule : DiscountRule Float} (member : rule ∈ configuredRules entries) : rule.IsSound := by
  rw [configuredRules_eq] at member
  obtain ⟨entry, kept, rfl⟩ := List.mem_map.mp member
  have usable := (List.mem_filter.mp kept).2
  rw [isUsableStatic, Bool.and_eq_true, Bool.not_eq_true'] at usable
  exact isSound_of_trimmed usable.2 usable.1

/-! ## All rules -/

/-- An answer of the service makes the rules of its usable entries, in their order and each on
its own, and no answer makes any others; the configuration likewise.  All these rules are
sound. -/
theorem rules_entrywise :
    (∀ left right, (serviceRules (.array (left ++ right)) : List (DiscountRule Float)) =
      serviceRules (.array left) ++ serviceRules (.array right)) ∧
    (∀ payload entries, payload.member? "data" = some (.array entries) →
      (serviceRules payload : List (DiscountRule Float)) = serviceRules (.array entries)) ∧
    (∀ payload, (∀ entries, payload ≠ .array entries) →
      (∀ entries, payload.member? "data" ≠ some (.array entries)) →
      (serviceRules payload : List (DiscountRule Float)) = []) ∧
    (∀ entry, (∃ rule : DiscountRule Float, serviceRules (.array [entry]) = [rule]) ↔
      IsUsable entry) ∧
    (∀ entries, List.Forall₂ Makes (entries.filter IsUsable) (serviceRules (.array entries))) ∧
    (∀ payload, ∀ rule ∈ serviceRules payload, DiscountRule.IsSound rule) ∧
    (∀ entries, configuredRules entries = (entries.filter isUsableStatic).map staticRule) ∧
    ∀ entries, ∀ rule ∈ configuredRules entries, DiscountRule.IsSound rule := by
  refine ⟨fun left right => List.filterMap_append, ?_, ?_, ?_, forall₂_makes_serviceRules,
    fun _ _ => isSound_of_mem_serviceRules, configuredRules_eq,
    fun _ _ => isSound_of_mem_configuredRules⟩
  · intro payload entries hasData
    rw [serviceRules, serviceEntries_of_data hasData]
    rfl
  · intro payload notArray noData
    rw [serviceRules, serviceEntries_of_other notArray noData]
    rfl
  · intro entry
    rw [serviceRules_singleton, isUsable_iff_isSome]
    cases (serviceRule? entry : Option (DiscountRule Float)) <;> simp

/-- An entry with white space around its code and a number in a text. -/
def springEntry : Value :=
  .object [("code", .text " SPRING "), ("amount", .text " 12.5e0 "), ("is_percentage", .bool true)]

theorem isUsable_springEntry : IsUsable springEntry where
  isObject := ⟨_, rfl⟩
  code := ⟨" SPRING ", rfl, by decide⟩
  amount := by
    have isUnsigned := @IsUnsigned.ofParts ['1', '2'] ['.', '5'] ['5'] ['e', '0'] _
      (by simp [IsDigits]) (.written (by simp [IsDigits])) (by decide)
      (@IsExponent.written 'e' [] ['0'] false (.inl rfl) .absent (by simp [IsDigits]) (by decide))
    have isDecimal := IsDecimal.ofSign .absent isUnsigned
    exact ⟨.text " 12.5e0 ", _, rfl, .text isDecimal, by decide +kernel⟩
  isPercentage := ⟨true, rfl⟩

/-- A configured entry with white space around its code. -/
def welcomeEntry : Config.StaticRule Float :=
  ⟨" WELCOME ", .amount, 200.0⟩

theorem rules_entrywise_spring :
    Value.member? "data" (.object [("page", .integer 1), ("data", .array [springEntry])]) =
        some (.array [springEntry]) ∧
      (∃ rule : DiscountRule Float,
        serviceRules (.object [("page", .integer 1), ("data", .array [springEntry])]) = [rule] ∧
          rule.IsSound) ∧
      (serviceRules (.text "SPRING") : List (DiscountRule Float)) = [] ∧
      staticRule welcomeEntry ∈ configuredRules [⟨" ", .percent, 10.0⟩, welcomeEntry] ∧
      (staticRule welcomeEntry).IsSound := by
  obtain ⟨-, sameAsData, emptyOf, alone, -, soundOf, configuredOf, configuredSound⟩ :=
    rules_entrywise
  have same := sameAsData (.object [("page", .integer 1), ("data", .array [springEntry])]) _ rfl
  obtain ⟨rule, made⟩ := (alone springEntry).mpr isUsable_springEntry
  have welcomed :
      staticRule welcomeEntry ∈ configuredRules [⟨" ", .percent, 10.0⟩, welcomeEntry] := by
    rw [configuredOf]
    refine List.mem_map_of_mem (List.mem_filter.mpr ⟨?_, ?_⟩)
    · exact List.mem_cons_of_mem _ List.mem_cons_self
    · decide +kernel
  refine ⟨rfl, ⟨rule, same.trans made, ?_⟩, emptyOf _ nofun nofun, welcomed,
    configuredSound _ _ welcomed⟩
  exact soundOf _ rule (by rw [same, made]; exact List.mem_cons_self)

end PublicSite.Booking
