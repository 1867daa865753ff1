import PublicSite.Booking.Quote
import PublicSite.Proofs.Booking.Price
import PublicSite.Proofs.Booking.Rules

/-!
# The rule that a quote applies

A request is priced with the first rule that has its code, among the rules of the
service followed by the configured ones.  So nothing changes when entries of the
service that make no rule come or go, when rules are added behind the one that was
found, or when the code is written in other cases of its ASCII letters or with
other white space around it.
-/

namespace PublicSite.Text

/-! ## Capital letters -/

theorem upperChar_toLower_ascii :
    ∀ code < 128, upperChar (Char.ofNat code).toLower = upperChar (Char.ofNat code) := by
  decide

theorem upperChar_toLower (char : Char) : upperChar char.toLower = upperChar char := by
  by_cases ascii : char.toNat < 128
  · rw [← Char.ofNat_toNat char]
    exact upperChar_toLower_ascii char.toNat ascii
  · have notCapital : ¬ (char.val ≥ 'A'.val ∧ char.val ≤ 'Z'.val) := fun capital =>
      ascii (lt_of_le_of_lt (UInt32.le_iff_toNat_le.mp capital.2) (by decide))
    have unchanged : char.toLower = char := dif_neg notCapital
    rw [unchanged]

/-- The case of ASCII letters is lost in capital letters. -/
theorem upperCase_asciiLower (chars : List Char) :
    upperCase (asciiLower chars) = upperCase chars := by
  rw [upperCase, asciiLower, List.flatMap_map]
  simp only [upperChar_toLower]
  rfl

theorem upperCase_eq_of_asciiLower_eq {left right : List Char}
    (same : asciiLower left = asciiLower right) : upperCase left = upperCase right := by
  rw [← upperCase_asciiLower left, same, upperCase_asciiLower]

end PublicSite.Text

namespace PublicSite.Booking

open PublicSite.Text PublicSite.Json

variable {α : Type}

/-! ## Finding a rule by its code -/

namespace DiscountRule

/-- A rule has a code, when both are written in capital letters and the code is
trimmed. -/
def HasCode (rule : DiscountRule α) (code : String) : Prop :=
  upperCase rule.code.toList = upperCase (trim code.toList)

instance (rule : DiscountRule α) (code : String) : Decidable (rule.HasCode code) :=
  inferInstanceAs (Decidable (_ = _))

theorem sameCode_trimmed_iff (rule : DiscountRule α) (code : String) :
    sameCode rule.code (trimmed code) = true ↔ rule.HasCode code := by
  rw [sameCode, trimmed, String.toList_ofList, beq_iff_eq, HasCode]

end DiscountRule

theorem findRule?_of_isBlank {code : String} (blank : isBlank code.toList = true)
    (rules : List (DiscountRule α)) : findRule? rules code = none := by
  rw [findRule?, nonBlank?, if_pos blank]
  rfl

theorem findRule?_of_not_isBlank {code : String} (notBlank : isBlank code.toList = false)
    (rules : List (DiscountRule α)) :
    findRule? rules code = rules.find? fun rule => sameCode rule.code (trimmed code) := by
  rw [findRule?, nonBlank?, notBlank, if_neg Bool.false_ne_true]
  rfl

/-- Looking through one list and then through another is looking through both. -/
theorem findRule?_append (first second : List (DiscountRule α)) (code : String) :
    findRule? (first ++ second) code = (findRule? first code).or (findRule? second code) := by
  cases blank : isBlank code.toList with
  | true => simp only [findRule?_of_isBlank blank, Option.or_none]
  | false => simp only [findRule?_of_not_isBlank blank, List.find?_append]

theorem findRule?_eq_none {rules : List (DiscountRule α)} {code : String}
    (unknown : isBlank code.toList = true ∨ ∀ rule ∈ rules, ¬ rule.HasCode code) :
    findRule? rules code = none := by
  rcases unknown with blank | none
  · exact findRule?_of_isBlank blank rules
  · cases blank : isBlank code.toList with
    | true => exact findRule?_of_isBlank blank rules
    | false =>
        rw [findRule?_of_not_isBlank blank, List.find?_eq_none]
        intro rule member found
        exact none rule member ((rule.sameCode_trimmed_iff code).mp found)

/-- The first rule with the code is found. -/
theorem findRule?_eq_some {front back : List (DiscountRule α)} {rule : DiscountRule α}
    {code : String} (notBlank : isBlank code.toList = false) (hasCode : rule.HasCode code)
    (isFirst : ∀ earlier ∈ front, ¬ earlier.HasCode code) :
    findRule? (front ++ rule :: back) code = some rule := by
  rw [findRule?_append, findRule?_eq_none (Or.inr isFirst), Option.none_or,
    findRule?_of_not_isBlank notBlank]
  exact List.find?_cons_of_pos ((rule.sameCode_trimmed_iff code).mpr hasCode)

/-- Behind a rule with the code no rule is looked at. -/
theorem findRule?_append_cons {rule : DiscountRule α} {code : String}
    (hasCode : rule.HasCode code) (front back : List (DiscountRule α)) :
    findRule? (front ++ rule :: back) code = findRule? (front ++ [rule]) code := by
  have found : ∀ others, findRule? (rule :: others) code = findRule? [rule] code := by
    intro others
    cases blank : isBlank code.toList with
    | true => rw [findRule?_of_isBlank blank, findRule?_of_isBlank blank]
    | false =>
        have matched := (rule.sameCode_trimmed_iff code).mpr hasCode
        simp only [findRule?_of_not_isBlank blank, List.find?_cons, matched]
  rw [findRule?_append, findRule?_append, found]

theorem findRule?_eq_of_asciiLower_eq {code other : String}
    (same : asciiLower (trim other.toList) = asciiLower (trim code.toList))
    (rules : List (DiscountRule α)) : findRule? rules other = findRule? rules code := by
  have sameBlank : isBlank other.toList = isBlank code.toList := by
    rw [Bool.eq_iff_iff, ← trim_eq_nil_iff, ← trim_eq_nil_iff]
    have lengths := congrArg List.length same
    simp only [asciiLower, List.length_map] at lengths
    rw [← List.length_eq_zero_iff, lengths, List.length_eq_zero_iff]
  have sameMatch : ∀ rule : DiscountRule α,
      sameCode rule.code (trimmed other) = sameCode rule.code (trimmed code) := by
    intro rule
    rw [Bool.eq_iff_iff, rule.sameCode_trimmed_iff, rule.sameCode_trimmed_iff,
      DiscountRule.HasCode, DiscountRule.HasCode, upperCase_eq_of_asciiLower_eq same]
  cases blank : isBlank code.toList with
  | true => rw [findRule?_of_isBlank blank, findRule?_of_isBlank (sameBlank.trans blank)]
  | false =>
      rw [findRule?_of_not_isBlank blank, findRule?_of_not_isBlank (sameBlank.trans blank)]
      simp only [sameMatch]

/-! ## The rules of a request -/

/-- The entries that an answer of the service lists: the items of an array, or those of the
array that an object has as its data.  Any other answer lists none. -/
inductive Lists : Option Value → List Value → Prop where
  | absent : Lists none []
  | array (entries : List Value) : Lists (some (.array entries)) entries
  | data {payload : Value} {entries : List Value}
      (hasData : payload.member? "data" = some (.array entries)) : Lists (some payload) entries
  | other {payload : Value} (notArray : ∀ entries, payload ≠ .array entries)
      (noData : ∀ entries, payload.member? "data" ≠ some (.array entries)) :
      Lists (some payload) []

theorem lists_iff {serviceAnswer : Option Value} {entries : List Value} :
    Lists serviceAnswer entries ↔ entries = (serviceAnswer.map serviceEntries).getD [] := by
  constructor
  · intro lists
    cases lists with
    | absent | array => rfl
    | data hasData => exact (serviceEntries_of_data hasData).symm
    | other notArray noData => exact (serviceEntries_of_other notArray noData).symm
  · rintro rfl
    cases serviceAnswer with
    | none => exact .absent
    | some payload =>
        rw [Option.map_some, Option.getD_some]
        by_cases isArray : ∃ entries, payload = .array entries
        · obtain ⟨entries, rfl⟩ := isArray
          exact .array entries
        · by_cases hasData : ∃ entries, payload.member? "data" = some (.array entries)
          · obtain ⟨entries, hasData⟩ := hasData
            rw [serviceEntries_of_data hasData]
            exact .data hasData
          · rw [not_exists] at isArray hasData
            rw [serviceEntries_of_other isArray hasData]
            exact .other isArray hasData

/-- The rules that entries make, in their order; an entry that is not usable makes none. -/
inductive MakeAll : List Value → List (DiscountRule Float) → Prop where
  | nil : MakeAll [] []
  | rule {entry : Value} {entries : List Value} {rule : DiscountRule Float}
      {rules : List (DiscountRule Float)} (makes : Makes entry rule)
      (others : MakeAll entries rules) : MakeAll (entry :: entries) (rule :: rules)
  | skip {entry : Value} {entries : List Value} {rules : List (DiscountRule Float)}
      (unusable : ¬ IsUsable entry) (others : MakeAll entries rules) :
      MakeAll (entry :: entries) rules

theorem makeAll_iff {entries : List Value} {rules : List (DiscountRule Float)} :
    MakeAll entries rules ↔ rules = entries.filterMap serviceRule? := by
  constructor
  · intro make
    induction make with
    | nil => rfl
    | rule makes others ih =>
        rw [List.filterMap_cons_some (serviceRule?_eq_some_iff.mpr makes), ih]
    | skip unusable others ih =>
        rw [isUsable_iff_isSome, Option.not_isSome_iff_eq_none] at unusable
        rw [List.filterMap_cons_none unusable, ih]
  · rintro rfl
    induction entries with
    | nil => exact .nil
    | cons entry rest ih =>
        cases made : (serviceRule? entry : Option (DiscountRule Float)) with
        | none =>
            have unusable : ¬ IsUsable entry := by simp [isUsable_iff_isSome, made]
            rw [List.filterMap_cons_none made]
            exact .skip unusable ih
        | some rule =>
            rw [List.filterMap_cons_some made]
            exact .rule (serviceRule?_eq_some_iff.mp made) ih

/-- Only the usable entries matter. -/
theorem filterMap_filter_isUsable (entries : List Value) :
    (entries.filter IsUsable).filterMap (serviceRule? (α := Float)) =
      entries.filterMap serviceRule? := by
  rw [List.filterMap_filter]
  refine List.filterMap_congr fun entry _ => ?_
  simp only [isUsable_iff_isSome, Bool.decide_eq_true]
  cases (serviceRule? entry : Option (DiscountRule Float)) <;> rfl

namespace QuoteRequest

variable [Price α]

/-- All rules that a request is priced with, in the order in which they are looked
at. -/
def allRules (request : QuoteRequest α) (configured : List (DiscountRule α)) :
    List (DiscountRule α) :=
  request.rules ++ configured

theorem discount?_eq (request : QuoteRequest α) (configured : List (DiscountRule α)) :
    request.discount? configured =
      request.discountCode.bind (findRule? (request.allRules configured)) := by
  unfold discount? allRules
  cases request.discountCode with
  | none => rfl
  | some code => exact (findRule?_append _ _ code).symm

/-- The rules of the service are those that the entries of its answer make. -/
theorem rules_eq_of_makeAll {request : QuoteRequest Float} {entries : List Value}
    {made : List (DiscountRule Float)} (lists : Lists request.serviceAnswer entries)
    (make : MakeAll entries made) : request.rules = made := by
  rw [makeAll_iff.mp make, lists_iff.mp lists, rules]
  cases request.serviceAnswer <;> rfl

end QuoteRequest

/-! ## The quote -/

variable [Price α] {configured : List (DiscountRule α)} {request : QuoteRequest α}
  {default : Locale} {answer : Quote α}

/-- What is known of a request that was answered, and of its answer. -/
structure Quote.Answers (answer : Quote α) (request : QuoteRequest α)
    (configured : List (DiscountRule α)) : Prop where
  accepted : Price.isAmount request.basePrice = true
  discount_eq : answer.discount = request.discount? configured
  total_eq : answer.total = DiscountRule.applyOptional answer.discount request.basePrice
  discountAmount_eq : answer.discountAmount = Price.less request.basePrice answer.total

theorem quote_answers (answered : quote configured request default = .ok answer) :
    answer.Answers request configured := by
  unfold quote at answered
  split at answered
  · rename_i accepted
    obtain rfl := Except.ok.inj answered
    exact ⟨accepted, rfl, rfl, rfl⟩
  · exact nomatch answered

theorem exists_quote (accepted : Price.isAmount request.basePrice = true)
    (configured : List (DiscountRule α)) (default : Locale) :
    ∃ answer, quote configured request default = .ok answer := by
  rw [quote, if_pos accepted]
  exact ⟨_, rfl⟩

/-- A quote depends on the rules and on the code only through the rule that is
found. -/
theorem quote_congr {others : List (DiscountRule α)} {other : QuoteRequest α}
    (samePrice : other.basePrice = request.basePrice) (sameLocale : other.locale = request.locale)
    (sameRule : other.discount? others = request.discount? configured) :
    quote others other default = quote configured request default := by
  simp only [quote, samePrice, sameLocale, sameRule]

/-- A quote applies the first rule with the code that was asked for, and leaves the
price as it is when there is none. -/
structure Quote.AppliesFirst [Zero α] (answer : Quote α) (request : QuoteRequest α)
    (rules : List (DiscountRule α)) : Prop where
  unmatched :
    (∀ code ∈ request.discountCode,
      isBlank code.toList = true ∨ ∀ rule ∈ rules, ¬ rule.HasCode code) →
    answer.discount = none ∧ answer.total = request.basePrice ∧ answer.discountAmount = 0
  matched : ∀ code ∈ request.discountCode, isBlank code.toList = false →
    ∀ front rule back, rules = front ++ rule :: back → rule.HasCode code →
      (∀ earlier ∈ front, ¬ earlier.HasCode code) →
      answer.discount = some rule ∧ answer.total = rule.apply request.basePrice

theorem Quote.Answers.appliesFirst [Zero α] [Price.Cancels α]
    (answers : answer.Answers request configured) :
    answer.AppliesFirst request (request.allRules configured) where
  unmatched := by
    intro unknown
    have nothing : answer.discount = none := by
      rw [answers.discount_eq, request.discount?_eq]
      cases given : request.discountCode with
      | none => rfl
      | some code => exact findRule?_eq_none (unknown code given)
    have unchanged : answer.total = request.basePrice := by
      rw [answers.total_eq, nothing]
      rfl
    refine ⟨nothing, unchanged, ?_⟩
    rw [answers.discountAmount_eq, unchanged]
    exact Price.Cancels.less_self _ answers.accepted
  matched := by
    intro code given notBlank front rule back split_eq hasCode isFirst
    have found : answer.discount = some rule := by
      rw [answers.discount_eq, request.discount?_eq, given, Option.bind_some, split_eq,
        findRule?_eq_some notBlank hasCode isFirst]
    refine ⟨found, ?_⟩
    rw [answers.total_eq, found]
    rfl

/-! ## What changes no quote -/

theorem quote_eq_of_allRules_eq {code : String} (given : code ∈ request.discountCode)
    {rule : DiscountRule α} (hasCode : rule.HasCode code)
    {front back later others : List (DiscountRule α)} {serviceAnswer : Option Value}
    (rules : request.allRules configured = front ++ rule :: back)
    (otherRules : { request with serviceAnswer }.allRules others = front ++ rule :: later) :
    quote others { request with serviceAnswer } default =
      quote configured request default := by
  refine quote_congr rfl rfl ?_
  rw [QuoteRequest.discount?_eq, QuoteRequest.discount?_eq, rules, otherRules, given,
    Option.bind_some, Option.bind_some, findRule?_append_cons hasCode front later,
    findRule?_append_cons hasCode front back]

theorem quote_eq_of_asciiLower_eq {code other : String} (given : code ∈ request.discountCode)
    (same : asciiLower (trim other.toList) = asciiLower (trim code.toList)) :
    quote configured { request with discountCode := some other } default =
      quote configured request default := by
  refine quote_congr rfl rfl ?_
  rw [QuoteRequest.discount?_eq, QuoteRequest.discount?_eq, given, Option.bind_some,
    Option.bind_some, findRule?_eq_of_asciiLower_eq same]
  rfl

theorem quote_eq_of_filter_isUsable_eq {configured : List (DiscountRule Float)}
    {request : QuoteRequest Float} {serviceAnswer : Option Value} {entries others : List Value}
    (lists : Lists request.serviceAnswer entries) (otherLists : Lists serviceAnswer others)
    (same : others.filter IsUsable = entries.filter IsUsable) :
    quote configured { request with serviceAnswer } default =
      quote configured request default := by
  have rules := QuoteRequest.rules_eq_of_makeAll lists (makeAll_iff.mpr rfl)
  have otherRules := @QuoteRequest.rules_eq_of_makeAll { request with serviceAnswer } _ _
    otherLists (makeAll_iff.mpr rfl)
  refine quote_congr rfl rfl ?_
  rw [QuoteRequest.discount?_eq, QuoteRequest.discount?_eq, QuoteRequest.allRules,
    QuoteRequest.allRules, rules, otherRules, ← filterMap_filter_isUsable others, same,
    filterMap_filter_isUsable]

/-- A request with an accepted price is answered with the first rule of its code among those
that the entries of the service make, in their order, and the configured ones behind them.
The answer stays the same when entries that make no rule come or go, when other rules follow
the one with the code, and when the code is written in other cases or with other white space
around it. -/
theorem quote_selects (configured : List (DiscountRule Float)) (request : QuoteRequest Float)
    (default : Locale) (accepted : Price.isAmount request.basePrice = true) :
    ∃ entries made answer,
      (∀ others, Lists request.serviceAnswer others ↔ others = entries) ∧
      (∀ rules, MakeAll entries rules ↔ rules = made) ∧
      quote configured request default = .ok answer ∧
      answer.AppliesFirst request (made ++ configured) ∧
      (∀ serviceAnswer others, Lists serviceAnswer others →
        others.filter IsUsable = entries.filter IsUsable →
        quote configured { request with serviceAnswer } default = .ok answer) ∧
      (∀ code ∈ request.discountCode, ∀ front rule back, rule.HasCode code →
        made ++ configured = front ++ rule :: back →
        ∀ serviceAnswer others otherMade otherConfigured later,
          Lists serviceAnswer others → MakeAll others otherMade →
          otherMade ++ otherConfigured = front ++ rule :: later →
          quote otherConfigured { request with serviceAnswer } default = .ok answer) ∧
      (∀ code ∈ request.discountCode, ∀ other,
        asciiLower (trim other.toList) = asciiLower (trim code.toList) →
        quote configured { request with discountCode := some other } default =
          .ok answer) := by
  obtain ⟨answer, answered⟩ := exists_quote accepted configured default
  have lists := lists_iff.mpr (Eq.refl ((request.serviceAnswer.map serviceEntries).getD []))
  have make := makeAll_iff.mpr (Eq.refl (((request.serviceAnswer.map serviceEntries).getD
    []).filterMap serviceRule?))
  have rules := QuoteRequest.rules_eq_of_makeAll lists make
  refine ⟨_, _, answer, fun _ => lists_iff, fun _ => makeAll_iff, answered, ?_, ?_, ?_, ?_⟩
  · rw [← rules]
    exact (quote_answers answered).appliesFirst
  · intro serviceAnswer others otherLists same
    rw [quote_eq_of_filter_isUsable_eq lists otherLists same, answered]
  · intro code given front rule back hasCode split serviceAnswer others otherMade otherConfigured
      later otherLists otherMake otherSplit
    have otherRules := @QuoteRequest.rules_eq_of_makeAll { request with serviceAnswer } _ _
      otherLists otherMake
    rw [← rules] at split
    rw [← otherRules] at otherSplit
    rw [quote_eq_of_allRules_eq given hasCode split otherSplit, answered]
  · intro code given other same
    rw [quote_eq_of_asciiLower_eq given same, answered]

/-- A code in small letters, which a rule of the service has and a configured one: the rule of
the service is applied, and neither an entry that makes no rule, nor the configured rule, nor
the case of the code matters. -/
theorem quote_selects_first_of_two :
    let entry : Value := .object [("amount", .integer 1000), ("code", .text " Sprouts10"),
      ("is_percentage", .bool false), ("name", .text "Spring")]
    let first : DiscountRule Float :=
      { code := "Sprouts10", kind := .amount, value := Float.ofInt 1000, name := some "Spring" }
    let second : DiscountRule Float := { code := "SPROUTS10", kind := .percent, value := 10.0 }
    let request : QuoteRequest Float :=
      { basePrice := 9000.0, discountCode := some " sprouts10",
        serviceAnswer := some (.object [("data", .array [.text "sprouts10", entry])]) }
    Price.isAmount request.basePrice = true ∧ MakeAll [.text "sprouts10", entry] [first] ∧
      ∃ answer, quote [second] request .en = .ok answer ∧
        answer.discount = some first ∧ answer.total = first.apply request.basePrice ∧
        quote [second] { request with serviceAnswer := some (.array [entry, .null]) } .en =
          .ok answer ∧
        quote [] request .en = .ok answer ∧
        quote [second] { request with discountCode := some "SPROUTS10\n" } .en =
          .ok answer := by
  intro entry first second request
  have accepted : Price.isAmount request.basePrice = true := by decide
  have hasCode : first.HasCode " sprouts10" := by decide
  have makes : Makes entry first := serviceRule?_eq_some_iff.mp rfl
  have usable : IsUsable entry := isUsable_iff.mpr ⟨first, makes⟩
  have unusable : ∀ {other : Value}, (∀ members, other ≠ .object members) → ¬ IsUsable other :=
    fun noObject usable => usable.isObject.elim noObject
  have make : MakeAll [.text "sprouts10", entry] [first] :=
    .skip (unusable nofun) (.rule makes .nil)
  obtain ⟨entries, made, answer, exactly, makeExactly, answered, applies, same, later, spelling⟩ :=
    quote_selects [second] request .en accepted
  obtain rfl := (exactly _).mp (.data rfl)
  obtain rfl := (makeExactly _).mp make
  obtain ⟨discount, total⟩ :=
    applies.matched _ rfl (by decide) [] first [second] rfl hasCode (by simp)
  refine ⟨accepted, make, answer, answered, discount, total, ?_, ?_, spelling _ rfl _ (by decide)⟩
  · exact same _ _ (.array [entry, .null]) (by simp [usable, unusable])
  · exact later _ rfl [] first [second] hasCode rfl request.serviceAnswer _ [first] [] []
      (.data rfl) make rfl

end PublicSite.Booking
