import PublicSite.Config.Printer
import PublicSite.Config.Reader
import PublicSite.Proofs.Config.Laying
import PublicSite.Proofs.Json.Record

/-!
# Settings that are left out

What is left out has its default.  So a tree is read as the same tree laid over the
default settings, and a reader cannot tell the two apart.  Each part of the reader
is filled in by the part of the default settings that stands under its name.
-/

namespace PublicSite.Config

open PublicSite.Json PublicSite.Json.Record

variable {α β : Type}

/-! ## Readers that cannot tell whether defaults were filled in -/

/-- Laying a value over the default changes nothing that is read. -/
def IsFilledBy (decode : Decoder α) (default : Value) : Prop :=
  ∀ value : Value, value.HasSortedTables →
    (decode (overlay value default).draft).toOption = (decode value.draft).toOption

/-- Laying members over the defaults changes nothing that is read. -/
def IsFilledByMembers (record : Record α) (defaults : List (String × Value)) : Prop :=
  ∀ members, (Value.object members).HasSortedTables → ∀ index,
    reading? record (overlayMembers members defaults) index = reading? record members index

theorem isFilledBy_of_not_isTable (decode : Decoder α) {default : Value}
    (noTable : ¬ IsTable default) : IsFilledBy decode default := by
  intro value sorted
  rw [overlay_of_there_not_isTable sorted noTable]

theorem IsFilledByMembers.isFilledBy {record : Record α} {defaults : List (String × Value)}
    (filled : IsFilledByMembers record defaults) : IsFilledBy record.decode (.object defaults) := by
  intro value sorted
  cases value with
  | object members =>
      have same := filled members sorted 0
      rw [← toOption_decodeObject, ← toOption_decodeObject] at same
      exact same
  | _ => rfl

theorem IsFilledByMembers.seq {left : Record (α → β)} {right : Record α}
    {defaults : List (String × Value)} (leftFilled : IsFilledByMembers left defaults)
    (rightFilled : IsFilledByMembers right defaults) :
    IsFilledByMembers (left <*> right) defaults := by
  intro members sorted index
  rw [reading?_seq, reading?_seq, leftFilled members sorted, rightFilled members sorted]

theorem IsFilledByMembers.map {record : Record α} {defaults : List (String × Value)}
    (filled : IsFilledByMembers record defaults) (f : α → β) :
    IsFilledByMembers (f <$> record) defaults := by
  have always : IsFilledByMembers (pure f : Record (α → β)) defaults := fun _ _ _ => rfl
  exact always.seq filled

/-- The defaults that fill a record in are read as an empty table is. -/
theorem IsFilledByMembers.reads {record : Record α} {defaults : List (String × Value)}
    (filled : IsFilledByMembers record defaults) {standard : α}
    (nothing : reading? record [] 0 = some standard) :
    (record.decode (Value.object defaults).draft).toOption = some standard := by
  change (record.decodeObject (Value.object defaults).draft).toOption = _
  rw [toOption_decodeObject, ← nothing]
  exact filled [] ⟨List.Pairwise.nil, trivial⟩ 0

/-- Laying a section over its default settings, in order, changes nothing that is read. -/
def IsFilled (record : Record α) (members : List (String × Value)) : Prop :=
  IsFilledByMembers record (orderMembers (Value.orderedMembers members))

/-- A field is filled in by what stands under its name, if this is read as its default. -/
theorem isFilled_withDefault {name : String} {decode : Decoder α} {default : α}
    {members : List (String × Value)} {standing : Value}
    (distinct : (members.map Prod.fst).Nodup) (found : memberOf? name members = some standing)
    (filled : IsFilledBy decode standing.ordered)
    (reads : (decode standing.ordered.draft).toOption = some default) :
    IsFilled (withDefault name decode default) members := by
  intro settings sorted index
  have standsThere : memberOf? name (orderMembers (Value.orderedMembers members)) =
      some standing.ordered := by
    rw [memberOf?_orderMembers (Value.map_fst_orderedMembers members ▸ distinct),
      Value.memberOf?_orderedMembers, found, Option.map_some]
  have inOrder : (Value.object (orderMembers (Value.orderedMembers members))).HasSortedTables :=
    Value.hasSortedTables_ordered (.object members)
  have laidInOrder := hasSortedTables_overlayMembers settings _ sorted.2 inOrder
  rw [reading?_withDefault laidInOrder.1.nodup, reading?_withDefault sorted.1.nodup,
    memberOf?_overlayMembers sorted.1.nodup, standsThere]
  cases given : memberOf? name settings with
  | none => exact reads
  | some value =>
      have isSorted := Value.haveSortedTables_iff.mp sorted.2 _ (mem_of_memberOf?_eq_some given)
      exact filled value isSorted

/-- A setting that is no section is filled in by its default as it is written. -/
theorem isFilled_setting {name : String} {decode : Decoder α} {default : α}
    {members : List (String × Value)} {standing : Value}
    (distinct : (members.map Prod.fst).Nodup) (found : memberOf? name members = some standing)
    (noTable : ¬ IsTable standing.ordered)
    (reads : (decode standing.ordered.draft).toOption = some default) :
    IsFilled (withDefault name decode default) members :=
  isFilled_withDefault distinct found (isFilledBy_of_not_isTable decode noTable) reads

/-! ## The sections -/

theorem isFilled_serverRecord : IsFilled serverRecord (membersOf ({} : Config.Server).toValue) := by
  refine IsFilledByMembers.seq (.seq (.map ?address Server.mk) ?port) ?ssl
  case address =>
    exact isFilled_setting (by decide) rfl (by rintro ⟨_, ⟨⟩⟩) (by decide +kernel)
  all_goals exact isFilled_setting (by decide) rfl (by rintro ⟨_, ⟨⟩⟩) rfl

theorem isFilled_siteRecord : IsFilled siteRecord (membersOf ({} : Config.Site).toValue) := by
  refine IsFilledByMembers.seq (.seq (.map ?origin Site.mk) ?host) ?locale
  all_goals exact isFilled_setting (by decide) rfl (by rintro ⟨_, ⟨⟩⟩) rfl

theorem isFilled_socialRecord : IsFilled socialRecord (membersOf ({} : Config.Social).toValue) := by
  refine IsFilledByMembers.seq (.seq (.seq (.seq (.seq (.map ?instagram Social.mk) ?linkedin)
    ?whatsapp) ?email) ?address) ?phone
  all_goals exact isFilled_setting (by decide) rfl (by rintro ⟨_, ⟨⟩⟩) rfl

/-- A discount rule is written in the order of its names. -/
theorem ordered_staticRule (rule : StaticRule Float) : rule.toValue.ordered = rule.toValue := by
  have codeFirst : ¬ "type" < "code" ∧ "type" ≠ "code" := by decide +kernel
  have valueLast : ¬ "value" < "code" ∧ "value" ≠ "code" ∧
      ¬ "value" < "type" ∧ "value" ≠ "type" := by decide +kernel
  simp [StaticRule.toValue, Value.ordered, Value.orderedMembers, orderMembers, insertMember,
    codeFirst, valueLast]

theorem orderedItems_staticRules (rules : List (StaticRule Float)) :
    Value.orderedItems (rules.map StaticRule.toValue) = rules.map StaticRule.toValue := by
  induction rules with
  | nil => rfl
  | cons rule rest ih => rw [List.map_cons, Value.orderedItems, ordered_staticRule, ih]

theorem reads_staticRule (rule : StaticRule Float) :
    staticRuleRecord.decode.Reads rule.toValue rule := by
  obtain ⟨code, kind, value⟩ := rule
  cases kind <;> rfl

theorem reads_discounts (rules : List (StaticRule Float)) :
    ((Decoder.list staticRuleRecord.decode)
      (Value.array (rules.map StaticRule.toValue)).ordered.draft).toOption = some rules := by
  have reads : (Decoder.list staticRuleRecord.decode)
      (Value.array (rules.map StaticRule.toValue)).draft = .ok rules :=
    Decoder.reads_list reads_staticRule rules
  rw [Value.ordered, orderedItems_staticRules, reads]
  rfl

theorem isFilled_bookingRecord :
    IsFilled bookingRecord (membersOf ({} : Config.Booking).toValue) := by
  refine IsFilledByMembers.seq (.map ?discounts Booking.mk) ?crm
  case discounts =>
    exact isFilled_setting (by decide) rfl (by rintro ⟨_, ⟨⟩⟩) (reads_discounts _)
  all_goals exact isFilled_setting (by decide) rfl (by rintro ⟨_, ⟨⟩⟩) rfl

theorem isFilled_identityRecord :
    IsFilled identityRecord (membersOf ({} : Config.Identity).toValue) := by
  refine IsFilledByMembers.seq (.seq (.seq (.map ?domain Identity.mk) ?clientId)
    ?redirectUri) ?scopes
  all_goals exact isFilled_setting (by decide) rfl (by rintro ⟨_, ⟨⟩⟩) rfl

theorem isFilled_loggingRecord :
    IsFilled loggingRecord (membersOf ({} : Config.Logging).toValue) := by
  refine IsFilledByMembers.seq (.seq (.map ?level Logging.mk) ?json) ?path
  all_goals exact isFilled_setting (by decide) rfl (by rintro ⟨_, ⟨⟩⟩) rfl

/-- A section is filled in by its default settings. -/
theorem isFilled_section {name : String} {part : Record α} {standard : α}
    {members : List (String × Value)} {sectionMembers : List (String × Value)}
    (distinct : (members.map Prod.fst).Nodup)
    (found : memberOf? name members = some (.object sectionMembers))
    (filled : IsFilled part sectionMembers)
    (nothing : reading? part [] 0 = some standard) :
    IsFilled (withDefault name part.decode standard) members :=
  isFilled_withDefault distinct found (IsFilledByMembers.isFilledBy filled)
    (IsFilledByMembers.reads filled nothing)

theorem isFilled_record : IsFilled record (membersOf ({} : Config).toValue) := by
  refine IsFilledByMembers.seq (.seq (.seq (.seq (.seq (.map ?server Config.mk) ?site)
    ?social) ?booking) ?identity) ?logging
  case server => exact isFilled_section (by decide) rfl isFilled_serverRecord rfl
  case site => exact isFilled_section (by decide) rfl isFilled_siteRecord rfl
  case social => exact isFilled_section (by decide) rfl isFilled_socialRecord rfl
  case booking => exact isFilled_section (by decide) rfl isFilled_bookingRecord rfl
  case identity => exact isFilled_section (by decide) rfl isFilled_identityRecord rfl
  case logging => exact isFilled_section (by decide) rfl isFilled_loggingRecord rfl

/-- Settings laid over the default ones are read as they are read alone. -/
theorem ofValue?_overlay_default {tree : Value} (sorted : tree.HasSortedTables) :
    ofValue? (overlay tree ({} : Config).toValue.ordered) = ofValue? tree := by
  cases tree with
  | object members =>
      have same := isFilled_record members sorted 0
      rw [← toOption_decodeObject, ← toOption_decodeObject] at same
      exact same
  | _ => rfl

end PublicSite.Config
