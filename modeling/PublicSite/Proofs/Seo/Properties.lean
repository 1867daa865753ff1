import PublicSite.Proofs.Json.Members
import PublicSite.Proofs.Link.Site
import PublicSite.Proofs.Seo.Compaction
import PublicSite.Proofs.Seo.Headings
import PublicSite.Proofs.Seo.Origin

/-!
# What structured data always tells

Only what was not configured is missing in the structured data of a site.  The names and
the addresses of pages are never dropped, because the catalog, the origin and the links were
accepted before; profiles, the address and the phone number are there exactly when there is
something to tell of them.
-/

namespace PublicSite.Seo

open PublicSite.Text PublicSite.Json PublicSite.Link

/-! ## Members of a schema -/

/-- What is left under a name is what is left of the member with that name. -/
theorem memberOf?_compactMembers {members : List (String × Value)}
    (distinct : (members.map Prod.fst).Nodup) (name : String) :
    memberOf? name (members.filterMap compactMember) = (memberOf? name members).bind compact := by
  induction members with
  | nil => rfl
  | cons first rest ih =>
      obtain ⟨other, value⟩ := first
      obtain ⟨isNew, distinctRest⟩ := List.nodup_cons.mp distinct
      have later := ih distinctRest
      by_cases same : other = name
      · subst same
        rw [memberOf?_cons_self, Option.bind_some]
        cases left : compact value with
        | none =>
            rw [List.filterMap_cons_none (by simp [compactMember, left]), later,
              memberOf?_eq_none_iff.mpr isNew, Option.bind_none]
        | some kept =>
            rw [List.filterMap_cons_some (by rw [compactMember, left]; rfl), memberOf?_cons_self]
      · rw [memberOf?_cons_of_ne same, ← later]
        cases left : compact value with
        | none => rw [List.filterMap_cons_none (by simp [compactMember, left])]
        | some kept =>
            rw [List.filterMap_cons_some (by rw [compactMember, left]; rfl),
              memberOf?_cons_of_ne same]

theorem member?_schema {members : List (String × Value)} {name : String} {value : Value}
    (distinct : (members.map Prod.fst).Nodup) (stands : memberOf? name members = some value) :
    (schema members).member? name = compact value := by
  have kept : memberOf? name (members.filterMap compactMember) = compact value := by
    rw [memberOf?_compactMembers distinct, stands, Option.bind_some]
  rw [← kept, schema, compact_object]
  split
  · rename_i nothing
    rw [nothing]
    rfl
  · rfl

/-- A member of a value is a text that is not blank. -/
def Tells (value : Value) (name : String) : Prop :=
  ∃ text, value.member? name = some (.text text) ∧ isBlank text.toList = false

theorem compact_text {text : String} (notBlank : isBlank text.toList = false) :
    compact (.text text) = some (.text text) :=
  compact_of_isDense (Value.isDense_text_iff.mpr notBlank)

/-- A schema tells what stands in its members. -/
theorem tells_schema {members : List (String × Value)} {names texts : List String}
    (distinct : (members.map Prod.fst).Nodup)
    (found : names.map (memberOf? · members) = texts.map fun text => some (.text text))
    (notBlank : ∀ text ∈ texts, isBlank text.toList = false) :
    ∀ name ∈ names, Tells (schema members) name := by
  intro name isName
  have stands : memberOf? name members ∈ texts.map fun text => some (.text text) :=
    found ▸ List.mem_map_of_mem isName
  obtain ⟨text, isText, isMember⟩ := List.mem_map.mp stands
  refine ⟨text, ?_, notBlank text isText⟩
  rw [member?_schema distinct isMember.symm, compact_text (notBlank text isText)]

/-- A list of texts that are not blank is left as it is, unless it is empty. -/
theorem compact_texts {texts : List String}
    (notBlank : ∀ text ∈ texts, isBlank text.toList = false) :
    compact (.array (texts.map .text)) =
      if texts = [] then none else some (.array (texts.map .text)) := by
  split
  · rename_i empty
    rw [empty]
    rfl
  · rename_i notEmpty
    refine compact_of_isDense (Value.isDense_array_iff.mpr ⟨?_, fun item isItem => ?_⟩)
    · simpa using notEmpty
    · obtain ⟨text, isText, rfl⟩ := List.mem_map.mp isItem
      exact Value.isDense_text_iff.mpr (notBlank text isText)

/-! ## What must not be dropped -/

/-- The members that every schema of a page has. -/
def requiredMembers : List String :=
  ["@context", "@type", "@id", "name", "url"]

/-- A schema of the vocabulary that has a kind, a name to refer to it, a name to show and an
address tells all of them. -/
theorem tells_required {members : List (String × Value)} {kind reference name url : String}
    (distinct : (members.map Prod.fst).Nodup)
    (found : requiredMembers.map (memberOf? · members) =
      ["https://schema.org", kind, reference, name, url].map fun text => some (.text text))
    (kindGiven : isBlank kind.toList = false) (referenceGiven : isBlank reference.toList = false)
    (nameGiven : isBlank name.toList = false) (urlGiven : isBlank url.toList = false) :
    ∀ name ∈ requiredMembers, Tells (schema members) name := by
  refine tells_schema distinct found ?_
  simp only [List.forall_mem_cons]
  exact ⟨by decide, kindGiven, referenceGiven, nameGiven, urlGiven, List.forall_mem_nil _⟩

/-- The members of an address. -/
def addressMembers : List String :=
  ["@type", "streetAddress", "addressLocality", "addressCountry"]

/-- The configured profiles that may be published, in the order in which they are listed. -/
def publishedProfiles (social : Config.Social) : List String :=
  [social.instagramUrl, social.linkedinUrl, social.whatsappUrl].filterMap publicUrlText?

theorem profiles_ofConfig (social : Config.Social) :
    (SiteLinks.ofConfig social).profiles = publishedProfiles social := by
  simp [SiteLinks.profiles, SiteLinks.ofConfig, publishedProfiles, List.filterMap_cons]

theorem not_blank_of_mem_publishedProfiles {social : Config.Social} {text : String}
    (isProfile : text ∈ publishedProfiles social) : isBlank text.toList = false := by
  obtain ⟨value, _, isPublic⟩ := List.mem_filterMap.mp isProfile
  obtain ⟨url, isUrl, rfl⟩ := Option.map_eq_some_iff.mp isPublic
  exact (nonBlank?_eq_some_iff.mp (nonBlank?_text (isRead_of_publicUrl? isUrl).1)).1

theorem not_blank_append {front back : String} (notBlank : isBlank back.toList = false) :
    isBlank (front ++ back).toList = false := by
  rw [isBlank, String.toList_append, List.all_append]
  exact Bool.and_eq_false_iff.mpr (Or.inr notBlank)

theorem not_blank_localized (route : Route) (locale : Locale) :
    isBlank (route.localized locale).toList = false := by
  cases route <;> cases locale <;> decide

namespace SchemaContext

/-- The schemas that describe a page, each with its page. -/
def described (context : SchemaContext) : List (Value × Route) :=
  [(context.organization, .home), (context.localBusiness, .home),
    (context.course, .trainingCourse)]

/-- The schemas of a context tell what has to be told, and what was configured. -/
structure IsComplete (context : SchemaContext) (social : Config.Social) : Prop where
  required : ∀ entry ∈ context.described, ∀ name ∈ requiredMembers, Tells entry.1 name
  url : ∀ entry ∈ context.described,
    entry.1.member? "url" = some (.text (context.origin ++ entry.2.localized context.locale))
  profiles : ∀ schema ∈ [context.organization, context.localBusiness],
    schema.member? "sameAs" =
      if publishedProfiles social = [] then none
      else some (.array ((publishedProfiles social).map .text))
  address_iff : (context.localBusiness.member? "address").isSome ↔
    ∃ street ∈ social.businessAddress, isBlank street.toList = false
  address : ∀ found ∈ context.localBusiness.member? "address",
    ∀ name ∈ addressMembers, Tells found name
  telephone_iff : (context.localBusiness.member? "telephone").isSome ↔
    ∃ number ∈ social.businessPhoneNumber, isBlank number.toList = false

section

variable (context : SchemaContext)

/-! ## Members that are told always -/

theorem distinct_organizationMembers : (context.organizationMembers.map Prod.fst).Nodup := by
  simp [organizationMembers]

theorem distinct_localBusinessMembers : (context.localBusinessMembers.map Prod.fst).Nodup := by
  simp [localBusinessMembers]

theorem distinct_courseMembers : (context.courseMembers.map Prod.fst).Nodup := by
  simp [courseMembers]

theorem organization_member? {name : String} {value : Value}
    (stands : memberOf? name context.organizationMembers = some value) :
    context.organization.member? name = compact value :=
  member?_schema context.distinct_organizationMembers stands

theorem localBusiness_member? {name : String} {value : Value}
    (stands : memberOf? name context.localBusinessMembers = some value) :
    context.localBusiness.member? name = compact value :=
  member?_schema context.distinct_localBusinessMembers stands

theorem course_member? {name : String} {value : Value}
    (stands : memberOf? name context.courseMembers = some value) :
    context.course.member? name = compact value :=
  member?_schema context.distinct_courseMembers stands

theorem not_blank_url (route : Route) : isBlank (context.url route).toList = false :=
  not_blank_append (not_blank_localized route context.locale)

variable (brand : isBlank context.content.navbar.brand.toList = false)
include brand

theorem tells_organization : ∀ name ∈ requiredMembers, Tells context.organization name :=
  tells_required context.distinct_organizationMembers rfl (by decide)
    (not_blank_append (by decide)) brand (context.not_blank_url .home)

theorem tells_localBusiness : ∀ name ∈ requiredMembers, Tells context.localBusiness name :=
  tells_required context.distinct_localBusinessMembers rfl (by decide)
    (not_blank_append (by decide)) brand (context.not_blank_url .home)

omit brand in
theorem tells_course
    (title : isBlank (Route.trainingCourse.copy context.content).title.toList = false) :
    ∀ name ∈ requiredMembers, Tells context.course name :=
  tells_required context.distinct_courseMembers rfl (by decide)
    (not_blank_append (by decide)) title (context.not_blank_url .trainingCourse)

end

/-! ## Members that are told when they were configured -/

theorem isDense_postalAddress {street : String} (notBlank : isBlank street.toList = false) :
    (postalAddress street).IsDense := by
  refine Value.isDense_object_iff.mpr ⟨List.cons_ne_nil _ _, ?_⟩
  simp only [List.forall_mem_cons, Value.isDense_text_iff]
  exact ⟨by decide, by decide, by decide, notBlank, List.forall_mem_nil _⟩

/-- An address that is told has all its parts. -/
theorem tells_postalAddress {street : String} (notBlank : isBlank street.toList = false) :
    ∀ name ∈ addressMembers, Tells (postalAddress street) name := by
  simp only [addressMembers, List.forall_mem_cons]
  exact ⟨⟨_, rfl, by decide⟩, ⟨_, rfl, notBlank⟩, ⟨_, rfl, by decide⟩, ⟨_, rfl, by decide⟩,
    List.forall_mem_nil _⟩

section

variable {context : SchemaContext} {social : Config.Social}
  (links : context.links = SiteLinks.ofConfig social)
include links

theorem compact_profiles :
    compact context.profiles =
      if publishedProfiles social = [] then none
      else some (.array ((publishedProfiles social).map .text)) := by
  rw [profiles, links, profiles_ofConfig]
  exact compact_texts fun text isProfile => not_blank_of_mem_publishedProfiles isProfile

/-- The address is told exactly when there is one. -/
theorem compact_address :
    compact context.address = (social.businessAddress.bind nonBlank?).map postalAddress := by
  have configured : context.links.businessAddress = social.businessAddress.bind nonBlank? := by
    rw [links, SiteLinks.ofConfig]
  rw [address, configured]
  cases isStreet : social.businessAddress.bind nonBlank? with
  | none => rfl
  | some street =>
      exact compact_of_isDense (isDense_postalAddress (not_blank_of_bind_nonBlank? isStreet))

theorem compact_telephone :
    compact (Value.textOrNull context.links.businessPhoneNumber) =
      (social.businessPhoneNumber.bind nonBlank?).map .text := by
  have configured : context.links.businessPhoneNumber =
      social.businessPhoneNumber.bind nonBlank? := by
    rw [links, SiteLinks.ofConfig]
  rw [configured]
  cases isNumber : social.businessPhoneNumber.bind nonBlank? with
  | none => rfl
  | some number =>
      exact compact_text (not_blank_of_bind_nonBlank? isNumber)

end

/-- Whatever was configured, the schemas of a page in an accepted catalog, at an accepted
origin, tell what has to be told: compaction only drops what was not configured. -/
theorem isComplete_of_accepted {texts : Locale → String} {catalog : Catalog}
    {address origin host : String} (loaded : Catalog.ofTexts texts = .ok catalog)
    (accepted : normalizeOrigin address = .ok (origin, host)) (locale : Locale)
    (social : Config.Social) :
    IsComplete ⟨origin, locale, catalog.content locale, SiteLinks.ofConfig social⟩ social := by
  have sound := Catalog.isSound_of_ofTexts loaded locale
  have brand : isBlank (catalog.content locale).navbar.brand.toList = false :=
    sound.texts ("navbar.brand", _) (by simp [Content.checkedTexts])
  have title := isBlank_title_copy sound .trainingCourse
  let context : SchemaContext :=
    ⟨origin, locale, catalog.content locale, SiteLinks.ofConfig social⟩
  have links : context.links = SiteLinks.ofConfig social := rfl
  have url (route : Route) : compact (.text (context.url route)) =
      some (.text (origin ++ route.localized locale)) := by
    -- The origin was accepted, so no slash is taken off it.
    rw [compact_text (context.not_blank_url route), SchemaContext.url,
      absolute_of_normalizeOrigin accepted]
  have address_eq : context.localBusiness.member? "address" =
      (social.businessAddress.bind nonBlank?).map postalAddress :=
    (context.localBusiness_member? rfl).trans (compact_address links)
  have telephone_eq : context.localBusiness.member? "telephone" =
      (social.businessPhoneNumber.bind nonBlank?).map .text :=
    (context.localBusiness_member? rfl).trans (compact_telephone links)
  constructor
  case required =>
    simp only [described, List.forall_mem_cons]
    exact ⟨context.tells_organization brand, context.tells_localBusiness brand,
      context.tells_course title, List.forall_mem_nil _⟩
  case url =>
    simp only [described, List.forall_mem_cons]
    exact ⟨(context.organization_member? rfl).trans (url .home),
      (context.localBusiness_member? rfl).trans (url .home),
      (context.course_member? rfl).trans (url .trainingCourse), List.forall_mem_nil _⟩
  case profiles =>
    simp only [List.forall_mem_cons]
    exact ⟨(context.organization_member? rfl).trans (compact_profiles links),
      (context.localBusiness_member? rfl).trans (compact_profiles links), List.forall_mem_nil _⟩
  case address_iff =>
    rw [address_eq, Option.isSome_map, isSome_bind_nonBlank?_iff]
  case address =>
    intro found isFound
    obtain ⟨street, isStreet, rfl⟩ := Option.map_eq_some_iff.mp (address_eq.symm.trans isFound)
    exact tells_postalAddress (not_blank_of_bind_nonBlank? isStreet)
  case telephone_iff =>
    rw [telephone_eq, Option.isSome_map, isSome_bind_nonBlank?_iff]

/-- The delivered texts at an origin that ends in a slash, with a profile that is not secure
and an address of spaces. -/
theorem isComplete_of_accepted_delivered :
    let social : Config.Social := {
      instagramUrl := some "https://www.instagram.com/evolvesprouts"
      linkedinUrl := some "http://linkedin.com/company/evolvesprouts"
      whatsappUrl := some " https://wa.me/85200000000 "
      businessAddress := some "  "
      businessPhoneNumber := some " +852 0000 0000 " }
    let context : SchemaContext :=
      ⟨"https://www.evolvesprouts.com", .zhHk, Catalog.delivered.content .zhHk,
        SiteLinks.ofConfig social⟩
    Catalog.ofTexts (fun locale => (Catalog.delivered.content locale).value.compactText) =
        .ok Catalog.delivered ∧
      normalizeOrigin "https://www.evolvesprouts.com/" =
        .ok ("https://www.evolvesprouts.com", "www.evolvesprouts.com") ∧
      context.IsComplete social ∧
      publishedProfiles social =
        ["https://www.instagram.com/evolvesprouts", "https://wa.me/85200000000"] := by
  intro social context
  have loaded := Catalog.ofTexts_compactText isSound_delivered
  have accepted : normalizeOrigin "https://www.evolvesprouts.com/" =
      .ok ("https://www.evolvesprouts.com", "www.evolvesprouts.com") := by
    decide +kernel
  exact ⟨loaded, accepted, isComplete_of_accepted loaded accepted .zhHk social, by decide +kernel⟩

end SchemaContext

end PublicSite.Seo
