import Mathlib.Data.List.Nodup
import PublicSite.Proofs.Http.Landing
import PublicSite.Proofs.Path.Idempotence

/-!
# What search engines find

The sitemap, the pages and the links between the languages of a page name the same
addresses.  All three are built from the path of a page in a locale, and no two
pages in any locales share one, since a path is decided to show only one of them.
-/

namespace PublicSite

open PublicSite.Text

/-- No two pages share a path, in whatever locales they are. -/
theorem Route.localized_inj {route other : Route} {locale otherLocale : Locale}
    (same : route.localized locale = other.localized otherLocale) :
    locale = otherLocale ∧ route = other := by
  obtain ⟨call, isCall, decided⟩ := Http.decision_localized route locale .en
  obtain ⟨otherCall, isOther, otherDecided⟩ := Http.decision_localized other otherLocale .en
  rw [same, isOther] at isCall
  obtain rfl := Option.some.inj isCall
  exact Http.Decision.shows.inj (decided.symm.trans otherDecided)

theorem Route.isSettled_path (route : Route) : Path.IsSettled route.path.toList := by
  cases route <;> exact ⟨by decide, by decide⟩

namespace Seo

/-! ## Addresses -/

/-- The addresses that the sitemap lists. -/
def sitemapUrls (origin : String) (now : Moment) : List String :=
  (sitemap origin now).map SitemapEntry.url

theorem address_inj {origin : String} {route other : Route} {locale otherLocale : Locale}
    (same : origin ++ route.localized locale = origin ++ other.localized otherLocale) :
    locale = otherLocale ∧ route = other :=
  Route.localized_inj ((String.append_right_inj origin).mp same)

section

variable {config : Config} {seo : Seo} (accepted : ofConfig config = .ok seo)

include accepted

theorem sitemapUrls_eq (now : Moment) :
    sitemapUrls seo.origin now = Locale.all.flatMap fun locale =>
      Route.indexed.map fun route => seo.origin ++ route.localized locale := by
  simp only [sitemapUrls, sitemap, List.map_flatMap, List.map_map]
  refine List.flatMap_congr fun locale _ => List.map_congr_left fun route _ => ?_
  exact absolute_origin accepted (route.localized locale)

theorem nodup_sitemapUrls (now : Moment) : (sitemapUrls seo.origin now).Nodup := by
  -- The pages of one locale differ, and no two locales share an address.
  rw [sitemapUrls_eq accepted, List.nodup_flatMap]
  constructor
  · intro locale _
    have distinct : Route.indexed.Nodup := by decide
    exact distinct.map fun route other same => (address_inj same).2
  · have distinct : Locale.all.Nodup := by decide
    refine distinct.imp fun different url inFirst inSecond => ?_
    obtain ⟨route, _, rfl⟩ := List.mem_map.mp inFirst
    obtain ⟨other, _, same⟩ := List.mem_map.mp inSecond
    exact different (address_inj same).1.symm

/-- The sitemap lists a page exactly when it is indexed. -/
theorem mem_sitemapUrls_iff (route : Route) (locale : Locale) (now : Moment) :
    seo.origin ++ route.localized locale ∈ sitemapUrls seo.origin now ↔
      route.visibility = .indexed := by
  rw [sitemapUrls_eq accepted, ← Route.mem_indexed_iff]
  constructor
  · intro listed
    obtain ⟨otherLocale, _, inLocale⟩ := List.mem_flatMap.mp listed
    obtain ⟨other, isIndexed, same⟩ := List.mem_map.mp inLocale
    exact (address_inj same).2 ▸ isIndexed
  · intro isIndexed
    exact List.mem_flatMap.mpr ⟨locale, locale.mem_all, List.mem_map.mpr ⟨route, isIndexed, rfl⟩⟩

/-- A page links to itself in every locale, and once more in the default one. -/
theorem alternateLinks_routeDocument (page : Page) (route : Route) :
    alternateLinks (seo.routeDocument page route).render =
      (Locale.all ++ [seo.defaultLocale]).map fun locale =>
        seo.origin ++ route.localized locale := by
  have href_eq : ∀ locale, String.ofList (Path.localize (Path.normalize route.path.toList) locale) =
      route.localized locale := fun locale =>
    congrArg String.ofList ((Path.localize_normalize_eq_iff _ locale).mpr route.isSettled_path)
  have alternates_eq : (seo.routeDocument page route).metadata.alternates.map Alternate.href =
      (Locale.all ++ [seo.defaultLocale]).map route.localized := by
    simp [routeDocument, routeMetadata, Metadata.localized, pathAlternates, href_eq,
      Function.comp_def]
  calc
    alternateLinks (seo.routeDocument page route).render =
        ((seo.routeDocument page route).metadata.alternates.map Alternate.href).map
          (absolute seo.origin) := by
      rw [Document.alternateLinks_render, List.map_map]
      rfl
    _ = (Locale.all ++ [seo.defaultLocale]).map fun locale =>
          seo.origin ++ route.localized locale := by
      rw [alternates_eq, List.map_map]
      exact List.map_congr_left fun locale _ => absolute_origin accepted _

end

/-! ## Rules -/

/-- What lets search engines list a page and follow its links. -/
def indexRule : String := "index,follow"

/-- A rule that keeps search engines from listing a page. -/
def keepsOut (rule : String) : Bool :=
  (pieces (· == ',') rule.toList).contains "noindex".toList

theorem robotsRules_routeDocument (seo : Seo) (page : Page) (route : Route) :
    robotsRules (seo.routeDocument page route).render =
      [(Robots.ofVisibility route.visibility).text] :=
  Document.robotsRules_render _

theorem text_eq_indexRule_iff (visibility : Visibility) :
    (Robots.ofVisibility visibility).text = indexRule ↔ visibility = .indexed := by
  cases visibility <;> decide

theorem keepsOut_text_iff (visibility : Visibility) :
    keepsOut (Robots.ofVisibility visibility).text = true ↔ visibility ≠ .indexed := by
  cases visibility <;> decide

end Seo

/-! ## Both directions -/

namespace Http

open PublicSite.Seo

/-- A call that is answered with a page is decided to show it. -/
theorem PageCall.exists_shows {seo : Seo} {locales : Locales} {call : PageCall}
    (shown : (call.reply seo locales).status = 200) :
    ∃ locale route, call.reply seo locales =
      documentReply 200 (seo.routeDocument (locales.catalog.page locale) route) := by
  rw [PageCall.reply_eq] at shown ⊢
  cases decided : call.decision seo.defaultLocale with
  | shows locale route => exact ⟨locale, route, rfl⟩
  | moved locale redirect =>
      rw [decided, Decision.status_reply] at shown
      exact absurd shown (by simp [Decision.status])
  | nothing locale =>
      rw [decided, Decision.status_reply] at shown
      exact absurd shown (by simp [Decision.status])

/-- The sitemap lists every address once.  Each is that of a page that may be listed
and that names it as the canonical one.  Each page that may be listed has its
canonical address and those in every language in the sitemap, and no page that is
kept out has. -/
theorem sitemap_lists_pages {config : Config} {seo : Seo}
    (accepted : Seo.ofConfig config = .ok seo) (locales : Locales) (now : Moment) :
    (sitemapUrls seo.origin now).Nodup ∧
      (∀ url ∈ sitemapUrls seo.origin now, ∃ path call, url = seo.origin ++ path ∧
        pageCall? path.toList = some call ∧
        (call.reply seo locales).status = 200 ∧
        robotsRules (call.reply seo locales).body = [indexRule] ∧
        canonicalLinks (call.reply seo locales).body = [url]) ∧
      ∀ call : PageCall, (call.reply seo locales).status = 200 →
        ∃ url, canonicalLinks (call.reply seo locales).body = [url] ∧
          (robotsRules (call.reply seo locales).body = [indexRule] →
            url ∈ sitemapUrls seo.origin now ∧
            ∀ link ∈ alternateLinks (call.reply seo locales).body,
              link ∈ sitemapUrls seo.origin now) ∧
          ((∃ rule ∈ robotsRules (call.reply seo locales).body, keepsOut rule = true) →
            url ∉ sitemapUrls seo.origin now) := by
  refine ⟨nodup_sitemapUrls accepted now, fun url listed => ?_, fun call shown => ?_⟩
  · rw [sitemapUrls_eq accepted] at listed
    obtain ⟨locale, _, inLocale⟩ := List.mem_flatMap.mp listed
    obtain ⟨route, isIndexed, rfl⟩ := List.mem_map.mp inLocale
    obtain ⟨call, isCall, decided⟩ := decision_localized route locale seo.defaultLocale
    refine ⟨route.localized locale, call, rfl, isCall, ?_⟩
    rw [PageCall.reply_eq, decided]
    refine ⟨rfl, ?_, canonicalLinks_routeDocument accepted _ route⟩
    have isListed := (text_eq_indexRule_iff _).mpr ((Route.mem_indexed_iff route).mp isIndexed)
    exact (robotsRules_routeDocument seo _ route).trans (congrArg ([·]) isListed)
  · obtain ⟨locale, route, reply_eq⟩ := PageCall.exists_shows shown
    have rules : robotsRules (call.reply seo locales).body =
        [(Robots.ofVisibility route.visibility).text] := by
      rw [reply_eq]
      exact robotsRules_routeDocument seo _ route
    refine ⟨seo.origin ++ route.localized locale, ?_, fun mayBeListed => ?_, ?_⟩
    · rw [reply_eq]
      exact canonicalLinks_routeDocument accepted _ route
    · rw [rules, List.singleton_inj, text_eq_indexRule_iff] at mayBeListed
      refine ⟨(mem_sitemapUrls_iff accepted route locale now).mpr mayBeListed, ?_⟩
      intro link isLink
      rw [reply_eq] at isLink
      have links := alternateLinks_routeDocument accepted (locales.catalog.page locale) route
      obtain ⟨other, _, rfl⟩ := List.mem_map.mp (links ▸ isLink)
      exact (mem_sitemapUrls_iff accepted route other now).mpr mayBeListed
    · rintro ⟨rule, isRule, keeps⟩ listed
      rw [rules, List.mem_singleton] at isRule
      rw [isRule, keepsOut_text_iff] at keeps
      exact keeps ((mem_sitemapUrls_iff accepted route locale now).mp listed)

/-- An address of a site that configures nothing. -/
theorem sitemap_lists_events :
    ∃ seo, Seo.ofConfig {} = .ok seo ∧ ∀ locales now,
      "https://www.evolvesprouts.com/zh-CN/events" ∈ sitemapUrls seo.origin now ∧
      ∃ path call, "https://www.evolvesprouts.com/zh-CN/events" = seo.origin ++ path ∧
        pageCall? path.toList = some call ∧
        (call.reply seo locales).status = 200 ∧
        robotsRules (call.reply seo locales).body = [indexRule] ∧
        canonicalLinks (call.reply seo locales).body =
          ["https://www.evolvesprouts.com/zh-CN/events"] := by
  obtain ⟨seo, accepted, origin_eq⟩ := Seo.ofConfig_empty
  refine ⟨seo, accepted, fun locales now => ?_⟩
  have address_eq : seo.origin ++ Route.events.localized .zhCn =
      "https://www.evolvesprouts.com/zh-CN/events" := by
    rw [origin_eq]
    decide
  have listed := (mem_sitemapUrls_iff accepted .events .zhCn now).mpr rfl
  rw [address_eq] at listed
  exact ⟨listed, (sitemap_lists_pages accepted locales now).2.1 _ listed⟩

end Http

end PublicSite
