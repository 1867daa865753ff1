import PublicSite.Proofs.Http.Message
import PublicSite.Proofs.Http.Pages
import PublicSite.Proofs.Seo.Origin
import PublicSite.Proofs.Seo.Page
import PublicSite.Proofs.Server

/-!
# Where pages lead

A page is either shown, with its path in its locale as the canonical one, or has
moved.  What has moved is shown at the place that is named, in the locale that was
asked for, so no redirect leads to another one.
-/

namespace PublicSite.Http

open PublicSite.Text PublicSite.Seo

/-! ## Documents of pages -/

section

variable {config : Config} {seo : Seo}

/-- The canonical path of a page is its path in its locale. -/
theorem canonicalLinks_routeDocument (accepted : Seo.ofConfig config = .ok seo) (page : Page)
    (route : Route) :
    canonicalLinks (seo.routeDocument page route).render =
      [seo.origin ++ route.localized page.locale] := by
  rw [Document.canonicalLinks_render]
  exact congrArg ([·]) (Seo.absolute_origin accepted _)

end

/-! ## Locations -/

/-- A location without its fragment. -/
def withoutFragment (location : String) : String :=
  String.ofList (before (· == '#') location.toList)

theorem rooted_localized (route : Route) (locale : Locale) :
    (route.localized locale).toList.head? = some '/' := by
  cases route <;> cases locale <;> decide

/-- Whatever its section, a redirect leads to its page. -/
theorem withoutFragment_href (redirect : Redirect) (locale : Locale) :
    withoutFragment (redirect.href locale) = redirect.route.localized locale := by
  have noSign : '#' ∉ (redirect.route.localized locale).toList :=
    not_mem_localized (by decide) redirect.route locale
  unfold Redirect.href withoutFragment
  split
  · rw [before_of_no_separator (beq_eq_false_of_not_mem noSign), String.ofList_toList]
  · rename_i anchor _
    have split_eq : (redirect.route.localized locale ++ "#" ++ anchor).toList =
        (redirect.route.localized locale).toList ++ '#' :: anchor.toList := by
      simp
    rw [split_eq, before_append_of_no_separator (beq_eq_false_of_not_mem noSign)]
    simp [before]

theorem path_of_localized {request : Request} {route : Route} {locale : Locale}
    (target : request.target = route.localized locale) :
    request.path = (route.localized locale).toList := by
  rw [← target]
  refine Request.path_eq_target ?_ ?_ ?_ <;> rw [target]
  · exact rooted_localized route locale
  · exact not_mem_localized (by decide) route locale
  · exact not_mem_localized (by decide) route locale

/-! ## Landing -/

/-- The page at the path of a page in a locale. -/
theorem respond_localized {site : Site} {seo : Seo} {locales : Locales}
    (features : pageFeatures site = .ok (seo, locales)) (occasion : Occasion) {request : Request}
    {route : Route} {locale : Locale} (isGet : request.method = "GET")
    (target : request.target = route.localized locale) :
    respond site occasion request =
      documentReply 200 (seo.routeDocument (locales.catalog.page locale) route) := by
  obtain ⟨call, isCall, decided⟩ := decision_localized route locale seo.defaultLocale
  rw [respond_of_pageCall? features occasion isGet (path_of_localized target ▸ isCall),
    PageCall.reply_eq, decided]
  rfl

/-- What a call has moved to is shown there, in the locale that was asked for. -/
theorem respond_moved {site : Site} {config : Config} {seo : Seo} {locales : Locales}
    (accepted : Seo.ofConfig config = .ok seo)
    (features : pageFeatures site = .ok (seo, locales)) (occasion : Occasion) {request : Request}
    (redirect : Redirect) (locale : Locale) (isGet : request.method = "GET")
    (target : request.target = withoutFragment (redirect.href locale)) :
    (respond site occasion request).status = 200 ∧
      languages (respond site occasion request).body = [locale.code] ∧
      canonicalLinks (respond site occasion request).body =
        [seo.origin ++ withoutFragment (redirect.href locale)] := by
  rw [withoutFragment_href] at target ⊢
  rw [respond_localized features occasion isGet target]
  exact ⟨rfl, Document.languages_render _, canonicalLinks_routeDocument accepted _ _⟩

/-- A page is shown, has moved or does not exist.  What has moved is shown, in one
step, at the place that is named, in the locale that was asked for, and that place
is its canonical one.  What is shown has the path of the page in its locale as the
canonical one, however it was asked for. -/
theorem pageCall_lands {fileExists : String → Bool} {config : Config} {site : Site}
    (built : Server.build fileExists config = .ok site) (call : PageCall) :
    ∃ seo locales, Seo.ofConfig config = .ok seo ∧
      pageFeatures site = .ok (seo, locales) ∧
      let reply := call.reply seo locales
      (∀ occasion request, request.method = "GET" → pageCall? request.path = some call →
        respond site occasion request = reply) ∧
      (reply.status = 200 ∨ reply.status = 308 ∨ reply.status = 404) ∧
      (reply.status = 308 → ∃ location locale, reply.location = some location ∧
        call.locale? config.site.defaultLocale = some locale ∧
        ∀ occasion request, request.method = "GET" →
          request.target = withoutFragment location →
          (respond site occasion request).status = 200 ∧
          languages (respond site occasion request).body = [locale.code] ∧
          canonicalLinks (respond site occasion request).body =
            [seo.origin ++ withoutFragment location]) ∧
      (reply.status = 200 → ∃ locale route,
        call.locale? config.site.defaultLocale = some locale ∧
        Route.ofPath? call.pathname = some route ∧
        canonicalLinks reply.body = [seo.origin ++ route.localized locale]) := by
  obtain ⟨seo, accepted, features⟩ := Server.pageFeatures_of_build built
  refine ⟨seo, Locales.ofConfig config, accepted, features,
    fun occasion _ => respond_of_pageCall? features occasion, ?_⟩
  generalize isReply : call.reply seo (Locales.ofConfig config) = reply
  have reply_eq : reply =
      (call.decision config.site.defaultLocale).reply seo (Locales.ofConfig config) := by
    rw [← (Seo.ofConfig_ok accepted).2, ← isReply, PageCall.reply_eq]
  cases decided : call.decision config.site.defaultLocale with
  | shows locale route =>
      rw [decided] at reply_eq
      have status_eq : reply.status = 200 := by rw [reply_eq, Decision.status_reply]; rfl
      obtain ⟨isLocale, isRoute⟩ := PageCall.locale?_of_shows decided
      refine ⟨Or.inl status_eq, fun moved => ?_, fun _ => ?_⟩
      · exact absurd (status_eq.symm.trans moved) (by decide)
      · refine ⟨locale, route, isLocale, isRoute, ?_⟩
        rw [reply_eq]
        exact canonicalLinks_routeDocument accepted _ route
  | moved locale redirect =>
      rw [decided] at reply_eq
      have status_eq : reply.status = 308 := by rw [reply_eq, Decision.status_reply]; rfl
      have isLocale := PageCall.locale?_of_moved decided
      refine ⟨Or.inr (Or.inl status_eq), fun _ => ?_, fun shown => ?_⟩
      · refine ⟨redirect.href locale, locale, by rw [reply_eq]; rfl, isLocale, ?_⟩
        intro occasion request isGet target
        exact respond_moved accepted features occasion redirect locale isGet target
      · exact absurd (status_eq.symm.trans shown) (by decide)
  | nothing locale =>
      rw [decided] at reply_eq
      have status_eq : reply.status = 404 := by rw [reply_eq, Decision.status_reply]; rfl
      refine ⟨Or.inr (Or.inr status_eq), fun moved => ?_, fun shown => ?_⟩
      · exact absurd (status_eq.symm.trans moved) (by decide)
      · exact absurd (status_eq.symm.trans shown) (by decide)

/-- The former page of resources, asked for with a slash at its end, is a section of
the home page. -/
theorem pageCall_lands_resources :
    ∃ site seo locales, Server.build (fun _ => true) {} = .ok site ∧
      pageFeatures site = .ok (seo, locales) ∧
      ((PageCall.page "zh-HK" "resources/").reply seo locales).location =
        some "/zh-HK#resources" ∧
      ∀ occasion request, request.method = "GET" → request.target = "/zh-HK" →
        (respond site occasion request).status = 200 ∧
        languages (respond site occasion request).body = ["zh-HK"] ∧
        canonicalLinks (respond site occasion request).body =
          ["https://www.evolvesprouts.com/zh-HK"] := by
  obtain ⟨site, built⟩ := Server.build_empty
  obtain ⟨seo, locales, accepted, features, _, _, lands, _⟩ :=
    pageCall_lands built (.page "zh-HK" "resources/")
  have decided : (PageCall.page "zh-HK" "resources/").decision seo.defaultLocale =
      .moved .zhHk Redirect.resources := by
    cases seo.defaultLocale <;> decide
  have href_eq : Redirect.resources.href .zhHk = "/zh-HK#resources" := by decide
  have reply_eq : (PageCall.page "zh-HK" "resources/").reply seo locales =
      Reply.redirect "/zh-HK#resources" := by
    rw [PageCall.reply_eq, decided, ← href_eq]
    rfl
  obtain ⟨found, isFound, origin_eq⟩ := Seo.ofConfig_empty
  obtain rfl := Except.ok.inj (accepted.symm.trans isFound)
  rw [reply_eq] at lands
  obtain ⟨location, locale, isLocation, isLocale, shows⟩ := lands rfl
  obtain rfl := Option.some.inj isLocation
  obtain rfl : .zhHk = locale := Option.some.inj isLocale
  refine ⟨site, seo, locales, built, features, by rw [reply_eq]; rfl, ?_⟩
  intro occasion request isGet target
  have landing := shows occasion request isGet (target.trans (by decide))
  rw [origin_eq] at landing
  exact landing

end PublicSite.Http
