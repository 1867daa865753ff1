import PublicSite.Http.Service
import PublicSite.Proofs.Failure
import PublicSite.Proofs.Path.Sanitize
import PublicSite.Proofs.Text.Utf8
import PublicSite.Proofs.Url.Percent

/-!
# What pages answer

A request for a page is decided before anything is rendered: it shows a page in a
locale, it has moved to one, or there is nothing.  The reply is read off this
decision, and the path of every page in every locale is decided to show that page
in that locale.
-/

namespace PublicSite.Http

open PublicSite.Text PublicSite.Url

/-! ## Calls -/

/-- A request for a page with its parameters decoded: for the root of the site, or
for a path under what stands in the place of a locale. -/
inductive PageCall where
  | root
  | home (code : String)
  | page (code path : String)
  deriving DecidableEq, Repr

namespace PageCall

/-- The locale that is asked for, if there is one; the root asks for the default. -/
def locale? (default : Locale) : PageCall → Option Locale
  | root => some default
  | home code => Locale.ofCode? code
  | page code _ => Locale.ofCode? code

/-- The path under the locale, reduced to a clean pathname. -/
def pathname : PageCall → String
  | root => "/"
  | home _ => "/"
  | page _ path => String.ofList (Path.sanitize path.toList)

/-- The reply. -/
def reply (seo : Seo) (locales : Locales) : PageCall → Reply
  | root => rootReply seo
  | home code => localeReply seo locales code "/"
  | page code path => localeReply seo locales code path

end PageCall

/-! ## Decisions -/

/-- What is decided on a call. -/
inductive Decision where
  | shows (locale : Locale) (route : Route)
  | moved (locale : Locale) (redirect : Redirect)
  | nothing (locale : Locale)
  deriving DecidableEq, Repr

namespace Decision

/-- The decision on a pathname in a locale. -/
def ofPathname (locale : Locale) (pathname : String) : Decision :=
  match Route.ofPath? pathname, Redirect.find? pathname with
  | some route, _ => shows locale route
  | none, some redirect => moved locale redirect
  | none, none => nothing locale

/-- The reply that a decision leads to. -/
def reply (seo : Seo) (locales : Locales) : Decision → Reply
  | shows locale route => documentReply 200 (seo.routeDocument (locales.catalog.page locale) route)
  | moved locale redirect => Reply.redirect (redirect.href locale)
  | nothing locale => notFoundReply seo (locales.catalog.page locale)

/-- The status of the reply. -/
def status : Decision → Nat
  | shows _ _ => 200
  | moved _ _ => 308
  | nothing _ => 404

@[simp]
theorem status_reply (seo : Seo) (locales : Locales) (decision : Decision) :
    (decision.reply seo locales).status = decision.status := by
  cases decision <;> rfl

theorem ofPathname_path (locale : Locale) (route : Route) :
    ofPathname locale route.path = shows locale route := by
  rw [ofPathname, Route.ofPath?_path]

theorem ofPathname_eq_shows {locale other : Locale} {pathname : String} {route : Route}
    (decided : ofPathname locale pathname = shows other route) :
    locale = other ∧ Route.ofPath? pathname = some route := by
  unfold ofPathname at decided
  split at decided
  · rename_i found _ isRoute
    obtain ⟨rfl, rfl⟩ := shows.inj decided
    exact ⟨rfl, isRoute⟩
  · exact nomatch decided
  · exact nomatch decided

theorem ofPathname_eq_moved {locale other : Locale} {pathname : String} {redirect : Redirect}
    (decided : ofPathname locale pathname = moved other redirect) : locale = other := by
  unfold ofPathname at decided
  split at decided
  · exact nomatch decided
  · exact (moved.inj decided).1
  · exact nomatch decided

theorem reply_ofPathname (seo : Seo) (locales : Locales) (locale : Locale) (path : String) :
    (ofPathname locale (String.ofList (Path.sanitize path.toList))).reply seo locales =
      pathReply seo (locales.catalog.page locale) path := by
  unfold ofPathname pathReply
  dsimp only
  generalize String.ofList (Path.sanitize path.toList) = pathname
  cases Route.ofPath? pathname with
  | some route => rfl
  | none =>
      cases Redirect.find? pathname with
      | some redirect => rfl
      | none => rfl

end Decision

namespace PageCall

/-- The decision on a call: the root has moved to the home page in the default
locale, and under a code that is not known there is nothing. -/
def decision (default : Locale) : PageCall → Decision
  | root => .moved default ⟨.home, none⟩
  | call =>
      match call.locale? default with
      | some locale => .ofPathname locale call.pathname
      | none => .nothing default

/-- The root has moved, a code that is known leads to the decision on the path, and
any other code to nothing. -/
theorem decision_cases (call : PageCall) (default : Locale) :
    (call = .root ∧ call.decision default = .moved default ⟨.home, none⟩) ∨
      (∃ locale, call.locale? default = some locale ∧
        call.decision default = .ofPathname locale call.pathname) ∨
      (call.locale? default = none ∧ call.decision default = .nothing default) := by
  cases call with
  | root => exact Or.inl ⟨rfl, rfl⟩
  | home code | page code path =>
      refine Or.inr ?_
      simp only [decision, locale?]
      cases Locale.ofCode? code with
      | some locale => exact Or.inl ⟨locale, rfl, rfl⟩
      | none => exact Or.inr ⟨rfl, rfl⟩

/-- What is shown is the page at the path, in the locale that was asked for. -/
theorem locale?_of_shows {call : PageCall} {default locale : Locale} {route : Route}
    (decided : call.decision default = .shows locale route) :
    call.locale? default = some locale ∧ Route.ofPath? call.pathname = some route := by
  rcases call.decision_cases default with ⟨_, isMoved⟩ | ⟨other, isLocale, isPathname⟩ |
    ⟨_, isNothing⟩
  · exact nomatch isMoved.symm.trans decided
  · obtain ⟨rfl, isRoute⟩ := Decision.ofPathname_eq_shows (isPathname.symm.trans decided)
    exact ⟨isLocale, isRoute⟩
  · exact nomatch isNothing.symm.trans decided

/-- What has moved has moved in the locale that was asked for. -/
theorem locale?_of_moved {call : PageCall} {default locale : Locale} {redirect : Redirect}
    (decided : call.decision default = .moved locale redirect) :
    call.locale? default = some locale := by
  rcases call.decision_cases default with ⟨rfl, isMoved⟩ | ⟨other, isLocale, isPathname⟩ |
    ⟨_, isNothing⟩
  · obtain ⟨rfl, _⟩ := Decision.moved.inj (isMoved.symm.trans decided)
    rfl
  · obtain rfl := Decision.ofPathname_eq_moved (isPathname.symm.trans decided)
    exact isLocale
  · exact nomatch isNothing.symm.trans decided

theorem reply_localeReply (seo : Seo) (locales : Locales) (code path : String) :
    localeReply seo locales code path =
      ((page code path).decision seo.defaultLocale).reply seo locales := by
  unfold localeReply Catalog.pageOf
  simp only [decision, locale?, pathname]
  cases Locale.ofCode? code with
  | some locale => exact (Decision.reply_ofPathname seo locales locale path).symm
  | none => rfl

theorem reply_eq (seo : Seo) (locales : Locales) (call : PageCall) :
    call.reply seo locales = (call.decision seo.defaultLocale).reply seo locales := by
  cases call with
  | root => rfl
  | home code => exact reply_localeReply seo locales code "/"
  | page code path => exact reply_localeReply seo locales code path

end PageCall

/-! ## From requests to calls -/

/-- A part of a path without a percent sign is what it says. -/
theorem decodePart?_of_not_mem {part : List Char} (unmarked : '%' ∉ part) :
    decodePart? part = some (String.ofList part) := by
  rw [decodePart?, percentDecode_of_not_mem unmarked, Utf8.decode?_encode]
  rfl

namespace Endpoint

/-- The call that an endpoint of pages is asked with, when its parts can be
decoded. -/
def call? : Endpoint → Option PageCall
  | root => some .root
  | localeHome code => (decodePart? code).map .home
  | localePage code path =>
      (decodePart? code).bind fun code => (decodePart? path).map (.page code)
  | _ => none

theorem call?_localePage_eq_some_iff {written path : List Char} {call : PageCall} :
    (localePage written path).call? = some call ↔
      ∃ code rest, decodePart? written = some code ∧ decodePart? path = some rest ∧
        call = .page code rest := by
  simp only [call?, Option.bind_eq_some_iff, Option.map_eq_some_iff]
  constructor
  · rintro ⟨code, isCode, rest, isRest, rfl⟩
    exact ⟨code, rest, isCode, isRest, rfl⟩
  · rintro ⟨code, rest, isCode, isRest, rfl⟩
    exact ⟨code, isCode, rest, isRest, rfl⟩

theorem accepts_of_call? {endpoint : Endpoint} {call : PageCall}
    (isCall : endpoint.call? = some call) : endpoint.accepts "GET" = true := by
  cases endpoint with
  | root | localeHome | localePage => rfl
  | _ => exact nomatch isCall

end Endpoint

/-- The call that a path is, as it is written. -/
def pageCall? (path : List Char) : Option PageCall :=
  (Endpoint.ofPath? path).bind Endpoint.call?

section

variable {site : Site} {seo : Seo} {locales : Locales}

theorem withPart_some {part : List Char} {text : String} (decoded : decodePart? part = some text)
    (answer : String → Reply) : withPart part answer = answer text := by
  rw [withPart, decoded]

theorem withPages_ok (features : pageFeatures site = .ok (seo, locales))
    (answer : Seo → Locales → Reply) : withPages site answer = answer seo locales := by
  rw [withPages, features]

theorem withSeo_ok (features : pageFeatures site = .ok (seo, locales)) (answer : Seo → Reply) :
    withSeo site answer = answer seo := by
  obtain ⟨found, isSeo, next⟩ := bind_eq_ok features
  obtain ⟨_, _, finished⟩ := bind_eq_ok next
  have same : found = seo := (Prod.mk.inj (Except.ok.inj finished)).1
  rw [withSeo, mapError_eq_ok isSeo, same]

theorem Endpoint.reply_of_call? (features : pageFeatures site = .ok (seo, locales))
    {endpoint : Endpoint} {call : PageCall} (isCall : endpoint.call? = some call)
    (occasion : Occasion) (request : Request) :
    endpoint.reply site occasion request = call.reply seo locales := by
  cases endpoint with
  | root =>
      obtain rfl := Option.some.inj isCall
      exact withSeo_ok features rootReply
  | localeHome code =>
      obtain ⟨text, decoded, rfl⟩ := Option.map_eq_some_iff.mp isCall
      rw [Endpoint.reply, withPart_some decoded, withPages_ok features]
      rfl
  | localePage code path =>
      obtain ⟨codeText, pathText, decodedCode, decodedPath, rfl⟩ :=
        Endpoint.call?_localePage_eq_some_iff.mp isCall
      rw [Endpoint.reply, withPart_some decodedCode, withPart_some decodedPath,
        withPages_ok features]
      rfl
  | _ => exact nomatch isCall

/-- A request for a page is answered as its call is. -/
theorem respond_of_pageCall? (features : pageFeatures site = .ok (seo, locales))
    (occasion : Occasion) {request : Request} {call : PageCall} (isGet : request.method = "GET")
    (isCall : pageCall? request.path = some call) :
    respond site occasion request = call.reply seo locales := by
  obtain ⟨endpoint, leads, endpointCall⟩ := Option.bind_eq_some_iff.mp isCall
  have full : fullReply site occasion request = call.reply seo locales := by
    rw [fullReply, leads]
    simp only [isGet, Endpoint.accepts_of_call? endpointCall, if_true]
    exact Endpoint.reply_of_call? features endpointCall occasion request
  rw [respond, full, isGet]
  rfl

end

/-! ## The paths that call pages -/

/-- What stands in the place of a locale, as it is written. -/
def writtenCode (path : List Char) : List Char :=
  before (· == '/') (path.drop 1)

/-- Only the root has a fixed path that calls a page. -/
theorem call?_of_mem_fixed : ∀ entry ∈ Endpoint.fixed,
    entry.2 = .root ∨ entry.2.call? = none := by
  simp [Endpoint.fixed, Endpoint.call?]

theorem call?_of_ofContent? {path : List Char} {endpoint : Endpoint}
    (leads : Endpoint.ofContent? path = some endpoint) : endpoint.call? = none := by
  unfold Endpoint.ofContent? at leads
  rcases ite_eq_iff.mp leads with ⟨_, inside⟩ | ⟨_, outside⟩
  · rcases ite_eq_iff.mp inside with ⟨_, refused⟩ | ⟨_, found⟩
    · exact nomatch refused
    · rw [← Option.some.inj found]
      rfl
  · exact nomatch outside

/-- A path that calls a page is the root or has the code of a locale in front. -/
theorem ofPage?_of_ofPath? {path : List Char} {endpoint : Endpoint} {call : PageCall}
    (leads : Endpoint.ofPath? path = some endpoint) (isCall : endpoint.call? = some call) :
    call = .root ∨ Endpoint.ofPage? path = some endpoint := by
  rcases Option.or_eq_some_iff.mp leads with fixed | ⟨_, later⟩
  · obtain ⟨entry, found, rfl⟩ := Option.map_eq_some_iff.mp fixed
    rcases call?_of_mem_fixed entry (List.mem_of_find?_eq_some found) with isRoot | noCall
    · rw [isRoot] at isCall
      exact Or.inl (Option.some.inj isCall).symm
    · exact nomatch noCall.symm.trans isCall
  · rcases Option.or_eq_some_iff.mp later with content | ⟨_, page⟩
    · exact nomatch (call?_of_ofContent? content).symm.trans isCall
    · exact Or.inr page

/-- What stands in the place of a locale in the path of an endpoint. -/
def Endpoint.code? : Endpoint → Option (List Char)
  | localeHome code => some code
  | localePage code _ => some code
  | _ => none

/-- The locale that is asked for is the one with the decoded code. -/
theorem locale?_of_code? {endpoint : Endpoint} {call : PageCall} {written : List Char}
    (isCode : endpoint.code? = some written) (isCall : endpoint.call? = some call) :
    ∃ code, decodePart? written = some code ∧
      ∀ default, call.locale? default = Locale.ofCode? code := by
  cases endpoint with
  | localeHome raw =>
      obtain rfl := Option.some.inj isCode
      obtain ⟨code, decoded, rfl⟩ := Option.map_eq_some_iff.mp isCall
      exact ⟨code, decoded, fun _ => rfl⟩
  | localePage raw path =>
      obtain rfl := Option.some.inj isCode
      obtain ⟨code, _, decoded, _, rfl⟩ := Endpoint.call?_localePage_eq_some_iff.mp isCall
      exact ⟨code, decoded, fun _ => rfl⟩
  | _ => exact nomatch isCode

theorem code?_of_ofPage? {path : List Char} {endpoint : Endpoint}
    (leads : Endpoint.ofPage? path = some endpoint) :
    endpoint.code? = some (writtenCode path) ∧ writtenCode path ≠ [] ∧
      ∃ rest, path = '/' :: (writtenCode path ++ rest) ∧
        (rest = [] ∨ ∃ others, rest = '/' :: others) := by
  unfold Endpoint.ofPage? at leads
  split at leads
  · rename_i behind
    have written : writtenCode ('/' :: behind) = before (· == '/') behind := rfl
    rw [written]
    rcases ite_eq_iff.mp leads with ⟨_, refused⟩ | ⟨notEmpty, found⟩
    · exact nomatch refused
    · refine ⟨?_, by simpa using notEmpty, startingAt (· == '/') behind, ?_,
        startingAt_eq_nil_or_cons '/' behind⟩
      · split at found <;> rw [← Option.some.inj found] <;> rfl
      · rw [before_append_startingAt]
  · exact nomatch leads

/-- The shape of a path that calls a page under a locale. -/
theorem shape_of_pageCall? {path : List Char} {call : PageCall}
    (isCall : pageCall? path = some call) (notRoot : call ≠ .root) :
    ∃ code rest, path = '/' :: (writtenCode path ++ rest) ∧ writtenCode path ≠ [] ∧
      (rest = [] ∨ ∃ others, rest = '/' :: others) ∧
      decodePart? (writtenCode path) = some code ∧
      ∀ default, call.locale? default = Locale.ofCode? code := by
  obtain ⟨endpoint, leads, isCall⟩ := Option.bind_eq_some_iff.mp isCall
  have page := (ofPage?_of_ofPath? leads isCall).resolve_left notRoot
  obtain ⟨isCode, notEmpty, rest, shape, behind⟩ := code?_of_ofPage? page
  obtain ⟨code, decoded, isLocale⟩ := locale?_of_code? isCode isCall
  exact ⟨code, rest, shape, notEmpty, behind, decoded, isLocale⟩

/-! ## The path of a page -/

/-- What the path of a page in a locale leads to. -/
theorem ofPath?_localized (route : Route) (locale : Locale) :
    Endpoint.ofPath? (route.localized locale).toList =
      some (if route = .home then .localeHome locale.code.toList
        else .localePage locale.code.toList (route.path.toList.drop 1)) := by
  cases route <;> cases locale <;> decide

/-- Codes of locales and paths of pages are written with these characters only, so
they need no encoding and have neither a query nor a fragment. -/
def isPathChar (char : Char) : Bool :=
  char.isAlphanum || char == '-' || char == '/'

theorem not_mem_of_all {chars : List Char} {mark : Char} (written : chars.all isPathChar = true)
    (isOther : isPathChar mark = false) : mark ∉ chars := fun member =>
  Bool.false_ne_true (isOther.symm.trans (List.all_eq_true.mp written mark member))

theorem not_mem_code {mark : Char} (isOther : isPathChar mark = false) (locale : Locale) :
    mark ∉ locale.code.toList :=
  not_mem_of_all (by cases locale <;> decide) isOther

theorem not_mem_path {mark : Char} (isOther : isPathChar mark = false) (route : Route) :
    mark ∉ route.path.toList :=
  not_mem_of_all (by cases route <;> decide) isOther

theorem not_mem_localized {mark : Char} (isOther : isPathChar mark = false) (route : Route)
    (locale : Locale) : mark ∉ (route.localized locale).toList :=
  not_mem_of_all (by cases route <;> cases locale <;> decide) isOther

theorem decodePart?_code (locale : Locale) :
    decodePart? locale.code.toList = some locale.code := by
  rw [decodePart?_of_not_mem (not_mem_code (by decide) locale), String.ofList_toList]

/-- The path of a page is found again without its first slash. -/
theorem sanitize_drop_path {route : Route} (notHome : route ≠ .home) :
    String.ofList (Path.sanitize (route.path.toList.drop 1)) = route.path := by
  cases route with
  | home => exact absurd rfl notHome
  | _ => decide

/-- The path of a page in a locale shows that page in that locale. -/
theorem decision_localized (route : Route) (locale default : Locale) :
    ∃ call, pageCall? (route.localized locale).toList = some call ∧
      call.decision default = .shows locale route := by
  by_cases isHome : route = .home
  · refine ⟨.home locale.code, ?_, ?_⟩
    · rw [pageCall?, ofPath?_localized, if_pos isHome, Option.bind_some, Endpoint.call?,
        decodePart?_code, Option.map_some]
    · rw [isHome]
      simp only [PageCall.decision, PageCall.locale?, Locale.ofCode?_code]
      exact Decision.ofPathname_path locale .home
  · have unmarked : '%' ∉ route.path.toList.drop 1 := fun member =>
      not_mem_path (by decide) route (List.mem_of_mem_drop member)
    refine ⟨.page locale.code (String.ofList (route.path.toList.drop 1)), ?_, ?_⟩
    · rw [pageCall?, ofPath?_localized, if_neg isHome, Option.bind_some]
      exact Endpoint.call?_localePage_eq_some_iff.mpr
        ⟨_, _, decodePart?_code locale, decodePart?_of_not_mem unmarked, rfl⟩
    · simp only [PageCall.decision, PageCall.locale?, PageCall.pathname, Locale.ofCode?_code,
        String.toList_ofList, sanitize_drop_path isHome]
      exact Decision.ofPathname_path locale route

end PublicSite.Http
