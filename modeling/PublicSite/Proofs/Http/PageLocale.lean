import PublicSite.Proofs.Http.Landing
import PublicSite.Proofs.Path.Resolution

/-!
# The locale of a page and the locale of its path

A page is shown in the locale whose code its path holds once it is decoded, while a
path is resolved, and looked at by the script on locales, as it is written.  The
two agree unless the code is disguised: written with percent signs, or with white
space at the end of the path, and of another locale than the default one.
-/

namespace PublicSite

theorem Locale.code_inj {locale other : Locale} : locale.code = other.code ↔ locale = other := by
  constructor
  · intro same
    rw [← Option.some.injEq, ← Locale.ofCode?_code locale, same, Locale.ofCode?_code]
  · rintro rfl
    rfl

namespace Http

open PublicSite.Text PublicSite.Seo

/-! ## The locale of a page -/

/-- The locale of what a decision leads to. -/
def Decision.locale : Decision → Locale
  | shows locale _ => locale
  | moved locale _ => locale
  | nothing locale => locale

theorem Decision.locale_ofPathname (locale : Locale) (pathname : String) :
    (ofPathname locale pathname).locale = locale := by
  unfold ofPathname
  split <;> rfl

/-- A call is decided on in the locale that it asks for, or else in the default
one. -/
theorem PageCall.locale_decision (call : PageCall) (default : Locale) :
    (call.decision default).locale = (call.locale? default).getD default := by
  rcases call.decision_cases default with ⟨rfl, isMoved⟩ | ⟨locale, isLocale, isPathname⟩ |
    ⟨isLocale, isNothing⟩
  · rw [isMoved]
    rfl
  · rw [isPathname, isLocale, Decision.locale_ofPathname]
    rfl
  · rw [isNothing, isLocale]
    rfl

theorem PageCall.languages_reply {seo : Seo} {locales : Locales} {call : PageCall}
    (isPage : (call.reply seo locales).status = 200 ∨ (call.reply seo locales).status = 404) :
    languages (call.reply seo locales).body =
      [((call.locale? seo.defaultLocale).getD seo.defaultLocale).code] := by
  rw [← PageCall.locale_decision]
  rw [PageCall.reply_eq, Decision.status_reply] at isPage
  rw [PageCall.reply_eq]
  cases decided : call.decision seo.defaultLocale with
  | shows locale route => exact Document.languages_render _
  | nothing locale => exact Document.languages_render _
  | moved locale redirect =>
      rw [decided] at isPage
      exact absurd isPage (by simp [Decision.status])

/-! ## Disguised codes -/

/-- A path names another locale than the default one, but only once it is decoded
or only without the white space at its end. -/
def IsDisguised (default : Locale) (path : List Char) : Prop :=
  ∃ locale, locale ≠ default ∧ writtenCode path ≠ locale.code.toList ∧
    (decodePart? (writtenCode path) = some locale.code ∨
      trimRight path = Path.localeRoot locale)

/-- A path that names a locale without white space at its end has no other code in
it to decode. -/
theorem writtenCode_of_trimRight {path rest : List Char} {locale : Locale}
    (shape : path = '/' :: (writtenCode path ++ rest))
    (trimmed : trimRight path = Path.localeRoot locale)
    (decoded : decodePart? (writtenCode path) = some locale.code) :
    writtenCode path = locale.code.toList := by
  -- A percent sign is not white space, so it would be left at the root of the locale.
  have unmarked : '%' ∉ writtenCode path := by
    intro marked
    have inPath : '%' ∈ path := by
      rw [shape]
      simp [marked]
    have inRoot := mem_trimRight_of_mem (by decide) inPath
    rw [trimmed] at inRoot
    rcases List.mem_cons.mp inRoot with isSlash | inCode
    · exact absurd isSlash (by decide)
    · exact not_mem_code (by decide) locale inCode
  rw [decodePart?_of_not_mem unmarked, Option.some.injEq] at decoded
  rw [← decoded, String.toList_ofList]

theorem getD_eq_iff_of_ne {α : Type} {choice : Option α} {default value : α}
    (other : value ≠ default) : choice.getD default = value ↔ choice = some value := by
  rw [Option.getD_eq_iff]
  simp [other.symm]

/-- With the same default two choices come to the same when they choose the same of
all other values. -/
theorem getD_eq_getD_iff {α : Type} {first second : Option α} {default : α} :
    first.getD default = second.getD default ↔
      ∀ value, value ≠ default → (first = some value ↔ second = some value) := by
  constructor
  · intro same value other
    rw [← getD_eq_iff_of_ne other, same, getD_eq_iff_of_ne other]
  · intro agree
    by_cases isDefault : first.getD default = default
    · by_contra differ
      have other : second.getD default ≠ default := fun same =>
        differ (isDefault.trans same.symm)
      have chosen := (agree _ other).mpr ((getD_eq_iff_of_ne other).mp rfl)
      exact differ ((getD_eq_iff_of_ne other).mpr chosen)
    · have chosen := (agree _ isDefault).mp ((getD_eq_iff_of_ne isDefault).mp rfl)
      exact ((getD_eq_iff_of_ne isDefault).mpr chosen).symm

/-- A page is in the locale that its path is resolved to unless its code is
disguised. -/
theorem locale?_getD_eq_resolve_iff {request : Request} {call : PageCall}
    (isCall : pageCall? request.path = some call) (notRoot : call ≠ .root) (default : Locale) :
    (call.locale? default).getD default = Path.resolve default request.path ↔
      ¬IsDisguised default request.path := by
  obtain ⟨code, rest, shape, notEmpty, behind, decoded, isLocale⟩ :=
    shape_of_pageCall? isCall notRoot
  have isSegment : Path.IsSegment (writtenCode request.path) :=
    ⟨notEmpty, fun char member => separates_eq_false_of_mem_before char member,
      fun char member => request.endsPathname_path char (by rw [shape]; simp [member])⟩
  have resolved : ∀ locale, Path.locale? request.path = some locale ↔
      writtenCode request.path = locale.code.toList ∨
        trimRight request.path = Path.localeRoot locale := by
    intro locale
    have found := isSegment.locale?_eq_some_iff behind locale
    rwa [← shape] at found
  have asked : ∀ locale, call.locale? default = some locale ↔
      decodePart? (writtenCode request.path) = some locale.code := by
    intro locale
    rw [isLocale, Locale.ofCode?_eq_some_iff, decoded, Option.some.injEq]
  -- The two agree when every other locale is asked for exactly if it is resolved to.
  rw [Path.resolve, getD_eq_getD_iff]
  simp only [IsDisguised, not_exists]
  refine forall_congr' fun locale => ?_
  have written : writtenCode request.path = locale.code.toList →
      decodePart? (writtenCode request.path) = some locale.code := by
    intro same
    rw [same, decodePart?_code]
  have trimmed : trimRight request.path = Path.localeRoot locale →
      decodePart? (writtenCode request.path) = some locale.code →
      writtenCode request.path = locale.code.toList := writtenCode_of_trimRight shape
  rw [resolved, asked]
  constructor
  · rintro agree ⟨other, unwritten, isDecoded | isTrimmed⟩
    · exact unwritten (((agree other).mp isDecoded).elim id fun isTrimmed =>
        trimmed isTrimmed isDecoded)
    · exact unwritten (trimmed isTrimmed ((agree other).mpr (Or.inr isTrimmed)))
  · intro plain other
    constructor
    · intro isDecoded
      by_contra neither
      exact plain ⟨other, fun isWritten => neither (Or.inl isWritten), Or.inl isDecoded⟩
    · rintro (isWritten | isTrimmed)
      · exact written isWritten
      · by_contra undecoded
        exact plain ⟨other, fun isWritten => undecoded (written isWritten), Or.inr isTrimmed⟩

/-! ## The script on locales -/

/-- The codes that the script finds in its table. -/
def tableCodes : List String :=
  match Content.directionTable with
  | .object members => members.map Prod.fst
  | _ => []

/-- The language that the script declares for a path: the first segment if the table
holds it, and else the default. -/
def scriptLanguage (default : Locale) (path : List Char) : String :=
  match Path.segments path with
  | [] => default.code
  | first :: _ =>
      if tableCodes.contains (String.ofList first) then String.ofList first else default.code

theorem contains_tableCodes (code : String) :
    tableCodes.contains code = (Locale.ofCode? code).isSome := by
  have codes : tableCodes = Locale.all.map Locale.code := by decide
  rw [codes, Bool.eq_iff_iff, List.contains_iff_mem, List.mem_map, Option.isSome_iff_exists]
  constructor
  · rintro ⟨locale, _, rfl⟩
    exact ⟨locale, Locale.ofCode?_code locale⟩
  · rintro ⟨locale, found⟩
    exact ⟨locale, locale.mem_all, (Locale.ofCode?_eq_some_iff.mp found).symm⟩

/-- The script declares the language that the path of a request is resolved to. -/
theorem scriptLanguage_eq {path : List Char} (default : Locale) (rooted : path.head? = some '/')
    (plain : ∀ char ∈ path, Path.endsPathname char = false)
    (trimmed : trimRight path = path) :
    scriptLanguage default path = (Path.resolve default path).code := by
  obtain ⟨rest, rfl⟩ := List.head?_eq_some_iff.mp rooted
  rw [trimRight_cons (by decide), List.cons_inj_right] at trimmed
  have found : Path.locale? ('/' :: rest) =
      (Path.segments ('/' :: rest)).head?.bind Path.segmentLocale? := by
    rw [Path.locale?, Path.sanitize_slash, trimmed, Path.segments_frame,
      before_of_no_separator plain]
  rw [Path.resolve, found, scriptLanguage]
  cases Path.segments ('/' :: rest) with
  | nil => rfl
  | cons first others =>
      simp only [List.head?_cons, Option.bind_some, Path.segmentLocale?, contains_tableCodes]
      cases isLocale : Locale.ofCode? (String.ofList first) with
      | none => rfl
      | some locale => exact Locale.ofCode?_eq_some_iff.mp isLocale

/-! ## Replies -/

section

variable {site : Site} {seo : Seo} {locales : Locales}

theorem respond_of_ofPath?_none (features : pageFeatures site = .ok (seo, locales))
    (occasion : Occasion) {request : Request} (isGet : request.method = "GET")
    (nowhere : Endpoint.ofPath? request.path = none) :
    respond site occasion request = fallbackReply seo locales request.path := by
  have full : fullReply site occasion request = fallbackReply seo locales request.path := by
    rw [fullReply, nowhere]
    exact withPages_ok features fun seo locales => fallbackReply seo locales request.path
  rw [respond, full, isGet]
  rfl

end

/-- A path that leads nowhere is answered in the locale that it is resolved to, and
so is a page unless its code is disguised.  The script declares that locale too. -/
theorem languages_eq_resolve_iff {fileExists : String → Bool} {config : Config} {site : Site}
    (built : Server.build fileExists config = .ok site) (occasion : Occasion)
    {request : Request} (isGet : request.method = "GET") :
    let default := config.site.defaultLocale
    let reply := respond site occasion request
    let resolved := Path.resolve default request.path
    (Endpoint.ofPath? request.path = none →
      reply.status = 404 ∧ languages reply.body = [resolved.code]) ∧
    (∀ call, pageCall? request.path = some call → reply.status = 200 ∨ reply.status = 404 →
      (languages reply.body = [resolved.code] ↔ ¬IsDisguised default request.path)) ∧
    (request.path.head? = some '/' → trimRight request.path = request.path →
      scriptLanguage default request.path = resolved.code) := by
  intro default reply resolved
  obtain ⟨seo, accepted, features⟩ := Server.pageFeatures_of_build built
  refine ⟨fun nowhere => ?_, fun call isCall isPage => ?_, fun rooted =>
    scriptLanguage_eq default rooted (request.endsPathname_path)⟩
  · have reply_eq : reply = fallbackReply seo (Locales.ofConfig config) request.path :=
      respond_of_ofPath?_none features occasion isGet nowhere
    rw [reply_eq]
    exact ⟨rfl, Document.languages_render _⟩
  · have reply_eq : reply = call.reply seo (Locales.ofConfig config) :=
      respond_of_pageCall? features occasion isGet isCall
    have notRoot : call ≠ .root := by
      rintro rfl
      rw [reply_eq] at isPage
      exact absurd isPage (by simp [PageCall.reply, rootReply, Reply.redirect])
    rw [reply_eq] at isPage ⊢
    rw [PageCall.languages_reply isPage, (Seo.ofConfig_ok accepted).2, List.singleton_inj,
      Locale.code_inj]
    exact locale?_getD_eq_resolve_iff isCall notRoot default

/-- A page that does not exist, under a code that is not disguised. -/
theorem languages_of_missing_page :
    let request : Request := ⟨"GET", "/zh-HK/nowhere", [], ""⟩
    ∃ site, Server.build (fun _ => true) {} = .ok site ∧ ∀ occasion,
      (respond site occasion request).status = 404 ∧
      languages (respond site occasion request).body =
        [(Path.resolve .en request.path).code] := by
  intro request
  obtain ⟨site, built⟩ := Server.build_empty
  obtain ⟨seo, accepted, features⟩ := Server.pageFeatures_of_build built
  refine ⟨site, built, fun occasion => ?_⟩
  have isCall : pageCall? request.path = some (.page "zh-HK" "nowhere") := by decide +kernel
  have missing : (respond site occasion request).status = 404 := by
    rw [respond_of_pageCall? features occasion rfl isCall, PageCall.reply_eq,
      Decision.status_reply]
    cases seo.defaultLocale <;> decide
  have undisguised : ¬IsDisguised .en request.path := by
    have written : writtenCode request.path = Locale.zhHk.code.toList := by decide
    have ends : trimRight request.path = "/zh-HK/nowhere".toList := by decide
    rintro ⟨locale, _, isOther, encoded | trailing⟩
    · rw [written, decodePart?_code, Option.some.injEq] at encoded
      exact isOther (written.trans (congrArg String.toList encoded))
    · rw [ends] at trailing
      cases locale <;> exact absurd trailing (by decide)
  exact ⟨missing, ((languages_eq_resolve_iff built occasion rfl).2.1 _ isCall
    (Or.inr missing)).mpr undisguised⟩

/-- The code of a locale with an encoded hyphen is the code once it is decoded, and
none as it is written. -/
theorem languages_ne_resolve :
    let request : Request := ⟨"GET", "/zh%2DHK", [], ""⟩
    ∃ site, Server.build (fun _ => true) {} = .ok site ∧ ∀ occasion,
      (respond site occasion request).status = 200 ∧
      languages (respond site occasion request).body ≠
        [(Path.resolve .en request.path).code] := by
  intro request
  obtain ⟨site, built⟩ := Server.build_empty
  obtain ⟨seo, accepted, features⟩ := Server.pageFeatures_of_build built
  refine ⟨site, built, fun occasion => ?_⟩
  have isCall : pageCall? request.path = some (.home "zh-HK") := by decide +kernel
  have shown : ((PageCall.home "zh-HK").reply seo (Locales.ofConfig {})).status = 200 := by
    rw [PageCall.reply_eq, Decision.status_reply]
    cases seo.defaultLocale <;> decide
  rw [respond_of_pageCall? features occasion rfl isCall,
    PageCall.languages_reply (Or.inl shown)]
  refine ⟨shown, ?_⟩
  cases seo.defaultLocale <;> decide +kernel

end Http

end PublicSite
