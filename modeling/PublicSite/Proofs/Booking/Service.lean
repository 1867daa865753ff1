import PublicSite.Booking.Site
import PublicSite.Proofs.Text.Trimming

/-!
# Where the service is

The addresses of the service are known together or not at all: when the trimmed base
begins with the secure scheme.  The slashes at the end of the base are taken off before a
path is put behind it, and the two slashes of the scheme can be among them.  So an address
names a host exactly when its base does, and a base of a scheme and slashes is used
although it names none.
-/

namespace PublicSite.Booking

open PublicSite.Text

/-! ## Addresses with a host -/

/-- The secure scheme, in whatever case, and behind it something that is no slash. -/
def NamesHost (address : List Char) : Prop :=
  ∃ scheme first rest, address = scheme ++ first :: rest ∧
    asciiLower scheme = "https://".toList ∧ first ≠ '/'

theorem opensWith_of_namesHost {address : List Char} (namesHost : NamesHost address) :
    opensWith "https://" address = true := by
  obtain ⟨scheme, first, rest, split, lower, -⟩ := namesHost
  exact opensWith_iff.mpr ⟨scheme, first :: rest, split, lower⟩

/-- Behind the scheme only the first character counts. -/
theorem namesHost_append_iff {scheme : List Char} (lower : asciiLower scheme = "https://".toList)
    (rest : List Char) : NamesHost (scheme ++ rest) ↔ ∃ first ∈ rest.head?, first ≠ '/' := by
  constructor
  · rintro ⟨other, first, behind, split, otherLower, notSlash⟩
    have lengths : scheme.length = other.length :=
      calc
        scheme.length = (asciiLower scheme).length := (List.length_map _).symm
        _ = (asciiLower other).length := by rw [lower, otherLower]
        _ = other.length := List.length_map _
    obtain ⟨-, rfl⟩ := List.append_inj split lengths
    exact ⟨first, rfl, notSlash⟩
  · rintro ⟨first, isFirst, notSlash⟩
    obtain ⟨behind, rfl⟩ := List.head?_eq_some_iff.mp isFirst
    exact ⟨scheme, first, behind, rfl, lower, notSlash⟩

/-- The scheme ends in a colon and two slashes, which have no case. -/
theorem exists_letters_of_lower {scheme : List Char}
    (lower : asciiLower scheme = "https://".toList) :
    ∃ letters, scheme = letters ++ "://".toList ∧ letters.length = 5 := by
  have parts : "https://".toList = "https".toList ++ "://".toList := rfl
  rw [asciiLower, parts] at lower
  obtain ⟨letters, signs, rfl, lowerLetters, lowerSigns⟩ := List.map_eq_append_iff.mp lower
  obtain rfl := eq_of_asciiLower_eq lowerSigns (by decide)
  refine ⟨letters, rfl, ?_⟩
  rw [← List.length_map Char.toLower, lowerLetters]
  rfl

/-- The slashes of a scheme are taken off with those behind it, and with one slash of the
path no host is named. -/
theorem not_namesHost_of_slashes {scheme rest path : List Char}
    (lower : asciiLower scheme = "https://".toList) (slashes : dropEndWhile (· == '/') rest = [])
    (noSlash : path.head? ≠ some '/') :
    ¬ NamesHost (dropEndWhile (· == '/') (scheme ++ rest) ++ '/' :: path) := by
  obtain ⟨letters, rfl, letterCount⟩ := exists_letters_of_lower lower
  have allSlashes : dropEndWhile (· == '/') ('/' :: '/' :: rest) = [] := by
    apply List.rdropWhile_eq_nil_iff.mpr
    simpa using List.rdropWhile_eq_nil_iff.mp slashes
  have taken : dropEndWhile (· == '/') (letters ++ "://".toList ++ rest) = letters ++ [':'] := by
    rw [List.append_assoc]
    change dropEndWhile (· == '/') (letters ++ ':' :: '/' :: '/' :: rest) = _
    rw [dropEndWhile_append_cons (by decide), allSlashes]
  -- A host stands behind two slashes, and behind the colon only that of the path is left.
  rintro ⟨other, first, behind, split, otherLower, -⟩
  obtain ⟨others, rfl, otherCount⟩ := exists_letters_of_lower otherLower
  rw [taken, List.append_assoc, List.append_assoc] at split
  have signs := (List.append_inj split (letterCount.trans otherCount.symm)).2
  have rooted : path = '/' :: first :: behind := congrArg (List.drop 2) signs
  apply noSlash
  rw [rooted]
  rfl

/-- Putting a path below a base neither gives it a host nor takes one from it. -/
theorem namesHost_below_iff {base path : List Char} (opens : opensWith "https://" base = true)
    (noSlash : path.head? ≠ some '/') :
    NamesHost (dropEndWhile (· == '/') base ++ '/' :: path) ↔ NamesHost base := by
  obtain ⟨scheme, rest, rfl, lower⟩ := opensWith_iff.mp opens
  by_cases slashes : dropEndWhile (· == '/') rest = []
  · apply iff_of_false (not_namesHost_of_slashes lower slashes noSlash)
    rw [namesHost_append_iff lower]
    rintro ⟨first, isFirst, notSlash⟩
    have isSlash := List.rdropWhile_eq_nil_iff.mp slashes first (List.mem_of_mem_head? isFirst)
    exact notSlash (by simpa using isSlash)
  · obtain ⟨dropped, split, -⟩ := dropEndWhile_append_suffix (· == '/') rest
    have sameFirst : (dropEndWhile (· == '/') rest ++ '/' :: path).head? = rest.head? := by
      rw [List.head?_append_of_ne_nil _ slashes]
      conv_rhs => rw [split, List.head?_append_of_ne_nil _ slashes]
    rw [dropEndWhile_append slashes, List.append_assoc, namesHost_append_iff lower,
      namesHost_append_iff lower, sameFirst]

/-! ## The addresses of the service -/

/-- What is known of the address of a part of the service: it is there exactly when the
base is secure, it ends in the path of the part, and it names a host when the base does. -/
structure IsBelow (base : List Char) (path : String) (address : Option String) : Prop where
  isSome_eq : address.isSome = opensWith "https://" base
  ends : ∀ text ∈ address, path.toList <:+ text.toList
  namesHost_iff : ∀ text ∈ address, NamesHost text.toList ↔ NamesHost base

theorem presentText?_of_ne {text : String} (present : text ≠ "") :
    Booking.presentText? text = some text :=
  if_neg (by simpa using present)

theorem isBelow_endpoint (base : String) {path : String} {rest : List Char}
    (rooted : path.toList = '/' :: rest) (noSlash : rest.head? ≠ some '/') :
    IsBelow (trim base.toList) path (Booking.presentText? (endpoint base path)) := by
  cases opens : opensWith "https://" (trim base.toList) with
  | false =>
      have unknown : Booking.presentText? (endpoint base path) = none := by
        rw [endpoint, opens]
        rfl
      rw [unknown]
      constructor
      case isSome_eq => exact opens.symm
      case ends => exact fun text member => nomatch member
      case namesHost_iff => exact fun text member => nomatch member
  | true =>
      have address : (endpoint base path).toList =
          dropEndWhile (· == '/') (trim base.toList) ++ '/' :: rest := by
        rw [endpoint, opens, if_pos rfl, String.toList_ofList, rooted]
      have present : endpoint base path ≠ "" := by
        intro empty
        rw [empty] at address
        exact absurd address.symm (by simp)
      rw [presentText?_of_ne present]
      constructor
      case isSome_eq => exact opens.symm
      case ends =>
        intro text member
        rw [← Option.mem_some.mp member, address, rooted]
        exact List.suffix_append _ _
      case namesHost_iff =>
        intro text member
        rw [← Option.mem_some.mp member, address]
        exact namesHost_below_iff opens noSlash

/-- The addresses are all that depends on the base, and they depend on the trimmed one. -/
theorem ofConfig_eq (config : Config) :
    Booking.ofConfig config =
      let base := config.booking.crmApiBaseUrl.getD ""
      { rules := configuredRules config.booking.discounts
        defaultLocale := config.site.defaultLocale
        discountsEndpoint := Booking.presentText? (endpoint base "/v1/discounts")
        reservationsEndpoint := Booking.presentText? (endpoint base "/v1/reservations") } := by
  simp only [Booking.ofConfig, discountsUrl, reservationsUrl]

theorem endpoint_of_trim_eq {base other : String} (same : trim base.toList = trim other.toList)
    (path : String) : endpoint base path = endpoint other path := by
  rw [endpoint, endpoint, same]

/-- The configuration with another base of the service. -/
def withBase (config : Config) (base : String) : Config :=
  { config with booking := { config.booking with crmApiBaseUrl := some base } }

/-- Both addresses of the service are known when the trimmed base begins with the secure
scheme, and otherwise neither is.  Each ends in its path and names a host exactly when the
base does, and white space around the base changes nothing. -/
theorem serviceAddresses_below_base (config : Config) :
    let base := trim (config.booking.crmApiBaseUrl.getD "").toList
    let booking := Booking.ofConfig config
    IsBelow base "/v1/discounts" booking.discountsEndpoint ∧
      IsBelow base "/v1/reservations" booking.reservationsEndpoint ∧
      ∀ front text back : String, isBlank front.toList = true → isBlank back.toList = true →
        Booking.ofConfig (withBase config (front ++ text ++ back)) =
          Booking.ofConfig (withBase config text) := by
  intro base booking
  have discounts : "/v1/discounts".toList = '/' :: "v1/discounts".toList := by decide
  have reservations : "/v1/reservations".toList = '/' :: "v1/reservations".toList := by decide
  simp only [base, booking, ofConfig_eq]
  constructor
  · exact isBelow_endpoint _ discounts (by decide)
  constructor
  · exact isBelow_endpoint _ reservations (by decide)
  intro front text back blankFront blankBack
  have same : trim (front ++ text ++ back).toList = trim text.toList := by
    rw [String.toList_append, String.toList_append, List.append_assoc,
      trim_blank_append_blank blankFront blankBack]
  simp only [withBase, Option.getD_some, endpoint_of_trim_eq same]

/-- A base in capitals with slashes at its end, and white space around it. -/
theorem serviceAddresses_below_base_capitals :
    let text := "HTTPS://é//"
    let booking := Booking.ofConfig (withBase {} ("\u2003" ++ text ++ "\n"))
    isBlank "\u2003".toList = true ∧ isBlank "\n".toList = true ∧
      booking.discountsEndpoint = some "HTTPS://é/v1/discounts" ∧
      NamesHost "HTTPS://é/v1/discounts".toList ∧ booking.reservationsEndpoint.isSome = true := by
  intro text booking
  obtain ⟨discounts, reservations, around⟩ := serviceAddresses_below_base (withBase {} text)
  have blankFront : isBlank "\u2003".toList = true := by decide
  have blankBack : isBlank "\n".toList = true := by decide
  have same : booking = Booking.ofConfig (withBase {} text) :=
    around "\u2003" text "\n" blankFront blankBack
  have known : (Booking.ofConfig (withBase {} text)).discountsEndpoint =
      some "HTTPS://é/v1/discounts" := by
    decide
  have baseNamesHost : NamesHost (trim text.toList) :=
    ⟨"HTTPS://".toList, 'é', "//".toList, by decide, by decide, by decide⟩
  rw [same]
  refine ⟨blankFront, blankBack, known, ?_, ?_⟩
  · exact (discounts.namesHost_iff _ known).mpr baseNamesHost
  · rw [reservations.isSome_eq]
    decide

/-- A base without a host is used, and the slashes of its scheme are lost. -/
theorem not_namesHost_discountsEndpoint :
    (Booking.ofConfig (withBase {} "https://")).discountsEndpoint =
        some "https:/v1/discounts" ∧
      ¬ NamesHost "https:/v1/discounts".toList := by
  constructor
  · decide
  · intro namesHost
    exact absurd (opensWith_of_namesHost namesHost) (by decide)

end PublicSite.Booking
