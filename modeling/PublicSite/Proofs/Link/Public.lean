import PublicSite.Link.Public
import PublicSite.Proofs.Text.Trimming
import PublicSite.Proofs.Url.Printing

/-!
# What may be published

A configured URL that may be published is published as the text from which the same URL
is read again, and a mail address as a trimmed one.  So what was published once is
published again as it is, and a message in a link leaves its address alone.
-/

namespace PublicSite.Link

open PublicSite.Text

/-! ## URLs -/

/-- A URL is secure, or it names this machine without being so. -/
def IsSafe (url : Url) : Prop :=
  url.scheme = "https".toList ∨
    (url.scheme = "http".toList ∧ url.host = some (.domain "localhost".toList))

/-- A text is that of a URL that may be published. -/
def IsPublished (text : String) : Prop :=
  ∃ url, Url.parse text = .ok url ∧ IsSafe url

theorem isPublishable_iff {url : Url} :
    isPublishable url = true ↔ url.scheme = "https".toList ∨
      (url.scheme = "http".toList ∧
        ∃ host, url.host = some host ∧ asciiLower host.print = "localhost".toList) := by
  have scheme_eq : ∀ word : String, String.ofList url.scheme = word ↔ url.scheme = word.toList := by
    intro word
    constructor
    · rintro rfl
      rw [String.toList_ofList]
    · intro same
      rw [same, String.ofList_toList]
  simp only [isPublishable, Bool.or_eq_true, Bool.and_eq_true, beq_iff_eq, scheme_eq]
  cases url.host <;> simp

/-- A URL that may be published is of a special scheme. -/
theorem scheme_of_isPublishable {url : Url} (publishable : isPublishable url = true) :
    Url.isSpecial url.scheme = true ∧ url.scheme ≠ "file".toList := by
  rcases isPublishable_iff.mp publishable with secure | ⟨plain, _⟩
  · rw [secure]
    decide
  · rw [plain]
    decide

theorem isSafe_of_isPublishable {url : Url} (isRead : url.IsRead)
    (publishable : isPublishable url = true) : IsSafe url := by
  rcases isPublishable_iff.mp publishable with secure | ⟨plain, host, isHost, named⟩
  · exact Or.inl secure
  · obtain ⟨other, same, hostRead⟩ := isRead.host
    obtain rfl := Option.some.inj (isHost.symm.trans same)
    exact Or.inr ⟨plain, by rw [isHost, hostRead.eq_localhost named]⟩

theorem publicUrl?_eq_some_iff {value : Option String} {url : Url} :
    publicUrl? value = some url ↔ ∃ text kept, value = some text ∧ nonBlank? text = some kept ∧
      Url.parse kept = .ok url ∧ isPublishable url = true := by
  unfold publicUrl?
  constructor
  · intro isPublic
    obtain ⟨text, isText, next⟩ := Option.bind_eq_some_iff.mp isPublic
    obtain ⟨kept, isKept, next⟩ := Option.bind_eq_some_iff.mp next
    split at next
    · rename_i read
      split at next
      · rename_i publishable
        obtain rfl := Option.some.inj next
        exact ⟨text, kept, isText, isKept, read, publishable⟩
      · exact nomatch next
    · exact nomatch next
  · rintro ⟨text, kept, rfl, isKept, read, publishable⟩
    simp [isKept, read, publishable]

/-- What is published is in the form that reading leaves. -/
theorem isRead_of_publicUrl? {value : Option String} {url : Url}
    (isPublic : publicUrl? value = some url) : url.IsRead ∧ isPublishable url = true := by
  obtain ⟨_, _, _, _, read, publishable⟩ := publicUrl?_eq_some_iff.mp isPublic
  obtain ⟨special, notFile⟩ := scheme_of_isPublishable publishable
  exact ⟨Url.isRead_of_parseChars read special notFile, publishable⟩

section Text

variable {url : Url} (isRead : url.IsRead)
include isRead

theorem parse_text : Url.parse url.text = .ok url := by
  rw [Url.parse, Url.text, String.toList_ofList, isRead.parseChars_print]

theorem text_ne_empty : url.text ≠ "" := by
  intro empty
  refine isRead.print_ne_nil ?_
  rw [← String.toList_ofList (l := url.print), ← Url.text, empty]
  rfl

/-- The text of a URL is not blank, and nothing is trimmed of it. -/
theorem nonBlank?_text : nonBlank? url.text = some url.text := by
  have noBlank : ∀ char ∈ url.print, isBlankChar char = false := fun char member =>
    Url.not_blank_of_isVisible (isRead.isVisible char member)
  have kept : trim url.text.toList = url.print := by
    rw [Url.text, String.toList_ofList, trim_of_no_blank noBlank]
  refine nonBlank?_eq_some_iff.mpr ⟨?_, ?_⟩
  · rw [Bool.eq_false_iff, ne_eq, ← trim_eq_nil_iff, kept]
    exact isRead.print_ne_nil
  · rw [trimmed, kept, Url.text]

/-- A URL that may be published is published as it is. -/
theorem publicUrl?_text (publishable : isPublishable url = true) :
    publicUrl? (some url.text) = some url :=
  publicUrl?_eq_some_iff.mpr
    ⟨url.text, url.text, rfl, nonBlank?_text isRead, parse_text isRead, publishable⟩

end Text

/-- What was published once is the same URL when it is published again. -/
@[simp]
theorem publicUrl?_publicUrlText? (value : Option String) :
    publicUrl? (publicUrlText? value) = publicUrl? value := by
  cases isPublic : publicUrl? value with
  | none =>
      rw [publicUrlText?, isPublic]
      rfl
  | some url =>
      obtain ⟨isRead, publishable⟩ := isRead_of_publicUrl? isPublic
      rw [publicUrlText?, isPublic, Option.map_some, publicUrl?_text isRead publishable]

@[simp]
theorem publicUrlText?_publicUrlText? (value : Option String) :
    publicUrlText? (publicUrlText? value) = publicUrlText? value :=
  congrArg (Option.map Url.text) (publicUrl?_publicUrlText? value)

theorem isPublished_text {url : Url} (isRead : url.IsRead)
    (publishable : isPublishable url = true) : IsPublished url.text :=
  ⟨url, parse_text isRead, isSafe_of_isPublishable isRead publishable⟩

theorem isPublished_of_publicUrlText? {value : Option String} {text : String}
    (isPublic : publicUrlText? value = some text) : IsPublished text := by
  obtain ⟨url, isUrl, rfl⟩ := Option.map_eq_some_iff.mp isPublic
  obtain ⟨isRead, publishable⟩ := isRead_of_publicUrl? isUrl
  exact isPublished_text isRead publishable

/-! ## Mail addresses -/

/-- What was kept of a text is kept of it again. -/
theorem nonBlank?_of_nonBlank? {text kept : String} (isKept : nonBlank? text = some kept) :
    nonBlank? kept = some kept := by
  obtain ⟨notBlank, rfl⟩ := nonBlank?_eq_some_iff.mp isKept
  refine nonBlank?_eq_some_iff.mpr ⟨?_, trimmed_trimmed text⟩
  rw [toList_trimmed, isBlank_trim, notBlank]

theorem nonBlank?_of_bind_nonBlank? {value : Option String} {kept : String}
    (isKept : value.bind nonBlank? = some kept) : nonBlank? kept = some kept := by
  obtain ⟨_, _, isKept⟩ := Option.bind_eq_some_iff.mp isKept
  exact nonBlank?_of_nonBlank? isKept

theorem not_blank_of_bind_nonBlank? {value : Option String} {kept : String}
    (isKept : value.bind nonBlank? = some kept) : isBlank kept.toList = false :=
  (nonBlank?_eq_some_iff.mp (nonBlank?_of_bind_nonBlank? isKept)).1

@[simp]
theorem bind_nonBlank?_bind_nonBlank? (value : Option String) :
    (value.bind nonBlank?).bind nonBlank? = value.bind nonBlank? := by
  cases isKept : value.bind nonBlank? with
  | none => rfl
  | some kept => exact nonBlank?_of_bind_nonBlank? isKept

theorem email?_eq_some_iff {value : Option String} {address : String} :
    email? value = some address ↔
      value.bind nonBlank? = some address ∧ isEmail address.toList = true := by
  have opened : email? value = (value.bind nonBlank?).bind fun text =>
      if isEmail text.toList then some text else none := by
    cases value <;> rfl
  rw [opened, Option.bind_eq_some_iff]
  constructor
  · rintro ⟨text, isKept, accepted⟩
    split at accepted
    · rename_i isMail
      obtain rfl := Option.some.inj accepted
      exact ⟨isKept, isMail⟩
    · exact nomatch accepted
  · rintro ⟨isKept, isMail⟩
    exact ⟨address, isKept, if_pos isMail⟩

/-- A mail address that was kept is kept again. -/
@[simp]
theorem email?_email? (value : Option String) : email? (email? value) = email? value := by
  cases isEmail : email? value with
  | none => rfl
  | some address =>
      obtain ⟨isKept, isMail⟩ := email?_eq_some_iff.mp isEmail
      exact email?_eq_some_iff.mpr ⟨nonBlank?_of_bind_nonBlank? isKept, isMail⟩

/-- Whatever follows it, the word for a mail address is told apart. -/
theorem hrefKind_mailto (address : List Char) :
    hrefKind ("mailto:".toList ++ address) = .mailto := by
  have kept : trim ("mailto:".toList ++ address) = "mailto:".toList ++ trimRight address := by
    change trim ('m' :: 'a' :: 'i' :: 'l' :: 't' :: 'o' :: ':' :: address) = _
    rw [trim_cons (by decide)]
    repeat rw [trimRight_cons (by decide)]
    rfl
  have notHttp : isHttp ("mailto:".toList ++ trimRight address) = false := by
    rw [isHttp, ← kept, trim_trim, kept]
    rfl
  have isMail : opensWith "mailto:" ("mailto:".toList ++ trimRight address) = true :=
    opensWith_iff.mpr ⟨"mailto:".toList, trimRight address, rfl, by decide⟩
  have notEmpty : ("mailto:".toList ++ trimRight address).isEmpty = false := rfl
  rw [hrefKind, kept]
  simp only [notEmpty, notHttp, isMail, Bool.false_eq_true, if_false, if_true]

/-! ## Messages -/

/-- The URL with a message, unless that is blank. -/
def withMessage (url : Url) (message : Option String) : Url :=
  match message.bind nonBlank? with
  | none => url
  | some message =>
      url.withPairs ((url.pairs.filter fun pair => pair.1 != "text".toList)
        ++ [("text".toList, message.toList)])

/-- A message changes only the query of a URL. -/
theorem isPublic_withMessage {url : Url} (isRead : url.IsRead)
    (publishable : isPublishable url = true) (message : Option String) :
    (withMessage url message).IsRead ∧ isPublishable (withMessage url message) = true := by
  unfold withMessage
  split
  · exact ⟨isRead, publishable⟩
  · exact ⟨isRead.withPairs _, publishable⟩

/-- There is no link without a URL that may be published, and otherwise it is that URL with
the message. -/
theorem whatsappHref_eq (base message : Option String) :
    whatsappHref base message =
      ((publicUrl? base).map fun url => (withMessage url message).text).getD "" := by
  unfold whatsappHref publicUrlText?
  cases isPublic : publicUrl? base with
  | none => rfl
  | some url =>
      have read := parse_text (isRead_of_publicUrl? isPublic).1
      simp only [Option.map_some, read, Option.getD_some]
      unfold withMessage
      cases message.bind nonBlank? <;> rfl

end PublicSite.Link
