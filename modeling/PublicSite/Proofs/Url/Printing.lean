import PublicSite.Proofs.Url.Reading

/-!
# URLs and their texts

A URL in the form that reading leaves is written in visible ASCII, and it is read from
its text as it is: each part is delimited by a character that the part before it does
not hold.
-/

namespace PublicSite.Url

open PublicSite.Text

/-! ## Characters of encoded parts -/

theorem isAscii_of_not_isControl {char : Char} (shows : isControl char = false) :
    Domain.isAscii char = true := by
  have upTo : ¬ char.toNat > 0x7E := of_decide_eq_false (Bool.or_eq_false_iff.mp shows).2
  exact decide_eq_true (by omega)

theorem isControl_of_inFragmentSet {char : Char} (spared : inFragmentSet char = false) :
    isControl char = false :=
  (Bool.or_eq_false_iff.mp spared).1

theorem inFragmentSet_of_inPathSet {char : Char} (spared : inPathSet char = false) :
    inFragmentSet char = false :=
  (Bool.or_eq_false_iff.mp spared).1

theorem inPathSet_of_inUserSet {char : Char} (spared : inUserSet char = false) :
    inPathSet char = false :=
  (Bool.or_eq_false_iff.mp spared).1

theorem isControl_of_inSpecialQuerySet {char : Char} (spared : inSpecialQuerySet char = false) :
    isControl char = false :=
  (Bool.or_eq_false_iff.mp (Bool.or_eq_false_iff.mp spared).1).1

theorem isAscii_of_isVisible {char : Char} (shows : isVisible char = true) :
    Domain.isAscii char = true := by
  have below : char.toNat < 0x7F := of_decide_eq_true (Bool.and_eq_true_iff.mp shows).2
  exact decide_eq_true (by omega)

/-- A character that shows is not white space. -/
theorem not_blank_of_isVisible {char : Char} (shows : isVisible char = true) :
    isBlankChar char = false := by
  have each : ∀ char, Domain.isAscii char = true → isVisible char = true →
      isBlankChar char = false :=
    Domain.forall_ascii (by decide)
  exact each char (isAscii_of_isVisible shows) shows

/-- What is not encoded in a fragment shows. -/
theorem isVisible_of_inFragmentSet {char : Char} (spared : inFragmentSet char = false) :
    isVisible char = true := by
  have each : ∀ char, Domain.isAscii char = true → inFragmentSet char = false →
      isVisible char = true :=
    Domain.forall_ascii (by decide)
  exact each char (isAscii_of_not_isControl (isControl_of_inFragmentSet spared)) spared

theorem endsPath_of_inPathSet {char : Char} (spared : inPathSet char = false) :
    endsPath char = false := by
  rw [Bool.eq_false_iff]
  intro ends
  rcases Bool.or_eq_true_iff.mp ends with question | number
  · obtain rfl := beq_iff_eq.mp question
    exact absurd spared (by decide)
  · obtain rfl := beq_iff_eq.mp number
    exact absurd spared (by decide)

/-- What is not encoded in a user name delimits no part of an authority. -/
theorem plain_of_inUserSet {char : Char} (spared : inUserSet char = false) :
    endsAuthority true char = false ∧ char ≠ ':' ∧ char ≠ '@' := by
  have each : ∀ char, Domain.isAscii char = true → inUserSet char = false →
      endsAuthority true char = false ∧ char ≠ ':' ∧ char ≠ '@' :=
    Domain.forall_ascii (by decide)
  have shows :=
    isControl_of_inFragmentSet (inFragmentSet_of_inPathSet (inPathSet_of_inUserSet spared))
  exact each char (isAscii_of_not_isControl shows) spared

/-- What is not encoded in a query shows and begins no fragment. -/
theorem plain_of_inSpecialQuerySet {char : Char} (spared : inSpecialQuerySet char = false) :
    isVisible char = true ∧ char ≠ '#' := by
  have each : ∀ char, Domain.isAscii char = true → inSpecialQuerySet char = false →
      isVisible char = true ∧ char ≠ '#' :=
    Domain.forall_ascii (by decide)
  exact each char (isAscii_of_not_isControl (isControl_of_inSpecialQuerySet spared)) spared

/-- A character of a host shows and delimits neither it nor a user. -/
theorem plain_of_isHostChar {char : Char} (isHost : isHostChar char = true) :
    isVisible char = true ∧ endsAuthority true char = false ∧ char ≠ '@' := by
  have each : ∀ char, Domain.isAscii char = true → isHostChar char = true →
      isVisible char = true ∧ endsAuthority true char = false ∧ char ≠ '@' :=
    Domain.forall_ascii (by decide)
  exact each char (isAscii_of_isVisible (Bool.and_eq_true_iff.mp isHost).1) isHost

theorem isNameChar_of_isDigit {char : Char} (isDigit : char.isDigit = true) :
    isNameChar char = true := by
  have each : ∀ char, Domain.isAscii char = true → char.isDigit = true →
      isNameChar char = true :=
    Domain.forall_ascii (by decide)
  have ascii : Domain.isAscii char = true :=
    Domain.isAscii_of_isAlphanum (by rw [Char.isAlphanum, isDigit, Bool.or_true])
  exact each char ascii isDigit

/-- Nothing is dropped of a text of characters that show. -/
theorem significant_of_visible {chars : List Char}
    (visible : ∀ char ∈ chars, isVisible char = true) : significant chars = chars := by
  have high : ∀ char ∈ chars, isControlOrSpace char = false := by
    intro char member
    have above : 0x20 < char.toNat :=
      of_decide_eq_true (Bool.and_eq_true_iff.mp (visible char member)).1
    exact decide_eq_false (by omega)
  have noLineEnd : ∀ char ∈ chars, isTabOrLineEnd char = false := by
    intro char member
    rw [Bool.eq_false_iff]
    intro isEnd
    have shows := visible char member
    simp only [isTabOrLineEnd, Bool.or_eq_true, beq_iff_eq] at isEnd
    rcases isEnd with (rfl | rfl) | rfl
    all_goals exact absurd shows (by decide)
  have front : chars.dropWhile isControlOrSpace = chars :=
    List.dropWhile_eq_self_iff.mpr fun long => by simp [high]
  have back : dropEndWhile isControlOrSpace chars = chars :=
    List.rdropWhile_eq_self_iff.mpr fun notEmpty => by simp [high]
  rw [significant, front, back, filter_noLineEnd noLineEnd]

/-! ## Authorities -/

theorem splitUser_append {back : List Char} (noSign : '@' ∉ back) (user : List Char) :
    splitUser (user ++ '@' :: back) = (some user, back) := by
  have turned : (user ++ '@' :: back).reverse = back.reverse ++ '@' :: user.reverse := by simp
  have passes : ∀ char ∈ back.reverse, (char != '@') = true := by
    intro char member
    rw [bne_iff_ne]
    rintro rfl
    exact noSign (List.mem_reverse.mp member)
  rw [splitUser, turned, List.dropWhile_append_of_pos passes, List.takeWhile_append_of_pos passes]
  simp

theorem splitUser_of_not_mem {chars : List Char} (noSign : '@' ∉ chars) :
    splitUser chars = (none, chars) := by
  have nothing : chars.reverse.dropWhile (· != '@') = [] := by
    rw [List.dropWhile_eq_nil_iff]
    intro char member
    rw [bne_iff_ne]
    rintro rfl
    exact noSign (List.mem_reverse.mp member)
  rw [splitUser, nothing]

/-- A host and port are not cut within brackets, nor where no colon or bracket stands. -/
theorem splitPort_append {inBrackets : Bool} {front : List Char}
    (passes : ∀ char ∈ front, char ≠ '[' ∧ char ≠ ']' ∧ (char = ':' → inBrackets = true))
    (back : List Char) :
    splitPort inBrackets (front ++ back) =
      (front ++ (splitPort inBrackets back).1, (splitPort inBrackets back).2) := by
  induction front with
  | nil => rfl
  | cons char rest ih =>
      obtain ⟨notOpening, notClosing, inside⟩ := passes char List.mem_cons_self
      have later := ih fun other member => passes other (List.mem_cons_of_mem char member)
      have noCut : ¬ (char = ':' ∧ !inBrackets) := by
        rintro ⟨isColon, outside⟩
        simp [inside isColon] at outside
      rw [List.cons_append, splitPort, if_neg (by simpa using noCut), if_neg notOpening,
        if_neg notClosing]
      dsimp only
      rw [later]
      rfl

theorem splitPort_opening (rest : List Char) :
    splitPort false ('[' :: rest) = ('[' :: (splitPort true rest).1, (splitPort true rest).2) :=
  rfl

theorem splitPort_closing (rest : List Char) :
    splitPort true (']' :: rest) = (']' :: (splitPort false rest).1, (splitPort false rest).2) :=
  rfl

/-- A host is cut from the port behind it. -/
theorem splitPort_print {host : Host} (isRead : host.IsRead) (back : List Char) :
    splitPort false (host.print ++ back) =
      (host.print ++ (splitPort false back).1, (splitPort false back).2) := by
  rcases isRead.print_cases with isName | ⟨inside, written, within⟩
  · refine splitPort_append (fun char member => ?_) back
    have plain := isName char member
    refine ⟨?_, ?_, ?_⟩
    all_goals
      rintro rfl
      exact absurd plain (by decide)
  · have closed : splitPort true (inside ++ ']' :: back) =
        (inside ++ (splitPort true (']' :: back)).1, (splitPort true (']' :: back)).2) :=
      splitPort_append (fun char member =>
        ⟨(within char member).2.1, (within char member).2.2, fun _ => rfl⟩) _
    have whole : host.print ++ back = '[' :: (inside ++ ']' :: back) := by simp [written]
    rw [whole, splitPort_opening, closed, splitPort_closing, written]
    simp

theorem splitPort_printPort (url : Url) :
    splitPort false url.printPort = ([], url.port.map decimalDigits) := by
  unfold Url.printPort
  cases url.port <;> rfl

theorem cutPort_decimalDigits (port : Option Nat) :
    cutPort ((port.map decimalDigits).getD []) = ((port.map decimalDigits).getD [], []) := by
  have noBackslash : ∀ char ∈ (port.map decimalDigits).getD [], (char == '\\') = false := by
    intro char member
    rw [beq_eq_false_iff_ne]
    rintro rfl
    cases port with
    | none => exact absurd member List.not_mem_nil
    | some value => exact absurd (isDigit_of_mem_decimalDigits member) (by decide)
  rw [cutPort, before_of_no_separator noBackslash, startingAt_eq_nil_iff.mpr noBackslash]

theorem readPort_decimalDigits {scheme : List Char} {port : Option Nat}
    (kept : ∀ value ∈ port, value ≤ 65535 ∧ defaultPort? scheme ≠ some value) :
    readPort scheme ((port.map decimalDigits).getD []) = .ok port := by
  cases port with
  | none => simp [readPort, decimalValue]
  | some value =>
      obtain ⟨small, notDefault⟩ := kept value rfl
      have digits : (decimalDigits value).all Char.isDigit = true :=
        List.all_eq_true.mpr fun _ member => isDigit_of_mem_decimalDigits member
      have given : (decimalDigits value).isEmpty = false := by
        simpa using decimalDigits_ne_nil value
      simp [readPort, digits, given, notDefault, Nat.not_lt.mpr small]

/-! ## Paths and tails -/

theorem pieces_printSegments {first : List Char} {rest : List (List Char)}
    (noSlash : ∀ segment ∈ first :: rest, ∀ char ∈ segment, isSlash true char = false) :
    pieces (isSlash true) (first ++ printSegments rest) = first :: rest := by
  induction rest generalizing first with
  | nil =>
      change pieces (isSlash true) (first ++ []) = [first]
      rw [List.append_nil]
      exact pieces_of_no_separator (noSlash first List.mem_cons_self)
  | cons second others ih =>
      have later := ih fun segment member => noSlash segment (List.mem_cons_of_mem first member)
      have opened : printSegments (second :: others) = '/' :: (second ++ printSegments others) :=
        rfl
      rw [opened, pieces_append_separator (isSlash_slash true), later,
        pieces_of_no_separator (noSlash first List.mem_cons_self)]
      rfl

/-- A path in the form that reading leaves is read as it is. -/
theorem AreRead.exists_readPath {segments : List (List Char)} (areRead : AreRead segments) :
    ∃ chars, printSegments segments = '/' :: chars ∧ readPath true chars = '/' :: chars := by
  obtain ⟨first, rest, rfl⟩ := List.exists_cons_of_ne_nil areRead.notEmpty
  have cut := pieces_printSegments areRead.noSlash
  have kept : (first :: rest).map (percentEncode inPathSet) = first :: rest :=
    (List.map_congr_left fun segment member => (areRead.plain segment member).1).trans
      (List.map_id _)
  refine ⟨first ++ printSegments rest, rfl, ?_⟩
  rw [readPath, cut, kept, resolveDots_of_arePlain areRead.plain (List.cons_ne_nil first rest)]
  rfl

theorem AreRead.encoded {segments : List (List Char)} (areRead : AreRead segments) :
    IsEncoded inPathSet (printSegments segments) := by
  intro char member
  obtain ⟨segment, isSegment, inSegment⟩ := List.mem_flatMap.mp member
  rcases List.mem_cons.mp inSegment with rfl | inside
  · decide
  · rw [← (areRead.plain segment isSegment).1] at inside
    exact sparesBytes_inPathSet.eq_false_of_mem_percentEncode char inside

/-- The tail of a URL begins with a mark, if there is one. -/
theorem endsPath_of_head?_printTail (url : Url) :
    ∀ char ∈ url.printTail.head?, endsPath char = true := by
  unfold Url.printTail
  intro char isHead
  cases query : url.query with
  | some text =>
      rw [query] at isHead
      obtain rfl := Option.some.inj isHead
      rfl
  | none =>
      cases fragment : url.fragment with
      | some text =>
          rw [query, fragment] at isHead
          obtain rfl := Option.some.inj isHead
          rfl
      | none =>
          rw [query, fragment] at isHead
          exact nomatch isHead

/-- A tail in the form that reading leaves is read as it is. -/
theorem IsTailRead.readTail_printTail {url : Url}
    (isRead : IsTailRead url.query url.fragment) :
    readTail true url.printTail = (url.query, url.fragment) := by
  unfold Url.printTail
  cases query : url.query with
  | none =>
      cases fragment : url.fragment with
      | none => rfl
      | some text =>
          have encoded := percentEncode_eq_self (isRead.fragment text fragment)
          simp [readTail, before, startingAt, encoded]
  | some asked =>
      have encodedQuery := percentEncode_eq_self (isRead.query asked query)
      have noNumber : ∀ char ∈ '?' :: asked, (char == '#') = false := by
        refine List.forall_mem_cons.mpr ⟨rfl, fun char member => ?_⟩
        have spared := isRead.query asked query char member
        exact beq_eq_false_iff_ne.mpr (plain_of_inSpecialQuerySet spared).2
      cases fragment : url.fragment with
      | none =>
          obtain ⟨front, back⟩ := cut_append noNumber [] (by simp)
          rw [readTail]
          simp only [front, back, encodedQuery, if_true]
      | some text =>
          have encoded := percentEncode_eq_self (isRead.fragment text fragment)
          obtain ⟨front, back⟩ := cut_append noNumber ('#' :: text) (by simp)
          rw [readTail]
          simp only [front, back, encoded, encodedQuery, if_true]

/-! ## Users -/

theorem readUser_name {name : List Char} (encoded : IsEncoded inUserSet name) :
    readUser name = (name, none) := by
  have noColon : ∀ char ∈ name, (char == ':') = false := fun char member =>
    beq_eq_false_iff_ne.mpr (plain_of_inUserSet (encoded char member)).2.1
  rw [readUser, splitOnce?_of_no_separator noColon, percentEncode_eq_self encoded]

theorem readUser_name_word {name word : List Char} (encodedName : IsEncoded inUserSet name)
    (encodedWord : IsEncoded inUserSet word) (given : word ≠ []) :
    readUser (name ++ ':' :: word) = (name, some word) := by
  have noColon : ∀ char ∈ name, (char == ':') = false := fun char member =>
    beq_eq_false_iff_ne.mpr (plain_of_inUserSet (encodedName char member)).2.1
  have isColon : (':' == ':') = true := rfl
  have notEmpty : ¬ word.isEmpty = true := by simpa using given
  rw [readUser, splitOnce?_append noColon isColon]
  simp only [percentEncode_eq_self encodedName, percentEncode_eq_self encodedWord,
    if_neg notEmpty]

/-- A user is read from before the sign behind it, and the host and the port from behind
it. -/
theorem IsUserRead.cut_printUser {url : Url} (isRead : IsUserRead url.username url.password)
    {back : List Char} (noSign : '@' ∉ back) :
    userOf (url.printUser ++ back) = (url.username, url.password) ∧
      hostAndPort (url.printUser ++ back) = splitPort false back := by
  have behindSign : ∀ user, readUser user = (url.username, url.password) →
      userOf (user ++ '@' :: back) = (url.username, url.password) ∧
        hostAndPort (user ++ '@' :: back) = splitPort false back := by
    intro user read
    rw [userOf, hostAndPort, splitUser_append noSign]
    exact ⟨read, rfl⟩
  unfold Url.printUser
  cases secret : url.password with
  | some word =>
      obtain ⟨given, encoded⟩ := isRead.secret word secret
      simpa [secret] using behindSign (url.username ++ ':' :: word)
        (by rw [secret, readUser_name_word isRead.name encoded given])
  | none =>
      cases name : url.username with
      | nil => simp [userOf, hostAndPort, splitUser_of_not_mem noSign]
      | cons first rest =>
          simpa [secret, name] using behindSign url.username
            (by rw [secret, readUser_name isRead.name])

/-! ## URLs -/

/-- What stands between the slashes behind the scheme and the path. -/
def authorityText (url : Url) (host : Host) : List Char :=
  url.printUser ++ (host.print ++ url.printPort)

theorem print_eq_append {url : Url} {host : Host} (isHost : url.host = some host) :
    url.print = (url.scheme ++ ':' :: '/' :: '/' :: authorityText url host) ++
      (url.path ++ url.printTail) := by
  simp [Url.print, Url.printAuthority, isHost, authorityText]

section IsRead

variable {url : Url} {host : Host}

theorem plain_of_mem_printPort {char : Char} (member : char ∈ url.printPort) :
    isHostChar char = true := by
  unfold Url.printPort at member
  split at member
  · rcases List.mem_cons.mp member with rfl | digit
    · decide
    · exact isHostChar_of_isNameChar (isNameChar_of_isDigit (isDigit_of_mem_decimalDigits digit))
  · exact absurd member List.not_mem_nil

theorem IsUserRead.mem_printUser (isRead : IsUserRead url.username url.password)
    {char : Char} (member : char ∈ url.printUser) :
    char = ':' ∨ char = '@' ∨ inUserSet char = false := by
  unfold Url.printUser at member
  cases secret : url.password with
  | some word =>
      have encoded := (isRead.secret word secret).2
      simp only [secret, List.mem_append, List.mem_cons, List.not_mem_nil, or_false] at member
      rcases member with (inName | isColon | inWord) | isSign
      · exact Or.inr (Or.inr (isRead.name char inName))
      · exact Or.inl isColon
      · exact Or.inr (Or.inr (encoded char inWord))
      · exact Or.inr (Or.inl isSign)
  | none =>
      rw [secret] at member
      dsimp only at member
      split at member
      · exact absurd member List.not_mem_nil
      · rcases List.mem_append.mp member with inName | isSign
        · exact Or.inr (Or.inr (isRead.name char inName))
        · exact Or.inr (Or.inl (List.mem_singleton.mp isSign))

/-- An authority shows and is not ended within. -/
theorem IsRead.plain_of_mem_authorityText (isRead : IsRead url) (isHostOf : url.host = some host)
    {char : Char} (member : char ∈ authorityText url host) :
    isVisible char = true ∧ endsAuthority true char = false := by
  obtain ⟨_, same, hostRead⟩ := isRead.host
  obtain rfl := Option.some.inj (isHostOf.symm.trans same)
  rcases List.mem_append.mp member with inUser | behind
  · rcases isRead.user.mem_printUser inUser with rfl | rfl | spared
    · decide
    · decide
    · have inFragment := inFragmentSet_of_inPathSet (inPathSet_of_inUserSet spared)
      exact ⟨isVisible_of_inFragmentSet inFragment, (plain_of_inUserSet spared).1⟩
  · have isHostChar : isHostChar char = true := by
      rcases List.mem_append.mp behind with inHost | inPort
      · exact hostRead.isHostChar char inHost
      · exact plain_of_mem_printPort inPort
    obtain ⟨shows, stays, _⟩ := plain_of_isHostChar isHostChar
    exact ⟨shows, stays⟩

theorem IsRead.path_and_tail (isRead : IsRead url) :
    before endsPath (url.path ++ url.printTail) = url.path ∧
      startingAt endsPath (url.path ++ url.printTail) = url.printTail := by
  obtain ⟨segments, areRead, written⟩ := isRead.path
  refine cut_append (fun char member => ?_) url.printTail (endsPath_of_head?_printTail url)
  rw [written] at member
  exact endsPath_of_inPathSet (areRead.encoded char member)

theorem IsRead.pathBehind_eq (isRead : IsRead url) :
    pathBehind true (url.path ++ url.printTail) = url.path := by
  obtain ⟨segments, areRead, written⟩ := isRead.path
  obtain ⟨chars, opened, read⟩ := areRead.exists_readPath
  rw [pathBehind, isRead.path_and_tail.1, written, opened]
  simp only [isSlash_slash, if_true, read]

/-- A URL with another text read behind its authority. -/
def withRest (url : Url) (rest : List Char) : Url :=
  { url with
    path := pathBehind true rest
    query := (readTail true (startingAt endsPath rest)).1
    fragment := (readTail true (startingAt endsPath rest)).2 }

/-- Behind the authority of a URL its own path and tail are read as they are. -/
theorem IsRead.withRest_print (isRead : IsRead url) :
    url.withRest (url.path ++ url.printTail) = url := by
  rw [withRest, isRead.pathBehind_eq, isRead.path_and_tail.2, isRead.tail.readTail_printTail]

/-- The authority of a URL is read as it is, whatever follows it. -/
theorem IsRead.readAuthority_authorityText (isRead : IsRead url) (isHostOf : url.host = some host)
    (rest : List Char) :
    readAuthority url.scheme (authorityText url host) rest = .ok (url.withRest rest) := by
  obtain ⟨_, same, hostRead⟩ := isRead.host
  obtain rfl := Option.some.inj (isHostOf.symm.trans same)
  have noSign : '@' ∉ host.print ++ url.printPort := by
    intro sign
    have isHostChar : isHostChar '@' = true := by
      rcases List.mem_append.mp sign with inHost | inPort
      · exact hostRead.isHostChar '@' inHost
      · exact plain_of_mem_printPort inPort
    exact absurd isHostChar (by decide)
  obtain ⟨user, cut⟩ := isRead.user.cut_printUser noSign
  have parts : hostAndPort (authorityText url host) =
      (host.print, url.port.map decimalDigits) := by
    rw [authorityText, cut, splitPort_print hostRead, splitPort_printPort, List.append_nil]
  have port := cutPort_decimalDigits url.port
  refine readAuthority_eq_ok_iff.mpr ⟨?_, host, url.port, ?_, ?_, ?_⟩
  · simp [lacksHost, parts, hostRead.print_ne_nil]
  · rw [parts, readHost, if_pos isRead.special, hostRead.parseSpecial_print]
  · rw [portText, parts, port, readPort_decimalDigits isRead.port]
  · rw [assemble, behindPort, parts, port, isRead.special, authorityText, user, ← isHostOf,
      List.nil_append, withRest]

theorem IsTailRead.isVisible (isRead : IsTailRead url.query url.fragment) :
    ∀ char ∈ url.printTail, Url.isVisible char = true := by
  intro char member
  unfold Url.printTail at member
  rcases List.mem_append.mp member with inQuery | inFragment
  · cases query : url.query with
    | none => simp [query] at inQuery
    | some asked =>
        rw [query] at inQuery
        rcases List.mem_cons.mp inQuery with rfl | inAsked
        · decide
        · exact (plain_of_inSpecialQuerySet (isRead.query asked query char inAsked)).1
  · cases fragment : url.fragment with
    | none => simp [fragment] at inFragment
    | some text =>
        rw [fragment] at inFragment
        rcases List.mem_cons.mp inFragment with rfl | inText
        · decide
        · exact isVisible_of_inFragmentSet (isRead.fragment text fragment char inText)

/-- A special scheme is a word of small letters. -/
theorem letters_of_isSpecial {scheme : List Char} (special : isSpecial scheme = true) :
    (∃ first rest, scheme = first :: rest ∧ first.isAlpha = true) ∧
      (∀ char ∈ scheme, isSchemeChar char = true ∧ Url.isVisible char = true) ∧
      asciiLower scheme = scheme := by
  have words : ∀ word ∈ ["http", "https", "ws", "wss", "ftp", "file"],
      word.toList.head?.any Char.isAlpha = true ∧
        word.toList.all (fun char => isSchemeChar char && Url.isVisible char) = true ∧
        asciiLower word.toList = word.toList := by
    decide
  obtain ⟨letter, plain, lower⟩ :=
    words (String.ofList scheme) (List.contains_iff_mem.mp special)
  rw [String.toList_ofList] at letter plain lower
  refine ⟨?_, fun char member => ?_, lower⟩
  · cases scheme with
    | nil => exact nomatch letter
    | cons first rest => exact ⟨first, rest, rfl, letter⟩
  · exact Bool.and_eq_true_iff.mp (List.all_eq_true.mp plain char member)

theorem IsRead.print_ne_nil (isRead : IsRead url) : url.print ≠ [] := by
  obtain ⟨host, isHostOf, _⟩ := isRead.host
  rw [print_eq_append isHostOf]
  simp

/-- Every character of a URL up to its path shows. -/
theorem IsRead.isVisible_front (isRead : IsRead url) (isHostOf : url.host = some host) :
    ∀ char ∈ url.scheme ++ ':' :: '/' :: '/' :: authorityText url host,
      Url.isVisible char = true := by
  intro char member
  simp only [List.mem_append, List.mem_cons] at member
  rcases member with inScheme | rfl | rfl | rfl | inAuthority
  · exact ((letters_of_isSpecial isRead.special).2.1 char inScheme).2
  · decide
  · decide
  · decide
  · exact (isRead.plain_of_mem_authorityText isHostOf inAuthority).1

/-- Every character of the path shows, and of what follows it. -/
theorem IsRead.isVisible_rest (isRead : IsRead url) :
    ∀ char ∈ url.path ++ url.printTail, Url.isVisible char = true := by
  obtain ⟨segments, areRead, written⟩ := isRead.path
  intro char member
  rcases List.mem_append.mp member with inPath | inTail
  · rw [written] at inPath
    exact isVisible_of_inFragmentSet (inFragmentSet_of_inPathSet (areRead.encoded char inPath))
  · exact isRead.tail.isVisible char inTail

/-- Every character of a URL shows. -/
theorem IsRead.isVisible (isRead : IsRead url) :
    ∀ char ∈ url.print, Url.isVisible char = true := by
  obtain ⟨host, isHostOf, _⟩ := isRead.host
  intro char member
  rw [print_eq_append isHostOf] at member
  rcases List.mem_append.mp member with inFront | inRest
  · exact isRead.isVisible_front isHostOf char inFront
  · exact isRead.isVisible_rest char inRest

/-- The scheme of a URL is cut from what follows it. -/
theorem splitScheme?_of_isSpecial {scheme : List Char} (special : isSpecial scheme = true)
    (rest : List Char) : splitScheme? (scheme ++ ':' :: rest) = some (scheme, rest) := by
  obtain ⟨⟨first, word, rfl, letter⟩, plain, lower⟩ := letters_of_isSpecial special
  exact splitScheme?_eq_some_iff.mpr
    ⟨first, word, rfl, letter, fun char member => (plain char member).1, lower.symm⟩

/-- The slashes behind the scheme are dropped, and no more. -/
theorem IsRead.dropWhile_isSlash (isRead : IsRead url) (isHostOf : url.host = some host)
    (rest : List Char) :
    ('/' :: '/' :: (authorityText url host ++ rest)).dropWhile (isSlash true) =
      authorityText url host ++ rest := by
  obtain ⟨_, same, hostRead⟩ := isRead.host
  obtain rfl := Option.some.inj (isHostOf.symm.trans same)
  have notEmpty : authorityText url host ≠ [] := by
    simp [authorityText, hostRead.print_ne_nil]
  obtain ⟨first, others, opened⟩ := List.exists_cons_of_ne_nil notEmpty
  have stays : endsAuthority true first = false :=
    (isRead.plain_of_mem_authorityText isHostOf (by rw [opened]; exact List.mem_cons_self)).2
  have noSlash : ¬ isSlash true first = true :=
    Bool.eq_false_iff.mp (Bool.or_eq_false_iff.mp stays).1
  rw [List.dropWhile_cons_of_pos rfl, List.dropWhile_cons_of_pos rfl, opened, List.cons_append,
    List.dropWhile_cons_of_neg noSlash]

/-- An authority is cut from what follows it. -/
theorem IsRead.readHierarchical_authorityText (isRead : IsRead url)
    (isHostOf : url.host = some host) {rest : List Char}
    (cut : ∀ char ∈ rest.head?, endsAuthority true char = true) :
    readHierarchical url.scheme (authorityText url host ++ rest) = .ok (url.withRest rest) := by
  have stays : ∀ char ∈ authorityText url host, endsAuthority true char = false :=
    fun char member => (isRead.plain_of_mem_authorityText isHostOf member).2
  obtain ⟨front, back⟩ := cut_append stays rest cut
  rw [readHierarchical_eq, isRead.special, front, back,
    isRead.readAuthority_authorityText isHostOf rest]

/-- Up to its path a URL is read as it is, with what follows there. -/
theorem IsRead.parseChars_authorityText (isRead : IsRead url) (isHostOf : url.host = some host)
    {rest : List Char} (visible : ∀ char ∈ rest, Url.isVisible char = true)
    (cut : ∀ char ∈ rest.head?, endsAuthority true char = true) :
    parseChars ((url.scheme ++ ':' :: '/' :: '/' :: authorityText url host) ++ rest) =
      .ok (url.withRest rest) := by
  have shows : ∀ char ∈ (url.scheme ++ ':' :: '/' :: '/' :: authorityText url host) ++ rest,
      Url.isVisible char = true :=
    List.forall_mem_append.mpr ⟨isRead.isVisible_front isHostOf, visible⟩
  have split : splitScheme? (significant
      ((url.scheme ++ ':' :: '/' :: '/' :: authorityText url host) ++ rest)) =
      some (url.scheme, '/' :: '/' :: (authorityText url host ++ rest)) := by
    rw [significant_of_visible shows, List.append_assoc]
    exact splitScheme?_of_isSpecial isRead.special _
  rw [parseChars_eq_readBody split]
  unfold readBody
  rw [if_neg (by simpa using isRead.notFile), if_pos isRead.special,
    isRead.dropWhile_isSlash isHostOf, isRead.readHierarchical_authorityText isHostOf cut]

/-- A path begins with a slash, which ends the authority. -/
theorem IsRead.endsAuthority_of_head? (isRead : IsRead url) :
    ∀ char ∈ (url.path ++ url.printTail).head?, endsAuthority true char = true := by
  obtain ⟨segments, areRead, written⟩ := isRead.path
  obtain ⟨chars, opened, _⟩ := areRead.exists_readPath
  intro char isHead
  rw [written, opened] at isHead
  obtain rfl := Option.some.inj isHead
  rfl

/-- A URL is read from its text. -/
theorem IsRead.parseChars_print (isRead : IsRead url) : parseChars url.print = .ok url := by
  obtain ⟨host, isHostOf, _⟩ := isRead.host
  rw [print_eq_append isHostOf, isRead.parseChars_authorityText isHostOf isRead.isVisible_rest
    isRead.endsAuthority_of_head?, isRead.withRest_print]

end IsRead

end PublicSite.Url
