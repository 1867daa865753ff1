import PublicSite.Proofs.Text.Pieces
import PublicSite.Proofs.Text.Trimming
import PublicSite.Proofs.Url.Parse

/-!
# Addresses that go on with a path

A text that is an address may be followed by a slash and a path.  As a rule the
result is the same address with a longer path.  It is not when the address has a
query or a fragment, which then takes up what follows, and it may be no address at
all when the first text ended in characters that are dropped at the end of a text
but belong to the host in the middle of one.
-/

namespace PublicSite.Url

open PublicSite.Text

/-! ## Segments -/

/-- The segments stand for themselves in a path. -/
def ArePlain (segments : List (List Char)) : Prop :=
  ∀ segment ∈ segments, percentEncode inPathSet segment = segment ∧
    isSingleDot segment = false ∧ isDoubleDot segment = false

instance (segments : List (List Char)) : Decidable (ArePlain segments) :=
  inferInstanceAs (Decidable (∀ segment ∈ segments, _ ∧ _ ∧ _))

theorem resolveDots_of_arePlain {ending : List (List Char)} (plain : ArePlain ending)
    (notEmpty : ending ≠ []) (kept : List (List Char)) :
    resolveDots kept ending = kept.reverse ++ ending := by
  induction ending generalizing kept with
  | nil => exact absurd rfl notEmpty
  | cons first rest ih =>
      obtain ⟨_, notSingle, notDouble⟩ := plain first List.mem_cons_self
      have restPlain : ArePlain rest := fun segment member =>
        plain segment (List.mem_cons_of_mem first member)
      cases rest with
      | nil => simp [resolveDots, notSingle, notDouble]
      | cons second others =>
          have step : resolveDots kept (first :: second :: others) =
              resolveDots (first :: kept) (second :: others) := by
            simp [resolveDots, notSingle, notDouble]
          rw [step, ih restPlain (List.cons_ne_nil _ _)]
          simp

/-- Dots are resolved among the segments before those that stand for themselves. -/
theorem suffix_resolveDots {ending : List (List Char)} (plain : ArePlain ending)
    (notEmpty : ending ≠ []) (kept segments : List (List Char)) :
    ending <:+ resolveDots kept (segments ++ ending) := by
  induction segments generalizing kept with
  | nil =>
      rw [List.nil_append, resolveDots_of_arePlain plain notEmpty]
      exact List.suffix_append _ _
  | cons first rest ih =>
      obtain ⟨second, others, more⟩ :=
        List.exists_cons_of_ne_nil (List.append_ne_nil_of_right_ne_nil rest notEmpty)
      rw [List.cons_append, more, resolveDots, ← more]
      · split_ifs
        · exact ih _
        · exact ih _
        · exact ih _
      · simp

theorem printSegments_suffix {ending segments : List (List Char)} (suffix : ending <:+ segments) :
    printSegments ending <:+ printSegments segments := by
  obtain ⟨front, rfl⟩ := suffix
  rw [printSegments, printSegments, List.flatMap_append]
  exact List.suffix_append _ _

theorem isSlash_slash (special : Bool) : isSlash special '/' = true := by
  cases special <;> rfl

/-- A path that is cut into segments of which the last stand for themselves ends in
them. -/
theorem suffix_readPath {special : Bool} {chars : List Char} {front ending : List (List Char)}
    (cut : pieces (isSlash special) chars = front ++ ending) (plain : ArePlain ending)
    (notEmpty : ending ≠ []) : printSegments ending <:+ readPath special chars := by
  have kept : ending.map (percentEncode inPathSet) = ending :=
    (List.map_congr_left fun segment member => (plain segment member).1).trans (List.map_id ending)
  rw [readPath, cut, List.map_append, kept]
  exact printSegments_suffix (suffix_resolveDots plain notEmpty _ _)

/-! ## Endings -/

/-- A text that can stand behind an address and a slash, and is read there as it is
written. -/
structure IsEnding (ending : List Char) : Prop where
  notRooted : ending.head? ≠ some '/'
  kept : dropEndWhile isControlOrSpace ('/' :: ending) = '/' :: ending
  noLineEnd : ending.any isTabOrLineEnd = false
  noMark : ending.any endsPath = false
  unencoded : percentEncode isControl ('/' :: ending) = '/' :: ending
  plain : ∀ special, ArePlain (pieces (isSlash special) ending)
  written : ∀ special, printSegments (pieces (isSlash special) ending) = '/' :: ending

theorem isEnding_nil : IsEnding [] where
  notRooted := by decide
  kept := by decide
  noLineEnd := by decide
  noMark := by decide
  unencoded := by decide
  plain := by decide
  written := by decide

theorem IsEnding.endsPath_eq_false {ending : List Char} (isEnding : IsEnding ending) :
    ∀ char ∈ '/' :: ending, endsPath char = false := by
  intro char member
  rcases List.mem_cons.mp member with rfl | inEnding
  · rfl
  · exact Bool.eq_false_iff.mpr (List.any_eq_false.mp isEnding.noMark char inEnding)

theorem IsEnding.suffix_readPath {ending : List Char} (isEnding : IsEnding ending)
    (special : Bool) (chars : List Char) :
    '/' :: ending <:+ readPath special (chars ++ '/' :: ending) := by
  have cut := pieces_append_separator (isSlash_slash special) chars ending
  have suffix := Url.suffix_readPath cut (isEnding.plain special) (pieces_ne_nil _ _)
  rwa [isEnding.written special] at suffix

theorem IsEnding.suffix_readPath_self {ending : List Char} (isEnding : IsEnding ending)
    (special : Bool) : '/' :: ending <:+ readPath special ending := by
  rw [← isEnding.written special]
  exact Url.suffix_readPath (List.nil_append _).symm (isEnding.plain special) (pieces_ne_nil _ _)

/-- A path behind an authority that goes on with an ending ends in it. -/
theorem IsEnding.suffix_pathBehind {ending front : List Char} (isEnding : IsEnding ending)
    (noMark : ∀ char ∈ front ++ '/' :: ending, endsPath char = false) (special : Bool) :
    '/' :: ending <:+ pathBehind special (front ++ '/' :: ending) := by
  rw [pathBehind, before_of_no_separator noMark]
  cases front with
  | nil =>
      simp only [List.nil_append, isSlash_slash, if_true]
      exact isEnding.suffix_readPath_self special
  | cons first others =>
      simp only [List.cons_append]
      split
      · exact isEnding.suffix_readPath special others
      · exact isEnding.suffix_readPath special (first :: others)

/-! ## The characters of an address -/

theorem filter_noLineEnd {chars : List Char}
    (noLineEnd : ∀ char ∈ chars, isTabOrLineEnd char = false) :
    chars.filter (fun char => !isTabOrLineEnd char) = chars :=
  List.filter_eq_self.mpr fun char member => by simp [noLineEnd char member]

theorem mem_of_mem_significant {chars : List Char} {char : Char}
    (member : char ∈ significant chars) : char ∈ chars := by
  have kept := (List.mem_filter.mp member).1
  exact (List.dropWhile_suffix _).subset ((dropEndWhile_isPrefix _ _).subset kept)

/-- What is dropped at the end of a text stands in the middle of a longer one. -/
theorem significant_append {chars : List Char} (begins : significant chars ≠ []) :
    ∃ lost, (∀ char ∈ lost, isControlOrSpace char = true) ∧
      (dropEndWhile isControlOrSpace chars = chars → lost = []) ∧
      ∀ ending, IsEnding ending →
        significant (chars ++ '/' :: ending) = significant chars ++ (lost ++ '/' :: ending) := by
  have keepsSome : dropEndWhile isControlOrSpace (chars.dropWhile isControlOrSpace) ≠ [] := by
    intro empty
    simp [significant, empty] at begins
  have notEmpty : chars.dropWhile isControlOrSpace ≠ [] := by
    intro empty
    simp [empty] at keepsSome
  obtain ⟨dropped, split_eq, allDropped⟩ :=
    dropEndWhile_append_suffix isControlOrSpace (chars.dropWhile isControlOrSpace)
  refine ⟨dropped.filter fun char => !isTabOrLineEnd char, ?_, ?_, ?_⟩
  · intro char member
    exact allDropped char (List.mem_filter.mp member).1
  · intro kept
    have whole := (List.takeWhile_append_dropWhile (p := isControlOrSpace) (l := chars)).symm
    rw [whole, dropEndWhile_append keepsSome, List.append_cancel_left_eq] at kept
    rw [kept] at split_eq
    have nothing : dropped = [] := List.self_eq_append_right.mp split_eq
    rw [nothing, List.filter_nil]
  · intro ending isEnding
    have front : (chars ++ '/' :: ending).dropWhile isControlOrSpace =
        chars.dropWhile isControlOrSpace ++ '/' :: ending := by
      rw [List.dropWhile_append, if_neg (by simpa using notEmpty)]
    rw [significant, front, dropEndWhile_append_of_kept isEnding.kept (List.cons_ne_nil _ _),
      List.filter_append, significant]
    have endingKept :
        ('/' :: ending).filter (fun char => !isTabOrLineEnd char) = '/' :: ending := by
      refine filter_noLineEnd fun char member => ?_
      rcases List.mem_cons.mp member with rfl | inEnding
      · rfl
      · exact Bool.eq_false_iff.mpr (List.any_eq_false.mp isEnding.noLineEnd char inEnding)
    rw [endingKept, ← List.append_assoc, ← List.filter_append, ← split_eq]

/-- The scheme is read from the beginning of a text. -/
theorem splitScheme?_eq_some_iff {chars scheme rest : List Char} :
    splitScheme? chars = some (scheme, rest) ↔
      ∃ first word, chars = first :: (word ++ ':' :: rest) ∧ first.isAlpha = true ∧
        (∀ char ∈ first :: word, isSchemeChar char = true) ∧
        scheme = asciiLower (first :: word) := by
  constructor
  · intro read
    cases chars with
    | nil => exact nomatch read
    | cons first others =>
        rw [splitScheme?] at read
        split at read
        · rename_i letter
          have isChar : isSchemeChar first = true := by
            simp [isSchemeChar, Char.isAlphanum, letter]
          rw [List.dropWhile_cons_of_pos isChar, List.takeWhile_cons_of_pos isChar] at read
          split at read
          · rename_i behind colon
            obtain ⟨rfl, rfl⟩ := Prod.mk.inj (Option.some.inj read)
            refine ⟨first, others.takeWhile isSchemeChar, ?_, letter, ?_, rfl⟩
            · rw [← colon, List.takeWhile_append_dropWhile]
            · intro char member
              rcases List.mem_cons.mp member with rfl | inWord
              · exact isChar
              · exact List.mem_takeWhile_imp inWord
          · exact nomatch read
        · exact nomatch read
  · rintro ⟨first, word, rfl, letter, schemeChars, rfl⟩
    have whole : first :: (word ++ ':' :: rest) = (first :: word) ++ ':' :: rest := rfl
    have colon : isSchemeChar ':' = false := by decide
    rw [splitScheme?, if_pos letter, whole, List.dropWhile_append_of_pos schemeChars,
      List.takeWhile_append_of_pos schemeChars, List.dropWhile_cons_of_neg (by simp [colon]),
      List.takeWhile_cons_of_neg (by simp [colon]), List.append_nil]
    rfl

theorem splitScheme?_append {chars scheme rest : List Char}
    (read : splitScheme? chars = some (scheme, rest)) (back : List Char) :
    splitScheme? (chars ++ back) = some (scheme, rest ++ back) := by
  obtain ⟨first, word, rfl, letter, schemeChars, rfl⟩ := splitScheme?_eq_some_iff.mp read
  exact splitScheme?_eq_some_iff.mpr ⟨first, word, by simp, letter, schemeChars, rfl⟩

/-! ## What becomes of an address -/

/-- What stands at the end of a text and is dropped there ends no part of an address. -/
theorem endsAuthority_eq_false_of_isControlOrSpace {char : Char}
    (low : isControlOrSpace char = true) (special : Bool) : endsAuthority special char = false := by
  rw [Bool.eq_false_iff]
  intro ends
  simp only [endsAuthority, isSlash, endsPath, Bool.or_eq_true, Bool.and_eq_true,
    beq_iff_eq] at ends
  rcases ends with (rfl | ⟨_, rfl⟩) | (rfl | rfl)
  all_goals exact absurd low (by decide)

theorem endsPath_eq_false_of_endsAuthority {special : Bool} {char : Char}
    (stays : endsAuthority special char = false) : endsPath char = false :=
  (Bool.or_eq_false_iff.mp stays).2

/-- A mark gives a query or a fragment. -/
theorem readTail_ne_none {chars : List Char} (special : Bool)
    (marked : startingAt endsPath chars ≠ []) :
    readTail special (startingAt endsPath chars) ≠ (none, none) := by
  obtain ⟨mark, rest, starts⟩ := List.exists_cons_of_ne_nil marked
  have isMark := separates_of_startingAt_eq_cons starts
  rw [starts]
  rcases Bool.or_eq_true_iff.mp isMark with question | number
  · obtain rfl := beq_iff_eq.mp question
    simp [readTail, before]
  · obtain rfl := beq_iff_eq.mp number
    simp [readTail, startingAt]

/-- The ways in which an address `base` becomes another when a slash and an ending are
put behind its text `chars`.  `lost` is what was dropped at the end of the text, and
`read` says what is read with each ending. -/
inductive Continuation (chars lost : List Char) (base : Url)
    (read : List Char → Except ParseError Url) : Prop where
  /-- The path goes on. -/
  | path (reads : ∀ ending, IsEnding ending → ∃ url, read ending = .ok url ∧
      (url.query, url.fragment) = (none, none) ∧ '/' :: ending <:+ url.path)
  /-- The query or the fragment goes on. -/
  | tail (marked : ∃ char ∈ chars, endsPath char = true) (path : List Char)
      (reads : ∀ ending, IsEnding ending → ∃ url, read ending = .ok url ∧
        (url.query, url.fragment) ≠ (none, none) ∧ url.path = path)
  /-- It is no address any more. -/
  | refused (cause : lost ≠ [] ∨ base.host = some (.domain []))
      (refuses : ∀ ending, IsEnding ending → ∀ url, read ending ≠ .ok url)
  /-- The slash completes the two behind which an authority stands. -/
  | swallowed (cause : base.host = none) (scheme : List Char)
      (notSpecial : isSpecial scheme = false)
      (reads : ∀ ending, IsEnding ending → read ending = readHierarchical scheme ending)

theorem Continuation.congr {chars lost : List Char} {base : Url}
    {read other : List Char → Except ParseError Url}
    (continuation : Continuation chars lost base read)
    (same : ∀ ending, IsEnding ending → other ending = read ending) :
    Continuation chars lost base other := by
  cases continuation with
  | path reads => exact .path fun ending isEnding => same ending isEnding ▸ reads ending isEnding
  | tail marked path reads =>
      exact .tail marked path fun ending isEnding =>
        same ending isEnding ▸ reads ending isEnding
  | refused cause refuses =>
      exact .refused cause fun ending isEnding =>
        same ending isEnding ▸ refuses ending isEnding
  | swallowed cause scheme notSpecial reads =>
      exact .swallowed cause scheme notSpecial fun ending isEnding =>
        same ending isEnding ▸ reads ending isEnding

section Continuation

variable {scheme rest lost chars : List Char} {base : Url}

theorem IsEnding.endsPath_append_eq_false {ending : List Char} (isEnding : IsEnding ending)
    (stays : ∀ char ∈ rest, endsPath char = false)
    (low : ∀ char ∈ lost, isControlOrSpace char = true) :
    ∀ char ∈ rest ++ (lost ++ '/' :: ending), endsPath char = false := by
  intro char member
  rcases List.mem_append.mp member with inRest | later
  · exact stays char inRest
  · rcases List.mem_append.mp later with inLost | inEnding
    · exact endsPath_eq_false_of_endsAuthority
        (endsAuthority_eq_false_of_isControlOrSpace (low char inLost) false)
    · exact isEnding.endsPath_eq_false char inEnding

/-- An address that was read from a text that goes on with an ending has it at the end of its
path, and neither a query nor a fragment. -/
theorem IsReadFrom.suffix_path {authority ending front : List Char} {url : Url}
    (parts : IsReadFrom url scheme authority rest) (isEnding : IsEnding ending)
    (behind : behindPort authority rest = front ++ '/' :: ending)
    (noMark : ∀ char ∈ front ++ '/' :: ending, endsPath char = false) :
    (url.query, url.fragment) = (none, none) ∧ '/' :: ending <:+ url.path := by
  constructor
  · rw [parts.tail_eq, behind, startingAt_eq_nil_iff.mpr noMark]
    rfl
  · rw [parts.path_eq, behind]
    exact isEnding.suffix_pathBehind noMark _

theorem exists_mark_of_startingAt_ne_nil (within : rest ⊆ chars)
    (marked : startingAt endsPath rest ≠ []) : ∃ char ∈ chars, endsPath char = true := by
  by_contra none
  refine marked (startingAt_eq_nil_iff.mpr fun char member => ?_)
  rw [Bool.eq_false_iff]
  exact fun ends => none ⟨char, within member, ends⟩

/-- Behind an authority that has ended, the path goes on, or the query or fragment. -/
theorem continuation_of_closed {authority : List Char} {first : Char}
    (read : readAuthority scheme authority (first :: rest) = .ok base)
    (within : authority ++ first :: rest ⊆ chars)
    (low : ∀ char ∈ lost, isControlOrSpace char = true) :
    Continuation chars lost base fun ending =>
      readAuthority scheme authority (first :: rest ++ (lost ++ '/' :: ending)) := by
  have accepted : ∀ other, ∃ url,
      readAuthority scheme authority (first :: rest ++ other) = .ok url := fun other =>
    (isReadFrom_of_readAuthority read).exists_readAuthority (Or.inl rfl)
  by_cases marked : startingAt endsPath (behindPort authority (first :: rest)) = []
  · refine .path fun ending isEnding => ?_
    obtain ⟨url, reads⟩ := accepted (lost ++ '/' :: ending)
    have noMark := isEnding.endsPath_append_eq_false (startingAt_eq_nil_iff.mp marked) low
    rw [← List.append_assoc] at noMark
    have behind : behindPort authority (first :: rest ++ (lost ++ '/' :: ending)) =
        behindPort authority (first :: rest) ++ lost ++ '/' :: ending := by
      rw [behindPort_append, List.append_assoc]
    exact ⟨url, reads, (isReadFrom_of_readAuthority reads).suffix_path isEnding behind noMark⟩
  · have withinBehind := List.Subset.trans (behindPort_subset authority (first :: rest)) within
    refine .tail (exists_mark_of_startingAt_ne_nil withinBehind marked)
      (pathBehind (isSpecial scheme) (behindPort authority (first :: rest))) fun ending _ => ?_
    obtain ⟨url, reads⟩ := accepted (lost ++ '/' :: ending)
    have parts := isReadFrom_of_readAuthority reads
    have longer := startingAt_append marked (lost ++ '/' :: ending)
    refine ⟨url, reads, ?_, ?_⟩
    · rw [parts.tail_eq, behindPort_append]
      exact readTail_ne_none _ (by rw [longer]; simp [marked])
    · rw [parts.path_eq, behindPort_append, pathBehind, pathBehind, before_append marked]

/-- Behind an open authority a path begins, unless what was dropped spoils the host. -/
theorem continuation_of_open {authority : List Char}
    (read : readAuthority scheme authority [] = .ok base)
    (stays : ∀ char ∈ authority ++ lost, endsPath char = false) :
    Continuation chars lost base fun ending =>
      readAuthority scheme (authority ++ lost) ('/' :: ending) := by
  by_cases accepted : ∃ url, readAuthority scheme (authority ++ lost) ['/'] = .ok url
  · obtain ⟨bare, readBare⟩ := accepted
    refine .path fun ending isEnding => ?_
    have longer : ∃ url, readAuthority scheme (authority ++ lost) ('/' :: ending) = .ok url :=
      (isReadFrom_of_readAuthority readBare).exists_readAuthority (Or.inl rfl)
    obtain ⟨url, reads⟩ := longer
    have behind : behindPort (authority ++ lost) ('/' :: ending) =
        behindPort (authority ++ lost) [] ++ '/' :: ending := behindPort_append _ [] _
    have noMark : ∀ char ∈ behindPort (authority ++ lost) [] ++ '/' :: ending,
        endsPath char = false := by
      refine List.forall_mem_append.mpr ⟨fun char member => stays char ?_, ?_⟩
      · simpa using behindPort_subset (authority ++ lost) [] member
      · exact isEnding.endsPath_eq_false
    exact ⟨url, reads, (isReadFrom_of_readAuthority reads).suffix_path isEnding behind noMark⟩
  · refine .refused ?_ fun ending _ url reads => accepted ?_
    · by_contra harmless
      obtain ⟨nothingLost, named⟩ := not_or.mp harmless
      rw [not_not.mp nothingLost, List.append_nil] at accepted
      exact accepted ((isReadFrom_of_readAuthority read).exists_readAuthority (Or.inr named))
    · exact (isReadFrom_of_readAuthority reads).exists_readAuthority (Or.inl rfl)

theorem continuation_of_readHierarchical (read : readHierarchical scheme rest = .ok base)
    (within : rest ⊆ chars) (low : ∀ char ∈ lost, isControlOrSpace char = true) :
    Continuation chars lost base fun ending =>
      readHierarchical scheme (rest ++ (lost ++ '/' :: ending)) := by
  rw [readHierarchical_eq] at read
  -- What was dropped at the end belongs to the authority when that is still open there.
  cases closes : startingAt (endsAuthority (isSpecial scheme)) rest with
  | nil =>
      have stays := startingAt_eq_nil_iff.mp closes
      have staysLost : ∀ char ∈ rest ++ lost, endsAuthority (isSpecial scheme) char = false := by
        intro char member
        rcases List.mem_append.mp member with inRest | inLost
        · exact stays char inRest
        · exact endsAuthority_eq_false_of_isControlOrSpace (low char inLost) _
      have opens : endsAuthority (isSpecial scheme) '/' = true := by
        simp [endsAuthority, isSlash_slash]
      have longer : ∀ ending, readHierarchical scheme (rest ++ (lost ++ '/' :: ending)) =
          readAuthority scheme (rest ++ lost) ('/' :: ending) := by
        intro ending
        rw [← List.append_assoc, readHierarchical_eq, before_append_of_no_separator staysLost,
          startingAt_append_of_no_separator staysLost]
        simp [before, startingAt, opens]
      rw [closes, before_of_no_separator stays] at read
      simp only [longer]
      exact continuation_of_open read fun char member =>
        endsPath_eq_false_of_endsAuthority (staysLost char member)
  | cons first others =>
      have isClosed : startingAt (endsAuthority (isSpecial scheme)) rest ≠ [] := by
        simp [closes]
      have longer : ∀ ending, readHierarchical scheme (rest ++ (lost ++ '/' :: ending)) =
          readAuthority scheme (before (endsAuthority (isSpecial scheme)) rest)
            (first :: others ++ (lost ++ '/' :: ending)) := by
        intro ending
        rw [readHierarchical_eq, before_append isClosed, startingAt_append isClosed, closes]
      have whole : before (endsAuthority (isSpecial scheme)) rest ++ first :: others = rest :=
        closes ▸ List.takeWhile_append_dropWhile
      rw [closes] at read
      simp only [longer]
      exact continuation_of_closed read (whole.symm ▸ within) low

/-- The path of an address without an authority. -/
def pathAlone : List Char → List Char
  | '/' :: segments => readPath false segments
  | chars => percentEncode isControl chars

theorem readWithoutAuthority_path (chars : List Char) :
    (readWithoutAuthority scheme chars).path = pathAlone (before endsPath chars) := by
  simp only [readWithoutAuthority]
  split
  · rename_i segments same
    rw [same, pathAlone]
  · rename_i notRooted
    rw [pathAlone]
    exact notRooted

theorem IsEnding.suffix_pathAlone {ending : List Char} (isEnding : IsEnding ending)
    (chars : List Char) : '/' :: ending <:+ pathAlone (chars ++ '/' :: ending) := by
  have written : '/' :: ending <:+ percentEncode isControl (chars ++ '/' :: ending) := by
    rw [percentEncode, List.flatMap_append, ← percentEncode, ← percentEncode,
      isEnding.unencoded]
    exact List.suffix_append _ _
  unfold pathAlone
  split
  · rename_i segments same
    cases chars with
    | nil =>
        obtain rfl := (List.cons.inj same).2
        exact isEnding.suffix_readPath_self false
    | cons first others =>
        obtain rfl := (List.cons.inj same).2
        exact isEnding.suffix_readPath false others
  · exact written

/-- Without an authority the path goes on, or the query or fragment. -/
theorem continuation_of_readWithoutAuthority (within : rest ⊆ chars)
    (low : ∀ char ∈ lost, isControlOrSpace char = true) :
    Continuation chars lost base fun ending =>
      .ok (readWithoutAuthority scheme (rest ++ (lost ++ '/' :: ending))) := by
  by_cases marked : startingAt endsPath rest = []
  · refine .path fun ending isEnding => ⟨_, rfl, ?_⟩
    have noMark := isEnding.endsPath_append_eq_false (startingAt_eq_nil_iff.mp marked) low
    refine ⟨?_, ?_⟩
    · change readTail false _ = (none, none)
      rw [startingAt_eq_nil_iff.mpr noMark]
      rfl
    · rw [← List.append_assoc] at noMark ⊢
      rw [readWithoutAuthority_path, before_of_no_separator noMark]
      exact isEnding.suffix_pathAlone _
  · refine .tail (exists_mark_of_startingAt_ne_nil within marked)
      (readWithoutAuthority scheme rest).path fun ending _ => ⟨_, rfl, ?_, ?_⟩
    · have longer := startingAt_append marked (lost ++ '/' :: ending)
      exact readTail_ne_none false (by rw [longer]; simp [marked])
    · rw [readWithoutAuthority_path, readWithoutAuthority_path, before_append marked]

/-- In a special scheme the slashes before the authority are dropped, in any number. -/
theorem continuation_of_special (special : isSpecial scheme = true)
    (read : readHierarchical scheme (rest.dropWhile (isSlash true)) = .ok base)
    (within : rest ⊆ chars) (low : ∀ char ∈ lost, isControlOrSpace char = true) :
    Continuation chars lost base fun ending =>
      readHierarchical scheme ((rest ++ (lost ++ '/' :: ending)).dropWhile (isSlash true)) := by
  have notEmpty : rest.dropWhile (isSlash true) ≠ [] := by
    intro empty
    rw [empty, readHierarchical_eq] at read
    have named := (isReadFrom_of_readAuthority read).named
    simp [lacksHost, hostAndPort, splitUser, splitPort, before, special] at named
  have longer : ∀ back, (rest ++ back).dropWhile (isSlash true) =
      rest.dropWhile (isSlash true) ++ back := by
    intro back
    rw [List.dropWhile_append, if_neg (by simpa using notEmpty)]
  simp only [longer]
  have inRest : rest.dropWhile (isSlash true) ⊆ rest := (List.dropWhile_suffix _).subset
  exact continuation_of_readHierarchical read (List.Subset.trans inRest within) low

/-- A longer text opens with two slashes if the first one did, or if it was a slash. -/
theorem opens_with_two_slashes {ending authority : List Char} (isEnding : IsEnding ending)
    (low : ∀ char ∈ lost, isControlOrSpace char = true)
    (same : rest ++ (lost ++ '/' :: ending) = '/' :: '/' :: authority) :
    (∃ opened, rest = '/' :: '/' :: opened) ∨ (rest = ['/'] ∧ lost = []) := by
  have lost_head : ∀ others, lost ++ '/' :: ending = '/' :: others → lost = [] := by
    intro others opens
    cases lost with
    | nil => rfl
    | cons first more =>
        obtain rfl := (List.cons.inj opens).1
        exact absurd (low '/' List.mem_cons_self) (by decide)
  match rest, same with
  | [], same =>
      obtain rfl := lost_head _ same
      have rooted : ending = '/' :: authority := (List.cons.inj same).2
      exact absurd (by rw [rooted]; rfl) isEnding.notRooted
  | [first], same =>
      obtain ⟨rfl, opens⟩ := List.cons.inj same
      exact Or.inr ⟨rfl, lost_head _ opens⟩
  | first :: second :: opened, same =>
      obtain ⟨rfl, opens⟩ := List.cons.inj same
      obtain ⟨rfl, _⟩ := List.cons.inj opens
      exact Or.inl ⟨opened, rfl⟩

theorem continuation_of_readBody (notFile : scheme ≠ "file".toList)
    (read : readBody scheme rest = .ok base) (within : rest ⊆ chars)
    (low : ∀ char ∈ lost, isControlOrSpace char = true) :
    Continuation chars lost base fun ending =>
      readBody scheme (rest ++ (lost ++ '/' :: ending)) := by
  have isNoFile : ¬ (scheme == "file".toList) = true := by simpa using notFile
  unfold readBody at read ⊢
  rw [if_neg isNoFile] at read
  simp only [if_neg isNoFile]
  by_cases special : isSpecial scheme = true
  · rw [if_pos special] at read
    simp only [if_pos special]
    exact continuation_of_special special read within low
  · rw [if_neg special] at read
    simp only [if_neg special]
    by_cases twoSlashes : ∃ opened, rest = '/' :: '/' :: opened
    · obtain ⟨opened, rfl⟩ := twoSlashes
      have inRest : opened ⊆ '/' :: '/' :: opened :=
        List.Subset.trans (List.subset_cons_self _ _) (List.subset_cons_self _ _)
      exact continuation_of_readHierarchical read (List.Subset.trans inRest within) low
    · have alone : base = readWithoutAuthority scheme rest := by
        split at read
        · exact absurd ⟨_, rfl⟩ twoSlashes
        · exact (Except.ok.inj read).symm
      by_cases swallows : rest = ['/'] ∧ lost = []
      · obtain ⟨rfl, rfl⟩ := swallows
        refine .swallowed (by rw [alone]; rfl) scheme (Bool.eq_false_iff.mpr special)
          fun ending _ => rfl
      · have goesOn : Continuation chars lost base fun ending =>
            .ok (readWithoutAuthority scheme (rest ++ (lost ++ '/' :: ending))) :=
          continuation_of_readWithoutAuthority within low
        refine goesOn.congr fun ending isEnding => ?_
        split
        · rename_i authority same
          rcases opens_with_two_slashes isEnding low same with both | one
          · exact absurd both twoSlashes
          · exact absurd one swallows
        · rfl

end Continuation

/-- An address that is not that of a file becomes another in one of four ways when a slash
and an ending are put behind it. -/
theorem continuation_of_parseChars {chars : List Char} {base : Url}
    (read : parseChars chars = .ok base) (notFile : base.scheme ≠ "file".toList) :
    ∃ lost, (dropEndWhile isControlOrSpace chars = chars → lost = []) ∧
      Continuation chars lost base fun ending => parseChars (chars ++ '/' :: ending) := by
  obtain ⟨rest, split, read⟩ := exists_splitScheme?_of_parseChars read
  obtain ⟨first, word, whole, _⟩ := splitScheme?_eq_some_iff.mp split
  have within : rest ⊆ chars := by
    intro char inRest
    exact mem_of_mem_significant (by rw [whole]; simp [inRest])
  obtain ⟨lost, low, kept, longer⟩ := significant_append (by rw [whole]; simp)
  refine ⟨lost, kept, (continuation_of_readBody notFile read within low).congr ?_⟩
  intro ending isEnding
  refine parseChars_eq_readBody ?_
  rw [longer ending isEnding]
  exact splitScheme?_append split _

end PublicSite.Url
