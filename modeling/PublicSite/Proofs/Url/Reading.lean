import PublicSite.Proofs.Url.Continuation
import PublicSite.Proofs.Url.Form
import PublicSite.Proofs.Url.Host

/-!
# What reading leaves

Whatever text a URL of a special scheme was read from, its parts are in a form in
which nothing is left to be done: what must be encoded is encoded, the dots of its path
are resolved, its host is one that is read as itself, and its port is not the one that
its scheme has anyway.  Changing its query to other pairs keeps to this form.
-/

namespace PublicSite.Url

open PublicSite.Text

/-! ## Paths -/

/-- The segments of a path in the form in which reading leaves them. -/
structure AreRead (segments : List (List Char)) : Prop where
  notEmpty : segments ≠ []
  plain : ArePlain segments
  noSlash : ∀ segment ∈ segments, ∀ char ∈ segment, isSlash true char = false

theorem sparesBytes_isSlash : SparesBytes (isSlash true) :=
  ⟨by decide, by decide⟩

theorem areRead_root : AreRead [[]] where
  notEmpty := by decide
  plain := by decide
  noSlash := by simp

theorem mem_above {segment : List Char} {kept : List (List Char)}
    (member : segment ∈ above kept) : segment ∈ kept := by
  unfold above at member
  split at member
  · exact member
  · split at member
    · exact member
    · exact List.mem_cons_of_mem _ member

/-- What holds of the segments before, of the empty one and of those that are no dots
holds of all when the dots are resolved. -/
theorem forall_mem_resolveDots {holds : List Char → Prop} (ofEmpty : holds [])
    {kept segments : List (List Char)} (ofKept : ∀ segment ∈ kept, holds segment)
    (ofOthers : ∀ segment ∈ segments, isSingleDot segment = false →
      isDoubleDot segment = false → holds segment) :
    ∀ segment ∈ resolveDots kept segments, holds segment := by
  have ofAbove : ∀ {others : List (List Char)}, (∀ segment ∈ others, holds segment) →
      ∀ segment ∈ above others, holds segment :=
    fun ofAll segment member => ofAll segment (mem_above member)
  have ofCons : ∀ {first : List Char} {others : List (List Char)}, holds first →
      (∀ segment ∈ others, holds segment) → ∀ segment ∈ first :: others, holds segment :=
    fun ofFirst ofAll => List.forall_mem_cons.mpr ⟨ofFirst, ofAll⟩
  have ofReverse : ∀ {others : List (List Char)}, (∀ segment ∈ others, holds segment) →
      ∀ segment ∈ others.reverse, holds segment :=
    fun ofAll segment member => ofAll segment (List.mem_reverse.mp member)
  induction kept, segments using resolveDots.induct with
  | case1 kept => exact ofReverse ofKept
  | case2 kept last double =>
      rw [resolveDots, if_pos double]
      exact ofReverse (ofCons ofEmpty (ofAbove ofKept))
  | case3 kept last notDouble single =>
      rw [resolveDots, if_neg notDouble, if_pos single]
      exact ofReverse (ofCons ofEmpty ofKept)
  | case4 kept last notDouble notSingle =>
      rw [resolveDots, if_neg notDouble, if_neg notSingle]
      have ofLast := ofOthers last List.mem_cons_self (Bool.eq_false_iff.mpr notSingle)
        (Bool.eq_false_iff.mpr notDouble)
      exact ofReverse (ofCons ofLast ofKept)
  | case5 kept segment others more double ih =>
      rw [resolveDots, if_pos double]
      · exact ih (ofAbove ofKept) fun other member =>
          ofOthers other (List.mem_cons_of_mem segment member)
      · exact more
  | case6 kept segment others more notDouble single ih =>
      rw [resolveDots, if_neg notDouble, if_pos single]
      · exact ih ofKept fun other member =>
          ofOthers other (List.mem_cons_of_mem segment member)
      · exact more
  | case7 kept segment others more notDouble notSingle ih =>
      have ofSegment := ofOthers segment List.mem_cons_self (Bool.eq_false_iff.mpr notSingle)
        (Bool.eq_false_iff.mpr notDouble)
      rw [resolveDots, if_neg notDouble, if_neg notSingle]
      · exact ih (ofCons ofSegment ofKept) fun other member =>
          ofOthers other (List.mem_cons_of_mem segment member)
      · exact more

theorem resolveDots_ne_nil {kept segments : List (List Char)} (notEmpty : segments ≠ []) :
    resolveDots kept segments ≠ [] := by
  induction kept, segments using resolveDots.induct with
  | case1 kept => exact absurd rfl notEmpty
  | case2 kept last double => simp [resolveDots, double]
  | case3 kept last notDouble single => simp [resolveDots, notDouble, single]
  | case4 kept last notDouble notSingle => simp [resolveDots, notDouble, notSingle]
  | case5 kept segment others more double ih =>
      rw [resolveDots, if_pos double]
      · exact ih more
      · exact more
  | case6 kept segment others more notDouble single ih =>
      rw [resolveDots, if_neg notDouble, if_pos single]
      · exact ih more
      · exact more
  | case7 kept segment others more notDouble notSingle ih =>
      rw [resolveDots, if_neg notDouble, if_neg notSingle]
      · exact ih more
      · exact more

/-- A path is read into segments that stand for themselves. -/
theorem exists_areRead_readPath (chars : List Char) :
    ∃ segments, AreRead segments ∧ readPath true chars = printSegments segments := by
  have noSlash : ∀ segment ∈ (pieces (isSlash true) chars).map (percentEncode inPathSet),
      ∀ char ∈ segment, isSlash true char = false := by
    intro segment member
    obtain ⟨piece, isPiece, rfl⟩ := List.mem_map.mp member
    exact eq_false_of_mem_percentEncode sparesBytes_isSlash
      (separates_eq_false_of_mem_pieces isPiece)
  have encoded : ∀ segment ∈ (pieces (isSlash true) chars).map (percentEncode inPathSet),
      percentEncode inPathSet segment = segment := by
    intro segment member
    obtain ⟨piece, _, rfl⟩ := List.mem_map.mp member
    exact percentEncode_eq_self sparesBytes_inPathSet.eq_false_of_mem_percentEncode
  refine ⟨_, ⟨?_, ?_, ?_⟩, rfl⟩
  · exact resolveDots_ne_nil (by simpa using pieces_ne_nil _ chars)
  · exact forall_mem_resolveDots (by decide) (by simp) fun segment member notSingle notDouble =>
      ⟨encoded segment member, notSingle, notDouble⟩
  · exact forall_mem_resolveDots (by simp) (by simp) fun segment member _ _ =>
      noSlash segment member

/-- The path behind an authority is one of segments that stand for themselves. -/
theorem exists_areRead_pathBehind (rest : List Char) :
    ∃ segments, AreRead segments ∧ pathBehind true rest = printSegments segments := by
  unfold pathBehind
  split
  · split
    · exact exists_areRead_readPath _
    · exact exists_areRead_readPath _
  · exact ⟨[[]], areRead_root, rfl⟩

/-! ## Users, ports and tails -/

/-- Nothing in a text has to be encoded. -/
def IsEncoded (inSet : Char → Bool) (chars : List Char) : Prop :=
  ∀ char ∈ chars, inSet char = false

theorem isEncoded_nil (inSet : Char → Bool) : IsEncoded inSet [] := by
  simp [IsEncoded]

theorem isEncoded_percentEncode {inSet : Char → Bool} (spares : SparesBytes inSet)
    (chars : List Char) : IsEncoded inSet (percentEncode inSet chars) :=
  spares.eq_false_of_mem_percentEncode

/-- A user name and a password in the form in which reading leaves them. -/
structure IsUserRead (username : List Char) (password : Option (List Char)) : Prop where
  name : IsEncoded inUserSet username
  secret : ∀ word ∈ password, word ≠ [] ∧ IsEncoded inUserSet word

theorem isUserRead_userOf (authority : List Char) :
    IsUserRead (userOf authority).1 (userOf authority).2 := by
  have encoded := isEncoded_percentEncode sparesBytes_inUserSet
  unfold userOf
  split
  · unfold readUser
    split
    · exact ⟨encoded _, by simp⟩
    · refine ⟨encoded _, fun word isWord => ?_⟩
      dsimp only at isWord
      split at isWord
      · exact nomatch isWord
      · rename_i given
        obtain rfl := Option.some.inj isWord
        exact ⟨percentEncode_ne_nil (by simpa using given), encoded _⟩
  · exact ⟨isEncoded_nil _, by simp⟩

/-- A port that is kept is one, and not that of the scheme. -/
theorem port_of_readPort {scheme digits : List Char} {port : Option Nat}
    (read : readPort scheme digits = .ok port) :
    ∀ value ∈ port, value ≤ 65535 ∧ defaultPort? scheme ≠ some value := by
  unfold readPort at read
  split at read
  · exact nomatch read
  · dsimp only at read
    split at read
    · exact nomatch read
    · rename_i small
      split at read
      · obtain rfl := Except.ok.inj read
        simp
      · rename_i given
        obtain rfl := Except.ok.inj read
        intro value isValue
        obtain rfl := Option.some.inj isValue
        have notDefault := (not_or.mp (mt Bool.or_eq_true_iff.mpr given)).2
        exact ⟨Nat.not_lt.mp small, by simpa using notDefault⟩

/-- A query and a fragment in the form in which reading leaves them. -/
structure IsTailRead (query fragment : Option (List Char)) : Prop where
  query : ∀ text ∈ query, IsEncoded inSpecialQuerySet text
  fragment : ∀ text ∈ fragment, IsEncoded inFragmentSet text

theorem isTailRead_readTail (chars : List Char) :
    IsTailRead (readTail true chars).1 (readTail true chars).2 := by
  unfold readTail
  constructor
  case query =>
    dsimp only
    split
    · rintro text isText
      obtain rfl := Option.some.inj isText
      exact isEncoded_percentEncode sparesBytes_inSpecialQuerySet _
    · simp
  case fragment =>
    dsimp only
    split
    · rintro text isText
      obtain rfl := Option.some.inj isText
      exact isEncoded_percentEncode sparesBytes_inFragmentSet _
    · simp

/-! ## URLs -/

/-- A URL of a special scheme, other than that of files, in the form in which reading
leaves it. -/
structure IsRead (url : Url) : Prop where
  special : isSpecial url.scheme = true
  notFile : url.scheme ≠ "file".toList
  user : IsUserRead url.username url.password
  host : ∃ host, url.host = some host ∧ host.IsRead
  port : ∀ value ∈ url.port, value ≤ 65535 ∧ defaultPort? url.scheme ≠ some value
  path : ∃ segments, AreRead segments ∧ url.path = printSegments segments
  tail : IsTailRead url.query url.fragment

theorem isRead_of_readAuthority {scheme authority rest : List Char} {url : Url}
    (special : isSpecial scheme = true) (notFile : scheme ≠ "file".toList)
    (read : readAuthority scheme authority rest = .ok url) : IsRead url := by
  obtain ⟨_, host, port, isHost, isPort, rfl⟩ := readAuthority_eq_ok_iff.mp read
  rw [readHost, if_pos special] at isHost
  constructor
  case special => exact special
  case notFile => exact notFile
  case user => exact isUserRead_userOf authority
  case host => exact ⟨host, rfl, Host.isRead_of_parseSpecial isHost⟩
  case port => exact port_of_readPort isPort
  case path =>
    rw [assemble, special]
    exact exists_areRead_pathBehind _
  case tail =>
    rw [assemble, special]
    exact isTailRead_readTail _

/-- What is read from any text has the form that reading leaves. -/
theorem isRead_of_parseChars {chars : List Char} {url : Url} (read : parseChars chars = .ok url)
    (special : isSpecial url.scheme = true) (notFile : url.scheme ≠ "file".toList) :
    IsRead url := by
  obtain ⟨rest, _, read⟩ := exists_splitScheme?_of_parseChars read
  unfold readBody at read
  rw [if_neg (by simpa using notFile), if_pos special, readHierarchical_eq] at read
  exact isRead_of_readAuthority special notFile read

/-! ## Changing the query -/

theorem isAscii_of_isFormWritten {char : Char} (written : isFormWritten char = true) :
    Domain.isAscii char = true := by
  simp only [isFormWritten, isFormPlain, Bool.or_eq_true, beq_iff_eq] at written
  rcases written with ((alphanum | mark) | rfl) | rfl
  · exact Domain.isAscii_of_isAlphanum alphanum
  · have marks : char = '*' ∨ char = '-' ∨ char = '.' ∨ char = '_' := by simpa using mark
    rcases marks with rfl | rfl | rfl | rfl
    all_goals decide
  · decide
  · decide

theorem isEncoded_of_isFormWritten : ∀ char, Domain.isAscii char = true →
    isFormWritten char = true → inSpecialQuerySet char = false :=
  Domain.forall_ascii (by decide)

/-- What stands for itself in a form need not be encoded in a query. -/
theorem isEncoded_formText (pairs : List Pair) : IsEncoded inSpecialQuerySet (formText pairs) := by
  have plain : ∀ char, isFormWritten char = true → inSpecialQuerySet char = false :=
    fun char written => isEncoded_of_isFormWritten char (isAscii_of_isFormWritten written) written
  intro char member
  rcases mem_join member with separator | ⟨part, isPart, inPart⟩
  · obtain rfl := List.mem_singleton.mp separator
    decide
  · obtain ⟨pair, _, rfl⟩ := List.mem_map.mp isPart
    rcases List.mem_append.mp inPart with inName | behind
    · exact plain char (isFormWritten_formEncode inName)
    · rcases List.mem_cons.mp behind with rfl | inValue
      · decide
      · exact plain char (isFormWritten_formEncode inValue)

theorem IsRead.withPairs {url : Url} (isRead : IsRead url) (replacement : List Pair) :
    IsRead (url.withPairs replacement) where
  special := isRead.special
  notFile := isRead.notFile
  user := isRead.user
  host := isRead.host
  port := isRead.port
  path := isRead.path
  tail := {
    query := by
      intro text isText
      obtain rfl := Option.some.inj isText
      exact isEncoded_formText replacement
    fragment := isRead.tail.fragment }

end PublicSite.Url
