import Mathlib.Logic.Basic
import PublicSite.Proofs.Failure
import PublicSite.Url.Parse

/-!
# The stages of reading an address

What is known of an address that was read from an authority and what follows it,
when an authority can be read at all, and that every stage keeps the scheme.
-/

namespace PublicSite.Url

open PublicSite.Text

/-! ## The authority and what follows it -/

/-- A character ends the authority of an address. -/
def endsAuthority (special : Bool) (char : Char) : Bool :=
  isSlash special char || endsPath char

theorem readHierarchical_eq (scheme chars : List Char) :
    readHierarchical scheme chars =
      readAuthority scheme (before (endsAuthority (isSpecial scheme)) chars)
        (startingAt (endsAuthority (isSpecial scheme)) chars) :=
  rfl

/-- The text of the host in an authority, and that of the port. -/
def hostAndPort (authority : List Char) : List Char × Option (List Char) :=
  splitPort false (splitUser authority).2

/-- The text of the port in an authority, without what stands behind it. -/
def portText (authority : List Char) : List Char :=
  (cutPort ((hostAndPort authority).2.getD [])).1

/-- What follows the port of an authority. -/
def behindPort (authority rest : List Char) : List Char :=
  (cutPort ((hostAndPort authority).2.getD [])).2 ++ rest

/-- An authority names no host where it must.  A sign for an empty user is let pass at
the end of a text. -/
def lacksHost (scheme authority : List Char) (isLast : Bool) : Bool :=
  let user := (splitUser authority).1
  let (username, password) := match user with
    | some user => readUser user
    | none => ([], none)
  (hostAndPort authority).1.isEmpty &&
    (isSpecial scheme || (hostAndPort authority).2.isSome ||
      (!username.isEmpty || password.isSome || (user == some [] && !isLast)))

/-- Read the host of a scheme. -/
def readHost (special : Bool) (chars : List Char) : Except ParseError Host :=
  if special then Host.parseSpecial chars else Host.parseOpaque chars

/-- The user name and the password in an authority. -/
def userOf (authority : List Char) : List Char × Option (List Char) :=
  match (splitUser authority).1 with
  | some user => readUser user
  | none => ([], none)

/-- The address of an authority and what follows it, with the host and the port that were
read in it. -/
def assemble (scheme authority rest : List Char) (host : Host) (port : Option Nat) : Url where
  scheme := scheme
  username := (userOf authority).1
  password := (userOf authority).2
  host := some host
  port := port
  path := pathBehind (isSpecial scheme) (behindPort authority rest)
  query := (readTail (isSpecial scheme) (startingAt endsPath (behindPort authority rest))).1
  fragment := (readTail (isSpecial scheme) (startingAt endsPath (behindPort authority rest))).2

/-- An authority is read when it names a host where it must, and both the host and the port
can be read. -/
theorem readAuthority_eq_ok_iff {scheme authority rest : List Char} {url : Url} :
    readAuthority scheme authority rest = .ok url ↔
      lacksHost scheme authority rest.isEmpty = false ∧ ∃ host port,
        readHost (isSpecial scheme) (hostAndPort authority).1 = .ok host ∧
        readPort scheme (portText authority) = .ok port ∧
        assemble scheme authority rest host port = url := by
  have opened : readAuthority scheme authority rest =
      if lacksHost scheme authority rest.isEmpty then throw .emptyHost
      else readHost (isSpecial scheme) (hostAndPort authority).1 >>= fun host =>
        readPort scheme (portText authority) >>= fun port =>
          .ok (assemble scheme authority rest host port) := by
    unfold readAuthority lacksHost readHost assemble
    cases isSpecial scheme <;> rfl
  rw [opened]
  constructor
  · intro read
    rcases ite_eq_iff.mp read with ⟨_, refused⟩ | ⟨named, next⟩
    · exact nomatch refused
    · obtain ⟨host, isHost, next⟩ := bind_eq_ok next
      obtain ⟨port, isPort, finished⟩ := bind_eq_ok next
      exact ⟨Bool.eq_false_iff.mpr named, host, port, isHost, isPort, Except.ok.inj finished⟩
  · rintro ⟨named, host, port, isHost, isPort, rfl⟩
    rw [if_neg (Bool.eq_false_iff.mp named), isHost, isPort]
    rfl

/-- What is known of an address that was read from an authority and what follows it. -/
structure IsReadFrom (url : Url) (scheme authority rest : List Char) : Prop where
  scheme_eq : url.scheme = scheme
  named : lacksHost scheme authority rest.isEmpty = false
  host : ∃ host, url.host = some host ∧
    readHost (isSpecial scheme) (hostAndPort authority).1 = .ok host
  port : ∃ port, readPort scheme (portText authority) = .ok port
  path_eq : url.path = pathBehind (isSpecial scheme) (behindPort authority rest)
  tail_eq : (url.query, url.fragment) =
    readTail (isSpecial scheme) (startingAt endsPath (behindPort authority rest))

theorem isReadFrom_of_readAuthority {scheme authority rest : List Char} {url : Url}
    (read : readAuthority scheme authority rest = .ok url) :
    IsReadFrom url scheme authority rest := by
  obtain ⟨named, host, port, isHost, isPort, rfl⟩ := readAuthority_eq_ok_iff.mp read
  exact ⟨rfl, named, ⟨host, rfl, isHost⟩, ⟨port, isPort⟩, rfl, rfl⟩

example : ((parse "app://h:80\\cb").toOption.map fun url => (url.port, String.ofList url.path)) =
    some (some 80, "/\\cb") := by
  decide +kernel

theorem exists_readAuthority {scheme authority rest : List Char} {host : Host}
    {port : Option Nat} (named : lacksHost scheme authority rest.isEmpty = false)
    (isHost : readHost (isSpecial scheme) (hostAndPort authority).1 = .ok host)
    (isPort : readPort scheme (portText authority) = .ok port) :
    ∃ url, readAuthority scheme authority rest = .ok url :=
  ⟨_, readAuthority_eq_ok_iff.mpr ⟨named, host, port, isHost, isPort, rfl⟩⟩

theorem behindPort_append (authority rest other : List Char) :
    behindPort authority (rest ++ other) = behindPort authority rest ++ other :=
  (List.append_assoc _ rest other).symm

theorem splitPort_subset (inBrackets : Bool) (chars : List Char) :
    (splitPort inBrackets chars).2.getD [] ⊆ chars := by
  induction chars generalizing inBrackets with
  | nil => exact List.Subset.refl []
  | cons char rest ih =>
      rw [splitPort]
      split
      · exact List.subset_cons_self char rest
      · exact List.subset_cons_of_subset char (ih _)

theorem splitUser_subset (authority : List Char) : (splitUser authority).2 ⊆ authority := by
  unfold splitUser
  dsimp only
  split
  · exact List.Subset.refl authority
  · intro char member
    have taken := List.takeWhile_prefix (fun char : Char => char != '@') (l := authority.reverse)
    exact List.mem_reverse.mp (taken.subset (List.mem_reverse.mp member))

/-- What follows a port is a part of the authority and what follows that. -/
theorem behindPort_subset (authority rest : List Char) :
    behindPort authority rest ⊆ authority ++ rest := by
  have portBehind : (cutPort ((hostAndPort authority).2.getD [])).2 ⊆ authority :=
    List.Subset.trans (List.dropWhile_suffix _).subset
      (List.Subset.trans (splitPort_subset false _) (splitUser_subset authority))
  exact List.append_subset.mpr ⟨List.subset_append_of_subset_left rest portBehind,
    List.subset_append_right authority rest⟩

/-- An authority that was accepted is accepted again, unless it has no host and
something follows it for the first time. -/
theorem IsReadFrom.exists_readAuthority {scheme authority rest other : List Char} {url : Url}
    (parts : IsReadFrom url scheme authority rest)
    (alike : other.isEmpty = rest.isEmpty ∨ url.host ≠ some (.domain [])) :
    ∃ changed, readAuthority scheme authority other = .ok changed := by
  obtain ⟨host, hasHost, isHost⟩ := parts.host
  obtain ⟨port, isPort⟩ := parts.port
  have named : lacksHost scheme authority other.isEmpty = false := by
    rcases alike with sameEnd | notEmpty
    · rw [sameEnd]
      exact parts.named
    · have hostGiven : (hostAndPort authority).1.isEmpty = false := by
        rw [Bool.eq_false_iff]
        intro noHost
        have accepted := parts.named
        rw [readHost, List.isEmpty_iff.mp noHost] at isHost
        split at isHost <;> rename_i special
        · simp [lacksHost, noHost, special] at accepted
        · obtain rfl := Except.ok.inj isHost
          exact notEmpty hasHost
      simp [lacksHost, hostGiven]
  exact Url.exists_readAuthority named isHost isPort

/-! ## The scheme -/

/-- Read what follows the scheme and its colon. -/
def readBody (scheme rest : List Char) : Except ParseError Url :=
  if scheme == "file".toList then readFile scheme rest
  else if isSpecial scheme then readHierarchical scheme (rest.dropWhile (isSlash true))
  else
    match rest with
    | '/' :: '/' :: authority => readHierarchical scheme authority
    | _ => .ok (readWithoutAuthority scheme rest)

theorem parseChars_eq_readBody {chars scheme rest : List Char}
    (split : splitScheme? (significant chars) = some (scheme, rest)) :
    parseChars chars = readBody scheme rest := by
  rw [parseChars, split]
  rfl

theorem readFile_scheme {scheme chars : List Char} {url : Url}
    (read : readFile scheme chars = .ok url) : url.scheme = scheme := by
  unfold readFile at read
  dsimp only at read
  rcases ite_eq_iff.mp read with ⟨_, next⟩ | ⟨_, next⟩
  all_goals
    obtain ⟨host, _, finished⟩ := bind_eq_ok next
    obtain rfl := Except.ok.inj finished
    rfl

theorem readBody_scheme {scheme rest : List Char} {url : Url}
    (read : readBody scheme rest = .ok url) : url.scheme = scheme := by
  unfold readBody at read
  rcases ite_eq_iff.mp read with ⟨_, isFile⟩ | ⟨_, next⟩
  · exact readFile_scheme isFile
  · rcases ite_eq_iff.mp next with ⟨_, hierarchical⟩ | ⟨_, next⟩
    · exact (isReadFrom_of_readAuthority hierarchical).scheme_eq
    · split at next
      · exact (isReadFrom_of_readAuthority next).scheme_eq
      · obtain rfl := Except.ok.inj next
        rfl

/-- An address has the scheme that its text begins with. -/
theorem exists_splitScheme?_of_parseChars {chars : List Char} {url : Url}
    (read : parseChars chars = .ok url) :
    ∃ rest, splitScheme? (significant chars) = some (url.scheme, rest) ∧
      readBody url.scheme rest = .ok url := by
  cases split : splitScheme? (significant chars) with
  | none => simp [parseChars, split] at read
  | some parts =>
      obtain ⟨scheme, rest⟩ := parts
      rw [parseChars_eq_readBody split] at read
      obtain rfl := readBody_scheme read
      exact ⟨rest, rfl, read⟩

end PublicSite.Url
