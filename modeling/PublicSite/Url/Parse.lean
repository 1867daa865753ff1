import PublicSite.Url.Basic
import PublicSite.Text.Blank

/-!
# Reading URLs

An absolute URL is read from a text in stages: scheme, authority, path, query
and fragment.  Control characters and spaces around the text are dropped, and so
are tabs and line ends everywhere in it.  In a special scheme a backslash counts
as a slash.
-/

namespace PublicSite.Url

open PublicSite.Text

/-! ## Segments of a path -/

/-- A segment that stands for the directory itself. -/
def isSingleDot (segment : List Char) : Bool :=
  [".", "%2e"].contains (String.ofList (asciiLower segment))

/-- A segment that stands for the directory above. -/
def isDoubleDot (segment : List Char) : Bool :=
  ["..", ".%2e", "%2e.", "%2e%2e"].contains (String.ofList (asciiLower segment))

/-- A letter and a colon or bar, which name a drive. -/
def isDriveLetter : List Char → Bool
  | [letter, mark] => letter.isAlpha && (mark == ':' || mark == '|')
  | _ => false

/-- The segments above, given in reverse.  A drive letter is never dropped. -/
def above : List (List Char) → List (List Char)
  | [] => []
  | last :: others => if isDriveLetter last then last :: others else others

/-- Resolve dot segments.  `kept` holds the segments before, in reverse; the last
segment leaves an empty one behind when it is dropped. -/
def resolveDots (kept : List (List Char)) : List (List Char) → List (List Char)
  | [] => kept.reverse
  | [last] =>
      if isDoubleDot last then ([] :: above kept).reverse
      else if isSingleDot last then ([] :: kept).reverse
      else (last :: kept).reverse
  | segment :: others =>
      if isDoubleDot segment then resolveDots (above kept) others
      else if isSingleDot segment then resolveDots kept others
      else resolveDots (segment :: kept) others

/-- The segments of a path with a slash before each. -/
def printSegments (segments : List (List Char)) : List Char :=
  segments.flatMap ('/' :: ·)

/-- A slash, or in a special scheme a backslash. -/
def isSlash (special : Bool) (char : Char) : Bool :=
  char == '/' || (special && char == '\\')

/-- Read a path, given without its first slash. -/
def readPath (special : Bool) (chars : List Char) : List Char :=
  let segments := (pieces (isSlash special) chars).map (percentEncode inPathSet)
  printSegments (resolveDots [] segments)

/-! ## Scheme, query and fragment -/

/-- A character of a scheme behind its first letter. -/
def isSchemeChar (char : Char) : Bool :=
  char.isAlphanum || char == '+' || char == '-' || char == '.'

/-- The scheme in small letters, and what follows its colon. -/
def splitScheme? (chars : List Char) : Option (List Char × List Char) :=
  match chars with
  | first :: _ =>
      if first.isAlpha then
        match chars.dropWhile isSchemeChar with
        | ':' :: rest => some (asciiLower (chars.takeWhile isSchemeChar), rest)
        | _ => none
      else none
  | [] => none

/-- The rest of a text behind the path: its query and its fragment, encoded. -/
def readTail (special : Bool) (chars : List Char) :
    Option (List Char) × Option (List Char) :=
  let beforeFragment := before (· == '#') chars
  let fragment := match startingAt (· == '#') chars with
    | _ :: rest => some (percentEncode inFragmentSet rest)
    | [] => none
  let query := match beforeFragment with
    | '?' :: rest =>
        some (percentEncode (if special then inSpecialQuerySet else inQuerySet) rest)
    | _ => none
  (query, fragment)

/-- A query or a fragment begins here. -/
def endsPath (char : Char) : Bool :=
  char == '?' || char == '#'

/-! ## Authority -/

/-- The user name and password of an authority, encoded.  A colon with nothing
behind it gives no password. -/
def readUser (chars : List Char) : List Char × Option (List Char) :=
  match splitOnce? (· == ':') chars with
  | none => (percentEncode inUserSet chars, none)
  | some (username, password) =>
      (percentEncode inUserSet username,
        if password.isEmpty then none else some (percentEncode inUserSet password))

/-- Cut an authority at its last at-sign. -/
def splitUser (authority : List Char) : Option (List Char) × List Char :=
  let reversed := authority.reverse
  match reversed.dropWhile (· != '@') with
  | [] => (none, authority)
  | _ :: user => (some user.reverse, (reversed.takeWhile (· != '@')).reverse)

/-- Cut a host and port at the first colon outside brackets. -/
def splitPort (inBrackets : Bool) : List Char → List Char × Option (List Char)
  | [] => ([], none)
  | char :: rest =>
      if char = ':' && !inBrackets then ([], some rest)
      else
        let inside := if char = '[' then true else if char = ']' then false else inBrackets
        let (host, port) := splitPort inside rest
        (char :: host, port)

/-- Read a port: no digits and the scheme's own port give none. -/
def readPort (scheme digits : List Char) : Except ParseError (Option Nat) :=
  if !digits.all Char.isDigit then .error .invalidPort
  else
    let port := decimalValue digits
    if port > 65535 then .error .invalidPort
    else if digits.isEmpty || defaultPort? scheme == some port then .ok none
    else .ok (some port)

/-- The text of a port, and what stands behind it: a backslash ends a port in every
scheme, and the path begins with it. -/
def cutPort (chars : List Char) : List Char × List Char :=
  (before (· == '\\') chars, startingAt (· == '\\') chars)

/-- The path behind an authority. -/
def pathBehind (special : Bool) (rest : List Char) : List Char :=
  match before endsPath rest with
  | slash :: segments =>
      if isSlash special slash then readPath special segments
      else readPath special (slash :: segments)
  | [] => if special then ['/'] else []

/-- Read an authority and what follows it.  `rest` begins with the first slash,
question mark or number sign behind the authority. -/
def readAuthority (scheme authority rest : List Char) : Except ParseError Url := do
  let special := isSpecial scheme
  let (user, hostAndPort) := splitUser authority
  let (username, password) := match user with
    | some user => readUser user
    | none => ([], none)
  let (hostText, portText) := splitPort false hostAndPort
  let namesUser := !username.isEmpty || password.isSome || (user == some [] && !rest.isEmpty)
  if hostText.isEmpty && (special || portText.isSome || namesUser) then throw .emptyHost
  let host ← if special then Host.parseSpecial hostText else Host.parseOpaque hostText
  let (digits, behindPort) := cutPort (portText.getD [])
  let port ← readPort scheme digits
  let later := behindPort ++ rest
  let (query, fragment) := readTail special (startingAt endsPath later)
  return { scheme, username, password, host := some host, port, path := pathBehind special later,
           query, fragment }

/-- Read what follows the scheme and its two slashes. -/
def readHierarchical (scheme chars : List Char) : Except ParseError Url :=
  let ends := fun char => isSlash (isSpecial scheme) char || endsPath char
  readAuthority scheme (before ends chars) (startingAt ends chars)

/-- Read a path without an authority and what follows it. -/
def readWithoutAuthority (scheme chars : List Char) : Url :=
  let pathText := before endsPath chars
  let path := match pathText with
    | '/' :: segments => readPath false segments
    | _ => percentEncode isControl pathText
  let (query, fragment) := readTail false (startingAt endsPath chars)
  { scheme, username := [], password := none, host := none, port := none, path, query,
    fragment }

/-! ## Files -/

/-- Read what follows the scheme of a file: an optional host, which must be well
formed, and a path. -/
def readFile (scheme chars : List Char) : Except ParseError Url := do
  let ends := fun char => isSlash true char || endsPath char
  let (hostText, rest) := match chars with
    | first :: second :: later =>
        if isSlash true first && isSlash true second then
          let host := before ends later
          if isDriveLetter host then ([], later) else (host, startingAt ends later)
        else ([], chars)
    | _ => ([], chars)
  let host ←
    if hostText.isEmpty then pure (Host.domain []) else Host.parseSpecial hostText
  let host := if host == .domain "localhost".toList then .domain [] else host
  let (query, fragment) := readTail true (startingAt endsPath rest)
  return { scheme, username := [], password := none, host := some host, port := none,
           path := pathBehind true rest, query, fragment }

/-! ## The whole text -/

/-- Control characters and the space, which are dropped around a URL. -/
def isControlOrSpace (char : Char) : Bool :=
  char.toNat ≤ 0x20

/-- Tab and the line ends, which are dropped inside a URL. -/
def isTabOrLineEnd (char : Char) : Bool :=
  char == '\t' || char == '\n' || char == '\r'

/-- The characters of a URL: those around it and the tabs and line ends inside it
are dropped. -/
def significant (chars : List Char) : List Char :=
  (dropEndWhile isControlOrSpace (chars.dropWhile isControlOrSpace)).filter fun char =>
    !isTabOrLineEnd char

/-- Read an absolute URL. -/
def parseChars (chars : List Char) : Except ParseError Url :=
  match splitScheme? (significant chars) with
  | none => .error .relativeWithoutBase
  | some (scheme, rest) =>
      if scheme == "file".toList then readFile scheme rest
      else if isSpecial scheme then
        readHierarchical scheme (rest.dropWhile (isSlash true))
      else
        match rest with
        | '/' :: '/' :: authority => readHierarchical scheme authority
        | _ => .ok (readWithoutAuthority scheme rest)

/-- Read an absolute URL from a string. -/
def parse (text : String) : Except ParseError Url :=
  parseChars text.toList

end PublicSite.Url
