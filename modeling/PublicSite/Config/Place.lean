import PublicSite.Json.Value
import PublicSite.Text.Ascii
import PublicSite.Text.Blank
import PublicSite.Text.Pieces

/-!
# Places in a tree of settings

A place is written as a name followed by steps: a point and a name, or a number
in brackets, which counts from the end when it is negative.  Putting a value at
a place makes room for it: what stands in the way and is no table or list gives
way to one, and a list grows as far as needed.

A table is laid over what is there member by member; anything else replaces it.
-/

namespace PublicSite.Config

open PublicSite.Text PublicSite.Json

/-- One step into a tree. -/
inductive Step where
  | member (name : String)
  | item (index : Int)
  deriving DecidableEq, Repr

/-! ## Reading places -/

/-- A character of a name in a place. -/
def isNameChar (char : Char) : Bool :=
  char.isAlphanum || char == '_' || char == '-'

/-- A space or a tab, which may stand around a number in brackets. -/
def isGap (char : Char) : Bool :=
  char == ' ' || char == '\t'

/-- A number in brackets. -/
def readIndex? (chars : List Char) : Option Int :=
  let inner := dropEndWhile isGap (chars.dropWhile isGap)
  let digits := match inner with
    | '-' :: rest => rest
    | _ => inner
  let value : Int := decimalValue digits
  if digits.isEmpty || !digits.all Char.isDigit || value ≥ 0x8000000000000000 then none
  else some (if inner.head? == some '-' then -value else value)

/-- The steps behind the first name. -/
def readSteps? : (fuel : Nat) → List Char → Option (List Step)
  | _, [] => some []
  | 0, _ => none
  | fuel + 1, '.' :: rest =>
      let name := rest.takeWhile isNameChar
      if name.isEmpty then none
      else (readSteps? fuel (rest.dropWhile isNameChar)).map (.member (String.ofList name) :: ·)
  | fuel + 1, '[' :: rest => do
      let (inside, later) ← splitOnce? (· == ']') rest
      return .item (← readIndex? inside) :: (← readSteps? fuel later)
  | _, _ => none

/-- The steps to the place that a key names; a key that is not written as a place
is a single name. -/
def place (key : String) : List Step :=
  let chars := key.toList
  let name := chars.takeWhile isNameChar
  match name.isEmpty, readSteps? chars.length (chars.dropWhile isNameChar) with
  | false, some steps => .member (String.ofList name) :: steps
  | _, _ => [.member key]

/-! ## Putting values -/

/-- The members of a table; anything else has none. -/
def membersOf : Value → List (String × Value)
  | .object members => members
  | _ => []

/-- The items of a list; anything else has none. -/
def itemsOf : Value → List Value
  | .array items => items
  | _ => []

/-- The value under a name, `null` if there is none. -/
def valueOf (name : String) (members : List (String × Value)) : Value :=
  ((members.find? fun member => member.1 == name).map Prod.snd).getD .null

mutual

/-- A value laid over what is there. -/
def overlay : (incoming there : Value) → Value
  | .object members, there => .object (overlayMembers members (membersOf there))
  | incoming, _ => incoming

/-- Members laid over a table one by one. -/
def overlayMembers : (incoming there : List (String × Value)) → List (String × Value)
  | [], there => there
  | (name, value) :: rest, there =>
      overlayMembers rest (insertMember name (overlay value (valueOf name there)) there)

end

/-- Change one item of a list, which grows as far as needed: at its end, or at
its front when the place lies before it. -/
def changeItem (change : Value → Value) (index : Int) (items : List Value) : List Value :=
  let distance := items.length + index
  let room : Nat := if index ≥ 0 then index.toNat + 1 - items.length else 0
  let roomBefore : Nat := if index < 0 then (-distance).toNat else 0
  let grown := List.replicate roomBefore .null ++ items ++ List.replicate room .null
  let target : Nat := if index ≥ 0 then index.toNat else distance.toNat
  grown.modify target change

/-- Change the value at the end of some steps, making room for it. -/
def changeAt (change : Value → Value) : List Step → Value → Value
  | [], there => change there
  | .member name :: rest, there =>
      let members := membersOf there
      .object (insertMember name (changeAt change rest (valueOf name members)) members)
  | .item index :: rest, there =>
      .array (changeItem (changeAt change rest) index (itemsOf there))

/-- Lay a value over the tree at the place that a key names. -/
def put (key : String) (value tree : Value) : Value :=
  changeAt (overlay value) (place key) tree

end PublicSite.Config
