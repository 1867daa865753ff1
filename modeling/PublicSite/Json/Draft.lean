import PublicSite.Json.Value

/-!
# JSON as it is read

A text is judged while it is read, so of two faults the one that stands first in
the text is reported.  A draft is what reading has found so far: the tree of a
text up to the place where the text stops being JSON, if there is one.  A text
that is wholly JSON has a draft without such a place.

A number too large for a double, a lone surrogate escape, or a value nested too
deeply is `unusable`: it is skipped without complaint where nothing asks for it,
and malformed where something does.  So is a member whose name has a lone
surrogate escape: it has no name, and only an object that is skipped may have it.
-/

namespace PublicSite.Json

/-- What reading a text has found. -/
inductive Draft where
  /-- The text stops being JSON here. -/
  | broken
  /-- A value that can be skipped but not used. -/
  | unusable
  | null
  | bool (value : Bool)
  | integer (value : Int)
  | float (value : Float)
  | text (value : String)
  /-- An array; `closed` when its closing bracket was read. -/
  | array (items : List Draft) (closed : Bool)
  /-- An object; `closed` when its closing brace was read.  A name that cannot be used
  is left out. -/
  | object (members : List (Option String × Draft)) (closed : Bool)
  deriving Inhabited

/-- Why a text gives no value of the type asked for. -/
inductive Fault where
  /-- The text is not JSON. -/
  | malformed
  /-- The text is JSON but its value has another shape. -/
  | misshapen
  deriving DecidableEq, Repr

namespace Value

mutual

/-- A value, as a draft in which nothing is missing. -/
def draft : Value → Draft
  | .null => .null
  | .bool value => .bool value
  | .integer value => .integer value
  | .float value => .float value
  | .text value => .text value
  | .array items => .array (draftItems items) true
  | .object members => .object (draftMembers members) true

/-- `draft` on each item. -/
def draftItems : List Value → List Draft
  | [] => []
  | item :: rest => item.draft :: draftItems rest

/-- `draft` on the value of each member. -/
def draftMembers : List (String × Value) → List (Option String × Draft)
  | [] => []
  | (name, value) :: rest => (some name, value.draft) :: draftMembers rest

end

end Value

namespace Draft

mutual

/-- The value of a draft in which nothing is missing, with its members as they
were written. -/
def value? : Draft → Option Value
  | .broken => none
  | .unusable => none
  | .null => some .null
  | .bool value => some (.bool value)
  | .integer value => some (.integer value)
  | .float value => some (.float value)
  | .text value => some (.text value)
  | .array items closed => if closed then (values? items).map .array else none
  | .object members closed => if closed then (members? members).map .object else none

/-- The values of all items. -/
def values? : List Draft → Option (List Value)
  | [] => some []
  | item :: rest => do return (← item.value?) :: (← values? rest)

/-- The values of all members. -/
def members? : List (Option String × Draft) → Option (List (String × Value))
  | [] => some []
  | (name?, draft) :: rest => do return (← name?, ← draft.value?) :: (← members? rest)

end

/-- A draft is whole when the text did not stop being JSON inside it. -/
def isWhole : Draft → Bool
  | .broken => false
  | .array _ closed => closed
  | .object _ closed => closed
  | _ => true

end Draft

mutual

theorem value?_draft (value : Value) : value.draft.value? = some value := by
  cases value with
  | array items => simp [Value.draft, Draft.value?, values?_draftItems items]
  | object members => simp [Value.draft, Draft.value?, members?_draftMembers members]
  | _ => simp [Value.draft, Draft.value?]

theorem values?_draftItems (items : List Value) :
    Draft.values? (Value.draftItems items) = some items := by
  cases items with
  | nil => rfl
  | cons item rest =>
      simp [Value.draftItems, Draft.values?, value?_draft item, values?_draftItems rest]

theorem members?_draftMembers (members : List (String × Value)) :
    Draft.members? (Value.draftMembers members) = some members := by
  cases members with
  | nil => rfl
  | cons member rest =>
      obtain ⟨name, value⟩ := member
      simp [Value.draftMembers, Draft.members?, value?_draft value,
        members?_draftMembers rest]

end

end PublicSite.Json
