/-!
# JSON values

A JSON value keeps whole numbers and fractional numbers apart, because they are
written differently and a fraction is refused where a whole number is expected.
The members of an object are a list in the order in which they are written.

A free value, one that no record type describes, has its members in the order of
their names and each name once; `Value.ordered` brings a value into that form.
-/

namespace PublicSite.Json

/-- A JSON value. -/
inductive Value where
  | null
  | bool (value : Bool)
  | integer (value : Int)
  | float (value : Float)
  | text (value : String)
  | array (items : List Value)
  | object (members : List (String × Value))
  deriving Inhabited

/-- Insert a member into a list ordered by name.  A member of the same name is
replaced. -/
def insertMember {α : Type} (name : String) (value : α) :
    List (String × α) → List (String × α)
  | [] => [(name, value)]
  | (other, kept) :: rest =>
      if name < other then (name, value) :: (other, kept) :: rest
      else if name = other then (name, value) :: rest
      else (other, kept) :: insertMember name value rest

/-- The members in the order of their names; of members with one name the last
one counts. -/
def orderMembers {α : Type} (members : List (String × α)) : List (String × α) :=
  members.foldl (fun ordered member => insertMember member.1 member.2 ordered) []

namespace Value

mutual

/-- The value with the members of every object in the order of their names. -/
def ordered : Value → Value
  | .array items => .array (orderedItems items)
  | .object members => .object (orderMembers (orderedMembers members))
  | value => value

/-- `ordered` on each item. -/
def orderedItems : List Value → List Value
  | [] => []
  | item :: rest => item.ordered :: orderedItems rest

/-- `ordered` on the value of each member. -/
def orderedMembers : List (String × Value) → List (String × Value)
  | [] => []
  | (name, value) :: rest => (name, value.ordered) :: orderedMembers rest

end

/-- The value of the first member with a name. -/
def member? (name : String) : Value → Option Value
  | .object members => (members.find? fun member => member.1 == name).map Prod.snd
  | _ => none

/-- The text of a text value. -/
def text? : Value → Option String
  | .text value => some value
  | _ => none

/-- A text, or null in place of one that is absent. -/
def textOrNull : Option String → Value
  | none => .null
  | some value => .text value

/-- An object with a member only for each value that is there. -/
def ofPresent (members : List (String × Option Value)) : Value :=
  .object (members.filterMap fun member => member.2.map fun value => (member.1, value))

end Value

end PublicSite.Json
