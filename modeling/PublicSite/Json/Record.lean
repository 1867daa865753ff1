import PublicSite.Json.Reader

/-!
# Reading records

A `Decoder` reads a value of one type from a draft.  A `Record` reads a structure
from the members of an object, found by name, or from the items of an array,
taken in the order in which the fields are declared.

Members that no field asks for are ignored, but each must have a name that can
be used.  A field that is given twice, under one name or under two, is a fault at
the second place.  Of several faults the one that stands first in the text is
reported, and a missing field only after the closing brace was read.
-/

namespace PublicSite.Json

/-- A reader of values of one type. -/
abbrev Decoder (α : Type) := Draft → Except Fault α

namespace Decoder

/-- The fault of a draft that holds no value of the type asked for. -/
def mismatch : Draft → Fault
  | .broken => .malformed
  | .unusable => .malformed
  | _ => .misshapen

/-- A text. -/
def text : Decoder String
  | .text value => .ok value
  | draft => .error (mismatch draft)

/-- A truth value. -/
def bool : Decoder Bool
  | .bool value => .ok value
  | draft => .error (mismatch draft)

/-- A whole number from zero up to a limit; a fraction is refused even when it
is whole. -/
def natural (limit : Nat) : Decoder Nat
  | .integer value =>
      if 0 ≤ value ∧ value ≤ limit then .ok value.toNat else .error .misshapen
  | draft => .error (mismatch draft)

/-- A double; a whole number is taken as one. -/
def float : Decoder Float
  | .float value => .ok value
  | .integer value => .ok (Float.ofInt value)
  | draft => .error (mismatch draft)

/-- A value that may be `null`. -/
def optional {α : Type} (decode : Decoder α) : Decoder (Option α)
  | .null => .ok none
  | draft => (decode draft).map some

/-- The items of a list, read in order. -/
def items {α : Type} (decode : Decoder α) : List Draft → Except Fault (List α)
  | [] => .ok []
  | draft :: rest => do
      let first ← decode draft
      let others ← items decode rest
      return first :: others

/-- A list of values of one type. -/
def list {α : Type} (decode : Decoder α) : Decoder (List α)
  | .array drafts closed => do
      let values ← items decode drafts
      if closed then return values else throw .malformed
  | draft => .error (mismatch draft)

/-- Any value, with the members of its objects in the order of their names. -/
def free : Decoder Value := fun draft =>
  match draft.value? with
  | some value => .ok value.ordered
  | none => .error .malformed

/-- A text that a partial function understands. -/
def parsed {α : Type} (parse? : String → Option α) : Decoder α := fun draft => do
  match parse? (← text draft) with
  | some value => return value
  | none => throw .misshapen

/-- A name from a fixed set: the name itself, or an object with the name as its
only member and a payload that says nothing. -/
def choice {α : Type} (saysNothing : Draft → Except Fault Unit) (ofName? : String → Option α) :
    Decoder α
  | .object ((none, _) :: _) _ => .error .malformed
  | .object ((some name, payload) :: others) closed => do
      match ofName? name with
      | none => throw .misshapen
      | some value =>
          saysNothing payload
          if !others.isEmpty then throw .misshapen
          if closed then return value else throw .malformed
  | .object [] closed => .error (if closed then .misshapen else .malformed)
  | draft => parsed ofName? draft

/-- The payload `null`. -/
def nullOnly : Draft → Except Fault Unit
  | .null => .ok ()
  | draft => .error (mismatch draft)

/-- The payload `null` or an empty object. -/
def nullOrEmpty : Draft → Except Fault Unit
  | .null => .ok ()
  | .object [] true => .ok ()
  | draft => .error (mismatch draft)

end Decoder

/-- What reading a part of a record has found: its value, or a fault and the
place of the member where it stands. -/
inductive Found (α : Type) where
  | value (value : α)
  | fault (position : Nat) (kind : Fault)

namespace Found

/-- Apply a function to what was found. -/
def map {α β : Type} (f : α → β) : Found α → Found β
  | .value found => .value (f found)
  | .fault position kind => .fault position kind

/-- Put two parts together; of two faults the one that stands first counts. -/
def apply {α β : Type} : Found (α → β) → Found α → Found β
  | .value f, .value found => .value (f found)
  | .value _, .fault position kind => .fault position kind
  | .fault position kind, .value _ => .fault position kind
  | .fault left leftKind, .fault right rightKind =>
      if right < left then .fault right rightKind else .fault left leftKind

end Found

/-- The parts of a record as it is written. -/
inductive Parts where
  | members (members : List (Option String × Draft)) (closed : Bool)
  | items (items : List Draft) (closed : Bool)

/-- A reader of records: the number of its fields, and how they are read when
the first of them has a given place in the declaration. -/
structure Record (α : Type) where
  fieldCount : Nat
  read : Parts → (index : Nat) → Found α

namespace Record

/-- A field is absent: its default, or a fault behind the last part. -/
def absent {α : Type} (count : Nat) (closed : Bool) : Option α → Found α
  | some value => if closed then .value value else .fault count .malformed
  | none => .fault count (if closed then .misshapen else .malformed)

/-- Read one field from its places in an object. -/
def fromPlaces {α : Type} (decode : Decoder α) (onAbsent : Found α) :
    List (Draft × Nat) → Found α
  | [] => onAbsent
  | (draft, position) :: others =>
      match decode draft, others with
      | .error kind, _ => .fault position kind
      | .ok _, (_, second) :: _ => .fault second .misshapen
      | .ok value, [] => .value value

/-- A field with its accepted names, the reader of its value, and the value that
it has when it is left out, if it may be. -/
def field {α : Type} (names : List String) (decode : Decoder α) (default? : Option α) :
    Record α where
  fieldCount := 1
  read parts index :=
    match parts with
    | .members members closed =>
        let places := members.zipIdx.filterMap fun place =>
          if place.1.1.any names.contains then some (place.1.2, place.2) else none
        fromPlaces decode (absent members.length closed default?) places
    | .items items closed =>
        match items[index]? with
        | some draft => fromPlaces decode (absent items.length closed default?) [(draft, index)]
        | none => absent items.length closed default?

/-- A field that must be given. -/
def required {α : Type} (name : String) (decode : Decoder α) : Record α :=
  field [name] decode none

/-- A field that has a value when it is left out. -/
def withDefault {α : Type} (name : String) (decode : Decoder α) (default : α) : Record α :=
  field [name] decode (some default)

instance : Applicative Record where
  pure value := ⟨0, fun _ _ => .value value⟩
  seq left right :=
    { fieldCount := left.fieldCount + (right ()).fieldCount
      read := fun parts index =>
        (left.read parts index).apply ((right ()).read parts (index + left.fieldCount)) }

/-- The members all have names; the first that has none is a fault. -/
def allNamed (members : List (Option String × Draft)) : Found Unit :=
  match members.findIdx? fun member => member.1.isNone with
  | some position => .fault position .malformed
  | none => .value ()

/-- Read a record from an object. -/
def decodeObject {α : Type} (record : Record α) : Decoder α
  | .object members closed =>
      let found := record.read (.members members closed) 0
      match (found.map fun value _ => value).apply (allNamed members) with
      | .fault _ kind => .error kind
      | .value value => if closed then .ok value else .error .malformed
  | draft => .error (Decoder.mismatch draft)

/-- Read a record from an object, or from an array of its fields in the order of
their declaration.  Items behind the last field make the text malformed. -/
def decode {α : Type} (record : Record α) : Decoder α
  | .array items closed =>
      match record.read (.items items closed) 0 with
      | .fault _ kind => .error kind
      | .value value =>
          if closed && items.length ≤ record.fieldCount then .ok value else .error .malformed
  | draft => record.decodeObject draft

end Record

/-- Read a value from a text that holds nothing else. -/
def Decoder.ofText {α : Type} (decode : Decoder α) (text : String) : Except Fault α := do
  let (draft, rest) := Draft.read text
  let value ← decode draft
  if (skipSpace rest).isEmpty then return value else throw .malformed

end PublicSite.Json
