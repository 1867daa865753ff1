import PublicSite.Json.Record
import PublicSite.Proofs.Json.Members

/-!
# Records that are read from values

What a record reads from a value in which every field that it asks for is there once,
or is left out and has a default.  Each rule is about one way to put decoders together,
so that a record is read as its definition is built.  Members that no field asks for do
not matter.
-/

namespace PublicSite.Json

variable {α β : Type}

namespace Value

theorem draftMembers_eq_map (members : List (String × Value)) :
    draftMembers members = members.map fun member => (some member.1, member.2.draft) := by
  induction members with
  | nil => rfl
  | cons member rest ih => rw [draftMembers, ih, List.map_cons]

theorem some_mem_map_fst_draftMembers {name : String} {members : List (String × Value)} :
    some name ∈ (draftMembers members).map Prod.fst ↔ name ∈ members.map Prod.fst := by
  simp [draftMembers_eq_map]

end Value

/-! ## Decoders -/

namespace Decoder

/-- The decoder reads a value as a result. -/
def Reads (decode : Decoder α) (value : Value) (result : α) : Prop :=
  decode value.draft = .ok result

theorem reads_text (value : String) : text.Reads (.text value) value :=
  rfl

theorem reads_list {decode : Decoder α} {write : α → Value}
    (each : ∀ item, decode.Reads (write item) item) (items : List α) :
    (list decode).Reads (.array (items.map write)) items := by
  have all : Decoder.items decode (Value.draftItems (items.map write)) = .ok items := by
    induction items with
    | nil => rfl
    | cons item rest ih =>
        rw [List.map_cons, Value.draftItems, Decoder.items, each item, ih]
        rfl
  rw [Reads, Value.draft, list, all]
  rfl

theorem reads_choice {saysNothing : Draft → Except Fault Unit} {ofName? : String → Option α}
    {name : String} {value : α} (named : ofName? name = some value) :
    (choice saysNothing ofName?).Reads (.text name) value := by
  change parsed ofName? (.text name) = .ok value
  simp only [parsed, text, bind, Except.bind, named]
  rfl

end Decoder

namespace Found

/-- The value that was found, if any. -/
def value? : Found α → Option α
  | .value found => some found
  | .fault _ _ => none

theorem value?_apply (left : Found (α → β)) (right : Found α) :
    (left.apply right).value? = left.value?.bind fun f => right.value?.map f := by
  cases left with
  | value f => cases right <;> rfl
  | fault position kind =>
      cases right with
      | value => rfl
      | fault second other => rw [Found.apply]; split <;> rfl

end Found

/-! ## Records -/

namespace Record

/-- The record finds a result in the members of an object, wherever its first field
stands in a declaration. -/
def Finds (record : Record α) (members : List (String × Value)) (result : α) : Prop :=
  ∀ index, record.read (.members (Value.draftMembers members) true) index = .value result

variable {members : List (String × Value)}

theorem Finds.map {record : Record α} {result : α} (finds : record.Finds members result)
    (f : α → β) : (f <$> record).Finds members (f result) := by
  intro index
  change (Found.value f).apply (record.read _ (index + 0)) = _
  rw [finds]
  rfl

theorem Finds.seq {left : Record (α → β)} {right : Record α} {f : α → β} {result : α}
    (leftFinds : left.Finds members f) (rightFinds : right.Finds members result) :
    (left <*> right).Finds members (f result) := by
  intro index
  change (left.read _ index).apply (right.read _ (index + left.fieldCount)) = _
  rw [leftFinds, rightFinds]
  rfl

variable {name : String}

/-- The places of a name that no member has. -/
theorem places_eq_nil {members : List (Option String × Draft)}
    (absent : some name ∉ members.map Prod.fst) (start : Nat) :
    (members.zipIdx start).filterMap (fun place =>
      if place.1.1.any [name].contains then some (place.1.2, place.2) else none) = [] := by
  rw [List.filterMap_eq_nil_iff]
  intro place member
  have inside : place.1 ∈ members := List.fst_mem_of_mem_zipIdx member
  have differs : place.1.1 ≠ some name := by
    intro same
    exact absent (same ▸ List.mem_map_of_mem inside)
  cases named : place.1.1 with
  | none => rfl
  | some other => simpa [named] using differs

/-- The places of a name that stands once among the members. -/
theorem places_eq {draft : Draft} {front back : List (Option String × Draft)}
    (notBefore : some name ∉ front.map Prod.fst) (notBehind : some name ∉ back.map Prod.fst) :
    ((front ++ (some name, draft) :: back).zipIdx.filterMap fun place =>
      if place.1.1.any [name].contains then some (place.1.2, place.2) else none) =
      [(draft, front.length)] := by
  rw [List.zipIdx_append, List.filterMap_append, places_eq_nil notBefore, List.zipIdx_cons,
    List.filterMap_cons, places_eq_nil notBehind]
  simp

/-- What a field reads from the one member of its name. -/
theorem read_field_of_mem (decode : Decoder α) (default? : Option α) {value : Value}
    (distinct : (members.map Prod.fst).Nodup) (member : (name, value) ∈ members) (index : Nat) :
    ∃ position, (field [name] decode default?).read (.members (Value.draftMembers members) true)
      index = match decode value.draft with
        | .error kind => .fault position kind
        | .ok result => .value result := by
  obtain ⟨front, back, rfl⟩ := List.append_of_mem member
  rw [List.map_append, List.map_cons, List.nodup_append, List.nodup_cons] at distinct
  obtain ⟨-, ⟨notBehind, -⟩, apart⟩ := distinct
  have notBefore : name ∉ front.map Prod.fst :=
    fun inside => apart name inside name List.mem_cons_self rfl
  have split : Value.draftMembers (front ++ (name, value) :: back) =
      Value.draftMembers front ++ (some name, value.draft) :: Value.draftMembers back := by
    simp only [Value.draftMembers_eq_map, List.map_append, List.map_cons]
  refine ⟨(Value.draftMembers front).length, ?_⟩
  change fromPlaces decode _ (List.filterMap _ (List.zipIdx (Value.draftMembers _))) = _
  rw [split, places_eq (mt Value.some_mem_map_fst_draftMembers.mp notBefore)
    (mt Value.some_mem_map_fst_draftMembers.mp notBehind)]
  simp only [fromPlaces]
  cases decode value.draft <;> rfl

/-- A field of a name that no member has is absent. -/
theorem read_field_of_not_mem (decode : Decoder α) (default? : Option α)
    (missing : name ∉ members.map Prod.fst) (index : Nat) :
    (field [name] decode default?).read (.members (Value.draftMembers members) true) index =
      absent (Value.draftMembers members).length true default? := by
  change fromPlaces decode _ (List.filterMap _ (List.zipIdx (Value.draftMembers _))) = _
  rw [places_eq_nil (mt Value.some_mem_map_fst_draftMembers.mp missing)]
  rfl

theorem finds_required {decode : Decoder α} {value : Value} {result : α}
    (distinct : (members.map Prod.fst).Nodup) (member : (name, value) ∈ members)
    (reads : decode.Reads value result) : (required name decode).Finds members result := by
  intro index
  obtain ⟨position, read⟩ := read_field_of_mem decode none distinct member index
  have found : decode value.draft = .ok result := reads
  rw [found] at read
  exact read

/-- The members of a value all have names. -/
theorem allNamed_draftMembers (members : List (String × Value)) :
    allNamed (Value.draftMembers members) = .value () := by
  have everyName :
      (Value.draftMembers members).findIdx? (fun member => member.1.isNone) = none := by
    rw [Value.draftMembers_eq_map]
    simp
  rw [allNamed, everyName]

theorem decodeObject_draft (record : Record α) (members : List (String × Value)) :
    record.decodeObject (Value.object members).draft =
      match record.read (.members (Value.draftMembers members) true) 0 with
      | .fault _ kind => .error kind
      | .value value => .ok value := by
  rw [Value.draft, decodeObject, allNamed_draftMembers]
  cases record.read _ 0 <;> rfl

theorem reads_object {record : Record α} {result : α} (finds : record.Finds members result) :
    record.decode.Reads (.object members) result := by
  change record.decodeObject (Value.object members).draft = .ok result
  rw [decodeObject_draft, finds]

-- A name with a lone surrogate is let pass inside a member that no field asks for, and not
-- as the name of a member itself.
example : Decoder.ofText (required "a" Decoder.text).decode
    "\x7b\"x\":\x7b\"\\ud800\":1\x7d,\"a\":\"b\"\x7d" = .ok "b" := by
  cbv

example : Decoder.ofText (required "a" Decoder.text).decode
    "\x7b\"\\ud800\":1,\"a\":\"b\"\x7d" = .error .malformed := by
  cbv

/-! ## What a record reads, if anything -/

/-- What a record reads from members, if anything. -/
def reading? (record : Record α) (members : List (String × Value)) (index : Nat) : Option α :=
  (record.read (.members (Value.draftMembers members) true) index).value?

theorem reading?_seq (left : Record (α → β)) (right : Record α) (members : List (String × Value))
    (index : Nat) : reading? (left <*> right) members index =
      (reading? left members index).bind fun f =>
        (reading? right members (index + left.fieldCount)).map f :=
  Found.value?_apply _ _

/-- A field with a default has it when it is left out. -/
theorem reading?_withDefault {name : String} {decode : Decoder α} {default : α}
    {members : List (String × Value)} (distinct : (members.map Prod.fst).Nodup) (index : Nat) :
    reading? (withDefault name decode default) members index =
      match memberOf? name members with
      | none => some default
      | some value => (decode value.draft).toOption := by
  rw [reading?, withDefault]
  cases found : memberOf? name members with
  | none =>
      rw [read_field_of_not_mem decode _ (memberOf?_eq_none_iff.mp found)]
      rfl
  | some value =>
      obtain ⟨position, read⟩ :=
        read_field_of_mem decode (some default) distinct (mem_of_memberOf?_eq_some found) index
      change _ = (decode value.draft).toOption
      rw [read]
      cases decode value.draft <;> rfl

theorem toOption_decodeObject (record : Record α) (members : List (String × Value)) :
    (record.decodeObject (Value.object members).draft).toOption = reading? record members 0 := by
  rw [decodeObject_draft, reading?]
  cases record.read _ 0 <;> rfl

end Record

end PublicSite.Json
