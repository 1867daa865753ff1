import PublicSite.Json.Value

/-!
# The tree of a TOML document

A document is a series of headers and settings.  How a table came about decides
what may still be added to it: a table on the way to a header may get a header
of its own later, a table with its own header may not get a second one, and a
table made by a dotted key may only be added to by dotted keys under the same
header.  A value is set once.
-/

namespace PublicSite.Toml

open PublicSite.Json

/-- How a table came about. -/
inductive Origin where
  /-- It lies on the way to the table of a header. -/
  | passed
  /-- It has its own header. -/
  | headed
  /-- It lies on the way to the setting of a dotted key. -/
  | dotted
  deriving DecidableEq, Repr

/-- A part of the tree. -/
inductive Node where
  | leaf (value : Value)
  | table (origin : Origin) (entries : List (String × Node))
  /-- The tables of a repeated header, the newest first. -/
  | tables (items : List (List (String × Node)))

/-- The entries of a table. -/
abbrev Entries := List (String × Node)

namespace Node

mutual

/-- The value that a part of the tree stands for. -/
def value : Node → Value
  | .leaf value => value
  | .table _ entries => .object (members entries)
  | .tables items => .array (tableValues items).reverse

/-- The members of a table. -/
def members : List (String × Node) → List (String × Value)
  | [] => []
  | (name, node) :: rest => (name, node.value) :: members rest

/-- The values of several tables. -/
def tableValues : List (List (String × Node)) → List Value
  | [] => []
  | entries :: rest => .object (members entries) :: tableValues rest

end

end Node

namespace Entries

/-- The entry of a name. -/
def find? (entries : Entries) (name : String) : Option Node :=
  (List.find? (fun entry => entry.1 == name) entries).map Prod.snd

/-- Put an entry in place of one of the same name, or behind the others. -/
def put (name : String) (node : Node) : Entries → Entries
  | [] => [(name, node)]
  | (other, kept) :: rest =>
      if other == name then (name, node) :: rest else (other, kept) :: put name node rest

/-- Change the entries of the table that a header leads to, creating the tables
on the way; of repeated tables the newest one is meant. -/
def along (change : Entries → Option Entries) (entries : Entries) :
    List String → Option Entries
  | [] => change entries
  | name :: rest => do
      match entries.find? name with
      | none => return put name (.table .passed (← along change [] rest)) entries
      | some (.table origin inner) =>
          return put name (.table origin (← along change inner rest)) entries
      | some (.tables (newest :: older)) =>
          return put name (.tables ((← along change newest rest) :: older)) entries
      | some _ => none

/-- Open the table of a header that is not repeated. -/
def openTable (name : String) (entries : Entries) : Option Entries :=
  match entries.find? name with
  | none => some (put name (.table .headed []) entries)
  | some (.table .passed inner) => some (put name (.table .headed inner) entries)
  | some _ => none

/-- Open one more table of a repeated header. -/
def openRepeated (name : String) (entries : Entries) : Option Entries :=
  match entries.find? name with
  | none => some (put name (.tables [[]]) entries)
  | some (.tables items) => some (put name (.tables ([] :: items)) entries)
  | some _ => none

/-- Set a value under a dotted key. -/
def assign (value : Value) (entries : Entries) : List String → Option Entries
  | [] => none
  | [name] =>
      match entries.find? name with
      | none => some (put name (.leaf value) entries)
      | some _ => none
  | name :: rest => do
      match entries.find? name with
      | none => return put name (.table .dotted (← assign value [] rest)) entries
      | some (.table .headed _) => none
      | some (.table origin inner) =>
          return put name (.table origin (← assign value inner rest)) entries
      | some _ => none

end Entries

/-- A document as far as it was read: its tree, and the header in force. -/
structure Document where
  root : Entries
  header : List String

namespace Document

/-- A document of which nothing was read. -/
def empty : Document := ⟨[], []⟩

/-- What a document is made of. -/
inductive Statement where
  | header (path : List String)
  | repeatedHeader (path : List String)
  | setting (path : List String) (value : Value)

/-- Add a statement to a document, if it goes with what stands before it. -/
def add (document : Document) : Statement → Option Document
  | .header path => do
      let name ← path.getLast?
      return ⟨← document.root.along (Entries.openTable name) path.dropLast, path⟩
  | .repeatedHeader path => do
      let name ← path.getLast?
      return ⟨← document.root.along (Entries.openRepeated name) path.dropLast, path⟩
  | .setting path value => do
      return { document with
        root := ← document.root.along (fun entries => entries.assign value path)
          document.header }

/-- The value of a document. -/
def value (document : Document) : Value :=
  .object (Node.members document.root)

end Document

end PublicSite.Toml
