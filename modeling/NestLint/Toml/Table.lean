import NestLint.Json.Basic

/-!
Tables while a document is being read. A table remembers how it came about, because that decides
what may still be added to it: a table with a header of its own gets no second header, a table that
dotted keys made gets no header at all, and dotted keys only go through tables that dotted keys
made.
-/

namespace NestLint.Toml

inductive Origin where
  /-- By a header of its own, or as the whole document. -/
  | header
  /-- By a header of a table inside it. -/
  | passed
  /-- By a dotted key. -/
  | dotted
deriving DecidableEq, Repr

inductive Item where
  | value (value : Json)
  | table (origin : Origin) (entries : List (String × Item))
  /-- The tables under a repeated header, the last one first. -/
  | series (tables : List Item)

namespace Item

abbrev Entries := List (String × Item)

def find? (key : String) (entries : Entries) : Option Item :=
  (entries.find? fun (k, _) => k == key).map Prod.snd

def put (key : String) (item : Item) : Entries → Entries
  | [] => [(key, item)]
  | (k, old) :: rest => if k = key then (key, item) :: rest else (k, old) :: put key item rest

/-- Changes the innermost table of a path. Tables that are missing are made, with the given origin.
A series stands for its last table. Dotted keys do not go through tables with a header. -/
def within (made : Origin) (change : Origin → Entries → Option (Origin × Entries)) :
    List String → Origin × Entries → Option (Origin × Entries)
  | [], (origin, entries) => change origin entries
  | key :: path, (origin, entries) =>
    let updated : Option Item :=
      match find? key entries with
      | none => (within made change path (made, [])).map fun (o, es) => .table o es
      | some (.value _) => none
      | some (.table o es) =>
        if made = .dotted ∧ o = .header then none
        else (within made change path (o, es)).map fun (o, es) => .table o es
      | some (.series (.table o es :: before)) =>
        (within made change path (o, es)).map fun (o, es) => .series (.table o es :: before)
      | some (.series _) => none
    updated.map fun item => (origin, put key item entries)

/-- Adds a value under a dotted key. The last table on the way must be one that dotted keys made,
unless the key has no dots. -/
def addPair (path : List String) (key : String) (item : Item) (table : Origin × Entries) :
    Option (Origin × Entries) :=
  within .dotted
    (fun origin entries =>
      if (origin == .dotted) == path.isEmpty then none
      else if (find? key entries).isSome then none
      else some (origin, put key item entries))
    path table

def openTable (path : List String) (key : String) (document : Origin × Entries) :
    Option (Origin × Entries) :=
  within .passed
    (fun origin entries =>
      match find? key entries with
      | none => some (origin, put key (.table .header []) entries)
      | some (.table .passed inner) => some (origin, put key (.table .header inner) entries)
      | some _ => none)
    path document

def openSeries (path : List String) (key : String) (document : Origin × Entries) :
    Option (Origin × Entries) :=
  within .passed
    (fun origin entries =>
      match find? key entries with
      | none => some (origin, put key (.series [.table .header []]) entries)
      | some (.series tables) =>
        some (origin, put key (.series (.table .header [] :: tables)) entries)
      | some _ => none)
    path document

def addUnder (header path : List String) (key : String) (item : Item)
    (document : Origin × Entries) : Option (Origin × Entries) :=
  within .passed (fun origin entries => addPair path key item (origin, entries)) header document

mutual
def json : Item → Json
  | .value found => found
  | .table _ entries => .object (Json.sortMembers (jsonEntries entries))
  | .series tables => .array (jsonItems tables).reverse
def jsonEntries : List (String × Item) → List (String × Json)
  | [] => []
  | (key, item) :: rest => (key, json item) :: jsonEntries rest
def jsonItems : List Item → List Json
  | [] => []
  | item :: rest => json item :: jsonItems rest
end

end Item

end NestLint.Toml
