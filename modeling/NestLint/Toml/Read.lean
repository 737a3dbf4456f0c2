import NestLint.Toml.Scalar
import NestLint.Toml.Table

/-!
Reading TOML. A document is a sequence of lines: headers, which open a table, and pairs, which go
into the table that was opened last.
-/

namespace NestLint.Toml

/-- How deep values may be nested, and how many parts a dotted key may have. -/
def maxDepth : Nat := 79

def isBare (c : Char) : Bool := c.isAlphanum || c == '-' || c == '_'

def simpleKey : Reader String := do
  match ← peek with
  | some c =>
    if c = '"' ∨ c = '\'' then return String.ofList (← lineString)
    let key ← takeWhile isBare
    if key.isEmpty then fail
    return String.ofList key
  | none => fail

def keyParts : Nat → Reader (List String)
  | 0 => fail
  | fuel + 1 => do
    spaces
    let part ← simpleKey
    spaces
    if ← accept "." then return part :: (← keyParts fuel) else return [part]

def key : Reader (List String × String) := do
  let parts ← keyParts maxDepth
  match parts.getLast? with
  | some last => return (parts.dropLast, last)
  | none => fail

def comment : Reader Unit := do
  if ← accept "#" then
    let _ ← takeWhile isPrintable

def skipAll : Nat → Reader Unit
  | 0 => return ()
  | fuel + 1 => do
    spaces
    comment
    if ← newline? then skipAll fuel

def skipBetween : Reader Unit := do skipAll ((← get).length + 1)

mutual
/-- A value of at most `depth` levels; `fuel` bounds the number of items. -/
def value (depth : Nat) : Nat → Reader Json
  | 0 => fail
  | fuel + 1 => do
    match ← peek with
    | some '"' => string
    | some '\'' => string
    | some '[' =>
      let _ ← next
      if depth = 0 then fail
      return .array (← items (depth - 1) fuel)
    | some '{' =>
      let _ ← next
      if depth = 0 then fail
      spaces
      if ← accept "\x7d" then return .object []
      let table ← pairs (depth - 1) fuel (.header, [])
      return Item.json (.table table.1 table.2)
    | some 't' => expect "true"; return .bool true
    | some 'f' => expect "false"; return .bool false
    | some 'i' => expect "inf"; return .null
    | some 'n' => expect "nan"; return .null
    | some _ => numeric
    | none => fail
def items (depth : Nat) : Nat → Reader (List Json)
  | 0 => fail
  | fuel + 1 => do
    skipBetween
    if ← accept "]" then return []
    let item ← value depth fuel
    skipBetween
    if ← accept "," then return item :: (← items depth fuel)
    expect "]"
    return [item]
def pairs (depth : Nat) : Nat → Origin × Item.Entries → Reader (Origin × Item.Entries)
  | 0, _ => fail
  | fuel + 1, table => do
    let (path, last) ← key
    expect "="
    spaces
    let item ← value depth fuel
    spaces
    match Item.addPair path last (.value item) table with
    | none => fail
    | some table =>
      if ← accept "," then pairs depth fuel table
      else
        expect "\x7d"
        return table
end

def endOfLine : Reader Unit := do
  spaces
  comment
  if !(← newline?) && !(← get).isEmpty then fail

structure Document where
  header : List String := []
  table : Origin × Item.Entries := (.header, [])

def Document.changed (document : Document) (header : List String)
    (table : Option (Origin × Item.Entries)) : Reader Document := do
  match table with
  | some table => return { document with header := header, table := table }
  | none => fail

def line (document : Document) : Reader Document := do
  match ← peek with
  | some '[' =>
    let repeated ← accept "[["
    if !repeated then expect "["
    let (path, last) ← key
    expect (if repeated then "]]" else "]")
    endOfLine
    document.changed (path ++ [last])
      (if repeated then Item.openSeries path last document.table
        else Item.openTable path last document.table)
  | some '#' | some '\n' | some '\r' | none =>
    endOfLine
    return document
  | some _ =>
    let (path, last) ← key
    expect "="
    spaces
    let item ← value maxDepth ((← get).length + 1)
    endOfLine
    document.changed document.header
      (Item.addUnder document.header path last (.value item) document.table)

/-- All lines; each takes at least one character. -/
def lines : Nat → Document → Reader Document
  | 0, document => return document
  | fuel + 1, document => do
    spaces
    if (← get).isEmpty then return document
    lines fuel (← line document)

def parse (text : String) : Option Json :=
  let text :=
    match text.toList with
    | '\uFEFF' :: rest => rest
    | whole => whole
  match (lines (text.length + 1) {}).run text with
  | some (document, []) => some (Item.json (.table document.table.1 document.table.2))
  | _ => none

end NestLint.Toml
