import NestLint.Pattern.State
import NestLint.Pattern.Regex
import NestLint.Unicode.Age
import NestLint.Unicode.Break
import NestLint.Unicode.Script
import NestLint.Unicode.Fold

/-!
The single items of a pattern: characters, classes by property, and conditions on a place. A
backslash announces most of them.
-/

namespace NestLint.Pattern

open Unicode (Ranges)

/-- The name of a property in small letters without separators and without a leading `is`. -/
def plainName (name : Text) : String :=
  let lower := name.map Char.toLower
  let (rest, is) :=
    match lower with
    | 'i' :: 's' :: rest => (rest, true)
    | other => (other, false)
  let plain := rest.filter fun c => c != ' ' && c != '_' && c != '-' && c.toNat ≤ 0x7F
  if is && plain == ['c'] then "isc" else String.ofList plain

def namedRanges? (name : Text) : Option Ranges :=
  let name := plainName name
  if name = "any" then some [(0, Ranges.last)]
  else if name = "ascii" then some [(0, 0x7F)]
  else if name = "assigned" then some Unicode.unassigned.complement
  else (Unicode.property? name).orElse fun _ =>
    (Unicode.category? name).orElse fun _ => Unicode.script? name

def valuedRanges? (name value : Text) : Option Ranges :=
  let name := plainName name
  let value' := plainName value
  if name = "gc" ∨ name = "generalcategory" then
    if value' = "any" ∨ value' = "ascii" ∨ value' = "assigned" then namedRanges? value
    else Unicode.category? value'
  else if name = "sc" ∨ name = "script" then Unicode.script? value'
  else if name = "scx" ∨ name = "scriptextensions" then Unicode.scriptExtensions? value'
  else if name = "age" then Unicode.age? value'
  else if name = "gcb" ∨ name = "graphemeclusterbreak" then Unicode.clusterKind? value'
  else if name = "wb" ∨ name = "wordbreak" then Unicode.kind? Unicode.wordKinds value'
  else if name = "sb" ∨ name = "sentencebreak" then Unicode.kind? Unicode.sentenceKinds value'
  else none

def unicodeClass : Reader Ranges := do
  let negated := (← current) == 'P'
  if !(← get).flags.unicode then fail
  bumpSkip
  let c ← current
  let (found, flipped) ←
    if c = '{' then do
      bumpSkip
      let inside ← takeSkip (fun c => c != '}') (← left)
      let _ ← current
      bump
      let name := String.ofList inside
      match name.splitOn "!=" with
      | first :: second :: rest =>
        pure (valuedRanges? first.toList ("!=".intercalate (second :: rest)).toList, true)
      | _ =>
        match inside.span (· != ':'), inside.span (· != '=') with
        | (first, _ :: second), _ => pure (valuedRanges? first second, false)
        | _, (first, _ :: second) => pure (valuedRanges? first second, false)
        | _, _ => pure (namedRanges? inside, false)
    else do
      if c = '\\' then fail
      bumpSkip
      pure (namedRanges? [c], false)
  match found with
  | some set =>
    let set := if (← get).flags.ignoreCase then Ranges.foldCase set else set
    return if negated != flipped then set.complement else set
  | none => fail

def asciiSpace : Ranges := [(9, 13), (32, 32)]

def shorthandRanges (unicode : Bool) (c : Char) : Ranges :=
  if c = 'd' then if unicode then (Unicode.category? "nd").getD [] else [(48, 57)]
  else if c = 's' then if unicode then (Unicode.property? "whitespace").getD [] else asciiSpace
  else if unicode then Regex.wordRanges else Regex.asciiWordRanges

inductive Primitive where
  /-- A character; `byte` if it was given by two hexadecimal digits. -/
  | literal (c : Char) (byte : Bool)
  | set (set : Ranges)
  | dot
  | look (look : Look)

def checked (set : Ranges) : Reader Ranges := do
  if (← get).flags.unicode || set.all fun (_, hi) => hi ≤ 0x7F then return set else fail

def isMeta (c : Char) : Bool := "\\.+*?()|[]\x7b\x7d^$#&-~".toList.contains c

def isEscapable (c : Char) : Bool :=
  isMeta c || (c.toNat ≤ 0x7F && !c.isAlphanum && c != '<' && c != '>')

/-- The kind of word boundary that braces behind `\b` ask for; braces that cannot name one are left
alone. -/
def boundaryKind (ascii : Bool) : Reader Look := do
  let before ← get
  if (← peek) != some '{' then return .wordBoundary ascii
  bumpSkip
  let isNamed (c : Char) : Bool := c.isAlpha || c == '-'
  if !isNamed (← current) then
    set before
    return .wordBoundary ascii
  let name ← takeSkip isNamed (← left)
  if (← peek) != some '}' then fail
  bump
  match String.ofList name with
  | "start" => return .wordStart ascii
  | "end" => return .wordEnd ascii
  | "start-half" => return .wordStartHalf ascii
  | "end-half" => return .wordEndHalf ascii
  | _ => fail

def escape : Reader Primitive := do
  bump
  let c ← current
  let ascii := !(← get).flags.unicode
  if c.isDigit then fail
  else if c = 'x' then let (c, byte) ← hex 2; return .literal c byte
  else if c = 'u' then let (c, _) ← hex 4; return .literal c false
  else if c = 'U' then let (c, _) ← hex 8; return .literal c false
  else if c = 'p' ∨ c = 'P' then return .set (← unicodeClass)
  else if c = 'd' ∨ c = 's' ∨ c = 'w' then
    bump
    return .set (shorthandRanges (!ascii) c)
  else if c = 'D' ∨ c = 'S' ∨ c = 'W' then
    bump
    return .set (← checked (shorthandRanges (!ascii) c.toLower).complement)
  else
    bump
    if isEscapable c then return .literal c false
    match c with
    | 'a' => return .literal '\x07' false
    | 'f' => return .literal '\x0c' false
    | 't' => return .literal '\t' false
    | 'n' => return .literal '\n' false
    | 'r' => return .literal '\r' false
    | 'v' => return .literal '\x0b' false
    | 'A' => return .look .textStart
    | 'z' => return .look .textEnd
    | 'b' => return .look (← boundaryKind ascii)
    | 'B' => return .look (.notWordBoundary ascii)
    | '<' => return .look (.wordStart ascii)
    | '>' => return .look (.wordEnd ascii)
    | _ => fail

def folded (flags : Flags) (set : Ranges) : Ranges :=
  if !flags.ignoreCase then set
  else if flags.unicode then Ranges.foldCase set
  else Ranges.foldAsciiCase set

def dotRanges (flags : Flags) : Ranges :=
  if flags.dotAll then [(0, Ranges.last)]
  else if flags.returns then Ranges.complement [(10, 10), (13, 13)]
  else Ranges.complement [(10, 10)]

def Primitive.regex : Primitive → Reader Regex
  | .literal c byte => do
    let flags := (← get).flags
    if !flags.unicode && byte && c.toNat > 0x7F then fail
    return .chars (folded flags [(c.toNat, c.toNat)])
  | .set ranges => return .chars ranges
  | .dot => do
    let flags := (← get).flags
    if flags.unicode then return .chars (dotRanges flags) else fail
  | .look condition => return .look condition

def primitive : Reader Regex := do
  let flags := (← get).flags
  let c ← current
  if c = '\\' then (← escape).regex
  else
    bump
    if c = '.' then Primitive.dot.regex
    else if c = '^' then
      return .look (if !flags.multiLine then .textStart
        else if flags.returns then .lineStartReturn else .lineStart)
    else if c = '$' then
      return .look (if !flags.multiLine then .textEnd
        else if flags.returns then .lineEndReturn else .lineEnd)
    else (Primitive.literal c false).regex

end NestLint.Pattern
