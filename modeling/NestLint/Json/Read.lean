import NestLint.Json.Token

/-!
Reading JSON. The tokens are first put together to a draft, which keeps the members of an object
as they are written and holds strings and numbers that have no value. The value of a draft exists
when those of all its parts do and when it is not nested too deep.
-/

namespace NestLint.Json

inductive Draft where
  | literal (value : Json)
  | number (value : Option Number)
  | string (value : Option String)
  | array (items : List Draft)
  | object (members : List (Option String × Draft))
deriving Inhabited

namespace Draft

inductive Frame where
  | array (items : List Draft)
  | object (members : List (Option String × Draft)) (key : Option String)

inductive Expect where
  /-- A value. -/
  | value
  /-- A value or the end of an array that holds nothing yet. -/
  | firstItem
  /-- A key or the end of an object that holds nothing yet. -/
  | firstKey
  | key (members : List (Option String × Draft))
  | colon (members : List (Option String × Draft)) (key : Option String)
  /-- A comma or the end of the innermost array or object; at the outside, nothing. -/
  | more (done : Draft)

def assemble : List Frame → Expect → List Token → Option Draft
  | [], .more done, [] => some done
  | .array items :: frames, .more done, .comma :: row =>
    assemble (.array (done :: items) :: frames) .value row
  | .array items :: frames, .more done, .closeBracket :: row =>
    assemble frames (.more (.array (done :: items).reverse)) row
  | .object members key :: frames, .more done, .comma :: row =>
    assemble frames (.key ((key, done) :: members)) row
  | .object members key :: frames, .more done, .closeBrace :: row =>
    assemble frames (.more (.object ((key, done) :: members).reverse)) row
  | _, .more _, _ => none
  | frames, .firstItem, .closeBracket :: row => assemble (frames.drop 1) (.more (.array [])) row
  | frames, .firstKey, .closeBrace :: row => assemble frames (.more (.object [])) row
  | frames, .firstKey, .string key :: row => assemble frames (.colon [] key) row
  | frames, .key members, .string key :: row => assemble frames (.colon members key) row
  | frames, .colon members key, .colon :: row =>
    assemble (.object members key :: frames) .value row
  | _, .firstKey, _ => none
  | _, .key _, _ => none
  | _, .colon _ _, _ => none
  | frames, _, .literal value :: row => assemble frames (.more (.literal value)) row
  | frames, _, .number value :: row => assemble frames (.more (.number value)) row
  | frames, _, .string value :: row => assemble frames (.more (.string value)) row
  | frames, _, .openBracket :: row => assemble (.array [] :: frames) .firstItem row
  | frames, _, .openBrace :: row => assemble frames .firstKey row
  | _, _, _ => none

def read (text : Text) : Option Draft := (tokens text).bind (assemble [] .value)

mutual
def value? (depth : Nat) : Draft → Option Json
  | .literal value => some value
  | .number value => value.map Json.number
  | .string value => value.map Json.string
  | .array items =>
    match depth with
    | 0 => none
    | depth + 1 => (items? depth items).map Json.array
  | .object members =>
    match depth with
    | 0 => none
    | depth + 1 => (members? depth members).map fun members => Json.object (sortMembers members)
def items? (depth : Nat) : List Draft → Option (List Json)
  | [] => some []
  | item :: rest =>
    (value? depth item).bind fun item => (items? depth rest).map (item :: ·)
def members? (depth : Nat) : List (Option String × Draft) → Option (List (String × Json))
  | [] => some []
  | (key, item) :: rest =>
    key.bind fun key => (value? depth item).bind fun item =>
      (members? depth rest).map ((key, item) :: ·)
end

end Draft

def maxDepth : Nat := 127

def parse (text : String) : Option Json := (Draft.read text.toList).bind (Draft.value? maxDepth)

end NestLint.Json
