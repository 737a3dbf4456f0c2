/-!
Text is a list of characters, so every cut that the library makes is a list operation and nothing
is lost between the two halves of a cut. A character is *blank* when Unicode gives it the property
White_Space. Statements of a stylesheet are set apart by *gaps*, which know ASCII white space and
the semicolon only.
-/

namespace NestLint

abbrev Text := List Char

namespace Text

/-- The characters with the Unicode property White_Space. -/
def isBlank (c : Char) : Bool :=
  let n := c.toNat
  (9 ≤ n && n ≤ 13) || n == 0x20 || n == 0x85 || n == 0xA0 || n == 0x1680 ||
    (0x2000 ≤ n && n ≤ 0x200A) || n == 0x2028 || n == 0x2029 || n == 0x202F || n == 0x205F ||
    n == 0x3000

/-- What may stand between two statements: space, tab, line feed, form feed, carriage return and
stray semicolons. -/
def isGap (c : Char) : Bool :=
  c == ' ' || c == '\t' || c == '\n' || c == '\x0c' || c == '\r' || c == ';'

/-- The text up to its last character outside `p`, and the run of `p` that closes it. -/
def splitEnd (p : Char → Bool) : Text → Text × Text
  | [] => ([], [])
  | c :: cs =>
    match splitEnd p cs with
    | ([], tail) => if p c then ([], c :: tail) else ([c], tail)
    | (body, tail) => (c :: body, tail)

def splitBlanks (text : Text) : Text × Text :=
  (text.takeWhile isBlank, text.dropWhile isBlank)

def trimStart (text : Text) : Text := text.dropWhile isBlank

def trimEnd (text : Text) : Text := (splitEnd isBlank text).1

def trim (text : Text) : Text := trimEnd (trimStart text)

def blanks (text : Text) : Text := text.filter isBlank

/-- The first run of characters that are not blank, or the whole text when there is none. -/
def firstWord (text : Text) : Text :=
  match (trimStart text).takeWhile (fun c => !isBlank c) with
  | [] => text
  | word => word

def byteSize : Text → Nat
  | [] => 0
  | c :: cs => c.utf8Size + byteSize cs

/-- The text without its last line, the line break kept; a text of one line stays whole. -/
def dropLastLine (text : Text) : Text :=
  if text.contains '\n' then (splitEnd (· != '\n') text).1 else text

def lastLine (text : Text) : Text := (splitEnd (· != '\n') text).2

def strip (start : Text) : Text → Option Text := fun text =>
  match start, text with
  | [], rest => some rest
  | _ :: _, [] => none
  | a :: as, b :: bs => if a = b then strip as bs else none

def stripEnd (finish text : Text) : Option Text :=
  (strip finish.reverse text.reverse).map List.reverse

def join (separator : Text) : List Text → Text
  | [] => []
  | [text] => text
  | text :: rest => text ++ separator ++ join separator rest

theorem splitEnd_append (p : Char → Bool) (text : Text) :
    (splitEnd p text).1 ++ (splitEnd p text).2 = text := by
  induction text with
  | nil => rfl
  | cons c cs ih =>
    unfold splitEnd
    split
    next tail same =>
      rw [same] at ih
      split <;> simp_all
    next body tail _ same =>
      rw [same] at ih
      simp_all

theorem byteSize_append (first second : Text) :
    byteSize (first ++ second) = byteSize first + byteSize second := by
  induction first with
  | nil => simp [byteSize]
  | cons c cs ih => simp [byteSize, ih, Nat.add_assoc]

theorem splitBlanks_append (text : Text) :
    (splitBlanks text).1 ++ (splitBlanks text).2 = text :=
  List.takeWhile_append_dropWhile

end Text

end NestLint
