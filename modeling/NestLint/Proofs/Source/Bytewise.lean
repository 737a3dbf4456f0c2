import NestLint.Proofs.Text.Bytes
import NestLint.Source.Parse

/-!
Reading a stylesheet byte by byte. A cursor counts bytes, an escape moves it by two whatever stands there, a
piece of text is a slice between two such counts, and an open block is a call that has not returned. Where a
slice, an entry or a difference does not exist, there is no result at all. The loops inside a statement come to
an end because each of their turns moves the cursor on. For the loop over a body that is not known yet: it is
given a number of turns, and has no result if they do not suffice.
-/

namespace NestLint

namespace Source

/-- A reading that may have no result, and may refuse the text. -/
abbrev Attempt := ExceptT ParseError Option

namespace Bytewise

open Text

section attempt

variable {α β : Type}

theorem run_bind_error {attempt : Attempt α} {error : ParseError} (run : attempt.run = some (.error error))
    (next : α → Attempt β) : (attempt >>= next).run = some (.error error) := by
  rw [ExceptT.run_bind, run]
  rfl

theorem run_bind_ok {attempt : Attempt α} {a : α} (run : attempt.run = some (.ok a)) (next : α → Attempt β) :
    (attempt >>= next).run = (next a).run := by
  rw [ExceptT.run_bind, run]
  rfl

end attempt

def minus? (a b : Nat) : Option Nat := if b ≤ a then some (a - b) else none

section places

def lineStartsFrom (offset : Nat) : List UInt8 → List Nat
  | [] => []
  | b :: bs =>
    if b = ascii '\n' then (offset + 1) :: lineStartsFrom (offset + 1) bs else lineStartsFrom (offset + 1) bs

def lineStarts (text : Text) : List Nat := 0 :: lineStartsFrom 0 (bytes text)

def positionAt? (text : Text) (offset : Nat) : Option Position := do
  let line := ((lineStarts text).takeWhile (· ≤ offset)).length
  let start ← (lineStarts text)[← minus? line 1]?
  return ⟨offset, line, (← minus? offset start) + 1⟩

def span? (text : Text) (start stop : Nat) : Option Span := do
  return ⟨← positionAt? text start, ← positionAt? text stop⟩

end places

section slices

def splitTrailing? (text : Text) : Option (Text × Text) := do
  return (trimEnd text, ← text.slice? (byteSize (trimEnd text)) (byteSize text))

def splitLeading? (text : Text) : Option (Text × Text) := do
  return (← text.slice? 0 (← minus? (byteSize text) (byteSize (trimStart text))), trimStart text)

def find? (c : Char) (text : Text) : Option Nat :=
  if c ∈ text then some (byteSize (text.takeWhile (· != c))) else none

def findLast? (c : Char) (text : Text) : Option Nat :=
  if c ∈ text then some (byteSize (splitEnd (· != c) text).1.dropLast) else none

def splitComment? (inner : Text) : Option (Text × Text × Text) :=
  if (trim inner).isEmpty then some (inner, [], [])
  else do
    let (left, rest) ← splitLeading? inner
    let (text, right) ← splitTrailing? rest
    return (left, text, right)

def splitParams? (region : Text) : Option (Text × Text × Text) := do
  let (rest, between) ← splitTrailing? region
  let (afterName, params) ← splitLeading? rest
  return if params.isEmpty then ([], params, region) else (afterName, params, between)

def splitImportant? (value : Text) : Option (Text × Option Text) :=
  match findLast? '!' (trimEnd value) with
  | none => some (value, none)
  | some bang => do
    let word ← (trimEnd value).slice? (bang + 1) (byteSize (trimEnd value))
    if (trimStart word).map Char.toLower = "important".toList then
      let stop := byteSize (trimEnd (← (trimEnd value).slice? 0 bang))
      return (← value.slice? 0 stop, some (← value.slice? stop (byteSize value)))
    else return (value, none)

end slices

section loops

def gapChars : List Char := [' ', '\t', '\n', '\x0c', '\r', ';']

def nameEnders : List Char :=
  ['\t', '\n', '\x0c', '\r', ' ', '"', '#', '\'', '(', ')', '/', ';', '[', '\\', ']', '{', '}']

def skipGap (text : Text) (i : Nat) : Nat :=
  match found : byte? text i with
  | none => i
  | some b =>
    have := lt_of_byte? found
    if b ∈ gapChars.map ascii then skipGap text (i + 1) else i
termination_by byteSize text - i

theorem skipGap_turn (text : Text) (i : Nat) : skipGap text i = match byte? text i with
    | none => i
    | some b => if b ∈ gapChars.map ascii then skipGap text (i + 1) else i := by
  rw [skipGap]
  split
  next found => simp only [found]
  next found => simp only [found]

def nameEnd (text : Text) (i : Nat) : Nat :=
  match found : byte? text i with
  | none => i
  | some b =>
    have := lt_of_byte? found
    if b ∈ nameEnders.map ascii then i else nameEnd text (i + 1)
termination_by byteSize text - i

theorem nameEnd_turn (text : Text) (i : Nat) : nameEnd text i = match byte? text i with
    | none => i
    | some b => if b ∈ nameEnders.map ascii then i else nameEnd text (i + 1) := by
  rw [nameEnd]
  split
  next found => simp only [found]
  next found => simp only [found]

def findClose : List UInt8 → Option Nat
  | [] => none
  | b :: bs => if b = ascii '*' ∧ bs.head? = some (ascii '/') then some 0 else (findClose bs).map (· + 1)

def findCloseFrom? (text : Text) (i : Nat) : Option (Option Nat) :=
  if i ≤ (bytes text).length then some (findClose ((bytes text).drop i)) else none

def quoteEnd (text : Text) (opening : Nat) (quote : UInt8) (i : Nat) : Attempt Nat :=
  match found : byte? text i with
  | none => do throw (.unclosedString (← positionAt? text opening))
  | some b =>
    have := lt_of_byte? found
    if b = ascii '\\' then quoteEnd text opening quote (i + 2)
    else if b = quote then pure (i + 1)
    else quoteEnd text opening quote (i + 1)
termination_by byteSize text - i

theorem quoteEnd_turn (text : Text) (opening : Nat) (quote : UInt8) (i : Nat) :
    quoteEnd text opening quote i = match byte? text i with
      | none => do throw (.unclosedString (← positionAt? text opening))
      | some b =>
        if b = ascii '\\' then quoteEnd text opening quote (i + 2)
        else if b = quote then pure (i + 1)
        else quoteEnd text opening quote (i + 1) := by
  rw [quoteEnd]
  split
  next found => simp only [found]
  next found => simp only [found]

def skipString (text : Text) (opening : Nat) (quote : UInt8) : Attempt Nat :=
  quoteEnd text opening quote (opening + 1)

theorem lt_of_quoteEnd {text : Text} {opening i stop : Nat} {quote : UInt8}
    (found : (quoteEnd text opening quote i).run = some (.ok stop)) : i < stop := by
  rw [quoteEnd_turn] at found
  cases isByte : byte? text i with
  | none =>
    rw [isByte] at found
    cases isPlace : positionAt? text opening with
    | none => rw [isPlace] at found; cases found
    | some p => rw [isPlace] at found; cases found
  | some b =>
    have inside := lt_of_byte? isByte
    simp only [isByte] at found
    split at found
    · have further := lt_of_quoteEnd found
      omega
    · split at found
      · cases found
        omega
      · have further := lt_of_quoteEnd found
        omega
termination_by byteSize text - i

def statementEnd (text : Text) (i round square : Nat) : Attempt (Nat × Option UInt8) :=
  match found : byte? text i with
  | none => pure ((bytes text).length, none)
  | some b =>
    have := lt_of_byte? found
    if b = ascii '\\' then statementEnd text (i + 2) round square
    else if b = ascii '"' ∨ b = ascii '\'' then
      match passed : (skipString text i b).run with
      | none => .mk none
      | some (.error error) => throw error
      | some (.ok stop) =>
        have := lt_of_quoteEnd passed
        statementEnd text stop round square
    else if b = ascii '/' ∧ byte? text (i + 1) = some (ascii '*') then do
      match ← findCloseFrom? text (i + 2) with
      | none => throw (.unclosedComment (← positionAt? text i))
      | some close => statementEnd text (i + 2 + close + 2) round square
    else if b = ascii '(' then statementEnd text (i + 1) (round + 1) square
    else if b = ascii ')' then statementEnd text (i + 1) (round - 1) square
    else if b = ascii '[' then statementEnd text (i + 1) round (square + 1)
    else if b = ascii ']' then statementEnd text (i + 1) round (square - 1)
    else if b ∈ ['{', ';', '}'].map ascii ∧ round = 0 ∧ square = 0 then pure (i, some b)
    else statementEnd text (i + 1) round square
termination_by byteSize text - i

theorem statementEnd_turn (text : Text) (i round square : Nat) :
    statementEnd text i round square = match byte? text i with
      | none => pure ((bytes text).length, none)
      | some b =>
        if b = ascii '\\' then statementEnd text (i + 2) round square
        else if b = ascii '"' ∨ b = ascii '\'' then do
          let stop ← skipString text i b
          statementEnd text stop round square
        else if b = ascii '/' ∧ byte? text (i + 1) = some (ascii '*') then do
          match ← findCloseFrom? text (i + 2) with
          | none => throw (.unclosedComment (← positionAt? text i))
          | some close => statementEnd text (i + 2 + close + 2) round square
        else if b = ascii '(' then statementEnd text (i + 1) (round + 1) square
        else if b = ascii ')' then statementEnd text (i + 1) (round - 1) square
        else if b = ascii '[' then statementEnd text (i + 1) round (square + 1)
        else if b = ascii ']' then statementEnd text (i + 1) round (square - 1)
        else if b ∈ ['{', ';', '}'].map ascii ∧ round = 0 ∧ square = 0 then pure (i, some b)
        else statementEnd text (i + 1) round square := by
  rw [statementEnd]
  split
  next found => simp only [found]
  next b found =>
    simp only [found]
    -- only the passing of a string is written in another way
    refine if_congr Iff.rfl rfl (if_congr Iff.rfl ?_ rfl)
    split
    next passed => exact (congrArg (· >>= _) passed).symm
    next passed => exact ExceptT.ext (run_bind_error passed _).symm
    next passed => exact ExceptT.ext (run_bind_ok passed fun stop => statementEnd text stop round square).symm

def scanStatement (text : Text) (i : Nat) : Attempt (Nat × Option UInt8) := statementEnd text i 0 0

end loops

/-- What one turn of the loop over a body comes to: the body is at its end, a node has been read and the cursor
stands behind it, or a block begins. -/
inductive Turn where
  | returned (after : Text) (stop : Nat)
  | comment (label : Label) (stop : Nat)
  | statement (label : Label) (terminated : Bool) (stop : Nat)
  /-- The head of a block, where it starts and where its brace stands. -/
  | block (head : Label) (start brace : Nat)

section turn

variable (text before : Text) (start : Nat)

def turnComment : Attempt Turn := do
  match ← findCloseFrom? text (start + 2) with
  | none => throw (.unclosedComment (← positionAt? text start))
  | some close =>
    let inner ← text.slice? (start + 2) (start + 2 + close)
    let (left, body, right) ← splitComment? inner
    let stop := start + 2 + close + 2
    let span ← span? text start stop
    return .comment
      { kind := .comment body
        raws := { before := some before, left := some left, right := some right }
        source := some span } stop

def turnAtRule : Attempt Turn := do
  let nameStop := nameEnd text (start + 1)
  let name ← text.slice? (start + 1) nameStop
  let (stop, terminator) ← scanStatement text nameStop
  let whole ← text.slice? nameStop stop
  let region := if terminator = some (ascii '{') ∨ terminator = some (ascii ';') then whole else trimEnd whole
  let (afterName, params, between) ← splitParams? region
  let label : Label :=
    { kind := .atRule name params (terminator = some (ascii '{'))
      raws := { before := some before, afterName := some afterName, between := some between } }
  if terminator = some (ascii '{') then return .block label start stop
  else
    let terminated : Bool := terminator = some (ascii ';')
    let next := if terminated then stop + 1 else nameStop + byteSize region
    let span ← span? text start next
    return .statement { label with source := some span } terminated next

def turnDecl (region : Text) (terminated : Bool) (next : Nat) : Attempt Turn := do
  match find? ':' region with
  | none => throw (.unknownWord (firstWord region) (← positionAt? text start))
  | some colon =>
    let head ← region.slice? 0 colon
    let property := trimEnd head
    if property.isEmpty then throw (.unknownWord [':'] (← positionAt? text (start + colon)))
    else
      let tail ← region.slice? (colon + 1) (byteSize region)
      let (blanks, value) ← splitLeading? tail
      let gap ← region.slice? (byteSize property) (colon + 1)
      let (value, important) ← splitImportant? value
      let span ← span? text start next
      return .statement
        { kind := .decl property value important.isSome
          raws := { before := some before, between := some (gap ++ blanks), important := important }
          source := some span } terminated next

def turnPlain : Attempt Turn := do
  let (stop, terminator) ← scanStatement text start
  let whole ← text.slice? start stop
  if terminator = some (ascii '{') then
    let (selector, between) ← splitTrailing? whole
    return .block { kind := .rule selector, raws := { before := some before, between := some between } } start stop
  else
    let terminated : Bool := terminator = some (ascii ';')
    let region := if terminated then whole else trimEnd whole
    turnDecl text before start region terminated (if terminated then stop + 1 else start + byteSize region)

end turn

def turn (text : Text) (brace? : Option Nat) (i : Nat) : Attempt Turn := do
  let start := skipGap text i
  let before ← text.slice? i start
  match byte? text start with
  | none =>
    match brace? with
    | some brace => throw (.unclosedBlock (← positionAt? text brace))
    | none => return .returned before start
  | some b =>
    if b = ascii '}' then
      match brace? with
      | some _ => return .returned before (start + 1)
      | none => throw (.unexpectedClose (← positionAt? text start))
    else if b = ascii '/' ∧ byte? text (start + 1) = some (ascii '*') then turnComment text before start
    else if b = ascii '@' then turnAtRule text before start
    else turnPlain text before start

/-- The body of a block, the last gap in it and the cursor behind it, given what has been read of it. -/
def body (text : Text) : Nat → Option Nat → Nat → Block → Attempt (Block × Text × Nat)
  | 0, _, _, _ => .mk none
  | turns + 1, brace?, i, block => do
    match ← turn text brace? i with
    | .returned after stop => return (block, after, stop)
    | .comment label stop => body text turns brace? stop (block.addComment label)
    | .statement label terminated stop => body text turns brace? stop (block.addStatement label terminated)
    | .block head start brace =>
      let (inner, after, stop) ← body text turns (some brace) (brace + 1) {}
      let span ← span? text start stop
      body text turns brace? stop (block.addBlock (inner.close head after span))

def parse (turns : Nat) (text : Text) : Attempt (Tree Label) := do
  let (block, after, _) ← body text turns none 0 {}
  let span ← span? text 0 (bytes text).length
  return block.close { kind := .root } after span

end Bytewise

end Source

end NestLint
