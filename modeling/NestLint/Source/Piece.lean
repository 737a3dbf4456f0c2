import NestLint.Source.Scan
import NestLint.Sheet.Node

/-!
A stylesheet as a flat row of pieces: comments, statements without a block, the heads of blocks
and the closing braces. Each piece knows what stands before it, so the row accounts for every
character of the source. Whether the braces match is not asked here.
-/

namespace NestLint

namespace Source

inductive Piece where
  | comment (label : Label)
  /-- A declaration or an at-rule without a block, and whether a semicolon ends it. -/
  | statement (label : Label) (terminated : Bool)
  /-- The head of a block: where it starts and where its brace stands. -/
  | opening (label : Label) (start brace : Position)
  /-- A closing brace, and what stands before it. -/
  | closing (after : Text) (brace : Position)
deriving DecidableEq, Repr

inductive Step where
  | piece (piece : Piece) (stop : Position) (rest : Text)
  | done (after : Text) (stop : Position)
  | failed (error : ParseError)
deriving DecidableEq, Repr

/-- The text of a comment between its outer blanks; a blank comment is all outer blanks. -/
def splitComment (inner : Text) : Text × Text × Text :=
  if inner.all Text.isBlank then (inner, [], [])
  else
    let (left, rest) := Text.splitBlanks inner
    let (text, right) := Text.splitEnd Text.isBlank rest
    (left, text, right)

def readComment (before : Text) (start : Position) (text : Text) : Step :=
  match closeComment? text with
  | none => .failed (.unclosedComment start)
  | some (inner, rest) =>
    let (left, body, right) := splitComment inner
    let stop := start.past ('/' :: '*' :: inner ++ ['*', '/'])
    .piece (.comment
      { kind := .comment body
        raws := { before := some before, left := some left, right := some right }
        source := some ⟨start, stop⟩ }) stop rest

def endsName (c : Char) : Bool :=
  c == '\t' || c == '\n' || c == '\x0c' || c == '\r' || c == ' ' || c == '"' || c == '#' ||
    c == '\'' || c == '(' || c == ')' || c == '/' || c == ';' || c == '[' || c == '\\' ||
    c == ']' || c == '{' || c == '}'

/-- The parameters of an at-rule between their outer blanks; without parameters everything counts
as what follows them. -/
def splitParams (region : Text) : Text × Text × Text :=
  let (front, between) := Text.splitEnd Text.isBlank region
  let (afterName, params) := Text.splitBlanks front
  if params.isEmpty then ([], [], region) else (afterName, params, between)

def atRuleLabel (before name region : Text) (hasBlock : Bool) : Label :=
  let (afterName, params, between) := splitParams region
  { kind := .atRule name params hasBlock
    raws := { before := some before, afterName := some afterName, between := some between } }

def readAtRule (before : Text) (start : Position) (text : Text) : Step :=
  let name := text.takeWhile fun c => !endsName c
  let nameStop := start.past ('@' :: name)
  match cut (text.dropWhile fun c => !endsName c) with
  | .flawed flaw skipped => .failed (flaw.error (nameStop.past skipped))
  | .block region rest =>
    let brace := nameStop.past region
    .piece (.opening (atRuleLabel before name region true) start brace) (brace.advance '{') rest
  | .ended region rest =>
    let stop := (nameStop.past region).advance ';'
    .piece (.statement { atRuleLabel before name region false with source := some ⟨start, stop⟩ }
      true) stop rest
  | .unended region rest =>
    let stop := nameStop.past region
    .piece (.statement { atRuleLabel before name region false with source := some ⟨start, stop⟩ }
      false) stop rest

/-- Takes the mark of importance off the end of a value: an exclamation mark and the word, in
letters of any case. The mark keeps the blanks around it. -/
def splitImportant (value : Text) : Text × Option Text :=
  let (upToMark, word) := Text.splitEnd (· != '!') (Text.trimEnd value)
  if upToMark.isEmpty then (value, none)
  else if (Text.trimStart word).map Char.toLower = "important".toList then
    let body := Text.trimEnd upToMark.dropLast
    (body, some (value.drop body.length))
  else (value, none)

def readDecl (before : Text) (start stop : Position) (region : Text) : Except ParseError Label :=
  let head := region.takeWhile (· != ':')
  match region.dropWhile (· != ':') with
  | [] => .error (.unknownWord (Text.firstWord region) start)
  | colon :: tail =>
    let (property, gap) := Text.splitEnd Text.isBlank head
    if property.isEmpty then .error (.unknownWord [colon] (start.past head))
    else
      let (blanks, value) := Text.splitBlanks tail
      let (value, important) := splitImportant value
      .ok
        { kind := .decl property value important.isSome
          raws :=
            { before := some before, between := some (gap ++ colon :: blanks)
              important := important }
          source := some ⟨start, stop⟩ }

def readPlain (before : Text) (start : Position) (text : Text) : Step :=
  match cut text with
  | .flawed flaw skipped => .failed (flaw.error (start.past skipped))
  | .block region rest =>
    let brace := start.past region
    let (selector, between) := Text.splitEnd Text.isBlank region
    .piece (.opening
      { kind := .rule selector, raws := { before := some before, between := some between } }
      start brace) (brace.advance '{') rest
  | .ended region rest =>
    let stop := (start.past region).advance ';'
    match readDecl before start stop region with
    | .ok label => .piece (.statement label true) stop rest
    | .error e => .failed e
  | .unended region rest =>
    let stop := start.past region
    match readDecl before start stop region with
    | .ok label => .piece (.statement label false) stop rest
    | .error e => .failed e

def step (pos : Position) (text : Text) : Step :=
  let before := text.takeWhile Text.isGap
  let start := pos.past before
  match text.dropWhile Text.isGap with
  | [] => .done before start
  | '}' :: rest => .piece (.closing before start) (start.advance '}') rest
  | '@' :: rest => readAtRule before start rest
  | c :: cs =>
    if c = '/' ∧ cs.head? = some '*' then readComment before start cs.tail
    else readPlain before start (c :: cs)

theorem readDecl_ne_nil {before : Text} {start stop : Position} {region : Text} {label : Label}
    (read : readDecl before start stop region = .ok label) : region ≠ [] := by
  rintro rfl
  simp [readDecl] at read

theorem length_readComment {before : Text} {start stop : Position} {text rest : Text}
    {piece : Piece} (read : readComment before start text = .piece piece stop rest) :
    rest.length < text.length + 1 := by
  unfold readComment at read
  split at read
  · simp at read
  next inner tail closed =>
    simp only [Step.piece.injEq] at read
    obtain ⟨-, -, rfl⟩ := read
    simp only [closeComment?_eq closed, List.length_append, List.length_cons]
    omega

theorem length_readAtRule {before : Text} {start stop : Position} {text rest : Text}
    {piece : Piece} (read : readAtRule before start text = .piece piece stop rest) :
    rest.length < text.length + 1 := by
  have shorter : (text.dropWhile fun c => !endsName c).length ≤ text.length :=
    (List.dropWhile_sublist _).length_le
  simp only [readAtRule] at read
  split at read <;> simp only [Step.piece.injEq, reduceCtorEq] at read <;>
    obtain ⟨-, -, rfl⟩ := read
  · rename_i found
    have whole := congrArg List.length (cut_block found)
    simp only [List.length_append, List.length_cons] at whole
    omega
  · rename_i found
    have whole := congrArg List.length (cut_ended found)
    simp only [List.length_append, List.length_cons] at whole
    omega
  · rename_i found
    have whole := congrArg List.length (cut_unended found)
    simp only [List.length_append] at whole
    omega

theorem length_readPlain {before : Text} {start stop : Position} {text rest : Text}
    {piece : Piece} (read : readPlain before start text = .piece piece stop rest) :
    rest.length < text.length := by
  simp only [readPlain] at read
  split at read
  · simp at read
  · rename_i found
    simp only [Step.piece.injEq] at read
    obtain ⟨-, -, rfl⟩ := read
    simp only [cut_block found, List.length_append, List.length_cons]
    omega
  · rename_i found
    split at read <;> simp only [Step.piece.injEq, reduceCtorEq] at read
    obtain ⟨-, -, rfl⟩ := read
    simp only [cut_ended found, List.length_append, List.length_cons]
    omega
  · rename_i found
    split at read <;> simp only [Step.piece.injEq, reduceCtorEq] at read
    rename_i declared
    obtain ⟨-, -, rfl⟩ := read
    have := List.length_pos_iff.2 (readDecl_ne_nil declared)
    simp only [cut_unended found, List.length_append]
    omega

theorem length_lt_of_step {pos stop : Position} {text rest : Text} {piece : Piece}
    (read : step pos text = .piece piece stop rest) : rest.length < text.length := by
  have shorter : (text.dropWhile Text.isGap).length ≤ text.length :=
    (List.dropWhile_sublist _).length_le
  simp only [step] at read
  split at read
  · simp at read
  · rename_i found
    simp only [Step.piece.injEq] at read
    obtain ⟨-, -, rfl⟩ := read
    simp only [found, List.length_cons] at shorter
    omega
  · rename_i found
    have := length_readAtRule read
    simp only [found, List.length_cons] at shorter
    omega
  · rename_i c cs _ _ found
    simp only [found, List.length_cons] at shorter
    split at read
    · have := length_readComment read
      simp only [List.length_tail] at this
      omega
    · have := length_readPlain read
      simp only [List.length_cons] at this
      omega

inductive Ending where
  | done (after : Text) (stop : Position)
  | failed (error : ParseError)
deriving DecidableEq, Repr

/-- All pieces of a text that begins at `pos`, up to its end or its first error. -/
def pieces (pos : Position) (text : Text) : List Piece × Ending :=
  match read : step pos text with
  | .piece piece stop rest =>
    have := length_lt_of_step read
    let (row, ending) := pieces stop rest
    (piece :: row, ending)
  | .done after stop => ([], .done after stop)
  | .failed error => ([], .failed error)
termination_by text.length

end Source

end NestLint
