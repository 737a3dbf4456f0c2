import NestLint.Source.Error

/-!
Finding the end of a statement. A statement is read lexeme by lexeme: quoted text, a comment and an
escaped character are one lexeme each, and every other character stands for itself. The statement
runs up to the first brace or semicolon outside brackets. What is scanned is returned as it stands,
so a scan and what it leaves concatenate to the text.
-/

namespace NestLint

namespace Source

def closeComment? : Text → Option (Text × Text)
  | [] => none
  | '*' :: '/' :: rest => some ([], rest)
  | c :: cs => (closeComment? cs).map fun (inner, rest) => (c :: inner, rest)

def closeQuote? (quote : Char) : Text → Option (Text × Text)
  | [] => none
  | c :: cs =>
    if c = '\\' then
      match cs with
      | [] => none
      | d :: ds => (closeQuote? quote ds).map fun (inner, rest) => (c :: d :: inner, rest)
    else if c = quote then some ([c], cs)
    else (closeQuote? quote cs).map fun (inner, rest) => (c :: inner, rest)

inductive Flaw where
  | comment
  | quote
deriving DecidableEq, Repr

def Flaw.error : Flaw → Position → ParseError
  | .comment => .unclosedComment
  | .quote => .unclosedString

inductive Lexeme where
  | none
  | flawed (flaw : Flaw)
  | taken (unit rest : Text)
deriving DecidableEq, Repr

def lexeme : Text → Lexeme
  | [] => .none
  | c :: cs =>
    if c = '\\' then .taken (c :: cs.take 1) (cs.drop 1)
    else if c = '"' ∨ c = '\'' then
      match closeQuote? c cs with
      | some (inner, rest) => .taken (c :: inner) rest
      | none => .flawed .quote
    else if c = '/' ∧ cs.head? = some '*' then
      match closeComment? cs.tail with
      | some (inner, rest) => .taken ('/' :: '*' :: inner ++ ['*', '/']) rest
      | none => .flawed .comment
    else .taken [c] cs

theorem closeComment?_eq {text inner rest : Text}
    (found : closeComment? text = some (inner, rest)) : text = inner ++ '*' :: '/' :: rest := by
  fun_induction closeComment? text generalizing inner with
  | case1 => simp at found
  | case2 => simp_all
  | case3 c cs _ ih =>
    obtain ⟨⟨deeper, _⟩, closed, same⟩ := Option.map_eq_some_iff.1 found
    simp only [Prod.mk.injEq] at same
    obtain ⟨rfl, rfl⟩ := same
    simp [ih closed]

theorem closeQuote?_eq {quote : Char} {text inner rest : Text}
    (found : closeQuote? quote text = some (inner, rest)) : text = inner ++ rest := by
  fun_induction closeQuote? quote text generalizing inner with
  | case1 => simp at found
  | case2 => simp at found
  | case3 d ds ih =>
    obtain ⟨⟨deeper, _⟩, closed, same⟩ := Option.map_eq_some_iff.1 found
    simp only [Prod.mk.injEq] at same
    obtain ⟨rfl, rfl⟩ := same
    simp [ih closed]
  | case4 cs _ =>
    simp only [Option.some.injEq, Prod.mk.injEq] at found
    obtain ⟨rfl, rfl⟩ := found
    rfl
  | case5 c cs _ _ ih =>
    obtain ⟨⟨deeper, _⟩, closed, same⟩ := Option.map_eq_some_iff.1 found
    simp only [Prod.mk.injEq] at same
    obtain ⟨rfl, rfl⟩ := same
    simp [ih closed]

theorem lexeme_eq {text unit rest : Text} (found : lexeme text = .taken unit rest) :
    text = unit ++ rest ∧ unit ≠ [] := by
  cases text with
  | nil => simp [lexeme] at found
  | cons c cs =>
    simp only [lexeme] at found
    split at found
    · simp only [Lexeme.taken.injEq] at found
      obtain ⟨rfl, rfl⟩ := found
      exact ⟨by rw [List.cons_append, List.take_append_drop], by simp⟩
    · split at found
      · split at found
        next inner tail closed =>
          simp only [Lexeme.taken.injEq] at found
          obtain ⟨rfl, rfl⟩ := found
          simp [closeQuote?_eq closed]
        next => simp at found
      · split at found
        next slash =>
          split at found
          next inner tail closed =>
            simp only [Lexeme.taken.injEq] at found
            obtain ⟨rfl, rfl⟩ := found
            cases cs with
            | nil => simp at slash
            | cons d ds =>
              simp only [List.head?_cons, Option.some.injEq] at slash
              obtain ⟨rfl, rfl⟩ := slash
              simp only [List.tail_cons] at closed
              simp [closeComment?_eq closed]
          next => simp at found
        next =>
          simp only [Lexeme.taken.injEq] at found
          obtain ⟨rfl, rfl⟩ := found
          simp

theorem length_lt_of_lexeme {text unit rest : Text} (found : lexeme text = .taken unit rest) :
    rest.length < text.length := by
  obtain ⟨whole, nonempty⟩ := lexeme_eq found
  have := List.length_pos_iff.2 nonempty
  simp only [whole, List.length_append]
  omega

/-- How many round and square brackets are open; a bracket too many that closes is let pass. -/
structure Depth where
  round : Nat := 0
  square : Nat := 0
deriving DecidableEq, Repr

def Depth.past (d : Depth) : Text → Depth
  | ['('] => { d with round := d.round + 1 }
  | [')'] => { d with round := d.round - 1 }
  | ['['] => { d with square := d.square + 1 }
  | [']'] => { d with square := d.square - 1 }
  | _ => d

def Depth.stops (d : Depth) (unit : Text) : Bool :=
  d.round == 0 && d.square == 0 && (unit == ['{'] || unit == [';'] || unit == ['}'])

inductive Scan where
  | stopped (region rest : Text)
  | flawed (flaw : Flaw) (before : Text)
deriving DecidableEq, Repr

def Scan.behind (taken : Text) : Scan → Scan
  | .stopped region rest => .stopped (taken ++ region) rest
  | .flawed flaw before => .flawed flaw (taken ++ before)

def scan (depth : Depth) (text : Text) : Scan :=
  match found : lexeme text with
  | .none => .stopped [] []
  | .flawed flaw => .flawed flaw []
  | .taken unit rest =>
    have := length_lt_of_lexeme found
    if depth.stops unit then .stopped [] text
    else (scan (depth.past unit) rest).behind unit
termination_by text.length

/-- Nothing is lost: the statement and what follows it make up the text. -/
theorem scan_eq {depth : Depth} {text region rest : Text}
    (found : scan depth text = .stopped region rest) : text = region ++ rest := by
  fun_induction scan depth text generalizing region with
  | case1 depth text nothing =>
    cases text with
    | nil => simp_all
    | cons c cs => simp only [lexeme] at nothing; grind
  | case2 => simp at found
  | case3 => simp_all
  | case4 depth text unit tail taken _ _ ih =>
    cases deeper : scan (depth.past unit) tail with
    | flawed => simp [deeper, Scan.behind] at found
    | stopped inner rest' =>
      simp only [deeper, Scan.behind, Scan.stopped.injEq] at found
      obtain ⟨rfl, rfl⟩ := found
      rw [(lexeme_eq taken).1, ih deeper, List.append_assoc]

/-- A statement by the way it ends: at the brace of its block, at a semicolon, or at neither; in
the last case the blanks at its end are no part of it. -/
inductive Cut where
  | block (region rest : Text)
  | ended (region rest : Text)
  | unended (region rest : Text)
  | flawed (flaw : Flaw) (before : Text)
deriving DecidableEq, Repr

def cut (text : Text) : Cut :=
  match scan {} text with
  | .flawed flaw before => .flawed flaw before
  | .stopped region ('{' :: rest) => .block region rest
  | .stopped region (';' :: rest) => .ended region rest
  | .stopped region rest =>
    .unended (Text.splitEnd Text.isBlank region).1 ((Text.splitEnd Text.isBlank region).2 ++ rest)

theorem cut_block {text region rest : Text} (found : cut text = .block region rest) :
    text = region ++ '{' :: rest := by
  unfold cut at found
  split at found <;> simp only [Cut.block.injEq, reduceCtorEq] at found
  next stopped =>
    obtain ⟨rfl, rfl⟩ := found
    exact scan_eq stopped

theorem cut_ended {text region rest : Text} (found : cut text = .ended region rest) :
    text = region ++ ';' :: rest := by
  unfold cut at found
  split at found <;> simp only [Cut.ended.injEq, reduceCtorEq] at found
  next stopped =>
    obtain ⟨rfl, rfl⟩ := found
    exact scan_eq stopped

theorem cut_unended {text region rest : Text} (found : cut text = .unended region rest) :
    text = region ++ rest := by
  unfold cut at found
  split at found <;> simp only [Cut.unended.injEq, reduceCtorEq] at found
  next stopped =>
    obtain ⟨rfl, rfl⟩ := found
    rw [← List.append_assoc, Text.splitEnd_append]
    exact scan_eq stopped

end Source

end NestLint
