import NestLint.Proofs.Sheet.Synthesized
import NestLint.Proofs.Source.Reading
import NestLint.Proofs.Source.Spans

/-!
How nodes of plain words are read in the standard layout. A word holds nothing that the scan takes
notice of, and a comment is passed over as one lexeme; so a statement runs on over the comments behind
it up to its semicolon or the end of its block, and takes them into its value or its parameters.
-/

namespace NestLint

namespace Text

open Source

/-- The characters that the reader takes notice of. -/
def isMeaningful (c : Char) : Bool :=
  isBlank c || isGap c || isSpecial c || isStop c || endsName c || [':', '!', '*', '@'].contains c

theorem isAlphanum_eq (c : Char) : c.isAlphanum =
    (decide (c.val ≥ 'A'.val ∧ c.val ≤ 'Z'.val) || (decide (c.val ≥ 'a'.val) && decide (c.val ≤ 'z'.val)) ||
      (decide (c.val ≥ '0'.val) && decide (c.val ≤ '9'.val))) := rfl

theorem toNat_of_isWordChar {c : Char} (word : isWordChar c = true) : c.toNat < 128 := by
  simp only [isWordChar, isAlphanum_eq, Bool.or_eq_true, Bool.and_eq_true, decide_eq_true_eq, beq_iff_eq,
    ge_iff_le, UInt32.le_iff_toNat_le] at word
  have value : c.toNat = c.val.toNat := rfl
  have upper : 'Z'.val.toNat = 90 := rfl
  have lower : 'z'.val.toNat = 122 := rfl
  have digit : '9'.val.toNat = 57 := rfl
  rcases word with ((letters | rfl) | rfl) | rfl
  · omega
  · decide
  · decide
  · decide

theorem isMeaningful_of_isWordChar {c : Char} (word : isWordChar c = true) : isMeaningful c = false := by
  have ascii : ∀ n < 128, isWordChar (Char.ofNat n) = true → isMeaningful (Char.ofNat n) = false := by
    decide +kernel
  have own := ascii c.toNat (toNat_of_isWordChar word)
  rw [Char.ofNat_toNat] at own
  exact own word

theorem plain_of_isWordChar {c : Char} (word : isWordChar c = true) :
    isBlank c = false ∧ isGap c = false ∧ isSpecial c = false ∧ isStop c = false ∧ endsName c = false := by
  have plain := isMeaningful_of_isWordChar word
  simp only [isMeaningful, Bool.or_eq_false_iff] at plain
  obtain ⟨⟨⟨⟨⟨blank, gap⟩, special⟩, stop⟩, ends⟩, -⟩ := plain
  exact ⟨blank, gap, special, stop, ends⟩

theorem isBlank_of_isWordChar {c : Char} (word : isWordChar c = true) : isBlank c = false :=
  (plain_of_isWordChar word).1

theorem endsName_of_isWordChar {c : Char} (word : isWordChar c = true) : endsName c = false :=
  (plain_of_isWordChar word).2.2.2.2

theorem ne_of_isWordChar {c d : Char} (word : isWordChar c = true) (noticed : isMeaningful d = true) : c ≠ d := by
  rintro rfl
  rw [isMeaningful_of_isWordChar word] at noticed
  cases noticed

namespace Word

variable {text : Text} (word : Word text)

include word

theorem inert : Inert text := by
  intro c listed
  obtain ⟨-, -, special, stop, -⟩ := plain_of_isWordChar (word.2 c listed)
  exact ⟨special, stop⟩

theorem not_mem {d : Char} (noticed : isMeaningful d = true) : d ∉ text :=
  fun listed => ne_of_isWordChar (word.2 d listed) noticed rfl

theorem exists_cons : ∃ c rest, text = c :: rest ∧ isWordChar c = true := by
  cases text with
  | nil => exact absurd rfl word.1
  | cons c rest => exact ⟨c, rest, rfl, word.2 c List.mem_cons_self⟩

theorem trimStart_append (rest : Text) : trimStart (text ++ rest) = text ++ rest := by
  obtain ⟨c, tail, rfl, isWord⟩ := word.exists_cons
  exact trimStart_cons (tail ++ rest) (isBlank_of_isWordChar isWord)

theorem trimEnd_append (front : Text) : trimEnd (front ++ text) = front ++ text := by
  rcases List.eq_nil_or_concat text with rfl | ⟨body, c, rfl⟩
  · exact absurd rfl word.1
  · rw [List.concat_eq_append, ← List.append_assoc]
    refine trimEnd_concat (front ++ body) (isBlank_of_isWordChar (word.2 c ?_))
    simp

theorem trimEnd_eq : trimEnd text = text := word.trimEnd_append []

theorem plainly (rest : Text) : Plainly (text ++ rest) := by
  obtain ⟨c, tail, rfl, isWord⟩ := word.exists_cons
  obtain ⟨-, gap, -⟩ := plain_of_isWordChar isWord
  refine ⟨c, tail ++ rest, rfl, gap, ne_of_isWordChar isWord (by decide),
    ne_of_isWordChar isWord (by decide), fun comment => ?_⟩
  exact ne_of_isWordChar isWord (by decide) comment.1

end Word

end Text

namespace Source

open Text

/-- A scan outside all brackets passes over the text, whatever follows. -/
def PassedOver (text : Text) : Prop := ∀ rest, scan {} (text ++ rest) = (scan {} rest).behind text

theorem behind_behind (first second : Text) (found : Scan) :
    (found.behind second).behind first = found.behind (first ++ second) := by
  cases found with
  | stopped region rest => rw [Scan.behind, Scan.behind, Scan.behind, List.append_assoc]
  | flawed flaw before => rw [Scan.behind, Scan.behind, Scan.behind, List.append_assoc]

theorem passedOver_append {first second : Text} (passed : PassedOver first) (passed' : PassedOver second) :
    PassedOver (first ++ second) := by
  intro rest
  rw [List.append_assoc, passed, passed', behind_behind]

theorem passedOver_nil : PassedOver [] := by
  intro rest
  rw [List.nil_append]
  cases scan {} rest <;> rfl

theorem passedOver_of_inert {text : Text} (inert : Inert text) : PassedOver text := by
  induction text with
  | nil => exact passedOver_nil
  | cons c text ih =>
    rw [Inert, List.forall_mem_cons] at inert
    intro rest
    rw [List.cons_append,
      scan_of_taken (lexeme_of_not_isSpecial _ inert.1.1) (stops_of_not_isStop _ inert.1.2),
      past_of_not_isSpecial _ inert.1.1, ih inert.2, behind_behind]
    rfl

theorem closeComment?_of_not_mem {inner : Text} (absent : '*' ∉ inner) (rest : Text) :
    closeComment? (inner ++ '*' :: '/' :: rest) = some (inner, rest) := by
  induction inner with
  | nil => rfl
  | cons c inner ih =>
    rw [List.mem_cons, not_or] at absent
    rw [List.cons_append, closeComment?, ih absent.2]
    · rfl
    · exact fun _ star => absurd star.symm absent.1

theorem passedOver_comment {inner : Text} (absent : '*' ∉ inner) :
    PassedOver ('/' :: '*' :: inner ++ ['*', '/']) := by
  intro rest
  have taken : lexeme ('/' :: '*' :: inner ++ ['*', '/'] ++ rest) =
      .taken ('/' :: '*' :: inner ++ ['*', '/']) rest := by
    have closed := closeComment?_of_not_mem absent rest
    simp [lexeme, closed]
  rw [scan_of_taken taken rfl]
  rfl

section cut

variable {region : Text} (passed : PassedOver region)

include passed

theorem cut_block_of_passedOver (rest : Text) : cut (region ++ '{' :: rest) = .block region rest := by
  rw [cut_eq_block_iff, passed, scan_of_isStop rest rfl, Scan.behind, List.append_nil]

theorem cut_ended_of_passedOver (rest : Text) : cut (region ++ ';' :: rest) = .ended region rest := by
  rw [cut_eq_ended_iff, passed, scan_of_isStop rest rfl, Scan.behind, List.append_nil]

theorem cut_unended_of_passedOver (trimmed : trimEnd region = region) {tail : Text} (trailing : Trailing tail) :
    cut (region ++ tail) = .unended region tail := by
  obtain ⟨blanks, rest, rfl, all, ends⟩ := trailing
  have scanned : scan {} (region ++ (blanks ++ rest)) = .stopped (region ++ blanks) rest := by
    rw [passed, scan_trailing blanks rest all ends, Scan.behind]
  have parts := splitEnd_append_of_all trimmed all
  rcases ends with rfl | ⟨tail, rfl⟩
  · simp only [cut, scanned, parts]
  · simp [cut, scanned, parts]

end cut

theorem params_splitParams (region : Text) : (splitParams region).2.1 = trimStart (trimEnd region) := by
  unfold splitParams
  dsimp only
  split
  next none => exact (List.isEmpty_iff.mp none).symm
  next => rfl

theorem splitImportant_of_not_mem {value : Text} (absent : '!' ∉ value) : splitImportant value = (value, none) := by
  have unmarked : ∀ c ∈ trimEnd value, (c != '!') = true := by
    intro c listed
    rw [bne_iff_ne]
    rintro rfl
    exact absent ((isPrefix_trimEnd value).subset listed)
  simp only [splitImportant, splitEnd_of_all _ _ unmarked, List.isEmpty_nil, if_true]

theorem splitImportant_marked {value behind : Text} (word : Word value) (absent : '!' ∉ behind)
    (trimmed : trimEnd (value ++ Kind.standardMark true ++ behind) = value ++ Kind.standardMark true ++ behind) :
    splitImportant (value ++ Kind.standardMark true ++ behind) =
      if behind.isEmpty then (value, some (Kind.standardMark true))
      else (value ++ Kind.standardMark true ++ behind, none) := by
  have parts : splitEnd (· != '!') (value ++ Kind.standardMark true ++ behind) =
      (value ++ [' ', '!'], "important".toList ++ behind) := by
    have whole : value ++ Kind.standardMark true ++ behind =
        (value ++ [' '] ++ ['!']) ++ ("important".toList ++ behind) := by simp [Kind.standardMark]
    have front : (splitEnd (· != '!') (value ++ [' '] ++ ['!'])).1 = value ++ [' '] ++ ['!'] := by
      rw [splitEnd_concat _ _ (by decide)]
    have unmarked : ∀ c ∈ "important".toList ++ behind, (c != '!') = true := by
      intro c listed
      rw [bne_iff_ne]
      rintro rfl
      rcases List.mem_append.mp listed with mark | later
      · exact absurd mark (by decide)
      · exact absent later
    rw [whole, splitEnd_append_of_all front unmarked, List.append_assoc]
    rfl
  have start : trimStart ("important".toList ++ behind) = "important".toList ++ behind :=
    trimStart_cons _ (by decide)
  have body : trimEnd (value ++ [' ', '!']).dropLast = value := by
    have front : (value ++ [' ', '!']).dropLast = value ++ [' '] := by
      rw [List.dropLast_append_of_ne_nil (by simp)]
      rfl
    rw [front, trimEnd, splitEnd_append_of_all word.trimEnd_eq (by simp [isBlank])]
  have lower : ("important".toList ++ behind).map Char.toLower = "important".toList ++ behind.map Char.toLower := by
    rw [List.map_append]
    rfl
  simp only [splitImportant, trimmed, parts, start, body, lower]
  rw [if_neg (by simp)]
  cases behind with
  | nil => simp
  | cons c behind =>
    rw [if_neg (by simp), if_neg (by simp)]

theorem forall_mem_newLine {p : Char → Prop} (lineFeed : p '\n') (space : p ' ') (depth : Nat) :
    ∀ c ∈ newLine depth, p c := by
  rw [newLine, List.forall_mem_cons]
  refine ⟨lineFeed, fun c listed => ?_⟩
  rwa [List.eq_of_mem_replicate listed]

theorem blank_newLine (depth : Nat) : ∀ c ∈ newLine depth, isBlank c = true :=
  forall_mem_newLine (by decide) (by decide) depth

theorem gap_newLine (depth : Nat) : ∀ c ∈ newLine depth, isGap c = true :=
  forall_mem_newLine (by decide) (by decide) depth

inductive Remarks : Text → Prop
  | nil : Remarks []
  | cons {text rest : Text} (depth : Nat) (word : Word text) (later : Remarks rest) :
      Remarks (newLine depth ++ (Kind.comment text).standardLeaf false ++ rest)

namespace Remarks

variable {comments : Text} (remarks : Remarks comments)

include remarks

theorem passedOver : PassedOver comments := by
  induction remarks with
  | nil => exact passedOver_nil
  | @cons text rest depth word _ ih =>
    have absent : '*' ∉ [' '] ++ text ++ [' '] := by
      have inside := word.not_mem (d := '*') (by decide)
      simpa using inside
    have line := passedOver_append (passedOver_of_inert (inert_of_isBlank (blank_newLine depth)))
      (passedOver_comment absent)
    exact passedOver_append line ih

theorem not_mem : '!' ∉ comments := by
  induction remarks with
  | nil => simp
  | @cons text rest depth word _ ih =>
    have inside := word.not_mem (d := '!') (by decide)
    have before : '!' ∉ newLine depth := fun listed => absurd (blank_newLine depth _ listed) (by decide)
    simp [Kind.standardLeaf, inside, before, ih]

theorem head : ∀ c ∈ comments.head?, c = '\n' := by
  cases remarks with
  | nil => simp
  | cons depth word later => simp [newLine]

theorem trimEnd_append {front : Text} (trimmed : trimEnd front = front) :
    trimEnd (front ++ comments) = front ++ comments := by
  induction remarks generalizing front with
  | nil => rwa [List.append_nil]
  | @cons text rest depth word _ ih =>
    have line : front ++ (newLine depth ++ (Kind.comment text).standardLeaf false) =
        (front ++ (newLine depth ++ '/' :: '*' :: [' '] ++ text ++ [' '] ++ ['*'])) ++ ['/'] := by
      simp [Kind.standardLeaf]
    rw [← List.append_assoc]
    apply ih
    rw [line]
    exact trimEnd_concat _ (by decide)

end Remarks

def BlockEnd (tail : Text) : Prop := tail = [] ∨ ∃ depth rest, tail = newLine depth ++ '}' :: rest

theorem BlockEnd.trailing {tail : Text} (ends : BlockEnd tail) : Trailing tail := by
  rcases ends with rfl | ⟨depth, rest, rfl⟩
  · exact ⟨[], [], rfl, by simp, Or.inl rfl⟩
  · exact ⟨newLine depth, '}' :: rest, rfl, blank_newLine depth, Or.inr ⟨rest, rfl⟩⟩

theorem BlockEnd.head {tail : Text} (ends : BlockEnd tail) : ∀ c ∈ tail.head?, c = '\n' := by
  rcases ends with rfl | ⟨depth, rest, rfl⟩
  · simp
  · simp [newLine]

end Source

namespace Kind

/-- What is read where comments follow a statement up to the end of its block: they are taken into its
parameters or its value, and a mark of importance in front of them is one no more. -/
def swallow (comments : Text) : Kind → Kind
  | .atRule name params hasBlock => .atRule name (Text.trimStart (params ++ comments)) hasBlock
  | .decl property value important =>
    if comments.isEmpty then .decl property value important
    else .decl property (value ++ standardMark important ++ comments) false
  | kind => kind

theorem swallow_nil {kind : Kind} (worded : kind.Worded) : kind.swallow [] = kind := by
  cases kind with
  | atRule name params hasBlock =>
    rcases worded.2 with rfl | word
    · rfl
    · rw [swallow, word.trimStart_append, List.append_nil]
  | _ => rfl

theorem standardLeaf_true {kind : Kind} (statement : kind.isStatement = true) :
    kind.standardLeaf true = kind.standardLeaf false ++ [';'] := by
  cases kind with
  | atRule name params hasBlock => simp [standardLeaf, Sheet.ending]
  | decl property value important =>
    simp only [standardLeaf, Sheet.ending, if_true, Bool.false_eq_true, if_false, List.append_nil]
  | _ => simp [isStatement, isContainer, isComment] at statement

end Kind

namespace Source

open Text

theorem declKind?_of_word {property value : Text} (word : Word property) (visible : trimStart value = value) :
    declKind? (property ++ [':', ' '] ++ value) =
      some (.decl property (splitImportant value).1 (splitImportant value).2.isSome) := by
  have noColon : ∀ c ∈ property, (c != ':') = true := by
    intro c listed
    rw [bne_iff_ne]
    exact ne_of_isWordChar (word.2 c listed) (by decide)
  have whole : property ++ [':', ' '] ++ value = property ++ ':' :: ' ' :: value := by simp
  have head : (property ++ ':' :: ' ' :: value).takeWhile (· != ':') = property := by
    rw [List.takeWhile_append_of_pos noColon]
    simp
  have tail : (property ++ ':' :: ' ' :: value).dropWhile (· != ':') = ':' :: ' ' :: value := by
    rw [List.dropWhile_append_of_pos noColon]
    simp
  have own : splitEnd isBlank property = (property, []) := by
    have parts := splitEnd_append_of_all word.trimEnd_eq (List.forall_mem_nil _)
    rwa [List.append_nil] at parts
  have behind : (splitBlanks (' ' :: value)).2 = value := by
    rw [splitBlanks, List.dropWhile_cons_of_pos (by decide)]
    exact visible
  simp only [declKind?, readDecl, whole, head, tail, own, behind]
  rw [if_neg (by simpa using word.1)]
  rfl

section decl

variable {property value comments : Text} {important : Bool} (word : Word property) (word' : Word value)
  (remarks : Remarks comments)

theorem inert_standardMark (important : Bool) : Inert (Kind.standardMark important) := by
  cases important <;> decide

include word' remarks

theorem trimEnd_standardValue (front : Text) :
    trimEnd (front ++ value ++ Kind.standardMark important ++ comments) =
      front ++ value ++ Kind.standardMark important ++ comments := by
  apply remarks.trimEnd_append
  cases important with
  | false =>
    have unmarked : Kind.standardMark false = [] := by decide
    rw [unmarked, List.append_nil, word'.trimEnd_append]
  | true =>
    have ends : Kind.standardMark true = " !importan".toList ++ ['t'] := by decide
    rw [ends, ← List.append_assoc]
    exact trimEnd_concat _ (by decide)

theorem trimEnd_standardDecl :
    trimEnd ((Kind.decl property value important).standardLeaf false ++ comments) =
      (Kind.decl property value important).standardLeaf false ++ comments := by
  have whole : (Kind.decl property value important).standardLeaf false ++ comments =
      property ++ [':', ' '] ++ value ++ Kind.standardMark important ++ comments := by
    simp [Kind.standardLeaf, Sheet.ending]
  rw [whole]
  exact trimEnd_standardValue word' remarks _

theorem splitImportant_standard :
    splitImportant (value ++ Kind.standardMark important ++ comments) =
      if important && comments.isEmpty then (value, some (Kind.standardMark important))
      else (value ++ Kind.standardMark important ++ comments, none) := by
  cases important with
  | false =>
    have absent : '!' ∉ value ++ Kind.standardMark false ++ comments := by
      simpa [Kind.standardMark] using ⟨word'.not_mem (d := '!') (by decide), remarks.not_mem⟩
    exact splitImportant_of_not_mem absent
  | true => exact splitImportant_marked word' remarks.not_mem (trimEnd_standardValue word' remarks [])

include word

theorem declKind?_standard :
    declKind? ((Kind.decl property value important).standardLeaf false ++ comments) =
      some ((Kind.decl property value important).swallow comments) := by
  have whole : (Kind.decl property value important).standardLeaf false ++ comments =
      property ++ [':', ' '] ++ (value ++ Kind.standardMark important ++ comments) := by
    simp [Kind.standardLeaf, Sheet.ending]
  have visible : trimStart (value ++ Kind.standardMark important ++ comments) =
      value ++ Kind.standardMark important ++ comments := by
    rw [List.append_assoc, word'.trimStart_append]
  rw [whole, declKind?_of_word word visible, splitImportant_standard word' remarks, Kind.swallow]
  cases comments with
  | nil => cases important <;> simp [Kind.standardMark]
  | cons c comments => simp

theorem passedOver_standardDecl :
    PassedOver ((Kind.decl property value important).standardLeaf false ++ comments) := by
  have colon : Inert [':', ' '] := by decide
  have own : Inert ((Kind.decl property value important).standardLeaf false) := by
    simp only [Kind.standardLeaf, Sheet.ending, Bool.false_eq_true, if_false, List.append_nil]
    exact inert_append.mpr ⟨inert_append.mpr ⟨inert_append.mpr ⟨word.inert, colon⟩, word'.inert⟩,
      inert_standardMark important⟩
  exact passedOver_append (passedOver_of_inert own) remarks.passedOver

end decl

theorem plainly_standardDecl {property value : Text} {important : Bool} (word : Word property) {comments : Text}
    (rest : Text) : Plainly ((Kind.decl property value important).standardLeaf false ++ comments ++ rest) := by
  simp only [Kind.standardLeaf, List.append_assoc]
  exact word.plainly _

section atRule

variable {name params comments : Text} (word : Word name) (word' : params = [] ∨ Word params)

include word'

theorem inert_params : Inert (Kind.standardGap params ++ params) := by
  rcases word' with rfl | word'
  · decide
  · have gap : Inert (Kind.standardGap params) := by
      unfold Kind.standardGap
      split <;> decide
    exact inert_append.mpr ⟨gap, word'.inert⟩

theorem trimStart_params (rest : Text) :
    trimStart (Kind.standardGap params ++ params ++ rest) = trimStart (params ++ rest) := by
  rcases word' with rfl | word'
  · rfl
  · obtain ⟨c, tail, rfl, -⟩ := word'.exists_cons
    rfl

theorem trimStart_words : trimStart params = params := by
  rcases word' with rfl | word'
  · rfl
  · simpa using word'.trimStart_append []

theorem trimEnd_params : trimEnd (Kind.standardGap params ++ params) = Kind.standardGap params ++ params := by
  rcases word' with rfl | word'
  · rfl
  · exact word'.trimEnd_append _

theorem endsName_params {rest : Text} (ends : ∀ c ∈ rest.head?, endsName c = true) :
    ∀ c ∈ (Kind.standardGap params ++ params ++ rest).head?, endsName c = true := by
  rcases word' with rfl | word'
  · exact ends
  · obtain ⟨c, tail, rfl, -⟩ := word'.exists_cons
    simp [Kind.standardGap, endsName]

variable (remarks : Remarks comments)

include remarks

theorem passedOver_standardParams : PassedOver (Kind.standardGap params ++ params ++ comments) :=
  passedOver_append (passedOver_of_inert (inert_params word')) remarks.passedOver

theorem trimEnd_standardParams :
    trimEnd (Kind.standardGap params ++ params ++ comments) = Kind.standardGap params ++ params ++ comments :=
  remarks.trimEnd_append (trimEnd_params word')

theorem params_standardParams :
    (splitParams (Kind.standardGap params ++ params ++ comments)).2.1 = trimStart (params ++ comments) := by
  rw [params_splitParams, trimEnd_standardParams word' remarks, trimStart_params word']

include word

theorem reads_standardAtRule {tail rest : Text} {mark : Mark} (ends : ∀ c ∈ tail.head?, endsName c = true) :
    Reads ((Kind.atRule name params false).standardLeaf false ++ comments ++ tail) mark rest ↔
      (cut (Kind.standardGap params ++ params ++ comments ++ tail)).atMark name = some (mark, rest) := by
  have whole : (Kind.atRule name params false).standardLeaf false ++ comments ++ tail =
      '@' :: (name ++ (Kind.standardGap params ++ params ++ comments ++ tail)) := by
    simp [Kind.standardLeaf, Kind.standardHead, Sheet.ending]
  have stops : ∀ c ∈ (comments ++ tail).head?, endsName c = true := by
    intro c first
    cases comments with
    | nil => exact ends c first
    | cons d comments =>
      rw [remarks.head c first]
      decide
  rw [whole]
  refine reads_atRule (fun c listed => endsName_of_isWordChar (word.2 c listed)) ?_
  rw [List.append_assoc]
  exact endsName_params word' stops

end atRule

section reads

variable {kind : Kind} (worded : kind.Worded)

include worded

theorem reads_standardHead (block : kind.isContainer = true) (rest : Text) :
    Reads (kind.standardHead ++ [' '] ++ '{' :: rest) (.opened kind) rest := by
  cases kind with
  | root => exact worded.elim
  | rule selector =>
    have word : Word selector := worded
    have inert : Inert (selector ++ [' ']) := inert_append.mpr ⟨word.inert, by decide⟩
    have plainly : Plainly (selector ++ [' '] ++ '{' :: rest) := by
      rw [List.append_assoc]
      exact word.plainly _
    rw [Kind.standardHead, reads_plain plainly, cut_block_of_passedOver (passedOver_of_inert inert),
      Cut.plainMark, trimEnd, splitEnd_append_of_all word.trimEnd_eq (by simp [isBlank])]
  | atRule name params hasBlock =>
    obtain ⟨word, word'⟩ := worded
    obtain rfl : hasBlock = true := block
    have inert : Inert (Kind.standardGap params ++ params ++ [' ']) :=
      inert_append.mpr ⟨inert_params word', by decide⟩
    have ends : ∀ c ∈ (Kind.standardGap params ++ params ++ ([' '] ++ '{' :: rest)).head?, endsName c = true :=
      endsName_params word' (by simp [endsName])
    have whole : (Kind.atRule name params true).standardHead ++ [' '] ++ '{' :: rest =
        '@' :: (name ++ (Kind.standardGap params ++ params ++ ([' '] ++ '{' :: rest))) := by
      simp [Kind.standardHead]
    have region : Kind.standardGap params ++ params ++ ([' '] ++ '{' :: rest) =
        Kind.standardGap params ++ params ++ [' '] ++ '{' :: rest := by simp
    have same : trimStart (trimEnd (Kind.standardGap params ++ params ++ [' '])) = params := by
      rw [trimEnd, splitEnd_append_of_all (trimEnd_params word') (by simp [isBlank])]
      simpa [trimStart_words word'] using trimStart_params word' []
    rw [whole, reads_atRule (fun c listed => endsName_of_isWordChar (word.2 c listed)) ends, region,
      cut_block_of_passedOver (passedOver_of_inert inert), Cut.atMark, params_splitParams, same]
  | decl property value important => cases block
  | comment text => cases block

theorem reads_standardComment (comment : kind.isComment = true) (semicolon : Bool) (rest : Text) :
    Reads (kind.standardLeaf semicolon ++ rest) (.leaf kind) rest := by
  cases kind with
  | comment text =>
    have word : Word text := worded
    have absent : '*' ∉ ' ' :: (text ++ [' ']) := by
      simpa using word.not_mem (d := '*') (by decide)
    have same : (splitComment (' ' :: (text ++ [' ']))).2.1 = text := by
      have shown : (' ' :: (text ++ [' '])).all isBlank = false := by
        obtain ⟨c, later, rfl, isWord⟩ := word.exists_cons
        simp [isBlank_of_isWordChar isWord]
      have behind : (splitBlanks (' ' :: (text ++ [' ']))).2 = text ++ [' '] := by
        rw [splitBlanks, List.dropWhile_cons_of_pos (by decide)]
        exact word.trimStart_append [' ']
      have parts : splitEnd isBlank (text ++ [' ']) = (text, [' ']) :=
        splitEnd_append_of_all word.trimEnd_eq (by simp [isBlank])
      simp only [splitComment, shown, behind, parts]
      rfl
    have reads := reads_comment (closeComment?_of_not_mem absent []) rest
    rw [same] at reads
    simpa [Kind.standardLeaf] using reads
  | _ => cases comment

theorem reads_statement (statement : kind.isStatement = true) (rest : Text) :
    Reads (kind.standardLeaf true ++ rest) (.leaf kind) rest := by
  have whole : kind.standardLeaf true ++ rest = kind.standardLeaf false ++ [] ++ ';' :: rest := by
    simp [Kind.standardLeaf_true statement]
  have same := Kind.swallow_nil worded
  rw [whole]
  cases kind with
  | decl property value important =>
    have passed : PassedOver ((Kind.decl property value important).standardLeaf false ++ []) :=
      passedOver_standardDecl worded.1 worded.2 .nil
    rw [reads_plain (plainly_standardDecl worded.1 _), cut_ended_of_passedOver passed, Cut.plainMark,
      declKind?_standard worded.1 worded.2 .nil, same]
    rfl
  | atRule name params hasBlock =>
    obtain rfl : hasBlock = false := by cases hasBlock <;> simp_all [Kind.isStatement, Kind.isContainer]
    rw [reads_standardAtRule worded.1 worded.2 .nil (by simp [endsName])]
    rw [cut_ended_of_passedOver (passedOver_standardParams worded.2 .nil), Cut.atMark,
      params_standardParams worded.2 .nil]
    exact congrArg (fun kind => some (Mark.leaf kind, rest)) same
  | _ => cases statement

theorem reads_standardLeaf (leaf : kind.isContainer = false) {semicolon : Bool}
    (ends : kind.isComment = true ∨ semicolon = true) (rest : Text) :
    Reads (kind.standardLeaf semicolon ++ rest) (.leaf kind) rest := by
  by_cases comment : kind.isComment = true
  · exact reads_standardComment worded comment semicolon rest
  · rw [ends.resolve_left comment]
    exact reads_statement worded (by simp [Kind.isStatement, leaf, comment]) rest

theorem reads_lastStatement (statement : kind.isStatement = true) {comments tail : Text}
    (remarks : Remarks comments) (ends : BlockEnd tail) :
    Reads (kind.standardLeaf false ++ comments ++ tail) (.leaf (kind.swallow comments)) tail := by
  cases kind with
  | decl property value important =>
    have passed : PassedOver ((Kind.decl property value important).standardLeaf false ++ comments) :=
      passedOver_standardDecl worded.1 worded.2 remarks
    have trimmed : trimEnd ((Kind.decl property value important).standardLeaf false ++ comments) = _ :=
      trimEnd_standardDecl worded.2 remarks
    rw [reads_plain (plainly_standardDecl worded.1 _), cut_unended_of_passedOver passed trimmed ends.trailing,
      Cut.plainMark, declKind?_standard worded.1 worded.2 remarks]
    rfl
  | atRule name params hasBlock =>
    obtain rfl : hasBlock = false := by cases hasBlock <;> simp_all [Kind.isStatement, Kind.isContainer]
    have stops : ∀ c ∈ tail.head?, endsName c = true := by
      intro c first
      rw [ends.head c first]
      decide
    rw [reads_standardAtRule worded.1 worded.2 remarks stops]
    rw [cut_unended_of_passedOver (passedOver_standardParams worded.2 remarks)
      (trimEnd_standardParams worded.2 remarks) ends.trailing, Cut.atMark, params_standardParams worded.2 remarks]
    rfl
  | _ => cases statement

end reads

end Source

end NestLint
