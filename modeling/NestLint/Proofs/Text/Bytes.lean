import NestLint.Proofs.Text.Slice

/-!
A text as its bytes in UTF-8. An ASCII character is one byte below 128, and all bytes of any other character
lie above. So a byte that looks like an ASCII character is one, wherever it stands, and a loop that goes over
the bytes passes a wide character as a whole, even when it enters it in the middle.
-/

namespace NestLint

namespace Text

def bytes (text : Text) : List UInt8 := text.flatMap String.utf8EncodeChar

def ascii (c : Char) : UInt8 := UInt8.ofNat c.val.toNat

def byte? (text : Text) (i : Nat) : Option UInt8 := (bytes text)[i]?

section encoding

variable {c d : Char}

theorem utf8EncodeChar_narrow (narrow : c.utf8Size = 1) : String.utf8EncodeChar c = [ascii c] := by
  have small : c.val.toNat ≤ 127 := Char.utf8Size_eq_one_iff.mp narrow
  simp only [String.utf8EncodeChar, if_pos small, ascii]

theorem toNat_ascii (narrow : c.utf8Size = 1) : (ascii c).toNat = c.val.toNat := by
  have small : c.val.toNat ≤ 127 := Char.utf8Size_eq_one_iff.mp narrow
  rw [ascii, UInt8.toNat_ofNat']
  omega

theorem ascii_lt (narrow : c.utf8Size = 1) : (ascii c).toNat < 128 := by
  have small : c.val.toNat ≤ 127 := Char.utf8Size_eq_one_iff.mp narrow
  rw [toNat_ascii narrow]
  omega

theorem ascii_inj (narrow : c.utf8Size = 1) (narrow' : d.utf8Size = 1) : ascii c = ascii d ↔ c = d := by
  refine ⟨fun same => ?_, fun same => congrArg ascii same⟩
  have values := congrArg UInt8.toNat same
  rw [toNat_ascii narrow, toNat_ascii narrow'] at values
  exact Char.ext (UInt32.toNat_inj.mp values)

theorem wide_byte (wide : c.utf8Size ≠ 1) : ∀ b ∈ String.utf8EncodeChar c, 128 ≤ b.toNat := by
  have large : ¬ c.val.toNat ≤ 127 := fun small => wide (Char.utf8Size_eq_one_iff.mpr small)
  simp only [String.utf8EncodeChar, if_neg large]
  split
  · simp only [List.mem_cons, List.not_mem_nil, or_false, forall_eq_or_imp, forall_eq, UInt8.toNat_ofNat']
    omega
  · split
    · simp only [List.mem_cons, List.not_mem_nil, or_false, forall_eq_or_imp, forall_eq, UInt8.toNat_ofNat']
      omega
    · simp only [List.mem_cons, List.not_mem_nil, or_false, forall_eq_or_imp, forall_eq, UInt8.toNat_ofNat']
      omega

end encoding

section bytes

variable (front rest : Text) (c : Char)

theorem bytes_append : bytes (front ++ rest) = bytes front ++ bytes rest := List.flatMap_append

theorem bytes_cons : bytes (c :: rest) = String.utf8EncodeChar c ++ bytes rest := List.flatMap_cons

theorem length_bytes (text : Text) : (bytes text).length = byteSize text := by
  induction text with
  | nil => rfl
  | cons c text ih => rw [bytes_cons, List.length_append, String.length_utf8EncodeChar, ih, byteSize]

theorem length_le_byteSize (text : Text) : text.length ≤ byteSize text := by
  induction text with
  | nil => exact Nat.le_refl 0
  | cons c text ih =>
    have positive := c.utf8Size_pos
    rw [List.length_cons, byteSize]
    omega

theorem byte?_append (i : Nat) : byte? (front ++ rest) (byteSize front + i) = byte? rest i := by
  rw [byte?, bytes_append, ← length_bytes front, List.getElem?_append_right (Nat.le_add_right _ _),
    Nat.add_sub_cancel_left]
  rfl

theorem byte?_eq_none_iff {text : Text} {i : Nat} : byte? text i = none ↔ byteSize text ≤ i := by
  rw [byte?, List.getElem?_eq_none_iff, length_bytes]

theorem lt_of_byte? {text : Text} {i : Nat} {b : UInt8} (found : byte? text i = some b) : i < byteSize text := by
  rw [← length_bytes]
  exact (List.getElem?_eq_some_iff.mp found).1

theorem byte?_front : byte? (front ++ rest) (byteSize front) = byte? rest 0 := byte?_append front rest 0

theorem drop_bytes : (bytes (front ++ rest)).drop (byteSize front) = bytes rest := by
  rw [bytes_append, ← length_bytes front, List.drop_left]

theorem byteSize_concat : byteSize (front ++ [c]) = byteSize front + c.utf8Size := by
  rw [byteSize_append]
  simp [byteSize]

variable {c}

theorem byte?_narrow (narrow : c.utf8Size = 1) : byte? (c :: rest) 0 = some (ascii c) := by
  rw [byte?, bytes_cons, utf8EncodeChar_narrow narrow]
  rfl

theorem byte?_wide (wide : c.utf8Size ≠ 1) {i : Nat} (inside : i < c.utf8Size) :
    ∃ b, byte? (c :: rest) i = some b ∧ 128 ≤ b.toNat := by
  have short : i < (String.utf8EncodeChar c).length := by rwa [String.length_utf8EncodeChar]
  refine ⟨(String.utf8EncodeChar c)[i], ?_, wide_byte wide _ (List.getElem_mem short)⟩
  rw [byte?, bytes_cons, List.getElem?_append_left short, List.getElem?_eq_getElem short]

theorem byte?_eq_ascii_iff (narrow : c.utf8Size = 1) : byte? rest 0 = some (ascii c) ↔ rest.head? = some c := by
  cases rest with
  | nil => simp [byte?, bytes]
  | cons d rest =>
    rw [List.head?_cons, Option.some.injEq]
    by_cases narrow' : d.utf8Size = 1
    · rw [byte?_narrow rest narrow', Option.some.injEq, ascii_inj narrow' narrow]
    · obtain ⟨b, found, above⟩ := byte?_wide rest narrow' d.utf8Size_pos
      have below := ascii_lt narrow
      rw [found, Option.some.injEq]
      refine ⟨fun same => ?_, fun same => absurd (same ▸ narrow) narrow'⟩
      rw [same] at above
      omega

theorem byte?_second (narrow : c.utf8Size = 1) {d : Char} (narrow' : d.utf8Size = 1) :
    byte? (front ++ c :: rest) (byteSize front + 1) = some (ascii d) ↔ rest.head? = some d := by
  rw [← List.singleton_append, ← List.append_assoc, ← narrow, ← byteSize_concat, byte?_front,
    byte?_eq_ascii_iff rest narrow']

/-- A loop that passes every byte above the ASCII characters passes a wide character, from whichever of its
bytes on. -/
theorem pass_wide {α : Type} {text : Text} (loop : Nat → α)
    (passes : ∀ i b, byte? text i = some b → 128 ≤ b.toNat → loop i = loop (i + 1))
    (source : text = front ++ c :: rest) (wide : c.utf8Size ≠ 1) {i : Nat} (inside : i ≤ c.utf8Size) :
    loop (byteSize front + i) = loop (byteSize (front ++ [c])) := by
  by_cases last : i = c.utf8Size
  · rw [last, byteSize_concat]
  · have before : i < c.utf8Size := by omega
    obtain ⟨b, found, above⟩ := byte?_wide rest wide before
    rw [← byte?_append front, ← source] at found
    rw [passes _ b found above, Nat.add_assoc]
    exact pass_wide loop passes source wide (i := i + 1) before
termination_by c.utf8Size - i

theorem pass_char {α : Type} {text : Text} (loop : Nat → α)
    (passes : ∀ i b, byte? text i = some b → 128 ≤ b.toNat → loop i = loop (i + 1))
    (source : text = front ++ c :: rest)
    (narrow : c.utf8Size = 1 → loop (byteSize front) = loop (byteSize front + 1)) :
    loop (byteSize front) = loop (byteSize (front ++ [c])) := by
  by_cases one : c.utf8Size = 1
  · rw [byteSize_concat, one, narrow one]
  · exact pass_wide front rest loop passes source one (Nat.zero_le _)

/-- Two bytes behind an escape such a loop is at, or on its way to, the place behind the escaped character. -/
theorem pass_escape {α : Type} {text : Text} (loop : Nat → α)
    (passes : ∀ i b, byte? text i = some b → 128 ≤ b.toNat → loop i = loop (i + 1)) {d : Char}
    (narrow : c.utf8Size = 1) (source : text = front ++ c :: d :: rest) :
    loop (byteSize front + 2) = loop (byteSize (front ++ [c, d])) := by
  have whole : front ++ [c, d] = front ++ [c] ++ [d] := by simp
  have second : byteSize front + 2 = byteSize (front ++ [c]) + 1 := by rw [byteSize_concat, narrow]
  rw [whole, second]
  by_cases one : d.utf8Size = 1
  · rw [byteSize_concat (front ++ [c]), one]
  · exact pass_wide (front ++ [c]) rest loop passes (by simp [source]) one d.utf8Size_pos

theorem narrow_of_all {cs : List Char} (all : cs.all (·.utf8Size == 1) = true) : ∀ d ∈ cs, d.utf8Size = 1 :=
  fun d listed => beq_iff_eq.mp (List.all_eq_true.mp all d listed)

theorem not_mem_map_ascii {cs : List Char} (narrow : ∀ d ∈ cs, d.utf8Size = 1) {b : UInt8}
    (above : 128 ≤ b.toNat) : b ∉ cs.map ascii := by
  rw [List.mem_map]
  rintro ⟨d, listed, rfl⟩
  have below := ascii_lt (narrow d listed)
  omega

theorem mem_map_ascii_iff {cs : List Char} (narrow : ∀ d ∈ cs, d.utf8Size = 1) (one : c.utf8Size = 1) :
    ascii c ∈ cs.map ascii ↔ c ∈ cs := by
  rw [List.mem_map]
  constructor
  · rintro ⟨d, listed, same⟩
    exact (ascii_inj (narrow d listed) one).mp same ▸ listed
  · exact fun listed => ⟨c, listed, rfl⟩

end bytes

end Text

end NestLint
