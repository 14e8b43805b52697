/-
Quoted texts and numbers, read after writing.

The reader takes a quoted text back character by character: an escaped
character, in its short form or by its number, stands for itself.  A number is
read back from its decimal digits wherever no further digit follows.
-/
import JarAtlas.Json.Reader
import JarAtlas.Json.Writer

namespace JarAtlas
namespace Json

section

variable {done rest : List Char}

theorem quotedRest?_end (done rest : List Char) :
    quotedRest? done ('"' :: rest) = some (String.ofList done.reverse, rest) := by
  rw [quotedRest?]

theorem quotedRest?_short {letter c : Char} (short : shortEscape? letter = some c)
    (done rest : List Char) :
    quotedRest? done ('\\' :: letter :: rest) = quotedRest? (c :: done) rest := by
  have notU : letter ≠ 'u' := by
    rintro rfl
    cases short
  rw [quotedRest?.eq_def]
  split <;> grind

theorem quotedRest?_numbered {a b c d : Char} {code : Nat}
    (digits : fourDigits? a b c d = some code) (valid : code.isValidChar)
    (done rest : List Char) :
    quotedRest? done ('\\' :: 'u' :: a :: b :: c :: d :: rest) =
      quotedRest? (Char.ofNat code :: done) rest := by
  rw [quotedRest?.eq_def]
  split <;> grind

theorem quotedRest?_plain {c : Char} (notQuote : c ≠ '"') (notBackslash : c ≠ '\\')
    (notControl : ¬c.toNat < 0x20) (done rest : List Char) :
    quotedRest? done (c :: rest) = quotedRest? (c :: done) rest := by
  rw [quotedRest?.eq_def]
  split <;> grind

end

private theorem fourDigits?_of_control :
    ∀ code < 0x20,
      fourDigits? '0' '0' (hexDigit (code / 16)) (hexDigit (code % 16)) = some code := by
  decide

theorem quotedRest?_escaped (c : Char) (done rest : List Char) :
    quotedRest? done (escaped c ++ rest) = quotedRest? (c :: done) rest := by
  unfold escaped
  iterate 7
    split
    · rename_i same
      exact quotedRest?_short (by rw [same]; rfl) done rest
  split
  · rename_i control
    have valid : c.toNat.isValidChar := Or.inl (Nat.lt_trans control (by decide))
    have read := quotedRest?_numbered (fourDigits?_of_control c.toNat control) valid done rest
    rw [Char.ofNat_toNat] at read
    exact read
  · exact quotedRest?_plain ‹_› ‹_› ‹_› done rest

theorem quotedRest?_flatMap_escaped (chars done rest : List Char) :
    quotedRest? done (chars.flatMap escaped ++ '"' :: rest) =
      some (String.ofList (done.reverse ++ chars), rest) := by
  induction chars generalizing done with
  | nil => rw [List.flatMap_nil, List.nil_append, quotedRest?_end, List.append_nil]
  | cons c chars ih =>
      rw [List.flatMap_cons, List.append_assoc, quotedRest?_escaped, ih, List.reverse_cons,
        List.append_assoc, List.singleton_append]

theorem quotedRest?_quoted (text : String) (rest : List Char) :
    ∃ inner, quoted text ++ rest = '"' :: inner ∧ quotedRest? [] inner = some (text, rest) := by
  refine ⟨_, List.cons_append, ?_⟩
  rw [List.append_assoc, List.singleton_append, quotedRest?_flatMap_escaped, List.reverse_nil,
    List.nil_append, String.ofList_toList]

def EndsNumber (rest : List Char) : Prop :=
  ∀ c, rest.head? = some c → isDecimalDigit c = false

theorem endsNumber_nil : EndsNumber [] := nofun

theorem endsNumber_cons {c : Char} (noDigit : isDecimalDigit c = false) (rest : List Char) :
    EndsNumber (c :: rest) := by
  intro first same
  rw [← Option.some.inj same]
  exact noDigit

theorem isDecimalDigit_of_mem {number : Nat} {c : Char} (member : c ∈ Nat.toDigits 10 number) :
    isDecimalDigit c = true := by
  have digit := Nat.isDigit_of_mem_toDigits (by decide) (by decide) member
  rw [Char.isDigit_iff_toNat] at digit
  rw [isDecimalDigit, Bool.and_eq_true, decide_eq_true_eq, decide_eq_true_eq]
  exact digit

theorem digitValue_of_isDecimalDigit {c : Char} (digit : isDecimalDigit c = true) :
    digitValue c = c.toNat - '0'.toNat := by
  simp only [isDecimalDigit, Bool.and_eq_true, decide_eq_true_eq] at digit
  rw [digitValue, if_pos digit]
  rfl

theorem numberOf_toDigits (number : Nat) : numberOf 10 (Nat.toDigits 10 number) = number := by
  have digits : ∀ c ∈ Nat.toDigits 10 number, isDecimalDigit c = true :=
    fun c member => isDecimalDigit_of_mem member
  have same : ∀ (chars : List Char) (value : Nat), (∀ c ∈ chars, isDecimalDigit c = true) →
      chars.foldl (fun value c => value * 10 + digitValue c) value =
        Nat.ofDigitChars 10 chars value := by
    intro chars
    induction chars with
    | nil => exact fun value _ => rfl
    | cons c chars ih =>
        intro value allDigits
        have restDigits : ∀ other ∈ chars, isDecimalDigit other = true :=
          fun other member => allDigits other (List.mem_cons_of_mem c member)
        rw [List.foldl_cons, ih _ restDigits,
          digitValue_of_isDecimalDigit (allDigits c List.mem_cons_self), Nat.mul_comm]
        rfl
  rw [numberOf, same _ 0 digits, Nat.ofDigitChars_toDigits (by decide) (by decide)]

theorem head?_toDigits_ne_zero {number : Nat} (positive : 0 < number) :
    (Nat.toDigits 10 number).head? ≠ some '0' := by
  induction number using Nat.strongRecOn with
  | ind number ih =>
      rw [Nat.toDigits_eq_if (by decide)]
      split
      · simp only [List.head?_cons, ne_eq, Option.some.injEq, Nat.digitChar_eq_zero]
        omega
      · rw [List.head?_append, Option.or_of_isSome (List.isSome_head?.mpr Nat.toDigits_ne_nil)]
        exact ih (number / 10) (by omega) (by omega)

theorem readNumber?_toDigits (number : Nat) {rest : List Char} (ends : EndsNumber rest) :
    readNumber? (Nat.toDigits 10 number ++ rest) = some (.number number, rest) := by
  have digits : ∀ c ∈ Nat.toDigits 10 number, isDecimalDigit c = true :=
    fun c member => isDecimalDigit_of_mem member
  have taken : (Nat.toDigits 10 number ++ rest).takeWhile isDecimalDigit =
      Nat.toDigits 10 number := by
    rw [List.takeWhile_append_of_pos digits]
    cases rest with
    | nil => exact List.append_nil _
    | cons c rest =>
        rw [List.takeWhile_cons_of_neg (by rw [ends c rfl]; exact Bool.false_ne_true),
          List.append_nil]
  have dropped : (Nat.toDigits 10 number ++ rest).dropWhile isDecimalDigit = rest := by
    rw [List.dropWhile_append_of_pos digits]
    cases rest with
    | nil => rfl
    | cons c rest =>
        rw [List.dropWhile_cons_of_neg (by rw [ends c rfl]; exact Bool.false_ne_true)]
  have sound : ¬(Nat.toDigits 10 number = [] ∨
      (Nat.toDigits 10 number).head? = some '0' ∧ Nat.toDigits 10 number ≠ ['0']) := by
    rintro (empty | ⟨zero, notZero⟩)
    · exact Nat.toDigits_ne_nil empty
    · rcases Nat.eq_zero_or_pos number with rfl | positive
      · exact notZero (Nat.toDigits_zero 10)
      · exact head?_toDigits_ne_zero positive zero
  unfold readNumber?
  dsimp only
  rw [taken, dropped, if_neg sound, numberOf_toDigits]

end Json
end JarAtlas
