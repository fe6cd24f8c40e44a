import Mathlib
import Transparency.Decimal.Natural

/-!
# The notation of whole numbers

What is read as a whole number, said without the reader: `Decimal.Numeral` for the texts of numbers, and `Decimal.Flaw`
for what is wrong with the others. Every text is of one kind or the other; the numbers that are read are those below
the limit (`Decimal.readNatural_eq_ok_iff`), and the fault is that of the first character that is out of place or makes
the number too large (`Decimal.readNatural_eq_error_iff`).
-/

namespace Transparency

namespace Decimal

/-! ## The notation -/

/-- Nothing but digits. -/
def Digits (text : List Char) : Prop := ∀ c ∈ text, c.isDigit = true

/-- The number that digits stand for. -/
def value (digits : List Char) : Nat := Nat.ofDigitChars 10 digits 0

/-- The text of a number: one or more digits, perhaps after a plus sign. -/
inductive Numeral : List Char → Nat → Prop where
  | plain {digits : List Char} : digits ≠ [] → Digits digits → Numeral digits (value digits)
  | signed {digits : List Char} : digits ≠ [] → Digits digits → Numeral ('+' :: digits) (value digits)

/-- The first trouble with the digits of a number that can be read. -/
inductive Trouble : List Char → NaturalFault → Prop where
  /-- a character is no digit, and the number before it is not too large -/
  | invalidDigit {front rest : List Char} {c : Char} : Digits front → value front < naturalLimit →
      c.isDigit = false → Trouble (front ++ c :: rest) .invalidDigit
  /-- the number is too large with a digit, and is not without it -/
  | tooLarge {front rest : List Char} {c : Char} : Digits (front ++ [c]) → value front < naturalLimit →
      naturalLimit ≤ value (front ++ [c]) → Trouble (front ++ c :: rest) .tooLarge

/-- What is wrong with a text that is not read as a number. -/
inductive Flaw : List Char → NaturalFault → Prop where
  | empty : Flaw [] .empty
  | loneSign : Flaw ['+'] .invalidDigit
  | plain {digits : List Char} {fault : NaturalFault} : digits.head? ≠ some '+' → Trouble digits fault →
      Flaw digits fault
  | signed {digits : List Char} {fault : NaturalFault} : Trouble digits fault → Flaw ('+' :: digits) fault

theorem digits_cons {c : Char} {digits : List Char} : Digits (c :: digits) ↔ c.isDigit = true ∧ Digits digits :=
  List.forall_mem_cons

theorem digits_append {digits digits' : List Char} : Digits (digits ++ digits') ↔ Digits digits ∧ Digits digits' :=
  List.forall_mem_append

/-- A plus sign is no digit. -/
theorem head?_ne_of_digits {digits : List Char} (all : Digits digits) : digits.head? ≠ some '+' := by
  intro signed
  obtain ⟨rest, rfl⟩ := List.head?_eq_some_iff.mp signed
  exact absurd (digits_cons.mp all).1 (by decide)

/-! ## Reading digits -/

/-- A number does not shrink when digits follow. -/
theorem le_ofDigitChars (n : Nat) (digits : List Char) : n ≤ Nat.ofDigitChars 10 digits n := by
  induction digits generalizing n with
  | nil => rw [Nat.ofDigitChars_nil]
  | cons c digits ih =>
    rw [Nat.ofDigitChars_cons]
    have grown := ih (10 * n + (c.toNat - '0'.toNat))
    omega

/-- Digits are read as long as the number is not too large. -/
theorem readDigits_append {front : List Char} (rest : List Char) {n : Nat} (all : Digits front)
    (fits : Nat.ofDigitChars 10 front n < naturalLimit) :
    readDigits n (front ++ rest) = readDigits (Nat.ofDigitChars 10 front n) rest := by
  induction front generalizing n with
  | nil => rfl
  | cons c front ih =>
    obtain ⟨digit, all⟩ := digits_cons.mp all
    rw [Nat.ofDigitChars_cons] at fits ⊢
    -- the number so far is no greater than the whole
    have fits_here := Nat.lt_of_le_of_lt (le_ofDigitChars _ front) fits
    rw [Nat.mul_comm] at fits fits_here ⊢
    rw [List.cons_append, readDigits, if_pos digit]
    dsimp only
    rw [if_pos fits_here]
    exact ih all fits

theorem readDigits_of_digits {digits : List Char} (all : Digits digits) (fits : value digits < naturalLimit) :
    readDigits 0 digits = .ok (value digits) := by
  have went := readDigits_append [] all fits
  rw [List.append_nil] at went
  exact went

theorem Trouble.readDigits {digits : List Char} {fault : NaturalFault} (trouble : Trouble digits fault) :
    readDigits 0 digits = .error fault := by
  cases trouble with
  | invalidDigit all fits other =>
    rw [readDigits_append _ all fits, Decimal.readDigits, if_neg (by simp [other])]
  | @tooLarge front rest c all fits large =>
    obtain ⟨all, digit⟩ := digits_append.mp all
    rw [value, Nat.ofDigitChars_append, Nat.ofDigitChars_cons, Nat.ofDigitChars_nil, Nat.mul_comm] at large
    rw [readDigits_append _ all fits, Decimal.readDigits, if_pos (digits_cons.mp digit).1]
    dsimp only
    rw [if_neg (Nat.not_lt.mpr large)]

/-- What follows the first trouble does not matter. -/
theorem Trouble.append {digits : List Char} {fault : NaturalFault} (trouble : Trouble digits fault)
    (more : List Char) : Trouble (digits ++ more) fault := by
  cases trouble with
  | invalidDigit all fits other =>
    rw [List.append_assoc, List.cons_append]
    exact .invalidDigit all fits other
  | tooLarge all fits large =>
    rw [List.append_assoc, List.cons_append]
    exact .tooLarge all fits large

/-- Characters are the digits of a number that can be read, or there is a first trouble with them. -/
theorem digits_or_trouble (text : List Char) :
    (Digits text ∧ value text < naturalLimit) ∨ ∃ fault, Trouble text fault := by
  induction text using List.reverseRecOn with
  | nil => exact .inl ⟨nofun, by decide⟩
  | append_singleton front c ih =>
    obtain ⟨all, fits⟩ | ⟨fault, trouble⟩ := ih
    · -- the trouble can only be with the last character
      rcases digit : c.isDigit with _ | _
      · exact .inr ⟨_, .invalidDigit all fits digit⟩
      · have all_of : Digits (front ++ [c]) := digits_append.mpr ⟨all, digits_cons.mpr ⟨digit, nofun⟩⟩
        by_cases fits_with : value (front ++ [c]) < naturalLimit
        · exact .inl ⟨all_of, fits_with⟩
        · exact .inr ⟨_, .tooLarge all_of fits (Nat.le_of_not_lt fits_with)⟩
    · exact .inr ⟨fault, trouble.append [c]⟩

/-! ## Reading numbers -/

theorem readNatural_plain {text : String} (some_there : text.toList ≠ []) (unsigned : text.toList.head? ≠ some '+') :
    readNatural text = readDigits 0 text.toList := by
  rw [readNatural]
  split
  · rename_i nothing
    exact absurd nothing some_there
  · rename_i sign
    rw [sign] at unsigned
    exact absurd rfl unsigned
  · rename_i signed
    rw [signed] at unsigned
    exact absurd rfl unsigned
  · rfl

theorem readNatural_signed {text : String} {digits : List Char} (signed : text.toList = '+' :: digits)
    (some_there : digits ≠ []) : readNatural text = readDigits 0 digits := by
  obtain ⟨c, rest, rfl⟩ := List.exists_cons_of_ne_nil some_there
  rw [readNatural, signed]
  rfl

theorem Numeral.readNatural {text : String} {n : Nat} (numeral : Numeral text.toList n) (fits : n < naturalLimit) :
    readNatural text = .ok n := by
  generalize chars : text.toList = digits at numeral
  cases numeral with
  | plain some_there all =>
    rw [readNatural_plain (chars ▸ some_there) (chars ▸ head?_ne_of_digits all), chars, readDigits_of_digits all fits]
  | signed some_there all => rw [readNatural_signed chars some_there, readDigits_of_digits all fits]

theorem Flaw.readNatural {text : String} {fault : NaturalFault} (flaw : Flaw text.toList fault) :
    readNatural text = .error fault := by
  generalize chars : text.toList = digits at flaw
  have some_there : ∀ {digits : List Char} {fault : NaturalFault}, Trouble digits fault → digits ≠ [] := by
    rintro _ _ (_ | _) <;> simp
  cases flaw with
  | empty => rw [Decimal.readNatural, chars]
  | loneSign =>
    rw [Decimal.readNatural, chars]
    rfl
  | plain unsigned trouble =>
    rw [readNatural_plain (chars ▸ some_there trouble) (chars ▸ unsigned), chars, trouble.readDigits]
  | signed trouble => rw [readNatural_signed chars (some_there trouble), trouble.readDigits]

/-- A text is that of a number below the limit, or there is a flaw in it. -/
theorem numeral_or_flaw (text : List Char) :
    (∃ n, Numeral text n ∧ n < naturalLimit) ∨ ∃ fault, Flaw text fault := by
  by_cases nothing : text = []
  · subst nothing
    exact .inr ⟨_, .empty⟩
  by_cases signed : text.head? = some '+'
  · obtain ⟨digits, rfl⟩ := List.head?_eq_some_iff.mp signed
    by_cases alone : digits = []
    · subst alone
      exact .inr ⟨_, .loneSign⟩
    · obtain ⟨all, fits⟩ | ⟨fault, trouble⟩ := digits_or_trouble digits
      · exact .inl ⟨_, .signed alone all, fits⟩
      · exact .inr ⟨fault, .signed trouble⟩
  · obtain ⟨all, fits⟩ | ⟨fault, trouble⟩ := digits_or_trouble text
    · exact .inl ⟨_, .plain nothing all, fits⟩
    · exact .inr ⟨fault, .plain signed trouble⟩

/-- **Numbers below the limit are read**, and nothing else. -/
theorem readNatural_eq_ok_iff {text : String} {n : Nat} :
    readNatural text = .ok n ↔ Numeral text.toList n ∧ n < naturalLimit := by
  refine ⟨fun read => ?_, fun ⟨numeral, fits⟩ => numeral.readNatural fits⟩
  obtain ⟨m, numeral, fits⟩ | ⟨fault, flaw⟩ := numeral_or_flaw text.toList
  · obtain rfl := Except.ok.inj (read.symm.trans (numeral.readNatural fits))
    exact ⟨numeral, fits⟩
  · cases read.symm.trans flaw.readNatural

/-- **The first flaw is the fault.** -/
theorem readNatural_eq_error_iff {text : String} {fault : NaturalFault} :
    readNatural text = .error fault ↔ Flaw text.toList fault := by
  refine ⟨fun read => ?_, Flaw.readNatural⟩
  obtain ⟨m, numeral, fits⟩ | ⟨other, flaw⟩ := numeral_or_flaw text.toList
  · cases read.symm.trans (numeral.readNatural fits)
  · obtain rfl := Except.error.inj (read.symm.trans flaw.readNatural)
    exact flaw

end Decimal

end Transparency
