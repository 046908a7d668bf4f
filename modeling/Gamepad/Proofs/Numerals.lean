import Gamepad.Text.Numeral

/-!
Decimal numerals. Main statement: a text is read as a 32-bit word exactly if it is at least one
digit, perhaps behind one plus sign, and its value is that word.
-/

namespace Gamepad.Text

theorem digitValue?_ten (c : Char) :
    digitValue? 10 c = if c.isDigit then some (c.toNat - '0'.toNat) else none := by
  by_cases digit : c.isDigit = true
  · have bounds : '0' ≤ c ∧ c ≤ '9' := by simpa [Char.isDigit, Char.le_def] using digit
    have small : c.toNat ≤ 57 := bounds.2
    have below : c.toNat - 48 < 10 := by omega
    rw [digitValue?, if_pos (by simpa using bounds), if_pos digit]
    simpa [Option.filter] using below
  · have outside : ¬('0' ≤ c ∧ c ≤ '9') := by simpa [Char.isDigit, Char.le_def] using digit
    rw [digitValue?, if_neg (by simpa using outside), if_neg digit]
    -- the letters stand for ten and more
    split
    · simp [Option.filter]
    · split <;> simp [Option.filter]

theorem digitValue?_of_isDigit {c : Char} (digit : c.isDigit = true) :
    digitValue? 10 c = some (c.toNat - '0'.toNat) := by
  rw [digitValue?_ten, if_pos digit]

theorem readDigits_eq_some_iff (high : Nat) (digits : List Char) (number : Nat) :
    readDigits 10 high digits = some number ↔
      (∀ c ∈ digits, c.isDigit = true) ∧ Nat.ofDigitChars 10 digits high = number := by
  induction digits generalizing high with
  | nil => simp [readDigits]
  | cons c digits ih =>
    rw [readDigits, digitValue?_ten, Nat.ofDigitChars_cons, List.forall_mem_cons, and_assoc, ← ih]
    by_cases digit : c.isDigit = true
    · simp [digit]
    · simp [digit]

theorem isDigit_toDigits (number : Nat) : ∀ c ∈ Nat.toDigits 10 number, c.isDigit = true :=
  fun _ => Nat.isDigit_of_mem_toDigits (by decide) (by decide)

theorem readDigits_toDigits (number : Nat) :
    readDigits 10 0 (Nat.toDigits 10 number) = some number :=
  (readDigits_eq_some_iff 0 _ number).mpr
    ⟨isDigit_toDigits number, Nat.ofDigitChars_ten_toDigits⟩

/-- The text is at least one digit, perhaps behind one plus sign, with this value. -/
def Numeral (text : String) (number : Nat) : Prop :=
  ∃ digits : List Char, digits ≠ [] ∧ (∀ c ∈ digits, c.isDigit = true) ∧
    Nat.ofDigitChars 10 digits 0 = number ∧ (text.toList = digits ∨ text.toList = '+' :: digits)

theorem not_digits_plus (rest : List Char) : ¬∀ c ∈ '+' :: rest, c.isDigit = true := by
  intro digit
  have plus : '+'.isDigit = true := digit '+' List.mem_cons_self
  exact absurd plus (by decide)

theorem readNumeral_eq_some_iff (text : String) (number : Nat) :
    readNumeral 10 text = some number ↔ Numeral text number := by
  unfold readNumeral Numeral
  split
  next bare =>
    refine ⟨nofun, ?_⟩
    intro numeral
    obtain ⟨digits, filled, -, -, same | same⟩ := numeral
    · exact absurd (same.symm.trans bare) filled
    · cases bare.symm.trans same
  next bare =>
    refine ⟨nofun, ?_⟩
    intro numeral
    obtain ⟨digits, filled, digit, -, same | same⟩ := numeral
    · rw [← same, bare] at digit
      exact absurd digit (not_digits_plus [])
    · rw [bare] at same
      exact absurd (List.cons.inj same).2.symm filled
  next digits lone written =>
    rw [readDigits_eq_some_iff]
    constructor
    · intro both
      obtain ⟨digit, value⟩ := both
      exact ⟨digits, lone, digit, value, .inr written⟩
    · intro numeral
      obtain ⟨others, filled, digit, value, same | same⟩ := numeral
      · rw [← same, written] at digit
        exact absurd digit (not_digits_plus digits)
      · rw [written] at same
        obtain ⟨-, rfl⟩ := List.cons.inj same
        exact ⟨digit, value⟩
  next digits empty lone unsigned =>
    rw [readDigits_eq_some_iff]
    constructor
    · intro both
      exact ⟨text.toList, empty, both.1, both.2, .inl rfl⟩
    · intro numeral
      obtain ⟨others, filled, digit, value, same | same⟩ := numeral
      · rw [same]
        exact ⟨digit, value⟩
      · exact absurd same (unsigned others)

theorem readUInt32_eq_some_iff (text : String) (word : UInt32) :
    readUInt32 text = some word ↔ Numeral text word.toNat := by
  rw [← readNumeral_eq_some_iff, readUInt32]
  cases readNumeral 10 text with
  | none => simp
  | some number =>
    by_cases fits : number < UInt32.size
    · have value := UInt32.toNat_ofNat_of_lt' fits
      simp only [Option.filter, fits, decide_true, if_true, Option.map_some, Option.some.injEq]
      constructor
      · intro same
        rw [← same, value]
      · intro same
        rw [same, UInt32.ofNat_toNat]
    · simp only [Option.filter, fits, decide_false, if_false, Option.map_none, Option.some.injEq,
        Bool.false_eq_true]
      refine ⟨nofun, ?_⟩
      intro same
      exact absurd (same ▸ word.toNat_lt) fits

theorem numeral_repr (number : Nat) : Numeral number.repr number := by
  have written : number.repr.toList = Nat.toDigits 10 number := by
    rw [Nat.repr_eq_ofList_toDigits, String.toList_ofList]
  exact ⟨Nat.toDigits 10 number, Nat.toDigits_ne_nil, isDigit_toDigits number,
    Nat.ofDigitChars_ten_toDigits, .inl written⟩

end Gamepad.Text
