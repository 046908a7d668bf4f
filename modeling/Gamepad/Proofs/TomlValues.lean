import Gamepad.Proofs.Numerals
import Gamepad.Proofs.TomlTexts
import Gamepad.Toml.Document
import Gamepad.Toml.Reader

/-!
Values of a TOML document read back as they were written. A number is read last of all, so it must
not look like a moment or a float; a list may have a line for each of its texts. Main statement:
behind a written field at the end of its line stands the value that was written.
-/

namespace Gamepad.Toml

/-! ## Digits -/

theorem isDigitOf_of_isDigit {c : Char} (digit : c.isDigit = true) : isDigitOf 10 c = true := by
  rw [isDigitOf, Text.digitValue?_of_isDigit digit]
  rfl

inductive DigitsEnd (rest : List Char) : List Char → Prop
  | nil : DigitsEnd rest ('\n' :: rest)
  | cons (c : Char) (text : List Char) (digit : c.isDigit = true) (ends : DigitsEnd rest text) :
    DigitsEnd rest (c :: text)

theorem digitsEnd_of_forall (digits rest : List Char) (digit : ∀ c ∈ digits, c.isDigit = true) :
    DigitsEnd rest (digits ++ '\n' :: rest) := by
  induction digits with
  | nil => exact .nil
  | cons c digits ih =>
    rw [List.forall_mem_cons] at digit
    exact .cons c _ digit.1 (ih digit.2)

theorem ne_of_isDigit {c : Char} (digit : c.isDigit = true) :
    c ≠ '_' ∧ c ≠ '-' ∧ c ≠ '+' ∧ c ≠ ':' ∧ c ≠ '.' ∧ c ≠ 'x' ∧ c ≠ 'o' ∧ c ≠ 'b' ∧ c ≠ 'i' ∧
      c ≠ 'n' ∧ c ≠ 't' ∧ c ≠ 'f' ∧ c ≠ '"' ∧ c ≠ '\'' ∧ c ≠ '[' ∧ c ≠ '\x7b' ∧ c ≠ ' ' ∧
      c ≠ '\t' := by
  refine ⟨?_, ?_, ?_, ?_, ?_, ?_, ?_, ?_, ?_, ?_, ?_, ?_, ?_, ?_, ?_, ?_, ?_, ?_⟩ <;>
  · rintro rfl
    cases digit

theorem spanDigits_write (digits rest : List Char) (digit : ∀ c ∈ digits, c.isDigit = true) :
    spanDigits (isDigitOf 10) (digits ++ '\n' :: rest) = (digits, '\n' :: rest) := by
  induction digits with
  | nil => rfl
  | cons c digits ih =>
    rw [List.forall_mem_cons] at digit
    have notGap := (ne_of_isDigit digit.1).1
    rw [List.cons_append, spanDigits, if_pos (isDigitOf_of_isDigit digit.1), ih digit.2]
    exact fun _ _ same => absurd same notGap

theorem toDigits_eq_zero {number : Nat} {digits : List Char}
    (leads : Nat.toDigits 10 number = '0' :: digits) : digits = [] := by
  induction number using Nat.strongRecOn generalizing digits with
  | ind number ih =>
    rw [Nat.toDigits_eq_if (by decide)] at leads
    split at leads
    next _ => exact (List.cons.inj leads).2.symm
    next large =>
      match first : Nat.toDigits 10 (number / 10), leads with
      | [], _ => exact absurd first Nat.toDigits_ne_nil
      | c :: others, leads =>
        -- A tenth of the number would be zero, and the number a single digit.
        obtain ⟨rfl, _⟩ := List.cons.inj leads
        have alone := ih (number / 10) (by omega) first
        have value := Nat.ofDigitChars_ten_toDigits (n := number / 10)
        rw [first, alone] at value
        have zero : Nat.ofDigitChars 10 ['0'] 0 = 0 := rfl
        omega

theorem decimal?_toDigits (number : Nat) (rest : List Char) :
    decimal? (Nat.toDigits 10 number ++ '\n' :: rest) =
      some (Nat.toDigits 10 number, '\n' :: rest) := by
  have digit := Text.isDigit_toDigits number
  have span := spanDigits_write _ rest digit
  match written : Nat.toDigits 10 number with
  | [] => exact absurd written Nat.toDigits_ne_nil
  | c :: digits =>
    rw [written] at digit span
    by_cases zero : c = '0'
    · subst zero
      rw [toDigits_eq_zero written]
      rfl
    · rw [List.cons_append, decimal?, digits?]
      · simp only [isDigitOf_of_isDigit (digit c (List.mem_cons_self ..)), if_true]
        exact congrArg some span
      · exact fun _ same => zero (List.cons.inj same).1

/-! ## Numbers are neither moments nor floats -/

theorem isDigit_of_digitOf? {c : Char} {value : Nat} (read : digitOf? c = some value) :
    c.isDigit = true := by
  by_contra notDigit
  rw [digitOf?, if_neg notDigit] at read
  cases read

theorem of_twoDigits? {limit number : Nat} {text behind : List Char}
    (taken : twoDigits? limit text = some (number, behind)) :
    ∃ c d, text = c :: d :: behind ∧ c.isDigit = true ∧ d.isDigit = true := by
  match text with
  | [] => cases taken
  | [_] => cases taken
  | c :: d :: rest =>
    simp only [twoDigits?, Option.bind_eq_bind, Option.bind_eq_some_iff] at taken
    obtain ⟨_, first, _, second, taken⟩ := taken
    split at taken
    next _ =>
      cases taken
      exact ⟨c, d, rfl, isDigit_of_digitOf? first, isDigit_of_digitOf? second⟩
    next _ => cases taken

theorem DigitsEnd.tail {rest text : List Char} {c : Char} (ends : DigitsEnd rest (c :: text))
    (digit : c.isDigit = true) : DigitsEnd rest text := by
  cases ends with
  | nil => cases digit
  | cons _ _ _ ends => exact ends

theorem DigitsEnd.of_twoDigits? {rest text behind : List Char} {limit number : Nat}
    (ends : DigitsEnd rest text) (taken : twoDigits? limit text = some (number, behind)) :
    DigitsEnd rest behind := by
  obtain ⟨c, d, rfl, first, second⟩ := Toml.of_twoDigits? taken
  exact (ends.tail first).tail second

theorem DigitsEnd.expect?_eq_none {rest text : List Char} (ends : DigitsEnd rest text) (c : Char)
    (notDigit : c.isDigit = false) (notBreak : c ≠ '\n') : expect? c text = none := by
  cases ends with
  | nil => exact if_neg notBreak.symm
  | cons d text digit ends =>
    apply if_neg
    rintro rfl
    rw [digit] at notDigit
    cases notDigit

/-- Digits alone are no moment: a hyphen or a colon would come before the line ends. -/
theorem DigitsEnd.moment?_eq_none {rest text : List Char} (ends : DigitsEnd rest text) :
    moment? text = none := by
  have noDay : day? text = none := by
    refine Option.bind_eq_none_iff.mpr fun (century, behind) taken => ?_
    replace ends := ends.of_twoDigits? taken
    refine Option.bind_eq_none_iff.mpr fun (year, behind) taken => ?_
    replace ends := ends.of_twoDigits? taken
    exact Option.bind_eq_none_iff.mpr fun _ expected => by
      rw [ends.expect?_eq_none '-' rfl (by decide)] at expected
      cases expected
  have noTime : timeOfDay? text = none := by
    refine Option.bind_eq_none_iff.mpr fun behind found => ?_
    obtain ⟨⟨hour, later⟩, taken, found⟩ := Option.bind_eq_some_iff.mp found
    replace ends := ends.of_twoDigits? taken
    obtain ⟨_, expected, _⟩ := Option.bind_eq_some_iff.mp found
    rw [ends.expect?_eq_none ':' rfl (by decide)] at expected
    cases expected
  rw [moment?, noDay, noTime]

theorem twoDigits?_minus (limit : Nat) (text : List Char) :
    twoDigits? limit ('-' :: text) = none := by
  cases text with
  | nil => rfl
  | cons c text => rfl

theorem moment?_minus (text : List Char) : moment? ('-' :: text) = none := by
  rw [moment?, day?, timeOfDay?, hourAndMinute?, twoDigits?_minus, twoDigits?_minus]
  rfl

/-- A whole number, read up to the end of its line, has no fraction and no exponent. -/
theorem plainFloat?_eq_none {text unsigned digits rest : List Char} {negative : Bool}
    (sign : splitSign text = (negative, unsigned))
    (whole : decimal? unsigned = some (digits, '\n' :: rest)) : plainFloat? text = none := by
  rw [plainFloat?, sign]
  simp only [whole]
  rfl

theorem specialFloat?_eq_none {text unsigned : List Char} {negative : Bool} {c : Char}
    (sign : splitSign text = (negative, c :: unsigned)) (digit : c.isDigit = true) :
    specialFloat? text = none := by
  have other := ne_of_isDigit digit
  rw [specialFloat?, sign]
  split <;> simp_all

/-! ## Numbers -/

theorem toDigits_eq_cons (number : Nat) : ∃ c digits, Nat.toDigits 10 number = c :: digits ∧
    c.isDigit = true := by
  match written : Nat.toDigits 10 number with
  | [] => exact absurd written Nat.toDigits_ne_nil
  | c :: digits =>
    have digit := Text.isDigit_toDigits number c (written ▸ List.mem_cons_self ..)
    exact ⟨c, digits, rfl, digit⟩

def signed (negative : Bool) (size : Nat) : List Char :=
  (if negative then ['-'] else []) ++ Nat.toDigits 10 size

theorem toList_toString (number : Int) :
    (toString number).toList = signed (decide (number < 0)) number.natAbs := by
  cases number with
  | ofNat size =>
    have shown : toString (Int.ofNat size) = toString size := rfl
    rw [shown, Nat.toString_eq_ofList_toDigits, String.toList_ofList]
    rfl
  | negSucc size =>
    have shown : toString (Int.negSucc size) = "-" ++ (size + 1).repr := rfl
    have minus : "-".toList = ['-'] := rfl
    rw [shown, Nat.repr_eq_ofList_toDigits, String.toList_append, minus, String.toList_ofList,
      decide_eq_true (Int.negSucc_lt_zero size)]
    rfl

theorem signed_eq_cons (negative : Bool) (size : Nat) :
    ∃ c text, signed negative size = c :: text ∧ (c.isDigit = true ∨ c = '-') := by
  cases negative with
  | true => exact ⟨_, _, rfl, .inr rfl⟩
  | false =>
    obtain ⟨c, digits, written, digit⟩ := toDigits_eq_cons size
    exact ⟨c, digits, written, .inl digit⟩

theorem splitSign_signed (negative : Bool) (size : Nat) (rest : List Char) :
    splitSign (signed negative size ++ rest) = (negative, Nat.toDigits 10 size ++ rest) := by
  cases negative with
  | true => rfl
  | false =>
    obtain ⟨c, digits, written, digit⟩ := toDigits_eq_cons size
    obtain ⟨_, minus, plus, _⟩ := ne_of_isDigit digit
    have unsigned : signed false size = c :: digits := written
    rw [unsigned, written, List.cons_append, splitSign]
    · exact fun _ same => minus (List.cons.inj same).1
    · exact fun _ same => plus (List.cons.inj same).1

theorem moment?_signed (negative : Bool) (size : Nat) (rest : List Char) :
    moment? (signed negative size ++ '\n' :: rest) = none := by
  cases negative with
  | true => exact moment?_minus _
  | false => exact (digitsEnd_of_forall _ rest (Text.isDigit_toDigits size)).moment?_eq_none

theorem float?_signed (negative : Bool) (size : Nat) (rest : List Char) :
    float? (signed negative size ++ '\n' :: rest) = none := by
  have sign := splitSign_signed negative size ('\n' :: rest)
  obtain ⟨c, digits, written, digit⟩ := toDigits_eq_cons size
  have leads := sign
  rw [written] at leads
  rw [float?, specialFloat?_eq_none leads digit,
    plainFloat?_eq_none sign (decimal?_toDigits size rest)]
  rfl

theorem integer?_signed (negative : Bool) (size : Nat) (rest : List Char) :
    integer? (signed negative size ++ '\n' :: rest) =
      (integerOf? 10 negative (Nat.toDigits 10 size)).map (·, '\n' :: rest) := by
  have decimal : ∀ c tail, c ≠ '\n' → c.isDigit = false →
      signed negative size ++ '\n' :: rest ≠ '0' :: c :: tail := by
    intro c tail notBreak notDigit same
    cases negative with
    | true => cases (List.cons.inj same).1
    | false =>
      have ends := digitsEnd_of_forall _ rest (Text.isDigit_toDigits size)
      have unsigned : signed false size = Nat.toDigits 10 size := rfl
      rw [← unsigned, same] at ends
      cases ends.tail rfl with
      | nil => exact notBreak rfl
      | cons _ _ digit _ =>
        rw [digit] at notDigit
        cases notDigit
  rw [integer?, splitSign_signed]
  · simp only [decimal?_toDigits, Option.bind_eq_bind, Option.bind_some]
    cases integerOf? 10 negative (Nat.toDigits 10 size) <;> rfl
  · exact fun tail => decimal 'x' tail (by decide) rfl
  · exact fun tail => decimal 'o' tail (by decide) rfl
  · exact fun tail => decimal 'b' tail (by decide) rfl

theorem integerOf?_toInt (number : Int64) :
    integerOf? 10 (decide (number.toInt < 0)) (Nat.toDigits 10 number.toInt.natAbs) =
      some number := by
  have inRange : Int64.minValue.toInt ≤ number.toInt ∧ number.toInt ≤ Int64.maxValue.toInt :=
    ⟨number.minValue_le_toInt, number.toInt_le⟩
  have value : (if decide (number.toInt < 0) then -(number.toInt.natAbs : Int)
      else number.toInt.natAbs) = number.toInt := by
    by_cases negative : number.toInt < 0
    · rw [decide_eq_true negative, if_pos rfl]
      omega
    · rw [decide_eq_false negative, if_neg Bool.false_ne_true]
      omega
  rw [integerOf?, Text.readDigits_toDigits]
  simp only [Option.bind_eq_bind, Option.bind_some, value, if_pos inRange, Int64.ofInt_toInt]

theorem readScalar_signed (negative : Bool) (size : Nat) (rest : List Char) :
    readScalar (signed negative size ++ '\n' :: rest) =
      (integerOf? 10 negative (Nat.toDigits 10 size)).map
        fun number => (.integer number, '\n' :: rest) := by
  obtain ⟨c, text, written, start⟩ := signed_eq_cons negative size
  have noText : readText (signed negative size ++ '\n' :: rest) = none := by
    rw [written, List.cons_append]
    rcases start with digit | rfl
    · have other := ne_of_isDigit digit
      rw [readText.eq_def]
      split <;> simp_all
    · rfl
  have noBoolean : readBoolean (signed negative size ++ '\n' :: rest) = none := by
    rw [written, List.cons_append]
    rcases start with digit | rfl
    · have other := ne_of_isDigit digit
      rw [readBoolean.eq_def]
      split <;> simp_all
    · rfl
  rw [readScalar, readTextValue, noText, noBoolean, readMoment, moment?_signed, readFloat,
    float?_signed, readInteger, integer?_signed, Option.map_map]
  rfl

theorem readScalar_number (number : Int64) (rest : List Char) :
    readScalar ((toString number.toInt).toList ++ '\n' :: rest) =
      some (.integer number, '\n' :: rest) := by
  rw [toList_toString, readScalar_signed, integerOf?_toInt]
  rfl

/-! ## Texts and lists -/

theorem readValue_eq_readScalar (depth : Nat) (c : Char) (text : List Char) (array : c ≠ '[')
    (table : c ≠ '\x7b') : readValue depth (c :: text) = readScalar (c :: text) := by
  rw [readValue.eq_def]
  split <;> simp_all

theorem writeText_eq_cons (text : String) :
    ∃ quote written, writeText text = quote :: written ∧ (quote = '"' ∨ quote = '\'') := by
  unfold writeText
  cases TextStyle.choose text.toList with
  | basic => exact ⟨_, _, rfl, .inl rfl⟩
  | literal => exact ⟨_, _, rfl, .inr rfl⟩
  | multilineBasic => exact ⟨_, _, rfl, .inl rfl⟩
  | multilineLiteral => exact ⟨_, _, rfl, .inr rfl⟩

theorem readValue_text (depth : Nat) (text : String) (c : Char) (rest : List Char)
    (apart : c ≠ '"' ∧ c ≠ '\'') :
    readValue depth (writeText text ++ c :: rest) = some (.text text, c :: rest) := by
  have read := readText_writeText text (c :: rest) (by simpa using apart.1) (by simpa using apart.2)
  obtain ⟨quote, written, shown, which⟩ := writeText_eq_cons text
  have scalar : readScalar (writeText text ++ c :: rest) = some (.text text, c :: rest) := by
    rw [readScalar, readTextValue, read]
    simp
  rw [shown, List.cons_append] at scalar ⊢
  rw [readValue_eq_readScalar depth quote _ ?_ ?_, scalar]
  · rcases which with rfl | rfl <;> decide
  · rcases which with rfl | rfl <;> decide

theorem skipFiller_writeText (text : String) (rest : List Char) :
    skipFiller false (writeText text ++ rest) = writeText text ++ rest := by
  obtain ⟨quote, written, shown, which⟩ := writeText_eq_cons text
  rw [shown]
  rcases which with rfl | rfl <;> rfl

theorem readItems_text (depth fuel : Nat) (item : String) (text more : List Char)
    (skipped : skipFiller false text = writeText item ++ ',' :: more) :
    readItems (readValue depth) (fuel + 1) text =
      (readItems (readValue depth) fuel more).map
        fun (items, rest) => (.text item :: items, rest) := by
  have comma : skipFiller false (',' :: more) = ',' :: more := rfl
  have read := readValue_text depth item ',' more (by decide)
  obtain ⟨quote, written, shown, which⟩ := writeText_eq_cons item
  rw [shown, List.cons_append] at skipped read
  rw [readItems, skipped]
  split
  next same => rcases which with rfl | rfl <;> cases same
  next =>
    rw [read]
    simp only [comma, Option.bind_eq_bind, Option.bind_some]
    cases readItems (readValue depth) fuel more <;> rfl

theorem readItems_last (depth fuel : Nat) (item : String) (rest : List Char) :
    readItems (readValue depth) (fuel + 1) (writeText item ++ ']' :: rest) =
      some ([.text item], rest) := by
  have bracket : skipFiller false (']' :: rest) = ']' :: rest := rfl
  have read := readValue_text depth item ']' rest (by decide)
  have skipped := skipFiller_writeText item (']' :: rest)
  obtain ⟨quote, written, shown, which⟩ := writeText_eq_cons item
  rw [shown, List.cons_append] at skipped read ⊢
  rw [readItems, skipped]
  split
  next same => rcases which with rfl | rfl <;> cases same
  next =>
    rw [read]
    simp only [bracket, Option.bind_eq_bind, Option.bind_some]
    rfl

def writeLine (item : String) : List Char := "    ".toList ++ writeText item ++ ",\n".toList

theorem readItems_lines (depth fuel : Nat) (items : List String) (rest : List Char)
    (enough : items.length < fuel) :
    readItems (readValue depth) fuel ('\n' :: (items.flatMap writeLine ++ ']' :: rest)) =
      some (items.map .text, rest) := by
  induction items generalizing fuel with
  | nil =>
    obtain ⟨fuel, rfl⟩ := Nat.exists_eq_add_of_lt enough
    rfl
  | cons item items ih =>
    obtain ⟨fuel, rfl⟩ : ∃ less, fuel = less + 1 := Nat.exists_eq_add_one.mpr (by omega)
    have line : (item :: items).flatMap writeLine ++ ']' :: rest = "    ".toList ++
        (writeText item ++ ',' :: '\n' :: (items.flatMap writeLine ++ ']' :: rest)) := by
      simp [writeLine]
    have skipped : skipFiller false ('\n' :: ((item :: items).flatMap writeLine ++ ']' :: rest)) =
        writeText item ++ ',' :: '\n' :: (items.flatMap writeLine ++ ']' :: rest) := by
      rw [line]
      exact skipFiller_writeText item _
    rw [readItems_text depth fuel item _ _ skipped, ih fuel (Nat.lt_of_succ_lt_succ enough)]
    rfl

theorem length_le_flatMap_writeLine (items : List String) :
    items.length ≤ (items.flatMap writeLine).length := by
  induction items with
  | nil => exact Nat.le_refl 0
  | cons item items ih =>
    have positive : 0 < (writeLine item).length := by simp [writeLine]
    rw [List.flatMap_cons, List.length_append, List.length_cons]
    omega

theorem readValue_texts (depth : Nat) (items : List String) (rest : List Char) :
    readValue (depth + 1) (Field.writeTexts items ++ rest) =
      some (.array (items.map .text), rest) := by
  match items with
  | [] => rfl
  | [item] =>
    have written : Field.writeTexts [item] ++ rest = '[' :: (writeText item ++ ']' :: rest) := by
      simp [Field.writeTexts]
    rw [written, readValue, readItems_last]
    rfl
  | item :: other :: items =>
    have written : Field.writeTexts (item :: other :: items) ++ rest =
        '[' :: '\n' :: ((item :: other :: items).flatMap writeLine ++ ']' :: rest) := by
      have lines : (fun item => "    ".toList ++ writeText item ++ ",\n".toList) = writeLine := rfl
      rw [Field.writeTexts, lines, List.append_assoc, List.append_assoc]
      · rfl
      · exact fun same => by cases same
      · exact fun _ same => by cases same
    have enough : (item :: other :: items).length <
        ('\n' :: ((item :: other :: items).flatMap writeLine ++ ']' :: rest)).length + 1 := by
      apply Nat.lt_succ_of_le
      apply Nat.le_trans (length_le_flatMap_writeLine (item :: other :: items))
      rw [List.length_cons, List.length_append]
      omega
    rw [written, readValue, readItems_lines depth _ _ rest enough]
    rfl

/-- Behind a written field at the end of its line stands its value. -/
theorem readValue_write (depth : Nat) (field : Field) (rest : List Char) :
    readValue (depth + 1) (field.write ++ '\n' :: rest) = some (field.toValue, '\n' :: rest) := by
  cases field with
  | text body => exact readValue_text _ body '\n' rest (by decide)
  | texts items => exact readValue_texts depth items _
  | number value =>
    have scalar := readScalar_number value rest
    obtain ⟨c, text, written, start⟩ :=
      signed_eq_cons (decide (value.toInt < 0)) value.toInt.natAbs
    rw [← toList_toString] at written
    rw [written, List.cons_append] at scalar
    rw [Field.write, written, List.cons_append, readValue_eq_readScalar, scalar]
    · rfl
    · rintro rfl
      exact absurd start (by decide)
    · rintro rfl
      exact absurd start (by decide)

end Gamepad.Toml
