import Gamepad.Console
import Mathlib.Data.List.Basic
import Mathlib.Data.Nat.Bitwise

/-!
What the lines of a poll say. Main statement: lines that are the same were printed for the same
results, since the number in a key's text gives its code back and a quoted character, where there
is one, is the character with that number.
-/

namespace Gamepad

/-! ## Hexadecimal digits -/

namespace Text

theorem readDigits_append (base high : Nat) (first second : List Char) :
    readDigits base high (first ++ second) =
      (readDigits base high first).bind fun middle => readDigits base middle second := by
  induction first generalizing high with
  | nil => rfl
  | cons c rest ih =>
    simp only [List.cons_append, readDigits, Option.bind_eq_bind]
    cases digitValue? base c with
    | none => rfl
    | some digit => exact ih _

theorem readDigits_zeros (count : Nat) (digits : List Char) :
    readDigits 16 0 (List.replicate count '0' ++ digits) = readDigits 16 0 digits := by
  induction count with
  | zero => rfl
  | succ count ih => exact ih

theorem digitValue?_digitChar {digit : Nat} (small : digit < 16) :
    digitValue? 16 digit.digitChar = some digit := by
  have all : ∀ digit < 16, digitValue? 16 digit.digitChar = some digit := by decide
  exact all digit small

theorem readDigits_toDigits_sixteen (number : Nat) :
    readDigits 16 0 (Nat.toDigits 16 number) = some number := by
  induction number using Nat.strongRecOn with
  | ind number ih =>
    rw [Nat.toDigits_eq_if (by decide)]
    split
    next small => simp [readDigits, digitValue?_digitChar small]
    next large =>
      have last := digitValue?_digitChar (Nat.mod_lt number (by decide : 0 < 16))
      rw [readDigits_append, ih (number / 16) (by omega)]
      simp only [Option.bind_some, readDigits, last, Option.bind_eq_bind]
      rw [Nat.div_add_mod]

theorem readDigits_hexDigits (width number : Nat) :
    readDigits 16 0 (hexDigits width number) = some number := by
  rw [hexDigits, readDigits_zeros, readDigits_toDigits_sixteen]

theorem ne_space_of_readDigits {digits : List Char} {high number : Nat}
    (read : readDigits 16 high digits = some number) : ∀ c ∈ digits, c ≠ ' ' := by
  induction digits generalizing high with
  | nil => nofun
  | cons first rest ih =>
    have noDigit : digitValue? 16 ' ' = none := by decide
    intro c member
    cases found : digitValue? 16 first with
    | none => simp [readDigits, found] at read
    | some digit =>
      simp only [readDigits, found, Option.bind_eq_bind, Option.bind_some] at read
      rcases List.mem_cons.mp member with same | later
      · intro space
        rw [← same, space, noDigit] at found
        cases found
      · exact ih read c later

/-! ## Quoted characters -/

def unescape : List Char → Option Char
  | [c] => some c
  | [_, c] =>
    if c = '0' then some '\x00'
    else if c = 't' then some '\t'
    else if c = 'n' then some '\n'
    else if c = 'r' then some '\r'
    else some c
  | _ :: _ :: _ :: digits => (readDigits 16 0 digits.dropLast).map Char.ofNat
  | [] => none

theorem unescape_escape (c : Char) : unescape (escape '\'' c) = some c := by
  unfold escape
  split_ifs with short zero tab feed back alone
  · rcases short with rfl | rfl <;> rfl
  · subst zero
    rfl
  · subst tab
    rfl
  · subst feed
    rfl
  · subst back
    rfl
  · rfl
  · change (readDigits 16 0 (hexDigits 1 c.toNat ++ ['\x7d']).dropLast).map Char.ofNat = some c
    rw [List.dropLast_concat, readDigits_hexDigits, Option.map_some, Char.ofNat_toNat]

theorem toList_quotedChar (c : Char) : (quotedChar c).toList = '\'' :: (escape '\'' c ++ ['\'']) :=
  String.toList_ofList

theorem quotedChar_injective : Function.Injective quotedChar := by
  intro c other same
  have letters := congrArg String.toList same
  rw [toList_quotedChar, toList_quotedChar] at letters
  have inner : escape '\'' c = escape '\'' other :=
    List.append_cancel_right (List.cons.inj letters).2
  apply Option.some.inj
  rw [← unescape_escape c, inner, unescape_escape]

theorem three_le_length_quotedChar (c : Char) : 3 ≤ (quotedChar c).toList.length := by
  have filled : escape '\'' c ≠ [] := by
    intro nothing
    have back := unescape_escape c
    rw [nothing] at back
    cases back
  have positive := List.length_pos_iff.mpr filled
  rw [toList_quotedChar, List.length_cons, List.length_append, List.length_singleton]
  omega

theorem eq_space_of_mem_quotedChar {c : Char} (member : ' ' ∈ (quotedChar c).toList) : c = ' ' := by
  have digits := ne_space_of_readDigits (readDigits_hexDigits 1 c.toNat) ' '
  by_contra other
  have inner : ' ' ∈ escape '\'' c := by simpa [toList_quotedChar] using member
  unfold escape at inner
  split_ifs at inner
  · simp [Ne.symm other] at inner
  · simp at inner
  · simp at inner
  · simp at inner
  · simp at inner
  · simp [Ne.symm other] at inner
  · simp at inner
    exact digits inner rfl

theorem length_quotedChar_space : (quotedChar ' ').toList.length = 3 := by decide +kernel

/-- Behind a word and a space there is only one way to see a quoted character. -/
theorem eq_of_append_quotedChar {front word : List Char} {c other : Char} (spaceless : ' ' ∉ word)
    (same : front ++ ' ' :: (quotedChar c).toList = word ++ ' ' :: (quotedChar other).toList) :
    c = other := by
  rcases List.append_eq_append_iff.mp same with ⟨more, rest, tails⟩ | ⟨more, rest, tails⟩
  · cases more with
    | nil => exact quotedChar_injective (String.toList_inj.mp (List.cons.inj tails).2)
    | cons first more =>
      have space := (List.cons.inj tails).1
      simp [rest, ← space] at spaceless
  · cases more with
    | nil => exact (quotedChar_injective (String.toList_inj.mp (List.cons.inj tails).2)).symm
    | cons first more =>
      -- A second space could only be a quoted one, and then no quotes fit in behind it.
      have inside : (quotedChar other).toList = more ++ ' ' :: (quotedChar c).toList :=
        (List.cons.inj tails).2
      have space : other = ' ' := eq_space_of_mem_quotedChar (by simp [inside])
      have long := three_le_length_quotedChar c
      have short := length_quotedChar_space
      rw [← space, inside, List.length_append, List.length_cons] at short
      omega

end Text

/-! ## Key codes -/

namespace KeyCode

open Text (hexDigits readDigits quotedChar)

/-- The number that stands in hexadecimal at the start of a text. -/
def numberIn? (text : String) : Option Nat :=
  match text.toList with
  | '0' :: 'x' :: rest => readDigits 16 0 (rest.takeWhile (· ≠ ' '))
  | _ => none

/-- The text of the key ends with this character in quotes. -/
def Shows (key : KeyCode) (c : Char) : Prop := ∃ front, key.text = front ++ " " ++ quotedChar c

def glyph (key : KeyCode) : List Char :=
  match key.toChar? with
  | some c => ' ' :: (quotedChar c).toList
  | none => []

theorem toList_text (key : KeyCode) :
    key.text.toList = '0' :: 'x' :: (hexDigits 2 key.value.toNat ++ key.glyph) := by
  unfold text glyph
  cases key.toChar? with
  | none => simp
  | some c => simp

theorem numberIn?_text (key : KeyCode) : numberIn? key.text = some key.value.toNat := by
  have read := Text.readDigits_hexDigits 2 key.value.toNat
  have spaceless := Text.ne_space_of_readDigits read
  have behind : key.glyph.takeWhile (· ≠ ' ') = [] := by
    unfold glyph
    cases key.toChar? <;> rfl
  rw [numberIn?, toList_text]
  change readDigits 16 0 ((hexDigits 2 key.value.toNat ++ key.glyph).takeWhile (· ≠ ' ')) = _
  rw [List.takeWhile_append_of_pos (by simpa using spaceless), behind, List.append_nil, read]

theorem text_injective : Function.Injective text := by
  intro key other same
  have number : some key.value.toNat = some other.value.toNat := by
    rw [← numberIn?_text, ← numberIn?_text, same]
  have value : key.value = other.value := UInt32.toNat_inj.mp (Option.some.inj number)
  exact (KeyCode.mk.injEq ..).mpr value

theorem shows_iff (key : KeyCode) (c : Char) : key.Shows c ↔ key.toChar? = some c := by
  have spaceless := Text.ne_space_of_readDigits (Text.readDigits_hexDigits 2 key.value.toNat)
  have clear : ' ' ∉ '0' :: 'x' :: hexDigits 2 key.value.toNat := by
    have digits : ' ' ∉ hexDigits 2 key.value.toNat := fun member => spaceless ' ' member rfl
    simp [digits]
  constructor
  · intro shown
    obtain ⟨front, written⟩ := shown
    have letters : front.toList ++ ' ' :: (quotedChar c).toList =
        '0' :: 'x' :: hexDigits 2 key.value.toNat ++ key.glyph := by
      have both := congrArg String.toList written
      rw [toList_text, String.toList_append, String.toList_append] at both
      simpa using both.symm
    cases found : key.toChar? with
    | none =>
      have nothing : key.glyph = [] := by rw [glyph, found]
      rw [nothing, List.append_nil] at letters
      rw [← letters] at clear
      simp at clear
    | some other =>
      have behind : key.glyph = ' ' :: (quotedChar other).toList := by rw [glyph, found]
      rw [behind] at letters
      rw [Text.eq_of_append_quotedChar clear letters]
  · intro found
    refine ⟨"0x" ++ String.ofList (hexDigits 2 key.value.toNat), ?_⟩
    rw [text, found]

theorem toNat_of_toChar? {key : KeyCode} {c : Char} (found : key.toChar? = some c) :
    c.toNat = key.value.toNat := by
  unfold toChar? at found
  split at found
  next => cases found
  next =>
    split at found
    next valid =>
      have same : (⟨key.value, valid⟩ : Char) = c :=
        Option.some.inj (Option.ite_none_left_eq_some.mp found).2
      rw [← same]
      rfl
    next => cases found

theorem and_extendedFlag (c : Char) : c.val &&& extendedFlag = 0 := by
  have point : c.val.toNat < 2 ^ 23 := by
    have valid : c.val.toNat < 0xd800 ∨ (0xdfff < c.val.toNat ∧ c.val.toNat < 0x110000) := c.valid
    omega
  apply UInt32.toNat_inj.mp
  rw [UInt32.toNat_and]
  change c.val.toNat &&& 2 ^ 23 = 0
  rw [Nat.and_two_pow, Nat.testBit_lt_two_pow point]
  rfl

theorem toChar?_ofChar (c : Char) :
    (ofChar c).toChar? = if isControl c then none else some c := by
  have plain : ¬(ofChar c).value &&& extendedFlag ≠ 0 := not_not.mpr (and_extendedFlag c)
  rw [toChar?, if_neg plain]
  exact dif_pos c.valid

theorem isControl_iff (c : Char) :
    isControl c = true ↔ c ≤ '\x1f' ∨ ('\x7f' ≤ c ∧ c ≤ '\u009f') := by
  have first : c ≤ '\x1f' ↔ c.toNat ≤ 0x1f := Iff.rfl
  have second : '\x7f' ≤ c ↔ 0x7f ≤ c.toNat := Iff.rfl
  have last : c ≤ '\u009f' ↔ c.toNat ≤ 0x9f := Iff.rfl
  rw [first, second, last]
  simp only [isControl, Bool.or_eq_true, Bool.and_eq_true, decide_eq_true_eq]
  omega

theorem shows_ofChar_iff (c : Char) :
    (ofChar c).Shows c ↔ ¬(c ≤ '\x1f' ∨ ('\x7f' ≤ c ∧ c ≤ '\u009f')) := by
  rw [shows_iff, toChar?_ofChar, ← isControl_iff]
  split
  next control => simp [control]
  next glyph => simp [glyph]

end KeyCode

/-! ## Results -/

namespace KeyPoll

theorem toList_text_key (code : KeyCode) :
    (key code).text.toList = 'k' :: 'e' :: 'y' :: ' ' :: code.text.toList := by
  simp [text, toString]

def initial : KeyPoll → Char
  | pending => 'p'
  | noKey => 'n'
  | key _ => 'k'

theorem head?_text (result : KeyPoll) : result.text.toList.head? = some result.initial := by
  cases result with
  | pending => decide
  | noKey => decide
  | key code =>
    rw [toList_text_key]
    rfl

theorem text_injective : Function.Injective text := by
  intro result other same
  -- The first letter tells the kinds of results apart.
  have letter : result.initial = other.initial := by
    apply Option.some.inj
    rw [← head?_text, ← head?_text, same]
  cases result with
  | pending =>
    cases other with
    | pending => rfl
    | noKey => exact absurd letter (by decide)
    | key _ => exact absurd letter (by simp [initial])
  | noKey =>
    cases other with
    | pending => exact absurd letter (by decide)
    | noKey => rfl
    | key _ => exact absurd letter (by simp [initial])
  | key code =>
    cases other with
    | pending => exact absurd letter (by simp [initial])
    | noKey => exact absurd letter (by simp [initial])
    | key otherCode =>
      have letters := congrArg String.toList same
      rw [toList_text_key, toList_text_key] at letters
      have texts : code.text = otherCode.text := String.toList_inj.mp (by simpa using letters)
      rw [KeyCode.text_injective texts]

end KeyPoll

namespace Console

def pollResults (handle : SessionHandle) :
    Nat → Host ReplayBus SourceList → Except RegistryError (List KeyPoll)
  | 0, _ => .ok []
  | count + 1, host =>
    match host.poll handle with
    | (.error error, _) => .error error
    | (.ok result, host) => (pollResults handle count host).map (result :: ·)

theorem pollLines_eq_map (handle : SessionHandle) (count : Nat) (host : Host ReplayBus SourceList) :
    (pollLines handle count host).1 = (pollResults handle count host).map (List.map KeyPoll.text) := by
  induction count generalizing host with
  | zero => rfl
  | succ count ih =>
    unfold pollLines pollResults
    rcases host.poll handle with ⟨answer, after⟩
    cases answer with
    | error error => rfl
    | ok result =>
      change (pollLines handle count after).1.map (result.text :: ·) =
        ((pollResults handle count after).map (result :: ·)).map (List.map KeyPoll.text)
      rw [ih after]
      cases pollResults handle count after <;> rfl

/-- A poll prints the text of each of its results, and different results have different texts, so the
lines give the results back. In the text of a key the number tells the code, whether or not a
character follows in quotes; where one follows it is the character with that number, and the key of
a character shows it unless it is one of the controls, U+0000 to U+001F and U+007F to U+009F. -/
theorem lines_tell_results :
    (∀ handle count host, (pollLines handle count host).1 =
      (pollResults handle count host).map (List.map KeyPoll.text)) ∧
    (∀ results others : List KeyPoll,
      results.map KeyPoll.text = others.map KeyPoll.text → results = others) ∧
    (∀ key result, (KeyPoll.key key).text = KeyPoll.text result → result = .key key) ∧
    (∀ key other : KeyCode, key.text = other.text → key = other) ∧
    (∀ key : KeyCode, KeyCode.numberIn? key.text = some key.value.toNat) ∧
    (∀ (key : KeyCode) c, key.Shows c → KeyCode.numberIn? key.text = some c.toNat) ∧
    ∀ c, ∃ key, (KeySpec.char c).resolve = .ok key ∧
      (key.Shows c ↔ ¬(c ≤ '\x1f' ∨ ('\x7f' ≤ c ∧ c ≤ '\u009f'))) := by
  refine ⟨pollLines_eq_map, ?_, ?_, ?_, KeyCode.numberIn?_text, ?_, ?_⟩
  · intro results others same
    exact List.map_injective_iff.mpr KeyPoll.text_injective same
  · intro key result same
    exact (KeyPoll.text_injective same).symm
  · intro key other same
    exact KeyCode.text_injective same
  · intro key c shown
    have found := (key.shows_iff c).mp shown
    rw [KeyCode.numberIn?_text, KeyCode.toNat_of_toChar? found]
  · intro c
    exact ⟨.ofChar c, rfl, KeyCode.shows_ofChar_iff c⟩

/-- The quote is escaped, and a line feed and the code of no character are only numbers. -/
example :
    (KeyCode.ofChar '\'').text = "0x27 '\\''" ∧ (KeyCode.ofChar '\n').text = "0x0a" ∧
      (KeyCode.mk 0xd800).text = "0xd800" := by
  decide

end Console

end Gamepad
