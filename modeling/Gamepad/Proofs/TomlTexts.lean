import Gamepad.Toml.Text.Printer
import Gamepad.Toml.Text.Reader
import Mathlib.Data.List.Basic

/-!
Texts of a TOML document read back as they were written, in whichever of the four styles. Main
statement: behind a written text stands what stood there before it was read, as long as no quote
follows it at once.
-/

namespace Gamepad.Toml

/-! ## Characters -/

theorem isCommentChar_iff (c : Char) :
    isCommentChar c = true ↔ c.toNat = 9 ∨ (32 ≤ c.toNat ∧ c.toNat ≤ 126) ∨ 128 ≤ c.toNat := by
  simp only [isCommentChar, Char.le_def, UInt32.le_iff_toNat_le, ← Char.toNat_inj, Bool.or_eq_true,
    Bool.and_eq_true, decide_eq_true_eq, or_assoc]
  rfl

theorem needsEscape_iff (c : Char) :
    needsEscape c = true ↔ (c.toNat < 32 ∧ c.toNat ≠ 9 ∧ c.toNat ≠ 10) ∨ c.toNat = 127 := by
  simp only [needsEscape, Char.lt_def, UInt32.lt_iff_toNat_lt, ne_eq, ← Char.toNat_inj,
    Bool.or_eq_true, Bool.and_eq_true, decide_eq_true_eq, and_assoc]
  rfl

theorem isCommentChar_of_unescaped {c : Char} (unescaped : needsEscape c = false)
    (inLine : c ≠ '\n') : isCommentChar c = true := by
  have number : c.toNat ≠ 10 := fun same => inLine (Char.toNat_inj.mp same)
  rw [← Bool.not_eq_true, needsEscape_iff] at unescaped
  rw [isCommentChar_iff]
  omega

/-! ## Escapes -/

/-- The three ways to write a character between double quotes. -/
inductive EscapedAs (c : Char) : List Char → Prop
  | plain (basic : isBasicChar c = true) : EscapedAs c [c]
  | short (letter : Char) (means : shortEscape? letter = some c) : EscapedAs c ['\\', letter]
  | point (c₁ c₂ c₃ c₄ : Char) (means : charOfDigits? [c₁, c₂, c₃, c₄] = some c) :
    EscapedAs c ['\\', 'u', c₁, c₂, c₃, c₄]

theorem charOfDigits?_hexDigits : ∀ number < 128,
    ((Text.hexDigits 4 number).map Char.toUpper).length = 4 ∧
      charOfDigits? ((Text.hexDigits 4 number).map Char.toUpper) = some (Char.ofNat number) := by
  decide +kernel

theorem escapedAs_point {c : Char} (escape : needsEscape c = true) :
    EscapedAs c ('\\' :: 'u' :: (Text.hexDigits 4 c.toNat).map Char.toUpper) := by
  have small : c.toNat < 128 := by
    have bounds := (needsEscape_iff c).mp escape
    omega
  obtain ⟨length, means⟩ := charOfDigits?_hexDigits c.toNat small
  rw [Char.ofNat_toNat] at means
  match (Text.hexDigits 4 c.toNat).map Char.toUpper, length, means with
  | [c₁, c₂, c₃, c₄], _, means => exact .point c₁ c₂ c₃ c₄ means

theorem escapedAs_escapeBasic (c : Char) : EscapedAs c (escapeBasic c) := by
  unfold escapeBasic
  split
  next quoted => rcases quoted with rfl | rfl <;> exact .short _ rfl
  next unquoted =>
    split
    next same => exact .short 'b' (congrArg some same.symm)
    split
    next same => exact .short 't' (congrArg some same.symm)
    split
    next inLine same => exact .short 'n' (congrArg some same.symm)
    next notBreak =>
    split
    next same => exact .short 'f' (congrArg some same.symm)
    split
    next same => exact .short 'r' (congrArg some same.symm)
    split
    next escape => exact escapedAs_point escape
    next unescaped =>
      have comment := isCommentChar_of_unescaped (Bool.not_eq_true _ ▸ unescaped) notBreak
      simp only [not_or] at unquoted
      exact .plain (by simp [isBasicChar, comment, unquoted])

/-- A reader that understands each of the three ways. -/
structure ReadsEscapes (read : List Char → Option (List Char × List Char)) : Prop where
  plain : ∀ c rest, isBasicChar c = true → read (c :: rest) = push c (read rest)
  short : ∀ letter c rest, shortEscape? letter = some c →
    read ('\\' :: letter :: rest) = push c (read rest)
  point : ∀ c₁ c₂ c₃ c₄ rest, read ('\\' :: 'u' :: c₁ :: c₂ :: c₃ :: c₄ :: rest) =
    pushPoint [c₁, c₂, c₃, c₄] (read rest)

theorem ReadsEscapes.escapeBasic {read : List Char → Option (List Char × List Char)}
    (reads : ReadsEscapes read) (c : Char) (rest : List Char) :
    read (escapeBasic c ++ rest) = push c (read rest) := by
  have escaped := escapedAs_escapeBasic c
  generalize Toml.escapeBasic c = written at escaped ⊢
  cases escaped with
  | plain basic => exact reads.plain c rest basic
  | short letter means => exact reads.short letter c rest means
  | point c₁ c₂ c₃ c₄ means =>
    have pushed := reads.point c₁ c₂ c₃ c₄ rest
    rw [pushPoint, means] at pushed
    exact pushed

theorem ne_of_shortEscape? {letter c : Char} (means : shortEscape? letter = some c) :
    letter ≠ 'u' ∧ letter ≠ 'U' := by
  constructor
  · rintro rfl
    cases means
  · rintro rfl
    cases means

theorem readsEscapes_readBasic : ReadsEscapes readBasic where
  plain c rest basic := by
    rw [readBasic.eq_def]
    split <;> simp_all [isBasicChar]
  short letter c rest means := by
    obtain ⟨notPoint, notLongPoint⟩ := ne_of_shortEscape? means
    rw [readBasic, means]
    · exact fun _ _ _ _ _ same _ => notPoint same
    · exact fun _ _ _ _ _ _ _ _ _ same _ => notLongPoint same
  point c₁ c₂ c₃ c₄ rest := by rw [readBasic]

theorem readsEscapes_readMultilineBasic : ReadsEscapes (readMultilineBasic false) where
  plain c rest basic := by
    have lineFeed : c ≠ '\n' := by
      rintro rfl
      cases basic
    have carriageReturn : c ≠ '\r' := by
      rintro rfl
      cases basic
    rw [readMultilineBasic.eq_def]
    split <;> simp_all [isBasicChar]
  short letter c rest means := by
    obtain ⟨notPoint, notLongPoint⟩ := ne_of_shortEscape? means
    rw [readMultilineBasic, means]
    · exact fun _ _ _ _ _ same _ => notPoint same
    · exact fun _ _ _ _ _ _ _ _ _ same _ => notLongPoint same
  point c₁ c₂ c₃ c₄ rest := by rw [readMultilineBasic]

/-! ## One line -/

theorem readBasic_write (text rest : List Char) :
    readBasic (text.flatMap escapeBasic ++ '"' :: rest) = some (text, rest) := by
  induction text with
  | nil => rfl
  | cons c text ih =>
    rw [List.flatMap_cons, List.append_assoc, readsEscapes_readBasic.escapeBasic, ih]
    rfl

theorem readLiteral_write (text rest : List Char) (literal : ∀ c ∈ text, isLiteralChar c = true) :
    readLiteral (text ++ '\'' :: rest) = some (text, rest) := by
  have quote : isLiteralChar '\'' = false := by decide
  rw [readLiteral, List.dropWhile_append_of_pos literal, List.takeWhile_append_of_pos literal,
    List.dropWhile_cons_of_neg (by simp [quote]), List.takeWhile_cons_of_neg (by simp [quote]),
    List.append_nil]
  rfl

/-! ## Several lines -/

theorem closeQuotes_of_apart (quote : Char) (rest : List Char) (apart : rest.head? ≠ some quote) :
    closeQuotes quote rest = ([], rest) ∧ closeQuotes quote (quote :: rest) = ([quote], rest) ∧
      closeQuotes quote (quote :: quote :: rest) = ([quote, quote], rest) := by
  have none : rest.takeWhile (· = quote) = [] := by
    cases rest with
    | nil => rfl
    | cons c rest =>
      have other : c ≠ quote := fun same => apart (congrArg some same)
      exact List.takeWhile_cons_of_neg (by simpa using other)
  simp [closeQuotes, none]

theorem EscapedAs.exists_head {c : Char} {written : List Char} (escaped : EscapedAs c written) :
    ∃ head tail, written = head :: tail ∧ head ≠ '"' := by
  cases escaped with
  | plain basic =>
    refine ⟨c, [], rfl, ?_⟩
    rintro rfl
    cases basic
  | short letter _ => exact ⟨_, _, rfl, by decide⟩
  | point c₁ c₂ c₃ c₄ _ => exact ⟨_, _, rfl, by decide⟩

theorem lineBreak?_of_head {c : Char} {text : List Char} (lineFeed : c ≠ '\n')
    (carriageReturn : c ≠ '\r') : lineBreak? (c :: text) = none := by
  rw [lineBreak?.eq_def]
  split <;> simp_all

theorem EscapedAs.lineBreak?_eq_none {c : Char} {written : List Char}
    (escaped : EscapedAs c written) (rest : List Char) : lineBreak? (written ++ rest) = none := by
  cases escaped with
  | plain basic =>
    apply lineBreak?_of_head
    · rintro rfl
      cases basic
    · rintro rfl
      cases basic
  | short letter _ => rfl
  | point c₁ c₂ c₃ c₄ _ => rfl

theorem exists_head_escapeMultiline (quotes : Nat) (c : Char) (text : List Char)
    (other : c = '"' → quotes = 2) :
    ∃ head tail, escapeMultiline quotes (c :: text) = head :: tail ∧ head ≠ '"' := by
  rw [escapeMultiline]
  split
  next same => exact ⟨_, _, if_pos (other same), by decide⟩
  next different =>
    split
    next _ => exact ⟨_, _, rfl, by decide⟩
    next _ =>
      obtain ⟨head, tail, written, unquoted⟩ := (escapedAs_escapeBasic c).exists_head
      exact ⟨head, tail ++ escapeMultiline 0 text, by rw [written]; rfl, unquoted⟩

theorem readMultilineBasic_quote (text : List Char)
    (apart : ∀ rest, text ≠ '"' :: '"' :: rest) :
    readMultilineBasic false ('"' :: text) = push '"' (readMultilineBasic false text) := by
  rw [readMultilineBasic]
  exact apart

/-- Behind a quote that is written as it is, two more quotes come only at the end of a text. -/
theorem escapeMultiline_apart (quotes : Nat) (few : quotes < 2) (text rest : List Char)
    (goesOn : text ≠ []) (pair : text = ['"'] → quotes ≠ 0) (tail : List Char) :
    escapeMultiline (quotes + 1) text ++ rest ≠ '"' :: '"' :: tail := by
  intro same
  match text with
  | c :: text =>
    by_cases second : c = '"' ∧ quotes = 0
    · obtain ⟨rfl, rfl⟩ := second
      match text with
      | [] => exact pair rfl rfl
      | d :: text =>
        obtain ⟨head, later, written, unquoted⟩ :=
          exists_head_escapeMultiline 2 d text fun _ => rfl
        rw [escapeMultiline, if_pos rfl, if_neg (by decide), written] at same
        exact unquoted (List.cons.inj (List.cons.inj same).2).1
    · obtain ⟨head, later, written, unquoted⟩ :=
        exists_head_escapeMultiline (quotes + 1) c text (by
          intro quote
          have positive : quotes ≠ 0 := fun zero => second ⟨quote, zero⟩
          omega)
      rw [written] at same
      exact unquoted (List.cons.inj same).1

/-- Of the quotes at the end of a text the last three close it, and so the others belong to it. -/
theorem readMultilineBasic_write (text : List Char) (quotes : Nat) (few : quotes ≤ 2)
    (rest : List Char) (apart : rest.head? ≠ some '"') :
    readMultilineBasic false (escapeMultiline quotes text ++ '"' :: '"' :: '"' :: rest) =
      some (text, rest) := by
  obtain ⟨none, one, two⟩ := closeQuotes_of_apart '"' rest apart
  induction text generalizing quotes with
  | nil => exact congrArg some none
  | cons c text ih =>
    by_cases quote : c = '"'
    · subst quote
      by_cases third : quotes = 2
      · rw [escapeMultiline, if_pos rfl, if_pos third]
        have read := readsEscapes_readMultilineBasic.short '"' '"'
          (escapeMultiline 0 text ++ '"' :: '"' :: '"' :: rest) rfl
        rw [ih 0 (by omega)] at read
        exact read
      · rw [escapeMultiline, if_pos rfl, if_neg third]
        -- One or two quotes at the end stand right before the three that close the text.
        by_cases last : text = []
        · subst last
          exact congrArg some one
        by_cases pair : text = ['"'] ∧ quotes = 0
        · obtain ⟨rfl, rfl⟩ := pair
          exact congrArg some two
        · have next := readMultilineBasic_quote _ (escapeMultiline_apart quotes (by omega) text
            ('"' :: '"' :: '"' :: rest) last fun same zero => pair ⟨same, zero⟩)
          rw [ih (quotes + 1) (by omega)] at next
          exact next
    · rw [escapeMultiline, if_neg quote]
      split
      next lineFeed =>
        subst lineFeed
        exact congrArg (push '\n') (ih 0 (by omega))
      next _ =>
        rw [List.append_assoc, readsEscapes_readMultilineBasic.escapeBasic, ih 0 (by omega)]
        rfl

theorem le_longestRun (quote : Char) (current : Nat) (text : List Char) :
    current ≤ longestRun quote current text := by
  induction text generalizing current with
  | nil => exact Nat.le_refl _
  | cons c text ih =>
    rw [longestRun]
    split
    next _ => exact Nat.le_of_succ_le (ih (current + 1))
    next _ => exact Nat.le_max_left _ _

theorem readMultilineLiteral_char (c : Char) (text : List Char)
    (inText : c = '\'' ∨ c = '\n' ∨ isLiteralChar c = true)
    (apart : c = '\'' → ∀ rest, text ≠ '\'' :: '\'' :: rest) :
    readMultilineLiteral (c :: text) = push c (readMultilineLiteral text) := by
  have carriageReturn : c ≠ '\r' := by
    rintro rfl
    revert inText
    decide
  rw [readMultilineLiteral.eq_def]
  split <;> simp_all
  next =>
    intro other refused
    simp [other, refused] at inText

theorem literal_apart (quotes : Nat) (text rest : List Char)
    (few : longestRun '\'' (quotes + 1) text ≤ 2) (goesOn : text ≠ []) (pair : text ≠ ['\''])
    (tail : List Char) : text ++ rest ≠ '\'' :: '\'' :: tail := by
  intro same
  match text with
  | [c] =>
    obtain ⟨rfl, _⟩ := List.cons.inj same
    exact pair rfl
  | c :: d :: text =>
    obtain ⟨rfl, second⟩ := List.cons.inj same
    obtain ⟨rfl, _⟩ := List.cons.inj second
    rw [longestRun, if_pos rfl, longestRun, if_pos rfl] at few
    have many := le_longestRun '\'' (quotes + 1 + 1 + 1) text
    omega

theorem readMultilineLiteral_write (text : List Char) (quotes : Nat)
    (few : longestRun '\'' quotes text ≤ 2) (unescaped : ∀ c ∈ text, needsEscape c = false)
    (rest : List Char) (apart : rest.head? ≠ some '\'') :
    readMultilineLiteral (text ++ '\'' :: '\'' :: '\'' :: rest) = some (text, rest) := by
  obtain ⟨none, one, two⟩ := closeQuotes_of_apart '\'' rest apart
  induction text generalizing quotes with
  | nil => exact congrArg some none
  | cons c text ih =>
    rw [List.forall_mem_cons] at unescaped
    by_cases quote : c = '\''
    · subst quote
      rw [longestRun, if_pos rfl] at few
      by_cases last : text = []
      · subst last
        exact congrArg some one
      by_cases pair : text = ['\'']
      · subst pair
        exact congrArg some two
      · have next := readMultilineLiteral_char '\'' _ (.inl rfl)
          fun _ => literal_apart quotes text ('\'' :: '\'' :: '\'' :: rest) few last pair
        rw [ih (quotes + 1) few unescaped.2] at next
        exact next
    · rw [longestRun, if_neg quote] at few
      have inText : c = '\'' ∨ c = '\n' ∨ isLiteralChar c = true := by
        by_cases lineFeed : c = '\n'
        · exact .inr (.inl lineFeed)
        · have comment := isCommentChar_of_unescaped unescaped.1 lineFeed
          exact .inr (.inr (by simp [isLiteralChar, comment, quote]))
      rw [List.cons_append, readMultilineLiteral_char c _ inText fun same => absurd same quote,
        ih 0 (Nat.le_trans (Nat.le_max_right _ _) few) unescaped.2]
      rfl

theorem skipFirstBreak_write (text written : List Char)
    (apart : '\n' ∉ text → lineBreak? written = none) :
    skipFirstBreak (firstBreak text ++ written) = written := by
  unfold firstBreak skipFirstBreak
  split
  next _ => rfl
  next inLine =>
    rw [List.nil_append, apart (by simpa using inLine)]
    rfl

/-! ## All styles -/

theorem choose_eq_literal {text : List Char} (chosen : TextStyle.choose text = .literal) :
    (∀ c ∈ text, needsEscape c = false) ∧ '\'' ∉ text ∧ '\n' ∉ text := by
  simp only [TextStyle.choose] at chosen
  split at chosen
  next _ => cases chosen
  split at chosen
  next plain => simpa [and_assoc] using plain
  split at chosen
  next _ => cases chosen
  split at chosen
  next _ => cases chosen
  split at chosen <;> cases chosen

theorem choose_eq_multilineLiteral {text : List Char}
    (chosen : TextStyle.choose text = .multilineLiteral) :
    (∀ c ∈ text, needsEscape c = false) ∧ longestRun '\'' 0 text ≤ 2 := by
  simp only [TextStyle.choose] at chosen
  split at chosen
  next _ => cases chosen
  split at chosen
  next _ => cases chosen
  split at chosen
  next _ => cases chosen
  split at chosen
  next few => simpa using few
  split at chosen <;> cases chosen

theorem readText_basic (text : List Char) (apart : ∀ rest, text ≠ '"' :: '"' :: rest) :
    readText ('"' :: text) = readBasic text := by
  rw [readText]
  exact apart

theorem readText_literal (text : List Char) (apart : ∀ rest, text ≠ '\'' :: '\'' :: rest) :
    readText ('\'' :: text) = readLiteral text := by
  rw [readText]
  exact apart

theorem readText_write_basic (text rest : List Char) (apart : rest.head? ≠ some '"') :
    readText (TextStyle.basic.write text ++ rest) = some (text, rest) := by
  have written : TextStyle.basic.write text ++ rest =
      '"' :: (text.flatMap escapeBasic ++ '"' :: rest) := by simp [TextStyle.write]
  rw [written, readText_basic, readBasic_write]
  intro tail same
  cases text with
  | nil => exact apart (by simp_all)
  | cons c text =>
    obtain ⟨head, later, escaped, unquoted⟩ := (escapedAs_escapeBasic c).exists_head
    rw [List.flatMap_cons, escaped] at same
    exact unquoted (List.cons.inj same).1

theorem readText_write_literal (text rest : List Char) (apart : rest.head? ≠ some '\'')
    (unescaped : ∀ c ∈ text, needsEscape c = false) (unquoted : '\'' ∉ text)
    (inLine : '\n' ∉ text) :
    readText (TextStyle.literal.write text ++ rest) = some (text, rest) := by
  have written : TextStyle.literal.write text ++ rest = '\'' :: (text ++ '\'' :: rest) := by
    simp [TextStyle.write]
  have literal : ∀ c ∈ text, isLiteralChar c = true := by
    intro c inText
    have lineFeed : c ≠ '\n' := fun same => inLine (same ▸ inText)
    have quote : c ≠ '\'' := fun same => unquoted (same ▸ inText)
    simp [isLiteralChar, isCommentChar_of_unescaped (unescaped c inText) lineFeed, quote]
  rw [written, readText_literal, readLiteral_write text rest literal]
  intro tail same
  cases text with
  | nil => exact apart (by simp_all)
  | cons c text =>
    obtain ⟨rfl, _⟩ := List.cons.inj same
    exact unquoted (List.mem_cons_self ..)

theorem readText_write_multilineBasic (text rest : List Char) (apart : rest.head? ≠ some '"') :
    readText (TextStyle.multilineBasic.write text ++ rest) = some (text, rest) := by
  have written : TextStyle.multilineBasic.write text ++ rest = '"' :: '"' :: '"' ::
      (firstBreak text ++ (escapeMultiline 0 text ++ '"' :: '"' :: '"' :: rest)) := by
    simp [TextStyle.write, List.replicate]
  rw [written, readText, skipFirstBreak_write,
    readMultilineBasic_write text 0 (by decide) rest apart]
  intro inLine
  match text with
  | [] => rfl
  | c :: text =>
    rw [escapeMultiline]
    split
    next _ => rfl
    next _ =>
      have lineFeed : c ≠ '\n' := fun same => inLine (same ▸ List.mem_cons_self ..)
      rw [if_neg lineFeed, List.append_assoc]
      exact (escapedAs_escapeBasic c).lineBreak?_eq_none _

theorem readText_write_multilineLiteral (text rest : List Char) (apart : rest.head? ≠ some '\'')
    (unescaped : ∀ c ∈ text, needsEscape c = false) (few : longestRun '\'' 0 text ≤ 2) :
    readText (TextStyle.multilineLiteral.write text ++ rest) = some (text, rest) := by
  have written : TextStyle.multilineLiteral.write text ++ rest = '\'' :: '\'' :: '\'' ::
      (firstBreak text ++ (text ++ '\'' :: '\'' :: '\'' :: rest)) := by
    simp [TextStyle.write, List.replicate]
  rw [written, readText, skipFirstBreak_write,
    readMultilineLiteral_write text 0 few unescaped rest apart]
  intro inLine
  match text with
  | [] => rfl
  | c :: text =>
    have lineFeed : c ≠ '\n' := fun same => inLine (same ▸ List.mem_cons_self ..)
    have carriageReturn : c ≠ '\r' := by
      rintro rfl
      cases unescaped '\r' (List.mem_cons_self ..)
    exact lineBreak?_of_head lineFeed carriageReturn

theorem readText_writeText (text : String) (rest : List Char) (apart : rest.head? ≠ some '"')
    (apartLiteral : rest.head? ≠ some '\'') :
    readText (writeText text ++ rest) = some (text.toList, rest) := by
  unfold writeText
  generalize text.toList = text
  cases chosen : TextStyle.choose text with
  | basic => exact readText_write_basic text rest apart
  | literal =>
    obtain ⟨unescaped, unquoted, inLine⟩ := choose_eq_literal chosen
    exact readText_write_literal text rest apartLiteral unescaped unquoted inLine
  | multilineBasic => exact readText_write_multilineBasic text rest apart
  | multilineLiteral =>
    obtain ⟨unescaped, few⟩ := choose_eq_multilineLiteral chosen
    exact readText_write_multilineLiteral text rest apartLiteral unescaped few

end Gamepad.Toml
