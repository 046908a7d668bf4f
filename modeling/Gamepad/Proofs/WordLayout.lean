import Gamepad.Proofs.Numerals
import Gamepad.Text.Words

/-!
How words stand in a text. Main statement: the words of a text are the ones that it is laid out
with, and every text is laid out with some words.
-/

namespace Gamepad.Text

structure IsWord (word : String) : Prop where
  filled : word.toList ≠ []
  solid : ∀ c ∈ word.toList, isBlank c = false

theorem isWord_iff (word : String) :
    IsWord word ↔ word.toList ≠ [] ∧ word.toList.all (!isBlank ·) = true := by
  simp only [List.all_eq_true, Bool.not_eq_true']
  exact ⟨fun isWord => ⟨isWord.filled, isWord.solid⟩, fun both => ⟨both.1, both.2⟩⟩

instance (word : String) : Decidable (IsWord word) := decidable_of_iff' _ (isWord_iff word)

/-- The text consists of the words in this order, with blanks around them. Two words do not touch,
since a word goes on to the next blank or to the end. -/
inductive Layout : List Char → List String → Prop
  | empty : Layout [] []
  | blank {c : Char} {text : List Char} {words : List String} (blank : isBlank c = true)
      (rest : Layout text words) : Layout (c :: text) words
  | word {word : String} {text : List Char} {words : List String} (isWord : IsWord word)
      (ends : ∀ c ∈ text.head?, isBlank c = true) (rest : Layout text words) :
      Layout (word.toList ++ text) (word :: words)

def wordsOf (text : List Char) : List String :=
  ((text.splitOnP isBlank).filter (· ≠ [])).map String.ofList

theorem wordsOf_append_blank {c : Char} (blank : isBlank c = true) (before after : List Char) :
    wordsOf (before ++ c :: after) = wordsOf before ++ wordsOf after := by
  unfold wordsOf
  rw [List.splitOnP_append_cons _ _ blank, List.filter_append, List.map_append]

theorem wordsOf_blank {c : Char} (blank : isBlank c = true) (text : List Char) :
    wordsOf (c :: text) = wordsOf text :=
  wordsOf_append_blank blank [] text

theorem wordsOf_word {word : String} (isWord : IsWord word) : wordsOf word.toList = [word] := by
  unfold wordsOf
  rw [List.splitOnP_eq_singleton isWord.solid]
  simp [isWord.filled]

theorem wordsOf_of_layout {text : List Char} {words : List String} (layout : Layout text words) :
    wordsOf text = words := by
  induction layout with
  | empty => rfl
  | blank blank _ ih => rw [wordsOf_blank blank, ih]
  | @word word text words isWord ends _ ih =>
    cases text with
    | nil =>
      have last : words = [] := ih.symm
      rw [List.append_nil, wordsOf_word isWord, last]
    | cons c text =>
      have blank : isBlank c = true := ends c rfl
      rw [wordsOf_append_blank blank, wordsOf_word isWord, ← wordsOf_blank blank, ih,
        List.singleton_append]

theorem exists_layout (text : List Char) : ∃ words, Layout text words := by
  induction text with
  | nil => exact ⟨[], .empty⟩
  | cons c text ih =>
    obtain ⟨words, layout⟩ := ih
    by_cases blank : isBlank c = true
    · exact ⟨words, .blank blank layout⟩
    have starts : IsWord (String.singleton c) :=
      { filled := by simp
        solid := by simpa using blank }
    -- the character is a word of its own, unless a word comes right behind it
    cases layout with
    | empty =>
      have alone := Layout.word starts (by simp) .empty
      exact ⟨_, by simpa using alone⟩
    | blank next rest =>
      have alone := Layout.word starts (by simpa using next) (.blank next rest)
      exact ⟨_, by simpa using alone⟩
    | @word word text words isWord ends rest =>
      have longer : IsWord (String.singleton c ++ word) :=
        { filled := by simp
          solid := by simpa using ⟨by simpa using blank, isWord.solid⟩ }
      have joined := Layout.word longer ends rest
      exact ⟨_, by simpa using joined⟩

theorem Layout.isWord {text : List Char} {words : List String} (layout : Layout text words) :
    ∀ word ∈ words, IsWord word := by
  induction layout with
  | empty => exact nofun
  | blank _ _ ih => exact ih
  | word isWord _ _ ih => exact List.forall_mem_cons.mpr ⟨isWord, ih⟩

theorem words_eq_iff (text : String) (found : List String) :
    words text = found ↔ Layout text.toList found := by
  constructor
  · intro read
    obtain ⟨others, layout⟩ := exists_layout text.toList
    have same : words text = others := wordsOf_of_layout layout
    rwa [← read, same]
  · exact wordsOf_of_layout

theorem exists_layout_iff (text : String) (holds : List String → Prop) :
    (∃ words, Layout text.toList words ∧ holds words) ↔ holds (words text) := by
  constructor
  · intro given
    obtain ⟨others, layout, held⟩ := given
    rwa [(words_eq_iff text others).mpr layout]
  · intro held
    exact ⟨words text, (words_eq_iff text _).mp rfl, held⟩

theorem layout_intercalate (words : List String) (areWords : ∀ word ∈ words, IsWord word) :
    Layout (" ".intercalate words).toList words := by
  rw [String.toList_intercalate]
  induction words with
  | nil => exact .empty
  | cons word rest ih =>
    rw [List.forall_mem_cons] at areWords
    have layout := ih areWords.2
    cases rest with
    | nil =>
      have alone := Layout.word areWords.1 (by simp) .empty
      simpa [List.intercalate] using alone
    | cons next rest =>
      have space : isBlank ' ' = true := by decide
      have spaced := Layout.word areWords.1 (by simpa using space) (.blank space layout)
      simpa [List.intercalate] using spaced

theorem intercalate_concat (words : List String) (first last : String) :
    " ".intercalate (words ++ [first ++ " " ++ last]) = " ".intercalate (words ++ [first, last]) := by
  rw [← String.toList_inj, String.toList_intercalate, String.toList_intercalate]
  induction words with
  | nil => simp [List.intercalate]
  | cons word rest ih =>
    cases rest with
    | nil => simp [List.intercalate]
    | cons next rest => simpa [List.intercalate] using ih

theorem isBlank_of_isDigit {c : Char} (digit : c.isDigit = true) : isBlank c = false := by
  have bounds : 48 ≤ c.toNat ∧ c.toNat < 58 := by
    simpa [Char.isDigit, UInt32.le_iff_toNat_le, Nat.lt_succ_iff] using digit
  have blanks : ∀ number < 58, 48 ≤ number → isBlank (Char.ofNat number) = false := by decide
  rw [← Char.ofNat_toNat c]
  exact blanks c.toNat bounds.2 bounds.1

theorem isWord_repr (number : Nat) : IsWord number.repr := by
  rw [Nat.repr_eq_ofList_toDigits]
  exact
    { filled := by simp
      solid := by
        rw [String.toList_ofList]
        exact fun c member => isBlank_of_isDigit (isDigit_toDigits number c member) }

end Gamepad.Text
