import DeviceLink.Proofs.Text.ByteGrammar
import Mathlib.Data.List.DropRight
import Mathlib.Data.Nat.Digits.Defs

/-!
# The grammar of typed words

Blanks at the ends of a text and underscores in it do not count. What is left
is a number in base sixteen, with at least one digit, perhaps behind one mark
and then one plus sign. The reader takes the digits one by one and stops as
soon as their number needs more than 16 bits, so a text is accepted exactly
when its number as a whole fits, however many zeros it starts with.
-/

namespace DeviceLink

namespace Text

/-! ## Blanks at the ends -/

/-- The body is what is left of a text without the blanks at both ends. -/
def TrimsTo (text body : List Char) : Prop :=
  (∃ leading trailing, text = leading ++ body ++ trailing ∧
    ∀ c ∈ leading ++ trailing, isBlank c = true) ∧
  (∀ c ∈ body.head?, isBlank c = false) ∧ ∀ c ∈ body.getLast?, isBlank c = false

/-- Blanks are dropped up to the first other character. -/
theorem dropWhile_isBlank_append
    {leading rest : List Char}
    (blank : ∀ c ∈ leading, isBlank c = true)
    (stops : ∀ c ∈ rest.head?, isBlank c = false) :
    (leading ++ rest).dropWhile isBlank = rest := by
  induction leading with
  | nil =>
      cases rest with
      | nil => rfl
      | cons c rest => simp [stops c rfl]
  | cons c leading inductionHypothesis =>
      obtain ⟨first, blank⟩ := List.forall_mem_cons.1 blank
      rw [List.cons_append, List.dropWhile_cons_of_pos first]
      exact inductionHypothesis blank

/-- The first character behind dropped blanks is none. -/
theorem isBlank_head_dropWhile
    {text : List Char}
    {c : Char}
    (first : c ∈ (text.dropWhile isBlank).head?) :
    isBlank c = false := by
  have other := List.head?_dropWhile_not isBlank text
  rw [Option.mem_def.1 first] at other
  simpa using other

theorem trimsTo_trimmed (text : List Char) : TrimsTo text (trimmed text) := by
  have split : text.dropWhile isBlank =
      trimmed text ++ (text.dropWhile isBlank).rtakeWhile isBlank :=
    List.rdropWhile_append_rtakeWhile.symm
  refine ⟨⟨text.takeWhile isBlank, (text.dropWhile isBlank).rtakeWhile isBlank, ?_, ?_⟩, ?_, ?_⟩
  · rw [List.append_assoc, ← split, List.takeWhile_append_dropWhile]
  · intro c among
    obtain leading | trailing := List.mem_append.1 among
    · exact List.mem_takeWhile_imp leading
    · exact List.mem_rtakeWhile_imp trailing
  · intro c first
    apply isBlank_head_dropWhile
    rw [split, List.head?_append, Option.mem_def.1 first]
    rfl
  · intro c last
    rw [trimmed, List.getLast?_reverse] at last
    exact isBlank_head_dropWhile last

/-- Trimming leaves exactly the body between the blanks. -/
theorem trimmed_eq_iff {text body : List Char} : trimmed text = body ↔ TrimsTo text body := by
  constructor
  · rintro rfl
    exact trimsTo_trimmed text
  · rintro ⟨⟨leading, trailing, rfl, blank⟩, first, last⟩
    obtain ⟨blankLeading, blankTrailing⟩ := List.forall_mem_append.1 blank
    cases body with
    | nil =>
        rw [List.append_nil, trimmed, List.dropWhile_eq_nil_iff.2 blank]
        rfl
    | cons c body =>
        rw [trimmed, List.append_assoc, dropWhile_isBlank_append blankLeading (by simpa using first),
          List.reverse_append, dropWhile_isBlank_append (by simpa using blankTrailing)
            (by rw [List.head?_reverse]; exact last), List.reverse_reverse]

end Text

namespace Hex

/-! ## Numbers -/

/-- The digits are the number `value` in base sixteen, the highest digit first. -/
def IsNumber (digits : List Char) (value : Nat) : Prop :=
  ∃ values, List.Forall₂ IsDigitOf digits values ∧ value = Nat.ofDigits 16 values.reverse

/-- The number of digits that are read behind those that make up `start`. -/
def extended (start : Nat) (values : List Nat) : Nat :=
  values.foldl (fun value digit => 16 * value + digit) start

theorem extended_zero (values : List Nat) : extended 0 values = Nat.ofDigits 16 values.reverse := by
  rw [Nat.ofDigits_eq_foldr, List.foldr_reverse, extended]
  congr 1
  funext value digit
  simp [Nat.add_comm]

/-- More digits never make a number smaller. -/
theorem le_extended (start : Nat) (values : List Nat) : start ≤ extended start values := by
  induction values generalizing start with
  | nil => exact Nat.le_refl start
  | cons digit values inductionHypothesis =>
      calc
        start ≤ 16 * start + digit := by omega
        _ ≤ extended (16 * start + digit) values := inductionHypothesis _

/-- Digits are read as their number, unless it needs more than 16 bits. -/
theorem readDigits_of_digits
    {digits : List Char}
    {values : List Nat}
    (each : List.Forall₂ IsDigitOf digits values)
    {start : Nat}
    (small : start < 65536) :
    readDigits start digits =
      if extended start values < 65536 then .ok (extended start values) else .error .tooLarge := by
  induction each generalizing start with
  | nil => exact (if_pos small).symm
  | @cons c digit digits values isDigit each inductionHypothesis =>
      rw [readDigits, value?_eq_some_iff.2 isDigit]
      dsimp only
      split
      · exact inductionHypothesis ‹_›
      · -- The number that is too large already is not made smaller by the digits behind it.
        have large : ¬ extended start (digit :: values) < 65536 := by
          have := le_extended (16 * start + digit) values
          rw [extended, List.foldl_cons, ← extended]
          omega
        rw [if_neg large]

/-- What is read as a number consists of digits. -/
theorem exists_digits_of_readDigits
    {digits : List Char}
    {start value : Nat}
    (read : readDigits start digits = .ok value) :
    ∃ values, List.Forall₂ IsDigitOf digits values := by
  induction digits generalizing start with
  | nil => exact ⟨[], .nil⟩
  | cons c digits inductionHypothesis =>
      rw [readDigits] at read
      cases known : value? c with
      | none =>
          rw [known] at read
          cases read
      | some digit =>
          rw [known] at read
          dsimp only at read
          split at read
          · obtain ⟨values, each⟩ := inductionHypothesis read
            exact ⟨digit :: values, .cons (value?_eq_some_iff.1 known) each⟩
          · cases read

section Numbers

variable {digits : List Char} {value : Nat}

theorem IsNumber.isDigit (number : IsNumber digits value) : ∀ c ∈ digits, IsDigit c := by
  obtain ⟨values, each, -⟩ := number
  induction each with
  | nil => exact nofun
  | cons isDigit each inductionHypothesis =>
      exact List.forall_mem_cons.2 ⟨⟨_, isDigit⟩, inductionHypothesis⟩

theorem readDigits_of_isNumber (number : IsNumber digits value) :
    readDigits 0 digits = if value < 65536 then .ok value else .error .tooLarge := by
  obtain ⟨values, each, rfl⟩ := number
  rw [readDigits_of_digits each (by decide), extended_zero]

theorem isNumber_of_readDigits (read : readDigits 0 digits = .ok value) : IsNumber digits value := by
  obtain ⟨values, each⟩ := exists_digits_of_readDigits read
  refine ⟨values, each, ?_⟩
  rw [readDigits_of_digits each (by decide), extended_zero] at read
  split at read
  · exact (Except.ok.inj read).symm
  · cases read

/-- Zeros in front of a number do not change it. -/
theorem IsNumber.zeros_append (number : IsNumber digits value) (count : Nat) :
    IsNumber (List.replicate count '0' ++ digits) value := by
  induction count with
  | zero => exact number
  | succ count inductionHypothesis =>
      obtain ⟨values, each, value_eq⟩ := inductionHypothesis
      refine ⟨0 :: values, .cons (by decide) each, ?_⟩
      rw [List.reverse_cons, Nat.ofDigits_append_zero]
      exact value_eq

end Numbers

/-! ## Words -/

/-- The signs that may stand in front of digits. -/
def signs : List (List Char) :=
  [[], ['+']]

/-- A word has at least one digit, perhaps behind a mark and then a sign, and the digits are its
number. -/
def IsWord (text : List Char) (value : Nat) : Prop :=
  ∃ mark ∈ marks, ∃ sign ∈ signs, ∃ digits,
    text = mark ++ sign ++ digits ∧ digits ≠ [] ∧ IsNumber digits value

section Words

variable {mark sign digits text : List Char} {value : Nat}

theorem withoutMark_append
    (known : mark ∈ marks)
    (signed : sign ∈ signs)
    (allDigits : ∀ c ∈ digits, IsDigit c) :
    withoutMark (mark ++ sign ++ digits) = sign ++ digits := by
  simp only [marks, signs, List.mem_cons, List.not_mem_nil, or_false] at known signed
  obtain rfl | rfl | rfl := known
  · obtain rfl | rfl := signed
    · exact withoutMark_of_isDigit allDigits
    · rfl
  · rfl
  · rfl

/-- A sign in front of digits is passed over. -/
theorem readSigned_append
    (signed : sign ∈ signs)
    (filled : digits ≠ [])
    (allDigits : ∀ c ∈ digits, IsDigit c) :
    readSigned (sign ++ digits) = readDigits 0 digits := by
  have noSign : ¬ IsDigit '+' := by
    rw [isDigit_iff]
    decide
  simp only [signs, List.mem_cons, List.not_mem_nil, or_false] at signed
  obtain rfl | rfl := signed
  · rw [List.nil_append]
    unfold readSigned
    split
    · exact absurd rfl filled
    · exact absurd (allDigits '+' (by simp)) noSign
    · exact absurd (allDigits '+' (by simp)) noSign
    · rfl
  · obtain ⟨c, rest, rfl⟩ := List.exists_cons_of_ne_nil filled
    rfl

/-- A word is read as its number, unless it needs more than 16 bits. -/
theorem readSigned_of_isWord (word : IsWord text value) :
    readSigned (withoutMark text) =
      if value < 65536 then .ok value else .error .tooLarge := by
  obtain ⟨mark, known, sign, signed, digits, rfl, filled, number⟩ := word
  rw [withoutMark_append known signed number.isDigit,
    readSigned_append signed filled number.isDigit, readDigits_of_isNumber number]

/-- What is read as a number is a word. -/
theorem isWord_of_readSigned (read : readSigned (withoutMark text) = .ok value) :
    IsWord text value := by
  obtain ⟨mark, known, parted⟩ := exists_mark text
  generalize withoutMark text = rest at read parted
  unfold readSigned at read
  split at read
  · cases read
  · cases read
  · rename_i digits filled
    refine ⟨mark, known, ['+'], by simp [signs], digits, ?_, filled, isNumber_of_readDigits read⟩
    rw [parted, List.append_assoc]
    rfl
  · rename_i filled _ _
    refine ⟨mark, known, [], by simp [signs], rest, ?_, filled, isNumber_of_readDigits read⟩
    rw [parted, List.append_nil]

theorem readSigned_eq_ok_iff :
    readSigned (withoutMark text) = .ok value ↔ value < 65536 ∧ IsWord text value := by
  constructor
  · intro read
    have word := isWord_of_readSigned read
    rw [readSigned_of_isWord word] at read
    split at read
    · exact ⟨‹_›, word⟩
    · cases read
  · rintro ⟨small, word⟩
    rw [readSigned_of_isWord word, if_pos small]

end Words

/-! ## Texts -/

/-- What is left of the text, without the blanks at both ends and then without underscores, is a
word with this number. -/
def ShowsWord (text : List Char) (value : Nat) : Prop :=
  ∃ body, Text.TrimsTo text body ∧ IsWord (body.filter (· != '_')) value

theorem showsWord_iff {text : List Char} {value : Nat} :
    ShowsWord text value ↔ IsWord ((Text.trimmed text).filter (· != '_')) value := by
  simp only [ShowsWord, ← Text.trimmed_eq_iff, exists_eq_left']

theorem readWord_eq (text : String) :
    readWord text = (readSigned (wordDigits text.toList)).map UInt16.ofNat := by
  unfold readWord
  cases readSigned (wordDigits text.toList) <;> rfl

/-- A text that shows a word is read as its number, unless it needs more than 16 bits. -/
theorem readWord_of_showsWord
    {text : String}
    {value : Nat}
    (shown : ShowsWord text.toList value) :
    readWord text =
      if value < 65536 then .ok (UInt16.ofNat value) else .error .tooLarge := by
  rw [readWord_eq, wordDigits, readSigned_of_isWord (showsWord_iff.1 shown)]
  split <;> rfl

/-- A text is read as a word exactly when it shows the number of the word. -/
theorem readWord_eq_ok_iff {text : String} {word : UInt16} :
    readWord text = .ok word ↔ ShowsWord text.toList word.toNat := by
  constructor
  · intro read
    rw [readWord_eq] at read
    cases taken : readSigned (wordDigits text.toList) with
    | error fault =>
        rw [taken] at read
        cases read
    | ok value =>
        rw [taken] at read
        cases read
        obtain ⟨small, isWord⟩ := readSigned_eq_ok_iff.1 taken
        rw [UInt16.toNat_ofNat_of_lt' small]
        exact showsWord_iff.2 isWord
  · intro shown
    rw [readWord_of_showsWord shown, if_pos word.toNat_lt, UInt16.ofNat_toNat]

/-- A digit is neither a blank nor an underscore. -/
theorem IsDigit.plain {c : Char} (digit : IsDigit c) :
    Text.isBlank c = false ∧ (c != '_') = true := by
  -- A test of the list of digits: a statement about all characters would be decided for each one.
  have known : ("0123456789ABCDEF".toList ++ "0123456789abcdef".toList).all
      (fun other => !Text.isBlank other && other != '_') = true := by
    decide
  have among : c ∈ "0123456789ABCDEF".toList ++ "0123456789abcdef".toList := by
    obtain ⟨value, upper | lower⟩ := digit
    · exact List.mem_append_left _ (List.mem_of_getElem? upper)
    · exact List.mem_append_right _ (List.mem_of_getElem? lower)
  have plain := List.all_eq_true.1 known c among
  simpa only [Bool.and_eq_true, Bool.not_eq_true'] using plain

/-- Digits alone show their number. -/
theorem showsWord_of_isNumber
    {digits : List Char}
    {value : Nat}
    (filled : digits ≠ [])
    (number : IsNumber digits value) :
    ShowsWord digits value := by
  have plain (c : Char) (among : c ∈ digits) := (number.isDigit c among).plain
  refine ⟨digits, ⟨⟨[], [], by simp, nofun⟩, ?_, ?_⟩, [], by simp [marks], [], by simp [signs],
    digits, ?_, filled, number⟩
  · intro c first
    exact (plain c (List.mem_of_mem_head? first)).1
  · intro c last
    exact (plain c (List.mem_of_getLast? last)).1
  · exact List.filter_eq_self.2 fun c among => (plain c among).2

/-- A printed word is made of the digits of its number. -/
theorem isNumber_word (value : UInt16) : IsNumber (word value).toList value.toNat := by
  have bound := value.toNat_lt
  have isDigit {digit : Nat} (small : digit < 16) : IsDigitOf (Hex.digit digit) digit :=
    value?_eq_some_iff.1 (value?_digit small)
  refine ⟨[value.toNat / 4096, value.toNat / 256 % 16, value.toNat / 16 % 16, value.toNat % 16],
    ?_, ?_⟩
  · rw [word, String.toList_ofList]
    exact .cons (isDigit (by omega)) (.cons (isDigit (by omega)) (.cons (isDigit (by omega))
      (.cons (isDigit (by omega)) .nil)))
  · simp only [List.reverse_cons, List.reverse_nil, List.nil_append, List.cons_append,
      Nat.ofDigits_cons, Nat.ofDigits_nil]
    omega

/-- The reader accepts exactly the texts that show a word whose number has at most 16 bits, and
reads that number. One that shows a larger number, with as many digits as it may have, is refused
as too large. Printed words are read back, with any number of zeros in front. -/
theorem readWord_accepts_numbers :
    (∀ text, (∃ word, readWord text = .ok word) ↔
      ∃ value, value ≤ 0xFFFF ∧ ShowsWord text.toList value) ∧
    (∀ text word, readWord text = .ok word ↔ ShowsWord text.toList word.toNat) ∧
    (∀ text value, ShowsWord text.toList value → 0xFFFF < value →
      readWord text = .error .tooLarge) ∧
    ∀ value zeros, readWord (String.ofList (List.replicate zeros '0') ++ word value) =
      .ok value := by
  refine ⟨?_, fun _ _ => readWord_eq_ok_iff, ?_, ?_⟩
  · intro text
    constructor
    · rintro ⟨word, read⟩
      exact ⟨word.toNat, Nat.le_of_lt_succ word.toNat_lt, readWord_eq_ok_iff.1 read⟩
    · rintro ⟨value, small, shown⟩
      rw [readWord_of_showsWord shown, if_pos (Nat.lt_succ_of_le small)]
      exact ⟨_, rfl⟩
  · intro text value shown large
    rw [readWord_of_showsWord shown, if_neg (Nat.not_lt_of_ge large)]
  · intro value zeros
    rw [readWord_eq_ok_iff, String.toList_append, String.toList_ofList]
    apply showsWord_of_isNumber
    · exact List.append_ne_nil_of_right_ne_nil _ (by simp [word])
    · exact (isNumber_word value).zeros_append zeros

/-- A word with everything that may stand around its digits, and a number that is just too large. -/
theorem readWord_accepts_numbers_at_bound :
    (0xFFFF < 0x10000 ∧ ShowsWord "0x1_0000".toList 0x10000 ∧
      readWord "0x1_0000" = .error .tooLarge) ∧
    ShowsWord "\u3000 0X+_00bE_eF\t".toList 0xBEEF ∧
      readWord "\u3000 0X+_00bE_eF\t" = .ok 0xBEEF := by
  have number : IsNumber "00bEeF".toList 0xBEEF :=
    ⟨[0, 0, 11, 14, 14, 15], by decide, by decide⟩
  have large : IsNumber "10000".toList 0x10000 :=
    ⟨[1, 0, 0, 0, 0], by decide, by decide⟩
  have trims : Text.TrimsTo "\u3000 0X+_00bE_eF\t".toList "0X+_00bE_eF".toList :=
    Text.trimmed_eq_iff.1 (by decide)
  have trimsLarge : Text.TrimsTo "0x1_0000".toList "0x1_0000".toList :=
    Text.trimmed_eq_iff.1 (by decide)
  have shown : ShowsWord "\u3000 0X+_00bE_eF\t".toList 0xBEEF :=
    ⟨_, trims, ['0', 'X'], by decide, ['+'], by decide, _, by decide, by decide, number⟩
  have shownLarge : ShowsWord "0x1_0000".toList 0x10000 :=
    ⟨_, trimsLarge, ['0', 'x'], by decide, [], by decide, _, by decide, by decide, large⟩
  obtain ⟨-, accepts, refuses, -⟩ := readWord_accepts_numbers
  exact ⟨⟨by decide, shownLarge, refuses _ _ shownLarge (by decide)⟩, shown,
    (accepts _ 0xBEEF).2 shown⟩

end Hex

end DeviceLink
