import DeviceLink.Proofs.Text.HexInput
import Mathlib.Algebra.Group.Nat.Even
import Mathlib.Data.List.Forall2

/-!
# The grammar of typed bytes

A text is split at blanks and commas. What is left between them are tokens,
each of which has the digits of whole bytes, perhaps behind one mark. The
reader accepts the texts with at least one token and tokens only, and the
bytes of a text are those of its tokens one after another. So texts that are
joined by separators have their bytes joined, and printed bytes are read back.
-/

namespace DeviceLink.Hex

/-! ## Digits -/

/-- The character is the digit of a value, in upper or in lower case. -/
def IsDigitOf (c : Char) (value : Nat) : Prop :=
  "0123456789ABCDEF".toList[value]? = some c ∨ "0123456789abcdef".toList[value]? = some c

instance (c : Char) (value : Nat) : Decidable (IsDigitOf c value) :=
  inferInstanceAs (Decidable (_ ∨ _))

/-- The character is a digit. -/
def IsDigit (c : Char) : Prop :=
  ∃ value, IsDigitOf c value

theorem IsDigitOf.lt {c : Char} {value : Nat} (digit : IsDigitOf c value) : value < 16 := by
  obtain upper | lower := digit
  · exact (List.getElem?_eq_some_iff.1 upper).1
  · exact (List.getElem?_eq_some_iff.1 lower).1

theorem IsDigitOf.joined_lt
    {high low : Char}
    {upper lower : Nat}
    (highDigit : IsDigitOf high upper)
    (lowDigit : IsDigitOf low lower) :
    16 * upper + lower < 256 := by
  have := highDigit.lt
  have := lowDigit.lt
  omega

/-- A character with a value is an ASCII character. -/
theorem lt_of_value? {c : Char} {value : Nat} (read : value? c = some value) : c.toNat < 128 := by
  unfold value? at read
  split at read
  · rename_i decimal
    exact Nat.lt_of_le_of_lt (Char.le_def.1 decimal.2) (by decide)
  · split at read
    · rename_i upper
      exact Nat.lt_of_le_of_lt (Char.le_def.1 upper.2) (by decide)
    · split at read
      · rename_i lower
        exact Nat.lt_of_le_of_lt (Char.le_def.1 lower.2) (by decide)
      · cases read

theorem value?_eq_some_iff {c : Char} {value : Nat} :
    value? c = some value ↔ IsDigitOf c value := by
  constructor
  · intro read
    have ascii : ∀ code : Fin 128,
        ∀ value ∈ value? (Char.ofNat code), IsDigitOf (Char.ofNat code) value := by
      decide
    have known := ascii ⟨c.toNat, lt_of_value? read⟩ value
    rw [Char.ofNat_toNat] at known
    exact known read
  · have upperDigits : ∀ digit ∈ "0123456789ABCDEF".toList.zipIdx,
        value? digit.1 = some digit.2 := by
      decide
    have lowerDigits : ∀ digit ∈ "0123456789abcdef".toList.zipIdx,
        value? digit.1 = some digit.2 := by
      decide
    rintro (upper | lower)
    · exact upperDigits (c, value) (List.mk_mem_zipIdx_iff_getElem?.2 upper)
    · exact lowerDigits (c, value) (List.mk_mem_zipIdx_iff_getElem?.2 lower)

theorem isDigit_iff {c : Char} : IsDigit c ↔ (value? c).isNone = false := by
  rw [Option.isNone_eq_false_iff, Option.isSome_iff_exists]
  exact exists_congr fun _ => value?_eq_some_iff.symm

/-! ## Bytes of digits -/

/-- The digits spell the bytes, two digits for each byte, the high half first. -/
inductive Spells : List Char → List UInt8 → Prop
  | nil : Spells [] []
  | cons {high low : Char} {upper lower : Nat} {byte : UInt8} {digits : List Char}
      {bytes : List UInt8}
      (highDigit : IsDigitOf high upper)
      (lowDigit : IsDigitOf low lower)
      (value : byte.toNat = 16 * upper + lower)
      (rest : Spells digits bytes) :
      Spells (high :: low :: digits) (byte :: bytes)

theorem byteOf?_eq_some_iff {high low : Char} {byte : UInt8} :
    byteOf? high low = some byte ↔
      ∃ upper lower, IsDigitOf high upper ∧ IsDigitOf low lower ∧
        byte.toNat = 16 * upper + lower := by
  have whole {upper lower : Nat} (highDigit : IsDigitOf high upper)
      (lowDigit : IsDigitOf low lower) :
      UInt8.ofNat (16 * upper + lower) = byte ↔ byte.toNat = 16 * upper + lower := by
    rw [← UInt8.toNat_inj, UInt8.toNat_ofNat_of_lt' (highDigit.joined_lt lowDigit), eq_comm]
  constructor
  · intro read
    unfold byteOf? at read
    cases first : value? high with
    | none =>
        rw [first] at read
        cases read
    | some upper =>
        cases second : value? low with
        | none =>
            rw [first, second] at read
            cases read
        | some lower =>
            rw [first, second] at read
            have highDigit := value?_eq_some_iff.1 first
            have lowDigit := value?_eq_some_iff.1 second
            exact ⟨upper, lower, highDigit, lowDigit,
              (whole highDigit lowDigit).1 (Option.some.inj read)⟩
  · rintro ⟨upper, lower, highDigit, lowDigit, value⟩
    rw [byteOf?, value?_eq_some_iff.2 highDigit, value?_eq_some_iff.2 lowDigit]
    exact congrArg some ((whole highDigit lowDigit).2 value)

/-- The digits of bytes are read as the bytes that they spell. -/
theorem bytes?_eq_some_iff {digits : List Char} {bytes : List UInt8} :
    bytes? digits = some bytes ↔ Spells digits bytes := by
  constructor
  · intro read
    induction digits using bytes?.induct generalizing bytes with
    | case1 =>
        cases read
        exact .nil
    | case2 c => cases read
    | case3 high low rest inductionHypothesis =>
        unfold bytes? at read
        obtain ⟨first, joined, read⟩ := Option.bind_eq_some_iff.1 read
        obtain ⟨others, behind, read⟩ := Option.bind_eq_some_iff.1 read
        cases read
        obtain ⟨upper, lower, highDigit, lowDigit, value⟩ := byteOf?_eq_some_iff.1 joined
        exact .cons highDigit lowDigit value (inductionHypothesis behind)
  · intro spelled
    induction spelled with
    | nil => rfl
    | cons highDigit lowDigit value rest inductionHypothesis =>
        rw [bytes?, byteOf?_eq_some_iff.2 ⟨_, _, highDigit, lowDigit, value⟩, inductionHypothesis]
        rfl

namespace Spells

variable {digits : List Char} {bytes : List UInt8}

theorem isDigit {c : Char} (spelled : Spells digits bytes) (among : c ∈ digits) : IsDigit c := by
  induction spelled with
  | nil => cases among
  | cons highDigit lowDigit value rest inductionHypothesis =>
      obtain rfl | among := List.mem_cons.1 among
      · exact ⟨_, highDigit⟩
      · obtain rfl | among := List.mem_cons.1 among
        · exact ⟨_, lowDigit⟩
        · exact inductionHypothesis among

theorem length (spelled : Spells digits bytes) : digits.length = 2 * bytes.length := by
  induction spelled with
  | nil => rfl
  | cons highDigit lowDigit value rest inductionHypothesis =>
      simp only [List.length_cons, inductionHypothesis]
      omega

/-- An even number of digits spells bytes, and nothing else does. -/
theorem exists_iff :
    (∃ bytes, Spells digits bytes) ↔ Even digits.length ∧ ∀ c ∈ digits, IsDigit c := by
  constructor
  · rintro ⟨bytes, spelled⟩
    refine ⟨?_, fun c among => spelled.isDigit among⟩
    exact ⟨bytes.length, by rw [spelled.length, Nat.two_mul]⟩
  · rintro ⟨even, allDigits⟩
    induction digits using bytes?.induct with
    | case1 => exact ⟨[], .nil⟩
    | case2 c => exact absurd even (by simp)
    | case3 high low rest inductionHypothesis =>
        obtain ⟨⟨upper, highDigit⟩, allDigits⟩ := List.forall_mem_cons.1 allDigits
        obtain ⟨⟨lower, lowDigit⟩, allDigits⟩ := List.forall_mem_cons.1 allDigits
        have evenRest : Even rest.length := by
          simpa [Nat.even_add_one] using even
        obtain ⟨bytes, spelled⟩ := inductionHypothesis evenRest allDigits
        have value := UInt8.toNat_ofNat_of_lt' (highDigit.joined_lt lowDigit)
        exact ⟨UInt8.ofNat (16 * upper + lower) :: bytes,
          .cons highDigit lowDigit value spelled⟩

end Spells

/-! ## Tokens -/

/-- The marks that may stand in front of digits. -/
def marks : List (List Char) :=
  [[], ['0', 'x'], ['0', 'X']]

/-- A token has digits, perhaps behind a mark, and they spell its bytes. -/
def Denotes (token : List Char) (bytes : List UInt8) : Prop :=
  ∃ mark ∈ marks, ∃ digits, token = mark ++ digits ∧ digits ≠ [] ∧ Spells digits bytes

/-- A token has an even number of digits, perhaps behind a mark, and at least one of them. -/
def IsToken (token : List Char) : Prop :=
  ∃ mark ∈ marks, ∃ digits, token = mark ++ digits ∧ digits ≠ [] ∧ Even digits.length ∧
    ∀ c ∈ digits, IsDigit c

theorem isToken_iff {token : List Char} : IsToken token ↔ ∃ bytes, Denotes token bytes := by
  constructor
  · rintro ⟨mark, known, digits, parted, filled, spellable⟩
    obtain ⟨bytes, spelled⟩ := Spells.exists_iff.2 spellable
    exact ⟨bytes, mark, known, digits, parted, filled, spelled⟩
  · rintro ⟨bytes, mark, known, digits, parted, filled, spelled⟩
    exact ⟨mark, known, digits, parted, filled, Spells.exists_iff.1 ⟨bytes, spelled⟩⟩

theorem Denotes.ne_nil
    {token : List Char}
    {bytes : List UInt8}
    (denotes : Denotes token bytes) :
    bytes ≠ [] := by
  obtain ⟨mark, known, digits, parted, filled, spelled⟩ := denotes
  cases spelled with
  | nil => exact absurd rfl filled
  | cons highDigit lowDigit value rest => exact List.cons_ne_nil _ _

/-- Digits have no mark in front, because no digit is a letter of a mark. -/
theorem withoutMark_of_isDigit
    {digits : List Char}
    (allDigits : ∀ c ∈ digits, IsDigit c) :
    withoutMark digits = digits := by
  have noMark : ¬ IsDigit 'x' ∧ ¬ IsDigit 'X' := by
    rw [isDigit_iff, isDigit_iff]
    decide
  unfold withoutMark
  split
  · exact absurd (allDigits 'x' (by simp)) noMark.1
  · exact absurd (allDigits 'X' (by simp)) noMark.2
  · rfl

/-- The mark that was taken away is put back. -/
theorem exists_mark (token : List Char) : ∃ mark ∈ marks, token = mark ++ withoutMark token := by
  unfold withoutMark
  split
  · exact ⟨['0', 'x'], by simp [marks], rfl⟩
  · exact ⟨['0', 'X'], by simp [marks], rfl⟩
  · exact ⟨[], by simp [marks], rfl⟩

theorem denotes_iff {token : List Char} {bytes : List UInt8} :
    Denotes token bytes ↔ withoutMark token ≠ [] ∧ Spells (withoutMark token) bytes := by
  constructor
  · rintro ⟨mark, known, digits, rfl, filled, spelled⟩
    have taken : withoutMark (mark ++ digits) = digits := by
      simp only [marks, List.mem_cons, List.not_mem_nil, or_false] at known
      obtain rfl | rfl | rfl := known
      · exact withoutMark_of_isDigit fun c among => spelled.isDigit among
      · rfl
      · rfl
    rw [taken]
    exact ⟨filled, spelled⟩
  · rintro ⟨filled, spelled⟩
    obtain ⟨mark, known, parted⟩ := exists_mark token
    exact ⟨mark, known, withoutMark token, parted, filled, spelled⟩

/-- A token is read as the bytes that it denotes. -/
theorem readToken_eq_ok_iff {token : List Char} {bytes : List UInt8} :
    readToken token = .ok bytes ↔ Denotes token bytes := by
  rw [denotes_iff, ← bytes?_eq_some_iff]
  unfold readToken
  generalize withoutMark token = digits
  constructor
  · intro read
    dsimp only at read
    split at read
    · cases read
    · rename_i digitsOnly
      split at read
      · cases read
      · rename_i values spelled
        cases read
        refine ⟨?_, spelled⟩
        rintro rfl
        exact digitsOnly rfl
  · rintro ⟨filled, spelled⟩
    have digitsOnly : (digits.isEmpty || digits.any fun c => (value? c).isNone) = false := by
      rw [Bool.or_eq_false_iff, List.isEmpty_eq_false_iff, List.any_eq_false]
      refine ⟨filled, fun c among => ?_⟩
      have digit := (bytes?_eq_some_iff.1 spelled).isDigit among
      simp [isDigit_iff.1 digit]
    simp only [digitsOnly, spelled, Bool.false_eq_true, if_false]

theorem readTokens_cons_eq_ok_iff
    {token : List Char}
    {tokens : List (List Char)}
    {bytes : List UInt8} :
    readTokens (token :: tokens) = .ok bytes ↔
      ∃ first others, readToken token = .ok first ∧ readTokens tokens = .ok others ∧
        bytes = first ++ others := by
  rw [readTokens]
  constructor
  · intro read
    cases first : readToken token with
    | error fault =>
        rw [first] at read
        cases read
    | ok bytes =>
        cases others : readTokens tokens with
        | error fault =>
            rw [first, others] at read
            cases read
        | ok more =>
            rw [first, others] at read
            cases read
            exact ⟨bytes, more, rfl, rfl, rfl⟩
  · rintro ⟨first, others, read, readOthers, rfl⟩
    rw [read, readOthers]
    rfl

/-- Tokens are read as the bytes that they denote, one token after another. -/
theorem readTokens_eq_ok_iff {tokens : List (List Char)} {bytes : List UInt8} :
    readTokens tokens = .ok bytes ↔
      ∃ denoted, List.Forall₂ Denotes tokens denoted ∧ bytes = denoted.flatten := by
  induction tokens generalizing bytes with
  | nil =>
      constructor
      · intro read
        cases read
        exact ⟨[], .nil, rfl⟩
      · rintro ⟨_, each, rfl⟩
        cases each
        rfl
  | cons token tokens inductionHypothesis =>
      rw [readTokens_cons_eq_ok_iff]
      constructor
      · rintro ⟨first, others, read, readOthers, rfl⟩
        obtain ⟨denoted, each, rfl⟩ := inductionHypothesis.1 readOthers
        exact ⟨first :: denoted, .cons (readToken_eq_ok_iff.1 read) each, rfl⟩
      · rintro ⟨_, each, rfl⟩
        cases each with
        | cons denotes rest =>
            exact ⟨_, _, readToken_eq_ok_iff.2 denotes, inductionHypothesis.2 ⟨_, rest, rfl⟩, rfl⟩

/-- Tokens can be read when each of them can. -/
theorem exists_readTokens_iff {tokens : List (List Char)} :
    (∃ bytes, readTokens tokens = .ok bytes) ↔ ∀ token ∈ tokens, IsToken token := by
  induction tokens with
  | nil => exact ⟨fun _ => nofun, fun _ => ⟨[], rfl⟩⟩
  | cons token tokens inductionHypothesis =>
      rw [List.forall_mem_cons, ← inductionHypothesis, isToken_iff]
      simp only [readTokens_cons_eq_ok_iff, readToken_eq_ok_iff]
      constructor
      · rintro ⟨_, first, others, denotes, read, -⟩
        exact ⟨⟨first, denotes⟩, others, read⟩
      · rintro ⟨⟨first, denotes⟩, others, read⟩
        exact ⟨_, first, others, denotes, read, rfl⟩

theorem readTokens_append
    {tokens others : List (List Char)}
    {bytes more : List UInt8}
    (read : readTokens tokens = .ok bytes)
    (readOthers : readTokens others = .ok more) :
    readTokens (tokens ++ others) = .ok (bytes ++ more) := by
  obtain ⟨denoted, each, rfl⟩ := readTokens_eq_ok_iff.1 read
  obtain ⟨denotedOthers, eachOther, rfl⟩ := readTokens_eq_ok_iff.1 readOthers
  rw [readTokens_eq_ok_iff, ← List.flatten_append]
  exact ⟨_, List.rel_append each eachOther, rfl⟩

/-! ## Texts -/

/-- A text is accepted if it has tokens and all of them are read. -/
theorem readBytes_eq_ok_iff {text : String} {bytes : List UInt8} :
    readBytes text = .ok bytes ↔
      tokens text.toList ≠ [] ∧ readTokens (tokens text.toList) = .ok bytes := by
  unfold readBytes
  generalize tokens text.toList = found
  cases read : readTokens found with
  | error fault => exact ⟨nofun, nofun⟩
  | ok values =>
      obtain ⟨denoted, each, joined⟩ := readTokens_eq_ok_iff.1 read
      cases each with
      | nil =>
          rw [joined]
          exact ⟨nofun, fun both => absurd rfl both.1⟩
      | cons denotes rest =>
          obtain ⟨first, others, filled⟩ := List.exists_cons_of_ne_nil denotes.ne_nil
          rw [joined, filled]
          exact ⟨fun same => ⟨List.cons_ne_nil _ _, same⟩, fun both => both.2⟩

/-- Texts that are joined by separators have their bytes joined. -/
theorem readBytes_append
    {first second separator : String}
    {bytes more : List UInt8}
    (read : readBytes first = .ok bytes)
    (readSecond : readBytes second = .ok more)
    (filled : separator ≠ "")
    (blank : ∀ c ∈ separator.toList, separates c = true) :
    readBytes (first ++ separator ++ second) = .ok (bytes ++ more) := by
  obtain ⟨some, read⟩ := readBytes_eq_ok_iff.1 read
  obtain ⟨-, readSecond⟩ := readBytes_eq_ok_iff.1 readSecond
  obtain ⟨c, others, split⟩ :=
    List.exists_cons_of_ne_nil (String.toList_eq_nil_iff.not.2 filled)
  rw [split, List.forall_mem_cons] at blank
  have joined : tokens (first ++ separator ++ second).toList =
      tokens first.toList ++ tokens second.toList := by
    rw [String.toList_append, String.toList_append, split, List.append_assoc, List.cons_append,
      tokens_append_cons blank.1, tokens_append_of_separates blank.2]
  rw [readBytes_eq_ok_iff, joined]
  exact ⟨List.append_ne_nil_of_left_ne_nil some _, readTokens_append read readSecond⟩

/-- The words of a text are what blanks and commas leave of it, without the empty parts. -/
def words (text : List Char) : List (List Char) :=
  (text.splitOnP fun c => Text.isBlank c || c == ',').filter (· ≠ [])

theorem tokens_eq_words (text : List Char) : tokens text = words text := by
  rw [tokens_eq]
  apply List.filter_congr
  intro word _
  cases word <;> rfl

/-- The reader accepts exactly the texts that have words all of which are tokens, and reads the
bytes that the tokens denote, one token after another. Printed bytes are read back, and texts that
are joined by separators are read as their bytes joined. -/
theorem readBytes_accepts_tokens :
    (∀ text, (∃ bytes, readBytes text = .ok bytes) ↔
      words text.toList ≠ [] ∧ ∀ word ∈ words text.toList, IsToken word) ∧
    (∀ text bytes, readBytes text = .ok bytes ↔
      words text.toList ≠ [] ∧
        ∃ denoted, List.Forall₂ Denotes (words text.toList) denoted ∧ bytes = denoted.flatten) ∧
    (∀ bytes, bytes ≠ [] → readBytes (spaced bytes) = .ok bytes) ∧
    ∀ first second separator bytes more,
      readBytes first = .ok bytes → readBytes second = .ok more →
      separator ≠ "" → (∀ c ∈ separator.toList, Text.isBlank c = true ∨ c = ',') →
        readBytes (first ++ separator ++ second) = .ok (bytes ++ more) := by
  refine ⟨?_, ?_, ?_, ?_⟩
  · intro text
    rw [← exists_readTokens_iff, ← tokens_eq_words, ← exists_and_left]
    exact exists_congr fun _ => readBytes_eq_ok_iff
  · intro text bytes
    rw [readBytes_eq_ok_iff, readTokens_eq_ok_iff, tokens_eq_words]
  · intro bytes filled
    have read := readBytes_spaced filled "" nofun
    rw [String.append_empty] at read
    exact read
  · intro first second separator bytes more read readSecond filled blank
    refine readBytes_append read readSecond filled fun c among => ?_
    simpa [separates] using blank c among

/-- Two spellings of bytes, with a comma and a wide blank between them. -/
theorem readBytes_accepts_tokens_both_marks :
    readBytes "0x4d" = .ok [0x4D] ∧ readBytes "0X01Ff 7f" = .ok [1, 0xFF, 0x7F] ∧
      readBytes ("0x4d" ++ ",\u3000" ++ "0X01Ff 7f") = .ok [0x4D, 1, 0xFF, 0x7F] := by
  have first : readBytes "0x4d" = .ok [0x4D] := by decide
  have second : readBytes "0X01Ff 7f" = .ok [1, 0xFF, 0x7F] := by decide
  have blank : ∀ c ∈ ",\u3000".toList, Text.isBlank c = true ∨ c = ',' := by
    simp [Text.isBlank, Text.blankRanges]
  exact ⟨first, second, readBytes_accepts_tokens.2.2.2 _ _ _ _ _ first second (by decide) blank⟩

end DeviceLink.Hex
