import DeviceLink.Text.HexInput

/-!
# Reading printed bytes

Bytes that are printed in hexadecimal digits are read back as they were. The
text is taken apart again at the blanks that keep the bytes apart, and what is
left between them are the digits of one byte each.
-/

namespace DeviceLink.Hex

/-! ## Digits -/

/-- A digit has its value, keeps no tokens apart and is no part of a mark. -/
theorem digit_cases (value : Fin 16) :
    value? (digit value) = some value.val ∧ separates (digit value) = false ∧
      digit value ≠ 'x' ∧ digit value ≠ 'X' := by
  decide +revert

theorem value?_digit {value : Nat} (small : value < 16) : value? (digit value) = some value :=
  (digit_cases ⟨value, small⟩).1

theorem separates_digit {value : Nat} (small : value < 16) : separates (digit value) = false :=
  (digit_cases ⟨value, small⟩).2.1

/-- Both halves of a byte have a digit. -/
theorem halves_lt (byte : UInt8) : byte.toNat / 16 < 16 ∧ byte.toNat % 16 < 16 := by
  have bound := byte.toNat_lt
  omega

/-- The characters of a byte are digits. -/
theorem exists_digit_of_mem_byteDigits
    {c : Char}
    {byte : UInt8}
    (among : c ∈ byteDigits byte) :
    ∃ value : Fin 16, c = digit value := by
  obtain ⟨high, low⟩ := halves_lt byte
  obtain rfl | among := List.mem_cons.1 among
  · exact ⟨⟨_, high⟩, rfl⟩
  · exact ⟨⟨_, low⟩, List.mem_singleton.1 among⟩

/-- Printed bytes are their digits with a blank between any two. -/
theorem toList_spaced (bytes : List UInt8) :
    (spaced bytes).toList = [' '].intercalate (bytes.map byteDigits) := by
  rw [spaced, String.toList_intercalate, List.map_map]
  congr 1
  apply List.map_congr_left
  intro value _
  exact String.toList_ofList

/-- Nothing is printed for no bytes, and only for them. -/
theorem spaced_eq_empty_iff (bytes : List UInt8) : spaced bytes = "" ↔ bytes = [] := by
  rw [← String.toList_inj, toList_spaced]
  cases bytes with
  | nil => simp
  | cons byte rest =>
      cases rest with
      | nil => simp [byteDigits]
      | cons next others => simp [byteDigits]

/-- The characters of printed bytes are blanks and digits. -/
theorem mem_spaced
    {c : Char}
    {bytes : List UInt8}
    (among : c ∈ (spaced bytes).toList) :
    c = ' ' ∨ ∃ value : Fin 16, c = digit value := by
  rw [toList_spaced] at among
  induction bytes with
  | nil => cases among
  | cons byte rest inductionHypothesis =>
      cases rest with
      | nil =>
          rw [List.map_singleton, List.intercalate_singleton] at among
          exact .inr (exists_digit_of_mem_byteDigits among)
      | cons next others =>
          rw [List.map_cons, List.map_cons, List.intercalate_cons_cons, List.append_assoc,
            List.mem_append, List.mem_append, List.mem_singleton] at among
          obtain first | blank | behind := among
          · exact .inr (exists_digit_of_mem_byteDigits first)
          · exact .inl blank
          · exact inductionHypothesis behind

/-- Digits do not start with a mark. -/
theorem withoutMark_byteDigits (byte : UInt8) :
    withoutMark (byteDigits byte) = byteDigits byte := by
  obtain ⟨-, -, noMark, noMarkAlso⟩ := digit_cases ⟨byte.toNat % 16, (halves_lt byte).2⟩
  rw [byteDigits]
  unfold withoutMark
  split
  · rename_i same
    exact absurd (List.cons.inj (List.cons.inj same).2).1 noMark
  · rename_i same
    exact absurd (List.cons.inj (List.cons.inj same).2).1 noMarkAlso
  · rfl

/-- The digits of a byte are read as this byte. -/
theorem readToken_byteDigits (byte : UInt8) : readToken (byteDigits byte) = .ok [byte] := by
  obtain ⟨high, low⟩ := halves_lt byte
  have joined : byteOf? (digit (byte.toNat / 16)) (digit (byte.toNat % 16)) = some byte := by
    rw [byteOf?, value?_digit high, value?_digit low]
    have whole : UInt8.ofNat (16 * (byte.toNat / 16) + byte.toNat % 16) = byte := by
      rw [Nat.div_add_mod, UInt8.ofNat_toNat]
    exact congrArg some whole
  have pair : bytes? (byteDigits byte) = some [byte] := by
    rw [byteDigits, bytes?, joined]
    rfl
  have digits : ((byteDigits byte).isEmpty ||
      (byteDigits byte).any fun c => (value? c).isNone) = false := by
    simp [byteDigits, value?_digit high, value?_digit low]
  simp only [readToken, withoutMark_byteDigits, digits, pair, Bool.false_eq_true, if_false]

theorem readTokens_byteDigits (bytes : List UInt8) :
    readTokens (bytes.map byteDigits) = .ok bytes := by
  induction bytes with
  | nil => rfl
  | cons byte rest inductionHypothesis =>
      rw [List.map_cons, readTokens, readToken_byteDigits, inductionHypothesis]
      rfl

/-! ## Tokens -/

/-- The parts of a text are what the separators split it into. -/
theorem parts_eq_splitOnP (text : List Char) : parts text = text.splitOnP separates := by
  induction text with
  | nil => rfl
  | cons c rest inductionHypothesis =>
      have extended :
          extendFirst c (rest.splitOnP separates) =
            (rest.splitOnP separates).modifyHead (List.cons c) := by
        obtain ⟨token, others, split⟩ :=
          List.exists_cons_of_ne_nil (List.splitOnP_ne_nil separates rest)
        rw [split]
        rfl
      rw [parts, inductionHypothesis, extended, List.splitOnP_cons_eq_if_modifyHead]

/-- The tokens of a text are what is left between separators, without the empty parts. -/
theorem tokens_eq (text : List Char) :
    tokens text = (text.splitOnP separates).filter fun token => !token.isEmpty := by
  rw [tokens, parts_eq_splitOnP]

section Tokens

variable {token ending : List Char}

/-- A separator keeps the tokens in front of it and behind it apart. -/
theorem tokens_append_cons
    {c : Char}
    (separator : separates c = true)
    (text rest : List Char) :
    tokens (text ++ c :: rest) = tokens text ++ tokens rest := by
  rw [tokens_eq, tokens_eq, tokens_eq, List.splitOnP_append_cons _ _ separator, List.filter_append]

/-- A text without separators is one token. -/
theorem tokens_singleton
    (filled : token ≠ [])
    (plain : ∀ other ∈ token, separates other = false) :
    tokens token = [token] := by
  rw [tokens_eq, List.splitOnP_eq_singleton plain, List.filter_cons_of_pos (by simpa using filled)]
  rfl

/-- A token ends at the next separator. -/
theorem tokens_cons
    {c : Char}
    {rest : List Char}
    (filled : token ≠ [])
    (plain : ∀ other ∈ token, separates other = false)
    (separator : separates c = true) :
    tokens (token ++ c :: rest) = token :: tokens rest := by
  rw [tokens_append_cons separator, tokens_singleton filled plain]
  rfl

/-- Separators in front of a text make no tokens. -/
theorem tokens_append_of_separates
    {separators : List Char}
    (blank : ∀ c ∈ separators, separates c = true)
    (text : List Char) :
    tokens (separators ++ text) = tokens text := by
  induction separators with
  | nil => rfl
  | cons c separators inductionHypothesis =>
      obtain ⟨separator, blank⟩ := List.forall_mem_cons.1 blank
      rw [← inductionHypothesis blank]
      exact tokens_append_cons separator [] (separators ++ text)

/-- A text of separators has no tokens. -/
theorem tokens_nil (blank : ∀ c ∈ ending, separates c = true) : tokens ending = [] := by
  have none := tokens_append_of_separates blank []
  rw [List.append_nil] at none
  exact none

/-- Texts with a blank between any two are the tokens of the whole. -/
theorem tokens_intercalate
    {words : List (List Char)}
    (filled : ∀ word ∈ words, word ≠ [])
    (plain : ∀ word ∈ words, ∀ c ∈ word, separates c = false)
    (blank : ∀ c ∈ ending, separates c = true) :
    tokens ([' '].intercalate words ++ ending) = words := by
  induction words with
  | nil => exact tokens_nil blank
  | cons word words inductionHypothesis =>
      obtain ⟨filledFirst, filled⟩ := List.forall_mem_cons.1 filled
      obtain ⟨plainFirst, plain⟩ := List.forall_mem_cons.1 plain
      cases words with
      | nil =>
          rw [List.intercalate_singleton]
          cases ending with
          | nil =>
              rw [List.append_nil]
              exact tokens_singleton filledFirst plainFirst
          | cons c ending =>
              obtain ⟨separator, blank⟩ := List.forall_mem_cons.1 blank
              rw [tokens_cons filledFirst plainFirst separator, tokens_nil blank]
      | cons next others =>
          rw [List.intercalate_cons_cons, List.append_assoc, List.append_assoc,
            List.singleton_append, tokens_cons filledFirst plainFirst (by decide),
            inductionHypothesis filled plain]

end Tokens

/-- Printed bytes are read back, also with separators behind them. -/
theorem readBytes_spaced
    {bytes : List UInt8}
    (filled : bytes ≠ [])
    (ending : String)
    (blank : ∀ c ∈ ending.toList, separates c = true) :
    readBytes (spaced bytes ++ ending) = .ok bytes := by
  have taken : tokens (spaced bytes ++ ending).toList = bytes.map byteDigits := by
    rw [String.toList_append, toList_spaced]
    refine tokens_intercalate ?_ ?_ blank
    · intro word among
      obtain ⟨byte, -, rfl⟩ := List.mem_map.1 among
      exact List.cons_ne_nil _ _
    · intro word among c inside
      obtain ⟨byte, -, rfl⟩ := List.mem_map.1 among
      obtain ⟨value, rfl⟩ := exists_digit_of_mem_byteDigits inside
      exact separates_digit value.isLt
  rw [readBytes, taken, readTokens_byteDigits]
  cases bytes with
  | nil => exact absurd rfl filled
  | cons first others => rfl

end DeviceLink.Hex
