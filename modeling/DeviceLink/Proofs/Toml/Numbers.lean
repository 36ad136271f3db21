import DeviceLink.Proofs.Toml.Scanning

/-!
# Reading printed numbers

A whole number that is printed in decimal digits is read back as it was. The
digits are neither the start of a quoted text nor those of a moment, a real
number or a number of another base, so that only one of the forms of a value
takes them.
-/

namespace DeviceLink.Toml

/-! ## Digits -/

/-- The decimal digits of a number, the highest one first. -/
def digitsOf (value : Nat) : List Char :=
  Nat.toDigits 10 value

theorem digitsOf_of_lt {value : Nat} (small : value < 10) : digitsOf value = [value.digitChar] :=
  Nat.toDigits_of_lt_base small

theorem digitsOf_of_le {value : Nat} (large : 10 ≤ value) :
    digitsOf value = digitsOf (value / 10) ++ [(value % 10).digitChar] := by
  unfold digitsOf
  rw [Nat.toDigits_eq_if (by decide), if_neg (by omega)]

theorem isDigit_of_mem_digitsOf {c : Char} {value : Nat} (among : c ∈ digitsOf value) :
    c.isDigit :=
  Nat.isDigit_of_mem_toDigits (by decide) (by decide) among

/-- Induction over the decimal digits of a number, from the highest to the lowest one. -/
theorem digits_induction
    {P : Nat → Prop}
    (single : ∀ value < 10, P value)
    (more : ∀ value, 10 ≤ value → P (value / 10) → P value)
    (value : Nat) : P value := by
  induction value using Nat.strongRecOn with
  | ind value inductionHypothesis =>
      by_cases small : value < 10
      · exact single value small
      · exact more value (by omega) (inductionHypothesis _ (by omega))

/-- A digit has its value. -/
theorem value?_digitChar : ∀ value < 10, Hex.value? value.digitChar = some value := by
  decide

theorem wholeOf_concat (digits : List Char) (c : Char) :
    wholeOf 10 (digits ++ [c]) = 10 * wholeOf 10 digits + (Hex.value? c).getD 0 := by
  simp [wholeOf]

/-- The digits of a number make up this number. -/
@[simp]
theorem wholeOf_digitsOf (value : Nat) : wholeOf 10 (digitsOf value) = value := by
  induction value using digits_induction with
  | single value small => simp [digitsOf_of_lt small, wholeOf, value?_digitChar value small]
  | more value large inductionHypothesis =>
      have low : value % 10 < 10 := Nat.mod_lt _ (by decide)
      rw [digitsOf_of_le large, wholeOf_concat, inductionHypothesis, value?_digitChar _ low,
        Option.getD_some]
      omega

/-- A number has a highest digit, which is zero for no number but zero. -/
theorem digitsOf_cases (value : Nat) :
    digitsOf value = ['0'] ∨ ∃ first others, digitsOf value = first :: others ∧ first ≠ '0' := by
  induction value using digits_induction with
  | single value small =>
      rw [digitsOf_of_lt small]
      by_cases zero : value = 0
      · subst zero
        exact .inl rfl
      · have nonzero : ∀ digit < 10, digit ≠ 0 → digit.digitChar ≠ '0' := by decide
        exact .inr ⟨_, [], rfl, nonzero value small zero⟩
  | more value large inductionHypothesis =>
      -- A lower digit changes the highest one only of zero, which is no tenth of such a number.
      rw [digitsOf_of_le large]
      obtain zero | ⟨first, others, shown, nonzero⟩ := inductionHypothesis
      · have none : value / 10 = 0 := by rw [← wholeOf_digitsOf (value / 10), zero]; rfl
        omega
      · exact .inr ⟨first, others ++ [(value % 10).digitChar], by rw [shown]; rfl, nonzero⟩

/-- A number starts with a digit. -/
theorem exists_digit_cons (value : Nat) :
    ∃ first others, digitsOf value = first :: others ∧ first.isDigit := by
  obtain zero | ⟨first, others, shown, -⟩ := digitsOf_cases value
  · exact ⟨'0', [], zero, rfl⟩
  · exact ⟨first, others, shown, isDigit_of_mem_digitsOf (by rw [shown]; exact List.mem_cons_self)⟩

namespace Scanner

/-! ## What digits are not -/

theorem ne_of_isDigit {c d : Char} (digit : c.isDigit) (other : d.isDigit = false) : c ≠ d := by
  rintro rfl
  rw [digit] at other
  cases other

theorem quoted_of_digit {c : Char} (digit : c.isDigit) (rest : List Char) :
    quoted (c :: rest) = none := by
  have noQuote : c ≠ '"' := ne_of_isDigit digit rfl
  have noApostrophe : c ≠ apostrophe := ne_of_isDigit digit rfl
  have lines : basicLines (c :: rest) = none := bind_of_none (word_of_ne rfl noQuote rest) _
  have literals : literalLines (c :: rest) = none :=
    bind_of_none (word_of_ne rfl noApostrophe rest) _
  have basic : basicText (c :: rest) = none := bind_of_none (if_neg noQuote) _
  have literal : literalText (c :: rest) = none := bind_of_none (if_neg noApostrophe) _
  rw [quoted, bind_of_none]
  rw [orElse_of_none lines, orElse_of_none literals, orElse_of_none basic, literal]

/-- What is taken as so many characters stands at the front of the text and is accepted. -/
theorem exactly_spec
    {accepts : Char → Bool}
    {count : Nat}
    {text shown rest : List Char}
    (taken : exactly accepts count text = some (shown, rest)) :
    text = shown ++ rest ∧ ∀ c ∈ shown, accepts c := by
  induction count generalizing text shown with
  | zero =>
      rw [exactly, pure_apply] at taken
      cases taken
      simp
  | succ count inductionHypothesis =>
      cases text with
      | nil => cases taken
      | cons first others =>
          by_cases good : accepts first
          · rw [exactly, bind_of_some (one_of_accepted good others)] at taken
            cases further : exactly accepts count others with
            | none =>
                rw [bind_of_none further] at taken
                cases taken
            | some found =>
                obtain ⟨more, behind⟩ := found
                rw [bind_of_some further, pure_apply] at taken
                cases taken
                obtain ⟨rfl, accepted⟩ := inductionHypothesis further
                exact ⟨rfl, by simpa [good] using accepted⟩
          · rw [exactly, bind_of_none (if_neg good)] at taken
            cases taken

/-- The first character behind a run of digits decides whether a mark stands behind some of them. -/
theorem exactly_char_of_ne
    {digits : List Char}
    {c mark : Char}
    (digit : ∀ d ∈ digits, d.isDigit)
    (stop : c.isDigit = false)
    (noDigit : mark.isDigit = false)
    (other : c ≠ mark)
    {count : Nat}
    {rest shown behind : List Char}
    (taken : exactly Char.isDigit count (digits ++ c :: rest) = some (shown, behind)) :
    char mark behind = none := by
  obtain ⟨text, accepted⟩ := exactly_spec taken
  cases behind with
  | nil => rfl
  | cons next more =>
      by_cases found : next = mark
      · -- Without its leading digits the text starts with `c`, and with the mark.
        subst found
        have ends := congrArg (List.dropWhile Char.isDigit) text
        rw [List.dropWhile_append_of_pos digit, List.dropWhile_append_of_pos accepted,
          List.dropWhile_cons_of_neg (by simp [stop]),
          List.dropWhile_cons_of_neg (by simp [noDigit])] at ends
        exact absurd (List.cons.inj ends).1 other
      · exact if_neg found

section Moments

variable {digits : List Char} {c mark : Char}

theorem padded_char_of_ne
    (digit : ∀ d ∈ digits, d.isDigit)
    (stop : c.isDigit = false)
    (noDigit : mark.isDigit = false)
    (other : c ≠ mark)
    {count value : Nat}
    {rest behind : List Char}
    (taken : padded count (digits ++ c :: rest) = some (value, behind)) :
    char mark behind = none := by
  obtain ⟨shown, after, found, ended⟩ := exists_of_bind_some taken
  rw [pure_apply] at ended
  cases ended
  exact exactly_char_of_ne digit stop noDigit other found

theorem between_char_of_ne
    (digit : ∀ d ∈ digits, d.isDigit)
    (stop : c.isDigit = false)
    (noDigit : mark.isDigit = false)
    (other : c ≠ mark)
    {least greatest value : Nat}
    {rest behind : List Char}
    (taken : between least greatest (digits ++ c :: rest) = some (value, behind)) :
    char mark behind = none := by
  obtain ⟨inner, after, found, ended⟩ := exists_of_bind_some taken
  split at ended
  · cases ended
    exact padded_char_of_ne digit stop noDigit other found
  · cases ended

/-- Digits start a moment only if a dash or a colon stands behind some of them. -/
theorem moment_of_digits
    (digit : ∀ d ∈ digits, d.isDigit)
    (stop : c.isDigit = false)
    (noDash : c ≠ '-')
    (noColon : c ≠ ':')
    (rest : List Char) :
    moment (digits ++ c :: rest) = none := by
  have noDate : date (digits ++ c :: rest) = none := by
    apply bind_eq_none
    intro year behind taken
    exact bind_of_none (padded_char_of_ne digit stop rfl noDash taken) _
  have noTime : timeOfDay (digits ++ c :: rest) = none := by
    apply bind_eq_none
    intro hour behind taken
    exact bind_of_none (between_char_of_ne digit stop rfl noColon taken) _
  rw [moment, orElse_of_none (bind_of_none noDate _), noTime]

end Moments

/-! ## Whole numbers -/

theorem sign_of_digit {c : Char} (digit : c.isDigit) (rest : List Char) :
    sign (c :: rest) = some (false, c :: rest) := by
  have noSign : one (fun c => c = '+' || c = '-') (c :: rest) = none := by
    apply one_of_stops
    simp [stops_cons_iff, ne_of_isDigit digit (d := '+') rfl, ne_of_isDigit digit (d := '-') rfl]
  exact bind_of_some (perhaps_of_none noSign) _

/-- A digit, with an underscore in front of it or none. -/
def laterDigit : Scanner Char := do
  let _ ← perhaps (char '_')
  one Char.isDigit

theorem takes_laterDigit (c : Char) (digit : c.isDigit) : laterDigit.Takes [c] c := by
  refine ⟨by simp, fun rest => ?_⟩
  have noLine : char '_' (c :: rest) = none := if_neg (ne_of_isDigit digit rfl)
  rw [List.singleton_append, laterDigit, bind_of_some (perhaps_of_none noLine),
    one_of_accepted digit]

theorem laterDigit_newline (rest : List Char) : laterDigit ('\n' :: rest) = none :=
  rfl

/-- All digits of a number are taken. -/
theorem decimalDigits_reads (value : Nat) :
    decimalDigits.ReadsAs (digitsOf value) (digitsOf value) := by
  intro rest
  obtain zero | ⟨first, others, shown, nonzero⟩ := digitsOf_cases value
  · rw [zero]
    rfl
  · have digit : ∀ c ∈ first :: others, c.isDigit := fun c among =>
      isDigit_of_mem_digitsOf (by rw [shown]; exact among)
    have first_digit := digit first List.mem_cons_self
    have noZero : char '0' (first :: (others ++ '\n' :: rest)) = none := if_neg nonzero
    have taken : one (fun c => c.isDigit && c ≠ '0') (first :: (others ++ '\n' :: rest)) =
        some (first, others ++ '\n' :: rest) :=
      one_of_accepted (by simp [first_digit, nonzero]) _
    have run : many laterDigit (others ++ '\n' :: rest) = some (others, '\n' :: rest) :=
      many_of_all takes_laterDigit (fun c among => digit c (List.mem_cons_of_mem _ among))
        (laterDigit_newline rest)
    rw [shown, List.cons_append, decimalDigits, orElse_of_none (bind_of_none noZero _),
      bind_of_some taken]
    exact bind_of_some run _

theorem signed_reads (value : Nat) : signed.ReadsAs (digitsOf value) value := by
  intro rest
  have digits := decimalDigits_reads value rest
  obtain ⟨first, others, shown, digit⟩ := exists_digit_cons value
  have noSign := sign_of_digit digit (others ++ '\n' :: rest)
  rw [← List.cons_append, ← shown] at noSign
  rw [signed, bind_of_some noSign, bind_of_some digits, pure_apply, wholeOf_digitsOf]
  rfl

/-- A number without a fraction and an exponent is no real number. -/
theorem real_of_digits (value : Nat) (rest : List Char) :
    real (digitsOf value ++ '\n' :: rest) = none := by
  have digits := decimalDigits_reads value rest
  obtain ⟨first, others, shown, digit⟩ := exists_digit_cons value
  have noSign := sign_of_digit digit (others ++ '\n' :: rest)
  have noInfinity : word "inf" (first :: (others ++ '\n' :: rest)) = none :=
    word_of_ne rfl (ne_of_isDigit digit rfl) _
  have noNumber : word "nan" (first :: (others ++ '\n' :: rest)) = none :=
    word_of_ne rfl (ne_of_isDigit digit rfl) _
  have noFraction : fraction ('\n' :: rest) = none := rfl
  have noExponent : exponent ('\n' :: rest) = none := rfl
  rw [shown, List.cons_append] at digits ⊢
  have noDecimal : decimalReal (first :: (others ++ '\n' :: rest)) = none := by
    rw [decimalReal, bind_of_some noSign, bind_of_some digits,
      bind_of_some (perhaps_of_none noFraction), bind_of_some (perhaps_of_none noExponent)]
    rfl
  rw [real, orElse_of_none noDecimal, bind_of_some noSign, orElse_of_none noInfinity, noNumber]

/-- A decimal number has no mark of another base. -/
theorem marked_of_digits
    {mark : String}
    {letter : Char}
    (shown : mark.toList = ['0', letter])
    (other : '\n' ≠ letter)
    (value base : Nat)
    (accepts : Char → Bool)
    (rest : List Char) :
    marked mark base accepts (digitsOf value ++ '\n' :: rest) = none := by
  apply bind_of_none
  obtain zero | ⟨first, others, digits, nonzero⟩ := digitsOf_cases value
  · rw [zero]
    simp [word, shown, Ne.symm other]
  · rw [digits]
    exact word_of_ne shown nonzero _

/-- A number that fits is read as itself. -/
theorem whole_reads {value : Nat} (fits : (value : Int) < wholeLimit) :
    whole.ReadsAs (digitsOf value) value := by
  intro rest
  have inRange : (decide (-wholeLimit ≤ (value : Int)) && decide ((value : Int) < wholeLimit)) =
      true := by
    have low : -wholeLimit ≤ (value : Int) := by unfold wholeLimit; omega
    simp [low, fits]
  rw [whole, bind_of_some, if_pos inRange, pure_apply]
  rw [orElse_of_none (marked_of_digits rfl (by decide) ..),
    orElse_of_none (marked_of_digits rfl (by decide) ..),
    orElse_of_none (marked_of_digits rfl (by decide) ..), signed_reads value rest]

/-! ## Values -/

/-- A printed number is read as a whole number. -/
theorem scalar_reads {value : Nat} (fits : (value : Int) < wholeLimit) :
    scalar.ReadsAs (digitsOf value) (.integer value) := by
  intro rest
  have noMoment : moment (digitsOf value ++ '\n' :: rest) = none :=
    moment_of_digits (fun _ among => isDigit_of_mem_digitsOf among) rfl (by decide) (by decide) rest
  have noText : quoted (digitsOf value ++ '\n' :: rest) = none := by
    obtain ⟨first, others, shown, digit⟩ := exists_digit_cons value
    rw [shown]
    exact quoted_of_digit digit _
  rw [scalar, orElse_of_none (bind_of_none noText _), orElse_of_none (bind_of_none noMoment _),
    orElse_of_none (bind_of_none (real_of_digits value rest) _), orElse_of_some]
  rw [bind_of_some (whole_reads fits rest), pure_apply]

/-- A printed number is a value at any level. -/
theorem value_reads {number : Nat} (fits : (number : Int) < wholeLimit) (levels : Nat) :
    (value levels).ReadsAs (digitsOf number) (.integer number) := by
  intro rest
  have read := scalar_reads fits rest
  cases levels with
  | zero => exact read
  | succ levels =>
      obtain ⟨first, others, shown, digit⟩ := exists_digit_cons number
      rw [shown] at read ⊢
      have noList : char '[' (first :: others ++ '\n' :: rest) = none :=
        if_neg (ne_of_isDigit digit rfl)
      have noTable : char '\x7b' (first :: others ++ '\n' :: rest) = none :=
        if_neg (ne_of_isDigit digit rfl)
      rw [value, orElse_of_none (bind_of_none noList _), orElse_of_none (bind_of_none noTable _),
        read]

theorem stops_isBlank_digitsOf (value : Nat) (rest : List Char) :
    Stops isBlank (digitsOf value ++ rest) := by
  obtain ⟨first, others, shown, digit⟩ := exists_digit_cons value
  rw [shown, List.cons_append, stops_cons_iff]
  simp [isBlank, ne_of_isDigit digit (d := ' ') rfl, ne_of_isDigit digit (d := '\t') rfl]

/-- A field with a printed number is a statement. -/
theorem takes_statement_number
    {name : String}
    {number : Nat}
    (bareKey : BareKey name)
    (fits : (number : Int) < wholeLimit) :
    statement.Takes (name.toList ++ [' ', '=', ' '] ++ digitsOf number ++ ['\n'])
      (.field [] name (.integer number)) :=
  takes_statement_field bareKey (stops_isBlank_digitsOf number) (value_reads fits _)

end Scanner

end DeviceLink.Toml
