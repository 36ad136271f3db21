import DeviceLink.Toml.Document

/-!
# Laws of scanners

A scanner takes a front off every text that starts with it, whatever stands
behind. A repeated scanner takes one such front after another until it refuses
what is left. From this follow what the scanners for keys, headers, fields and
line ends do with the forms in which a document is usually printed.
-/

namespace DeviceLink.Toml.Scanner

variable {α β : Type}

/-! ## Sequences and alternatives -/

@[simp]
theorem pure_apply (value : α) (text : List Char) :
    (pure value : Scanner α) text = some (value, text) :=
  rfl

theorem bind_apply (first : Scanner α) (next : α → Scanner β) (text : List Char) :
    (first >>= next) text = (first text).bind fun found => next found.1 found.2 := by
  change Scanner.bind first next text = _
  unfold Scanner.bind
  cases first text <;> rfl

theorem bind_of_some
    {first : Scanner α}
    {text rest : List Char}
    {value : α}
    (found : first text = some (value, rest))
    (next : α → Scanner β) :
    (first >>= next) text = next value rest := by
  rw [bind_apply, found, Option.bind_some]

theorem bind_of_none
    {first : Scanner α}
    {text : List Char}
    (refused : first text = none)
    (next : α → Scanner β) :
    (first >>= next) text = none := by
  rw [bind_apply, refused, Option.bind_none]

theorem bind_eq_none
    {first : Scanner α}
    {next : α → Scanner β}
    {text : List Char}
    (refused : ∀ value rest, first text = some (value, rest) → next value rest = none) :
    (first >>= next) text = none := by
  cases taken : first text with
  | none => exact bind_of_none taken next
  | some found =>
      obtain ⟨value, rest⟩ := found
      rw [bind_of_some taken]
      exact refused value rest taken

theorem exists_of_bind_some
    {first : Scanner α}
    {next : α → Scanner β}
    {text rest : List Char}
    {value : β}
    (taken : (first >>= next) text = some (value, rest)) :
    ∃ inner behind, first text = some (inner, behind) ∧ next inner behind = some (value, rest) := by
  rw [bind_apply] at taken
  obtain ⟨⟨inner, behind⟩, found, further⟩ := Option.bind_eq_some_iff.1 taken
  exact ⟨inner, behind, found, further⟩

theorem orElse_of_some
    {first : Scanner α}
    {text : List Char}
    {found : α × List Char}
    (taken : first text = some found)
    (second : Scanner α) :
    (first <|> second) text = some found := by
  change Scanner.orElse first (fun _ => second) text = _
  rw [Scanner.orElse, taken]

theorem orElse_of_none
    {first : Scanner α}
    {text : List Char}
    (refused : first text = none)
    (second : Scanner α) :
    (first <|> second) text = second text := by
  change Scanner.orElse first (fun _ => second) text = _
  rw [Scanner.orElse, refused]

theorem perhaps_of_none
    {scan : Scanner α}
    {text : List Char}
    (refused : scan text = none) :
    perhaps scan text = some (none, text) := by
  rw [perhaps, refused]

/-! ## Single characters and words -/

theorem one_of_accepted {accepts : Char → Bool} {c : Char} (good : accepts c) (rest : List Char) :
    one accepts (c :: rest) = some (c, rest) :=
  if_pos good

theorem char_self (c : Char) (rest : List Char) : char c (c :: rest) = some ((), rest) :=
  if_pos rfl

theorem word_append (letters : String) (rest : List Char) :
    word letters (letters.toList ++ rest) = some ((), rest) := by
  simp [word, ← String.length_toList]

theorem word_of_ne
    {letters : String}
    {c d : Char}
    {more : List Char}
    (shown : letters.toList = d :: more)
    (other : c ≠ d)
    (rest : List Char) :
    word letters (c :: rest) = none := by
  simp [word, shown, Ne.symm other]

/-- The text does not go on with an accepted character. -/
def Stops (accepts : Char → Bool) (text : List Char) : Prop :=
  ∀ c ∈ text.head?, accepts c = false

theorem stops_nil (accepts : Char → Bool) : Stops accepts [] := by
  simp [Stops]

theorem stops_cons_iff {accepts : Char → Bool} {c : Char} {rest : List Char} :
    Stops accepts (c :: rest) ↔ accepts c = false := by
  simp [Stops]

theorem one_of_stops {accepts : Char → Bool} {text : List Char} (stops : Stops accepts text) :
    one accepts text = none := by
  cases text with
  | nil => rfl
  | cons c rest => simp [one, stops_cons_iff.1 stops]

theorem char_of_stops {c : Char} {text : List Char} (stops : Stops (· == c) text) :
    char c text = none := by
  cases text with
  | nil => rfl
  | cons d rest =>
      have other : d ≠ c := by simpa using stops_cons_iff.1 stops
      exact if_neg other

/-! ## Repetition -/

/-- The scanner takes this front off a text, whatever stands behind it. -/
def Takes (scan : Scanner α) (front : List Char) (value : α) : Prop :=
  front ≠ [] ∧ ∀ rest, scan (front ++ rest) = some (value, rest)

theorem many_of_none {scan : Scanner α} {text : List Char} (refused : scan text = none) :
    many scan text = some ([], text) := by
  rw [many, refused]

/-- Repetition takes a list of fronts one after another and ends where the scanner refuses. -/
theorem many_flatten
    {scan : Scanner α}
    {pieces : List (List Char × α)}
    {rest : List Char}
    (takes : ∀ piece ∈ pieces, scan.Takes piece.1 piece.2)
    (refused : scan rest = none) :
    many scan ((pieces.map Prod.fst).flatten ++ rest) = some (pieces.map Prod.snd, rest) := by
  induction pieces with
  | nil => exact many_of_none refused
  | cons piece pieces inductionHypothesis =>
      obtain ⟨filled, taken⟩ := takes piece List.mem_cons_self
      have others := inductionHypothesis fun other among => takes other (List.mem_cons_of_mem _ among)
      have shorter : 0 < piece.1.length := List.length_pos_iff.2 filled
      rw [List.map_cons, List.flatten_cons, List.append_assoc, many, taken]
      simp only [others, List.map_cons]
      -- Repetition goes on, for the front that was taken is not empty.
      rw [if_pos]
      simp only [List.length_append]
      omega

/-- Repetition of a scanner for single characters takes a whole run of them. -/
theorem many_of_all
    {scan : Scanner Char}
    {accepts : Char → Bool}
    {front rest : List Char}
    (takes : ∀ c, accepts c → scan.Takes [c] c)
    (good : ∀ c ∈ front, accepts c)
    (refused : scan rest = none) :
    many scan (front ++ rest) = some (front, rest) := by
  have pieces := @many_flatten _ scan (front.map fun c => ([c], c)) rest
    (by simpa using fun c among => takes c (good c among)) refused
  simpa [List.map_map, Function.comp_def, ← List.flatMap_def] using pieces

theorem takes_one {accepts : Char → Bool} (c : Char) (good : accepts c) :
    (one accepts).Takes [c] c :=
  ⟨by simp, one_of_accepted good⟩

theorem many_one
    {accepts : Char → Bool}
    {front rest : List Char}
    (good : ∀ c ∈ front, accepts c)
    (stops : Stops accepts rest) :
    many (one accepts) (front ++ rest) = some (front, rest) :=
  many_of_all takes_one good (one_of_stops stops)

theorem span_of_stops {accepts : Char → Bool} {text : List Char} (stops : Stops accepts text) :
    span accepts text = some ([], text) := by
  cases text with
  | nil => rfl
  | cons c rest => simp [span, stops_cons_iff.1 stops]

/-! ## Blanks and line ends -/

theorem blanks_of_stops {text : List Char} (stops : Stops isBlank text) :
    blanks text = some ((), text) := by
  rw [blanks, bind_of_some (span_of_stops stops), pure_apply]

theorem blanks_space {rest : List Char} (stops : Stops isBlank rest) :
    blanks (' ' :: rest) = some ((), rest) := by
  have taken : span isBlank (' ' :: rest) = some ([' '], rest) := by
    have others := span_of_stops stops
    simp only [span, Option.some.injEq, Prod.mk.injEq] at others ⊢
    rw [List.takeWhile_cons_of_pos rfl, List.dropWhile_cons_of_pos rfl, others.1, others.2]
    exact ⟨rfl, rfl⟩
  rw [blanks, bind_of_some taken, pure_apply]

/-- A line feed ends a line. -/
theorem takes_lineEnd : lineEnd.Takes ['\n'] () :=
  ⟨by simp, fun _ => rfl⟩

theorem takes_emptyLine : emptyLine.Takes ['\n'] () :=
  ⟨by simp, fun _ => rfl⟩

/-- The character starts neither blanks nor a comment nor a line end. -/
abbrev StartsStatement (c : Char) : Prop :=
  isBlank c = false ∧ c ≠ '#' ∧ c ≠ '\n' ∧ c ≠ '\r'

theorem emptyLine_of_startsStatement
    {c : Char}
    (starts : StartsStatement c)
    (rest : List Char) :
    emptyLine (c :: rest) = none := by
  obtain ⟨noBlank, noComment, noFeed, noReturn⟩ := starts
  have comments : comment (c :: rest) = none := by
    rw [comment, bind_of_none (if_neg noComment)]
  have feed : char '\n' (c :: rest) = none := if_neg noFeed
  have ends : newline (c :: rest) = none := by
    rw [newline, orElse_of_none feed, word_of_ne rfl noReturn]
  rw [emptyLine, bind_of_some (blanks_of_stops (stops_cons_iff.2 noBlank)),
    bind_of_some (perhaps_of_none comments), ends]

/-- The empty lines in front of a statement are passed. -/
theorem many_emptyLine
    {c : Char}
    (starts : StartsStatement c)
    (lines : Nat)
    (rest : List Char) :
    many emptyLine (List.replicate lines '\n' ++ c :: rest) =
      some (List.replicate lines (), c :: rest) := by
  have passed := @many_flatten _ emptyLine (List.replicate lines (['\n'], ())) (c :: rest)
    (fun piece among => by rw [List.eq_of_mem_replicate among]; exact takes_emptyLine)
    (emptyLine_of_startsStatement starts rest)
  simpa using passed

/-! ## Keys -/

/-- The character may stand in a key without quotes. -/
def isBare (c : Char) : Bool :=
  c.isAlphanum || c = '_' || c = '-'

/-- A key that needs no quotes. -/
structure BareKey (name : String) : Prop where
  /-- The key is not empty. -/
  filled : name.toList ≠ []
  /-- All characters may stand in a key without quotes. -/
  bare : ∀ c ∈ name.toList, isBare c

theorem BareKey.exists_cons {name : String} (bareKey : BareKey name) :
    ∃ first others, name.toList = first :: others ∧ isBare first := by
  obtain ⟨filled, bare⟩ := bareKey
  obtain ⟨first, others, shown⟩ := List.exists_cons_of_ne_nil filled
  exact ⟨first, others, shown, bare first (by rw [shown]; exact List.mem_cons_self)⟩

/-- A character that is not bare is none of those in a key without quotes. -/
theorem ne_of_isBare {c d : Char} (good : isBare c) (bad : isBare d = false) : c ≠ d := by
  rintro rfl
  rw [good] at bad
  cases bad

theorem isBlank_of_isBare {c : Char} (good : isBare c) : isBlank c = false := by
  simp [isBlank, ne_of_isBare good (d := ' ') rfl, ne_of_isBare good (d := '\t') rfl]

theorem startsStatement_of_isBare {c : Char} (good : isBare c) : StartsStatement c :=
  ⟨isBlank_of_isBare good, ne_of_isBare good rfl, ne_of_isBare good rfl, ne_of_isBare good rfl⟩

/-- A key without quotes is taken up to the first character that may not stand in one. -/
theorem keyPart_bare
    {name : String}
    {rest : List Char}
    (bareKey : BareKey name)
    (stops : Stops isBare rest) :
    keyPart (name.toList ++ rest) = some (name, rest) := by
  have whole : String.ofList name.toList = name := String.ofList_toList
  have bare := bareKey.bare
  obtain ⟨first, others, shown, good⟩ := bareKey.exists_cons
  rw [shown] at whole bare ⊢
  have noQuote : basicText (first :: (others ++ rest)) = none :=
    bind_of_none (if_neg (ne_of_isBare good rfl)) _
  have noApostrophe : literalText (first :: (others ++ rest)) = none :=
    bind_of_none (if_neg (ne_of_isBare good rfl)) _
  have run : many (one isBare) (others ++ rest) = some (others, rest) :=
    many_one (fun c among => bare c (List.mem_cons_of_mem _ among)) stops
  have letters : manyOne (one isBare) (first :: (others ++ rest)) =
      some (first :: others, rest) := by
    rw [manyOne, bind_of_some (one_of_accepted good _), bind_of_some run, pure_apply]
  rw [List.cons_append, keyPart, orElse_of_none, ← whole]
  · exact bind_of_some letters _
  · rw [bind_of_none]
    rw [orElse_of_none noQuote, noApostrophe]

/-- One part of a key, with the blanks around it. -/
def spacedPart : Scanner String := do
  blanks
  let part ← keyPart
  blanks
  pure part

/-- A key of one part is taken with the blanks behind it. -/
theorem key_bare
    {name : String}
    {behind rest : List Char}
    (bareKey : BareKey name)
    (stops : Stops isBare behind)
    (passed : blanks behind = some ((), rest))
    (alone : Stops (· == '.') rest) :
    key (name.toList ++ behind) = some (([], name), rest) := by
  have inFront : blanks (name.toList ++ behind) = some ((), name.toList ++ behind) := by
    obtain ⟨first, others, shown, good⟩ := bareKey.exists_cons
    rw [shown]
    exact blanks_of_stops (stops_cons_iff.2 (isBlank_of_isBare good))
  have first : spacedPart (name.toList ++ behind) = some (name, rest) := by
    rw [spacedPart, bind_of_some inFront, bind_of_some (keyPart_bare bareKey stops),
      bind_of_some passed, pure_apply]
  have others : many (char '.' >>= fun _ => spacedPart) rest = some ([], rest) :=
    many_of_none (bind_of_none (char_of_stops alone) _)
  have parts : separated spacedPart (char '.') (name.toList ++ behind) = some ([name], rest) := by
    rw [separated, bind_of_some first, bind_of_some others, pure_apply]
  exact bind_of_some parts _

/-! ## Headers and fields -/

/-- A header in double brackets starts the next table of an array. -/
theorem takes_header {name : String} (bareKey : BareKey name) :
    header.Takes (['[', '['] ++ name.toList ++ [']', ']', '\n']) (.row [] name) := by
  refine ⟨by simp, fun rest => ?_⟩
  have opened : word "[[" ('[' :: '[' :: (name.toList ++ ']' :: ']' :: '\n' :: rest)) =
      some ((), name.toList ++ ']' :: ']' :: '\n' :: rest) :=
    word_append "[[" _
  have named : key (name.toList ++ ']' :: ']' :: '\n' :: rest) =
      some (([], name), ']' :: ']' :: '\n' :: rest) :=
    key_bare bareKey (stops_cons_iff.2 rfl) (blanks_of_stops (stops_cons_iff.2 rfl))
      (stops_cons_iff.2 rfl)
  have closed : word "]]" (']' :: ']' :: '\n' :: rest) = some ((), '\n' :: rest) :=
    word_append "]]" _
  have text : ['[', '['] ++ name.toList ++ [']', ']', '\n'] ++ rest =
      '[' :: '[' :: (name.toList ++ ']' :: ']' :: '\n' :: rest) := by simp
  rw [text, header]
  apply orElse_of_some
  rw [bind_of_some opened, bind_of_some named]
  exact (bind_of_some closed _).trans (bind_of_some (takes_lineEnd.2 rest) _)

/-- A field is no header. -/
theorem header_of_isBare {c : Char} (good : isBare c) (rest : List Char) :
    header (c :: rest) = none := by
  have noBracket : c ≠ '[' := ne_of_isBare good rfl
  have noRow : word "[[" (c :: rest) = none := word_of_ne rfl noBracket rest
  have noTable : char '[' (c :: rest) = none := if_neg noBracket
  rw [header, orElse_of_none (bind_of_none noRow _), bind_of_none noTable]

/-- The scanner takes this text as a value, where a line feed stands behind it. -/
def ReadsAs (scan : Scanner α) (shown : List Char) (value : α) : Prop :=
  ∀ rest, scan (shown ++ '\n' :: rest) = some (value, '\n' :: rest)

/-- A printed field is taken with its line end. -/
theorem takes_field
    {name : String}
    {shown : List Char}
    {node : Node}
    (bareKey : BareKey name)
    (starts : ∀ rest, Stops isBlank (shown ++ rest))
    (reads : (value (nestingLimit - 1)).ReadsAs shown node) :
    field.Takes (name.toList ++ [' ', '=', ' '] ++ shown ++ ['\n']) (.field [] name node) := by
  refine ⟨by simp, fun rest => ?_⟩
  have named : key (name.toList ++ ' ' :: '=' :: ' ' :: (shown ++ '\n' :: rest)) =
      some (([], name), '=' :: ' ' :: (shown ++ '\n' :: rest)) :=
    key_bare bareKey (stops_cons_iff.2 rfl) (blanks_space (stops_cons_iff.2 rfl))
      (stops_cons_iff.2 rfl)
  have ended : blanks ('\n' :: rest) = some ((), '\n' :: rest) :=
    blanks_of_stops (stops_cons_iff.2 rfl)
  have pairs : pair (value (nestingLimit - 1))
      (name.toList ++ ' ' :: '=' :: ' ' :: (shown ++ '\n' :: rest)) =
        some ((([], name), node), '\n' :: rest) := by
    rw [pair, bind_of_some named, bind_of_some (char_self '=' _),
      bind_of_some (blanks_space (starts _)), bind_of_some (reads rest), bind_of_some ended,
      pure_apply]
  have text : name.toList ++ [' ', '=', ' '] ++ shown ++ ['\n'] ++ rest =
      name.toList ++ ' ' :: '=' :: ' ' :: (shown ++ '\n' :: rest) := by simp
  rw [text, field, bind_of_some pairs]
  exact bind_of_some (takes_lineEnd.2 rest) _

/-! ## Statements -/

theorem statement_of_startsStatement
    {c : Char}
    (starts : StartsStatement c)
    (lines : Nat)
    (rest : List Char) :
    statement (List.replicate lines '\n' ++ c :: rest) = (header <|> field) (c :: rest) := by
  rw [statement, bind_of_some (many_emptyLine starts lines rest),
    bind_of_some (blanks_of_stops (stops_cons_iff.2 starts.1))]

/-- A header is a statement, also behind empty lines. -/
theorem takes_statement_row {name : String} (bareKey : BareKey name) (lines : Nat) :
    statement.Takes (List.replicate lines '\n' ++ (['[', '['] ++ name.toList ++ [']', ']', '\n']))
      (.row [] name) := by
  refine ⟨by simp, fun rest => ?_⟩
  have starts : StartsStatement '[' := by decide
  have taken := (takes_header bareKey).2 rest
  simp only [List.cons_append, List.nil_append, List.append_assoc] at taken ⊢
  rw [statement_of_startsStatement starts, orElse_of_some taken]

/-- A printed field is a statement. -/
theorem takes_statement_field
    {name : String}
    {shown : List Char}
    {node : Node}
    (bareKey : BareKey name)
    (starts : ∀ rest, Stops isBlank (shown ++ rest))
    (reads : (value (nestingLimit - 1)).ReadsAs shown node) :
    statement.Takes (name.toList ++ [' ', '=', ' '] ++ shown ++ ['\n']) (.field [] name node) := by
  refine ⟨by simp, fun rest => ?_⟩
  have taken := (takes_field bareKey starts reads).2 rest
  obtain ⟨first, others, letters, good⟩ := bareKey.exists_cons
  have begun := statement_of_startsStatement (startsStatement_of_isBare good) 0
  simp only [letters, List.cons_append, List.replicate_zero, List.nil_append] at taken begun ⊢
  rw [begun, orElse_of_none (header_of_isBare good _), taken]

/-- There is no statement at the end of a text. -/
theorem statement_nil : statement [] = none := by
  have noLine : emptyLine [] = none := rfl
  rw [statement, bind_of_some (many_of_none noLine)]
  rfl

/-- A text of statements is read as these statements. -/
theorem statements_flatten
    {pieces : List (List Char × Statement)}
    (noMark : Stops (· == Char.ofNat 0xFEFF) (pieces.map Prod.fst).flatten)
    (takes : ∀ piece ∈ pieces, statement.Takes piece.1 piece.2) :
    statements (pieces.map Prod.fst).flatten = some (pieces.map Prod.snd, []) := by
  have found := many_flatten takes statement_nil
  rw [List.append_nil] at found
  have noLine : many emptyLine [] = some ([], []) := many_of_none rfl
  rw [statements, bind_of_some (perhaps_of_none (char_of_stops noMark)), bind_of_some found,
    bind_of_some noLine]
  rfl

end DeviceLink.Toml.Scanner
