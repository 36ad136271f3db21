import DeviceLink.CommandLine.Grammar

/-!
# Levels of a command line

The words before the name of a command make up one level, those behind it
another. A level collects what its parameters are given. An option with a
value stays pending until the next option or operand, so that its value is
checked only then.
-/

namespace DeviceLink.CommandLine

/-- Where a value comes from, from the weakest source to the strongest. -/
inductive Origin
  | default
  | environment
  | commandLine
  deriving DecidableEq, Inhabited

/-- The strength of a source. -/
def Origin.rank : Origin → Nat
  | default => 0
  | environment => 1
  | commandLine => 2

/-- A value with its source. -/
structure Given where
  /-- The value itself. -/
  value : Argument
  /-- Where the value comes from. -/
  origin : Origin
  deriving DecidableEq, Inhabited

/-- Somebody chose the value. -/
def Given.explicit (given : Given) : Bool :=
  given.origin != .default

/-- The values of a level by the ids of their parameters. -/
abbrev GivenValues : Type := List (String × Given)

/-- A parameter that waits for its value, or whose value has not been checked yet. -/
structure Pending where
  /-- The parameter that waits. -/
  parameter : Parameter
  /-- The word for the parameter, if it has come. -/
  word : Option String
  deriving DecidableEq, Inhabited

/-- What a level has collected, and the operands that are still free. -/
structure Level where
  /-- The values so far. -/
  values : GivenValues := []
  /-- The parameter whose value is not among the values yet. -/
  pending : Option Pending := none
  /-- The operands that have no word yet, in order. -/
  operands : List Parameter := []
  deriving DecidableEq, Inhabited

namespace Level

/-- An empty level. -/
def start (parameters : List Parameter) : Level where
  operands := parameters.filter Parameter.isOperand

/-- The parameter has a value. -/
def has (level : Level) (id : String) : Bool :=
  (level.values.lookup id).isSome

/-- Give a parameter a value in place of the one it had. -/
def put (id : String) (given : Given) (level : Level) : Level :=
  { level with values := (id, given) :: level.values.filter fun entry => entry.1 != id }

/-- Read a word for a parameter that must not have a value yet. -/
def putOnce
    (origin : Origin)
    (id : String)
    (form : ArgumentForm)
    (word : String)
    (level : Level) : Except UsageFault Level :=
  if level.has id then .error .conflict
  else do
    let value ← form.read word
    pure (level.put id ⟨value, origin⟩)

/-- The number of times an option was given. -/
def timesGiven (level : Level) (id : String) : Nat :=
  match level.values.lookup id with
  | some ⟨.number times, _⟩ => times
  | _ => 0

/-- Apply a parameter to the word it was given. -/
def apply
    (origin : Origin)
    (parameter : Parameter)
    (word : Option String)
    (level : Level) : Except UsageFault Level :=
  match parameter.effect with
  | .showHelp => .error .helpAsked
  | .showVersion => .error .versionAsked
  | .count =>
      .ok (level.put parameter.id ⟨.number (min 255 (level.timesGiven parameter.id + 1)), origin⟩)
  | .mark => level.putOnce origin parameter.id .truth (word.getD "true")
  | .set form =>
      match word with
      | none => .error .badChoice
      | some word => level.putOnce origin parameter.id form word

/-- Check the pending parameter, if there is one. -/
def settle (level : Level) : Except UsageFault Level :=
  match level.pending with
  | none => .ok level
  | some pending =>
      { level with pending := none }.apply .commandLine pending.parameter pending.word

/-- Apply a parameter after the pending one. -/
def react
    (parameter : Parameter)
    (word : Option String)
    (level : Level) : Except UsageFault Level := do
  let level ← level.settle
  level.apply .commandLine parameter word

/-- Let a parameter wait, after the pending one is settled. -/
def await
    (parameter : Parameter)
    (word : Option String)
    (level : Level) : Except UsageFault Level := do
  let level ← level.settle
  pure { level with pending := some ⟨parameter, word⟩ }

/-- The pending option has no value yet. -/
def awaitsValue (level : Level) : Bool :=
  match level.pending with
  | some ⟨_, none⟩ => true
  | _ => false

/-- Take the option `--name`. -/
def takeLong
    (parameters : List Parameter)
    (name : String)
    (value : Option String)
    (level : Level) : Except UsageFault Level :=
  match parameters.find? fun parameter => parameter.long == some name with
  | none => .error .unknownArgument
  | some parameter =>
      match parameter.takesValue, value with
      | true, none => level.await parameter none
      | true, some value => level.react parameter (some value)
      | false, none => level.react parameter none
      | false, some _ => .error .excessValue

/-- The value behind the letter of an option; one equals sign before it does not count. -/
def attached : List Char → Option String
  | [] => none
  | '=' :: value => some (String.ofList value)
  | value => some (String.ofList value)

/-- Take options by their letters; what follows an option with a value is the value. -/
def takeCluster (parameters : List Parameter) :
    List Char → Level → Except UsageFault Level
  | [], level => .ok level
  | letter :: letters, level =>
      match parameters.find? fun parameter => parameter.short == some letter with
      | none => .error .unknownArgument
      | some parameter =>
          if parameter.takesValue then
            match attached letters with
            | none => level.await parameter none
            | some value => level.react parameter (some value)
          else do
            let level ← level.react parameter none
            takeCluster parameters letters level

/-- Take an operand. `commands` names what may stand in its place before the escape. -/
def takeOperand
    (commands : List String)
    (escaped : Bool)
    (word : String)
    (level : Level) : Except UsageFault Level :=
  match level.operands with
  | operand :: others => do
      let level ← level.await operand (some word)
      pure { level with operands := others }
  | [] =>
      if commands.isEmpty || (escaped && commands.contains word) then .error .unknownArgument
      else .error .unknownCommand

/-- Take a word that is neither an option nor a command. -/
def takePlain
    (commands : List String)
    (word : String)
    (level : Level) : Except UsageFault Level :=
  match level.pending with
  | some ⟨parameter, none⟩ => .ok { level with pending := some ⟨parameter, some word⟩ }
  | _ => level.takeOperand commands false word

/-- What a level ends with: nothing, or the name of a command with the words behind it. -/
abbrev Rest : Type := Option (String × List String)

/-- Take the words behind an escape, all of which are operands. -/
def consumeEscaped (commands : List String) :
    List String → Level → Except UsageFault Level
  | [], level => .ok level
  | word :: words, level => do
      let level ← level.takeOperand commands true word
      consumeEscaped commands words level

/-- Take words up to the name of a command. -/
def consume (parameters : List Parameter) (commands : List String) :
    List String → Level → Except UsageFault (Level × Rest)
  | [], level => .ok (level, none)
  | word :: words, level =>
      if !level.awaitsValue && commands.contains word then .ok (level, some (word, words))
      else
        match Word.ofText word with
        | .escape => do
            let level ← consumeEscaped commands words level
            pure (level, none)
        | .long name value => do
            let level ← level.takeLong parameters name value
            consume parameters commands words level
        | .cluster letters => do
            let level ← takeCluster parameters letters level
            consume parameters commands words level
        | .plain => do
            let level ← level.takePlain commands word
            consume parameters commands words level

end Level

/-! ### Completing a level -/

/-- The values of the environment, by the names of its variables. -/
abbrev Environment : Type := List (String × String)

namespace Level

/-- Give a parameter its value from the environment if it has none yet. -/
def addEnvironment
    (environment : Environment)
    (level : Level)
    (parameter : Parameter) : Except UsageFault Level :=
  match parameter.environment.bind fun name => environment.lookup name with
  | none => .ok level
  | some word =>
      if level.has parameter.id then .ok level
      else level.apply .environment parameter (some word)

/-- Give a parameter its default if it has no value yet. -/
def addDefault (level : Level) (parameter : Parameter) : Level :=
  if level.has parameter.id then level
  else
    match parameter.initial? with
    | none => level
    | some value => level.put parameter.id ⟨value, .default⟩

/-- Somebody gave the parameter a value. -/
def chosen (level : Level) (parameter : Parameter) : Bool :=
  match level.values.lookup parameter.id with
  | some given => given.explicit
  | none => false

/-- No two parameters that were given rule each other out. -/
def compatible (parameters : List Parameter) (level : Level) : Bool :=
  let chosen := parameters.filter level.chosen
  chosen.all fun first => chosen.all fun second => !first.clashes second

/-- The ids that the given ones require, themselves required or not, in `rounds` rounds. -/
def closure (parameters : List Parameter) : Nat → List String → List String
  | 0, ids => ids
  | rounds + 1, ids =>
      let further := parameters.filter fun parameter => ids.contains parameter.id
      closure parameters rounds (ids ++ further.flatMap Parameter.requires)

/-- The ids of the parameters that have to be given. -/
def requiredIds (parameters : List Parameter) (level : Level) : List String :=
  let always := (parameters.filter Parameter.required).map Parameter.id
  let direct := (parameters.filter level.chosen).flatMap Parameter.requires
  always ++ closure parameters parameters.length direct

/-- A parameter that has to be given is not, and no other one that was given rules it out. -/
def lacks (parameters : List Parameter) (level : Level) : Bool :=
  let required := level.requiredIds parameters
  let chosen := parameters.filter level.chosen
  parameters.any fun parameter =>
    required.contains parameter.id && !level.chosen parameter
      && !chosen.any fun other => parameter.clashes other

/-- Check what the parameters demand of each other. -/
def check (parameters : List Parameter) (level : Level) : Except UsageFault Unit :=
  if !level.compatible parameters then .error .conflict
  else if level.lacks parameters then .error .missingArgument
  else .ok ()

/-- Settle what is pending and add what the environment and the defaults say. -/
def complete
    (parameters : List Parameter)
    (environment : Environment)
    (level : Level) : Except UsageFault Level := do
  let level ← level.settle
  let level ← parameters.foldlM (addEnvironment environment) level
  pure (parameters.foldl addDefault level)

end Level

end DeviceLink.CommandLine
