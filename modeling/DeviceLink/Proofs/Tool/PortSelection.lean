import Mathlib.Data.List.Forall2
import DeviceLink.Tool.SerialCommands

/-!
# Which port is selected

A name means the first port with that path, in this or in another case, or a
port that the machine does not list. Without a name the known ports are the
candidates, or all ports. A single candidate is selected when it is known or
prompts are unwanted. Everything else takes an answer at a terminal, so when
nobody can or should be asked, the run stops and the machine is as before.
-/

namespace DeviceLink

/-! ## Known ports -/

namespace Config

/-- The port is of a known kind, or its ids are those of a device that the configuration lists. -/
def Recognises (config : Config) (port : DeviceDescriptor) : Prop :=
  port.kind ≠ .unknown ∨
    ∃ device ∈ config.serial.devices,
      port.vendor = some device.vendor ∧ port.product = some device.product

theorem lists_eq_true_iff {config : Config} {vendor product : UInt16} :
    config.lists vendor product = true ↔
      ∃ device ∈ config.serial.devices, device.vendor = vendor ∧ device.product = product := by
  simp [lists, KnownDevice.fits]

theorem knows_eq_true_iff {config : Config} {port : DeviceDescriptor} :
    config.knows port = true ↔ config.Recognises port := by
  have kind : port.kind.isKnown = true ↔ port.kind ≠ .unknown := by
    cases port.kind <;> decide
  rw [knows, Recognises, Bool.or_eq_true, kind]
  apply or_congr_right
  cases port.vendor with
  | none => simp
  | some vendor =>
      cases port.product with
      | none => simp
      | some product =>
          simp only [lists_eq_true_iff, Option.some_inj]
          simp only [eq_comm]

instance (config : Config) : DecidablePred config.Recognises := fun _ =>
  decidable_of_iff _ knows_eq_true_iff

theorem knows_eq_decide (config : Config) (port : DeviceDescriptor) :
    config.knows port = decide (config.Recognises port) := by
  rw [Bool.eq_iff_iff, knows_eq_true_iff, decide_eq_true_iff]

end Config

/-! ## Names up to case -/

/-- The characters are the same, or one ASCII letter in its two cases. -/
def SameLetter (first second : Char) : Prop :=
  first = second ∨
    (first.isUpper ∧ second.toNat = first.toNat + 32) ∨
    (second.isUpper ∧ first.toNat = second.toNat + 32)

theorem isUpper_iff {c : Char} : c.isUpper = true ↔ 65 ≤ c.toNat ∧ c.toNat ≤ 90 :=
  decide_eq_true_iff

theorem toNat_toLower (c : Char) :
    c.toLower.toNat = if c.isUpper then c.toNat + 32 else c.toNat := by
  by_cases upper : c.isUpper
  · have range := isUpper_iff.1 upper
    have lower : c.toLower.val = c.val + 32 :=
      congrArg Char.val (dif_pos (of_decide_eq_true upper))
    rw [if_pos upper, ← Char.toNat_val, lower, UInt32.toNat_add, Char.toNat_val]
    exact Nat.mod_eq_of_lt (by change c.toNat + 32 < 2 ^ 32; omega)
  · have same : c.toLower = c := dif_neg fun range => upper (decide_eq_true range)
    rw [if_neg upper, same]

theorem toLower_eq_toLower_iff {first second : Char} :
    first.toLower = second.toLower ↔ SameLetter first second := by
  rw [← Char.toNat_inj, toNat_toLower, toNat_toLower, SameLetter, ← Char.toNat_inj]
  simp only [isUpper_iff]
  split <;> split <;> omega

/-- The texts are the same character by character, up to the case of ASCII letters. -/
def SameUpToCase (first second : String) : Prop :=
  List.Forall₂ SameLetter first.toList second.toList

theorem Selection.sameName_eq_true_iff {first second : String} :
    sameName first second = true ↔ SameUpToCase first second := by
  have toList_toLower : ∀ text : String, text.toLower.toList = text.toList.map Char.toLower :=
    fun _ => String.toList_map
  rw [sameName, beq_iff_eq, ← String.toList_inj, toList_toLower, toList_toLower,
    ← List.forall₂_eq_eq_eq, List.forall₂_map_left_iff, List.forall₂_map_right_iff]
  simp only [toLower_eq_toLower_iff, SameUpToCase]

namespace Selection

/-! ## Named ports -/

/-- The port is the first one that fits. -/
def IsFirst
    (fits : DeviceDescriptor → Prop)
    (ports : List DeviceDescriptor)
    (port : DeviceDescriptor) : Prop :=
  ∃ before after, ports = before ++ port :: after ∧ fits port ∧ ∀ other ∈ before, ¬ fits other

theorem find?_eq_some_iff_isFirst
    {fits : DeviceDescriptor → Prop}
    {test : DeviceDescriptor → Bool}
    (tests : ∀ port, test port = true ↔ fits port)
    {ports : List DeviceDescriptor}
    {port : DeviceDescriptor} :
    ports.find? test = some port ↔ IsFirst fits ports port := by
  simp only [List.find?_eq_some_iff_append, IsFirst, ← tests, Bool.not_eq_true,
    Bool.not_eq_true', exists_and_left, and_left_comm]

/-- What a name means: the first port with this path, else the first with this path up to case,
else a port of this name that is not among those listed. -/
inductive Means (ports : List DeviceDescriptor) (name : String) : DeviceDescriptor → Prop
  | samePath {port}
      (first : IsFirst (fun port => port.path = name) ports port) :
      Means ports name port
  | otherCase {port}
      (absent : ∀ other ∈ ports, other.path ≠ name)
      (first : IsFirst (fun port => SameUpToCase port.path name) ports port) :
      Means ports name port
  | unlisted
      (absent : ∀ other ∈ ports, other.path ≠ name)
      (unlike : ∀ other ∈ ports, ¬ SameUpToCase other.path name) :
      Means ports name (.serial name)

theorem named_eq_iff_means
    {ports : List DeviceDescriptor}
    {name : String}
    {port : DeviceDescriptor} :
    named ports name = port ↔ Means ports name port := by
  have exactly : ∀ port : DeviceDescriptor, (port.path == name) = true ↔ port.path = name :=
    fun port => beq_iff_eq
  have upToCase : ∀ port : DeviceDescriptor,
      sameName port.path name = true ↔ SameUpToCase port.path name :=
    fun port => sameName_eq_true_iff
  have noneExactly : (∀ other ∈ ports, other.path ≠ name) →
      (ports.find? fun port => port.path == name) = none := by
    simp
  unfold named
  constructor
  · rintro rfl
    cases found : ports.find? fun port => port.path == name with
    | some port => exact .samePath ((find?_eq_some_iff_isFirst exactly).1 found)
    | none =>
        have absent : ∀ other ∈ ports, other.path ≠ name := by
          simpa using found
        cases similar : ports.find? fun port => sameName port.path name with
        | some port => exact .otherCase absent ((find?_eq_some_iff_isFirst upToCase).1 similar)
        | none =>
            refine .unlisted absent ?_
            intro other among
            rw [← upToCase]
            exact List.find?_eq_none.1 similar other among
  · intro means
    cases means with
    | samePath first =>
        rw [(find?_eq_some_iff_isFirst exactly).2 first]
        rfl
    | otherCase absent first =>
        rw [noneExactly absent, (find?_eq_some_iff_isFirst upToCase).2 first]
        rfl
    | unlisted absent unlike =>
        have nothing : (ports.find? fun port => sameName port.path name) = none := by
          rw [List.find?_eq_none]
          intro other among
          rw [upToCase]
          exact unlike other among
        rw [noneExactly absent, nothing]
        rfl

/-! ## Candidates -/

section Candidates

variable {listAll : Bool} {config : Config} {ports : List DeviceDescriptor}

/-- The candidates are the known ports if some are known and not all are wanted, else all ports. -/
theorem candidates_eq (listAll : Bool) (config : Config) (ports : List DeviceDescriptor) :
    candidates listAll config ports =
      if listAll = false ∧ ∃ port ∈ ports, config.Recognises port then
        ports.filter fun port => config.Recognises port
      else ports := by
  have known : ports.filter config.knows = ports.filter fun port => config.Recognises port :=
    List.filter_congr fun port _ => config.knows_eq_decide port
  have noneKnown : (ports.filter fun port => config.Recognises port).isEmpty = true ↔
      ¬ ∃ port ∈ ports, config.Recognises port := by
    simp
  rw [candidates, known]
  by_cases preferred : listAll = false ∧ ∃ port ∈ ports, config.Recognises port
  · rw [if_pos preferred, if_neg]
    simp only [Bool.or_eq_true, noneKnown, preferred.1, preferred.2]
    decide
  · rw [if_neg preferred, if_pos]
    rw [Bool.or_eq_true, noneKnown]
    exact (not_and_or.1 preferred).imp_left (by simp)

theorem recognises_of_mem_candidates
    {port : DeviceDescriptor}
    (among : port ∈ candidates false config ports)
    (someKnown : ∃ other ∈ ports, config.Recognises other) :
    config.Recognises port := by
  rw [candidates_eq, if_pos ⟨rfl, someKnown⟩] at among
  simpa using (List.mem_filter.1 among).2

theorem candidates_eq_nil_iff : candidates listAll config ports = [] ↔ ports = [] := by
  rw [candidates_eq]
  split
  · rename_i preferred
    obtain ⟨-, port, among, known⟩ := preferred
    constructor
    · intro noneLeft
      exact absurd known (by simpa using List.filter_eq_nil_iff.1 noneLeft port among)
    · rintro rfl
      rfl
  · rfl

end Candidates

/-! ## Proposals -/

/-- Why nothing is selected when nobody is asked. -/
def refusal (options : SelectionOptions) (ports : List DeviceDescriptor) : FailureCause :=
  if ports = [] then noPorts
  else if options.nonInteractive then
    .usage "multiple serial ports found; pass --port to choose one"
  else noTerminal

theorem refusal_isUsage (options : SelectionOptions) (ports : List DeviceDescriptor) :
    ∃ text, refusal options ports = .usage text := by
  unfold refusal
  split
  · exact ⟨_, rfl⟩
  · split
    · exact ⟨_, rfl⟩
    · exact ⟨_, rfl⟩

/-- What is proposed when no port is named. -/
inductive Proposed (options : SelectionOptions) (config : Config) (ports : List DeviceDescriptor) :
    Except FailureCause Proposal → Prop
  | taken {port}
      (only : candidates options.listAllPorts config ports = [port])
      (sure : options.nonInteractive = true ∨ config.Recognises port) :
      Proposed options config ports (.ok (.take (judged config port)))
  | unsure {port}
      (only : candidates options.listAllPorts config ports = [port])
      (asking : options.nonInteractive = false)
      (unknown : ¬ config.Recognises port) :
      Proposed options config ports (.ok (.confirm port))
  | several
      (many : ∀ port, candidates options.listAllPorts config ports ≠ [port])
      (asking : options.nonInteractive = false)
      (listed : ports ≠ []) :
      Proposed options config ports (.ok (.choose (candidates options.listAllPorts config ports)))
  | refused
      (many : ∀ port, candidates options.listAllPorts config ports ≠ [port])
      (silent : ports = [] ∨ options.nonInteractive = true) :
      Proposed options config ports (.error (refusal options ports))

section Proposals

variable {options : SelectionOptions} {config : Config} {ports : List DeviceDescriptor}

theorem propose_of_name
    {name : String}
    (named : options.port.or config.serial.port = some name)
    (ports : List DeviceDescriptor) :
    propose options config ports = .ok (.take (judged config (Selection.named ports name))) := by
  rw [propose, Option.orElse_eq_orElse, Option.orElse_eq_or, named]

/-- A single candidate is taken, or has to be confirmed. -/
theorem Proposed.of_single
    {port : DeviceDescriptor}
    (only : candidates options.listAllPorts config ports = [port]) :
    Proposed options config ports (proposeFrom options config [port]) := by
  by_cases sure : options.nonInteractive = true ∨ config.Recognises port
  · have taken : proposeFrom options config [port] = .ok (.take (judged config port)) := by
      unfold proposeFrom
      split
      · rfl
      · rename_i asking
        have known := Config.knows_eq_true_iff.2 (sure.resolve_left asking)
        simp [judged, known]
    rw [taken]
    exact .taken only sure
  · obtain ⟨asking, unknown⟩ := not_or.1 sure
    have confirm : proposeFrom options config [port] = .ok (.confirm port) := by
      simp [proposeFrom, asking, Config.knows_eq_true_iff, unknown]
    rw [confirm]
    exact .unsure only (by simpa using asking) unknown

/-- Among several candidates somebody has to choose. -/
theorem Proposed.of_several
    {first second : DeviceDescriptor}
    {others : List DeviceDescriptor}
    (found : candidates options.listAllPorts config ports = first :: second :: others) :
    Proposed options config ports (proposeFrom options config (first :: second :: others)) := by
  have many : ∀ port, candidates options.listAllPorts config ports ≠ [port] := by
    simp [found]
  have listed : ports ≠ [] := by
    rw [ne_eq, ← candidates_eq_nil_iff, found]
    exact List.cons_ne_nil _ _
  cases mode : options.nonInteractive with
  | true =>
      have refused : proposeFrom options config (first :: second :: others) =
          .error (refusal options ports) := by
        simp [proposeFrom, single, Except.map, refusal, mode, listed]
      rw [refused]
      exact .refused many (.inr mode)
  | false =>
      have choose : proposeFrom options config (first :: second :: others) =
          .ok (.choose (candidates options.listAllPorts config ports)) := by
        simp [proposeFrom, mode, found]
      rw [choose]
      exact .several many mode listed

theorem proposed_of_no_name
    (unnamed : options.port.or config.serial.port = none)
    (ports : List DeviceDescriptor) :
    Proposed options config ports (propose options config ports) := by
  unfold propose
  rw [Option.orElse_eq_orElse, Option.orElse_eq_or, unnamed]
  dsimp only
  split
  · rename_i isEmpty
    obtain rfl := List.isEmpty_iff.1 isEmpty
    have nothing : candidates options.listAllPorts config [] = [] := candidates_eq_nil_iff.2 rfl
    exact .refused (by simp [nothing]) (.inl rfl)
  · rename_i listed
    match found : candidates options.listAllPorts config ports with
    | [] => exact absurd (List.isEmpty_iff.2 (candidates_eq_nil_iff.1 found)) listed
    | [port] => exact .of_single found
    | first :: second :: others => exact .of_several found

example :
    propose {} {} [.serial "first", .usbSerial "second" 0x0403 0x6001] =
      .ok (.take ⟨.usbSerial "second" 0x0403 0x6001, true⟩) := by
  decide

/-- All the ports are offered, whatever their order. -/
theorem mem_offered {port : DeviceDescriptor} : port ∈ offered config ports ↔ port ∈ ports := by
  cases known : config.knows port <;> simp [offered, known]

/-- What is decided about a proposal is a candidate, with the answer whether it is known. -/
theorem Proposed.of_decide
    {proposal : Proposal}
    {terminal left : Terminal}
    {selected : SelectedPort}
    (proposed : Proposed options config ports (.ok proposal))
    (decided : Selection.decide config proposal terminal = (.ok selected, left)) :
    selected = judged config selected.port ∧
      selected.port ∈ candidates options.listAllPorts config ports := by
  cases proposed with
  | taken only sure =>
      cases decided
      exact ⟨rfl, by simp [only, judged]⟩
  | @unsure port only asking unknown =>
      cases terminal with
      | none => cases decided
      | some keys =>
          simp only [Selection.decide] at decided
          split at decided
          · cases decided
            have isUnknown : config.knows port = false := by
              rwa [Config.knows_eq_decide, decide_eq_false_iff_not]
            exact ⟨by rw [judged, isUnknown], by simp [only]⟩
          · cases decided
  | several many asking listed =>
      cases terminal with
      | none => cases decided
      | some keys =>
          simp only [Selection.decide] at decided
          split at decided
          · rename_i port answered
            obtain ⟨index, -, found⟩ := Option.bind_eq_some_iff.1 answered
            cases decided
            exact ⟨rfl, mem_offered.1 (List.mem_of_getElem? found)⟩
          · cases decided

end Proposals

end Selection

/-! ## Runs -/

/-- What the options say about the selection of a port. -/
def Options.selection (options : Options) : SelectionOptions :=
  ⟨options.port, options.listAllPorts, options.nonInteractive⟩

namespace Run

variable {options : Options} {config : Config} {machine later : Machine} {selected : SelectedPort}

/-- A selection makes a proposal, and announces it before it is carried out. -/
theorem selectPort_eq (options : Options) (config : Config) (machine : Machine) :
    selectPort options config machine =
      (ofCause (Selection.propose options.selection config
        (DeviceDescriptor.serialPorts machine.ports)) >>= fun proposal =>
          announceChoice proposal >>= fun _ => decide config proposal) machine := rfl

/-- Without a proposal the run stops. -/
theorem selectPort_of_refused
    {cause : FailureCause}
    (refused : Selection.propose options.selection config
      (DeviceDescriptor.serialPorts machine.ports) = .error cause) :
    selectPort options config machine = (.error (.failed (.of cause)), machine) := by
  rw [selectPort_eq, refused]
  rfl

section Proposed

variable {proposal : Selection.Proposal} {between : Machine}

/-- A proposal is announced and then carried out. -/
theorem selectPort_of_proposed
    (proposed : Selection.propose options.selection config
      (DeviceDescriptor.serialPorts machine.ports) = .ok proposal)
    (announced : announceChoice proposal machine = (.ok (), between)) :
    selectPort options config machine = decide config proposal between := by
  rw [selectPort_eq, proposed]
  exact (bind_of_ok rfl _).trans (bind_of_ok announced _)

/-- Nothing is announced when nobody can choose. -/
theorem announceChoice_of_no_terminal
    (noTerminal : machine.terminal = none)
    (proposal : Selection.Proposal) :
    announceChoice proposal machine = (.ok (), machine) := by
  unfold announceChoice
  refine (bind_of_ok rfl _).trans ?_
  rw [noTerminal]
  cases proposal <;> rfl

theorem announceChoice_ok (proposal : Selection.Proposal) (machine : Machine) :
    ∃ between, announceChoice proposal machine = (.ok (), between) := by
  cases terminal : machine.terminal with
  | none => exact ⟨machine, announceChoice_of_no_terminal terminal proposal⟩
  | some keys =>
      cases proposal with
      | take selected => exact ⟨machine, rfl⟩
      | confirm port => exact ⟨machine, rfl⟩
      | choose ports =>
          have announced : announceChoice (.choose ports) machine =
              remark ("ℹ Found " ++ toString ports.length ++ " serial ports") machine := by
            unfold announceChoice
            refine (bind_of_ok rfl _).trans ?_
            rw [terminal]
          exact ⟨_, announced⟩

/-- A port that is proposed is selected, and nobody is asked. -/
theorem selectPort_of_take
    (proposed : Selection.propose options.selection config
      (DeviceDescriptor.serialPorts machine.ports) = .ok (.take selected)) :
    selectPort options config machine = (.ok selected, machine) :=
  selectPort_of_proposed proposed rfl

/-- A proposal that needs an answer stops the run when there is no terminal. -/
theorem selectPort_of_question
    (proposed : Selection.propose options.selection config
      (DeviceDescriptor.serialPorts machine.ports) = .ok proposal)
    (question : ∀ selected, proposal ≠ .take selected)
    (noTerminal : machine.terminal = none) :
    selectPort options config machine =
      (.error (.failed (.of Selection.noTerminal)), machine) := by
  have asked : Selection.decide config proposal none = (.error Selection.noTerminal, none) := by
    cases proposal with
    | take selected => exact absurd rfl (question selected)
    | confirm port => rfl
    | choose ports => rfl
  rw [selectPort_of_proposed proposed (announceChoice_of_no_terminal noTerminal proposal), decide,
    noTerminal, asked, ← noTerminal]
  rfl

/-- Every selected port was decided about, at some terminal. -/
theorem decided_of_selectPort
    (selection : selectPort options config machine = (.ok selected, later)) :
    ∃ proposal terminal left,
      Selection.propose options.selection config
        (DeviceDescriptor.serialPorts machine.ports) = .ok proposal ∧
      Selection.decide config proposal terminal = (.ok selected, left) := by
  cases proposed : Selection.propose options.selection config
      (DeviceDescriptor.serialPorts machine.ports) with
  | error cause =>
      rw [selectPort_of_refused proposed] at selection
      cases selection
  | ok proposal =>
      obtain ⟨between, announced⟩ := announceChoice_ok proposal machine
      rw [selectPort_of_proposed proposed announced, decide] at selection
      cases decided : Selection.decide config proposal between.terminal with
      | mk outcome left =>
          rw [decided] at selection
          cases outcome with
          | ok port =>
              cases selection
              exact ⟨proposal, between.terminal, left, rfl, decided⟩
          | error cause => cases selection

end Proposed

/-- A name selects what it means. -/
theorem selectPort_of_name
    {name : String}
    (named : options.port.or config.serial.port = some name) :
    selectPort options config machine =
      (.ok (Selection.judged config
        (Selection.named (DeviceDescriptor.serialPorts machine.ports) name)), machine) :=
  selectPort_of_take (Selection.propose_of_name named _)

/-- Without a name, and with nobody asked, a single candidate is selected if it is known or prompts
are unwanted; in every other case the run stops. -/
theorem selectPort_unasked
    (unnamed : options.port.or config.serial.port = none)
    (unasked : options.nonInteractive = true ∨ machine.terminal = none) :
    let ports := DeviceDescriptor.serialPorts machine.ports
    let settles := fun port =>
      Selection.candidates options.listAllPorts config ports = [port] ∧
        (options.nonInteractive = true ∨ config.Recognises port)
    (∃ port, settles port ∧
      selectPort options config machine = (.ok (Selection.judged config port), machine)) ∨
    ((∀ port, ¬ settles port) ∧
      selectPort options config machine =
        (.error (.failed (.of (Selection.refusal options.selection ports))), machine)) := by
  intro ports settles
  have proposed : Selection.Proposed options.selection config ports _ :=
    Selection.proposed_of_no_name unnamed ports
  generalize proposal : Selection.propose options.selection config ports = result at proposed
  -- With prompts wanted, only the terminal is missing.
  have questioned : ∀ question, result = .ok question → (∀ selected, question ≠ .take selected) →
      options.nonInteractive = false → ports ≠ [] →
      selectPort options config machine =
        (.error (.failed (.of (Selection.refusal options.selection ports))), machine) := by
    intro question isQuestion needsAnswer asking listed
    have prompts : options.nonInteractive ≠ true := by simp [asking]
    rw [Selection.refusal, if_neg listed, Options.selection, if_neg prompts]
    exact selectPort_of_question (proposal.trans isQuestion) needsAnswer
      (unasked.resolve_left prompts)
  cases proposed with
  | @taken port only sure => exact .inl ⟨port, ⟨only, sure⟩, selectPort_of_take proposal⟩
  | @unsure port only asking unknown =>
      have listed : ports ≠ [] := by
        rw [ne_eq, ← Selection.candidates_eq_nil_iff, only]
        exact List.cons_ne_nil _ _
      refine .inr ⟨?_, questioned _ rfl nofun asking listed⟩
      rintro other ⟨single, sure⟩
      cases only.symm.trans single
      exact unknown (sure.resolve_left (Bool.eq_false_iff.1 asking))
  | several many asking listed =>
      exact .inr ⟨fun port settled => many port settled.1, questioned _ rfl nofun asking listed⟩
  | refused many silent =>
      exact .inr ⟨fun port settled => many port settled.1, selectPort_of_refused proposal⟩

/-- A selected port comes with the answer whether it is known. Without a name it is a candidate,
at a terminal as well. -/
theorem selectPort_selects
    (selection : selectPort options config machine = (.ok selected, later)) :
    selected = Selection.judged config selected.port ∧
      (options.port.or config.serial.port = none →
        selected.port ∈ Selection.candidates options.listAllPorts config
          (DeviceDescriptor.serialPorts machine.ports)) := by
  cases named : options.port.or config.serial.port with
  | some name =>
      rw [selectPort_of_name named] at selection
      cases selection
      exact ⟨rfl, nofun⟩
  | none =>
      obtain ⟨proposal, terminal, left, proposed, decided⟩ := decided_of_selectPort selection
      have cases : Selection.Proposed options.selection config _ _ :=
        Selection.proposed_of_no_name named (DeviceDescriptor.serialPorts machine.ports)
      rw [proposed] at cases
      obtain ⟨judged, among⟩ := cases.of_decide decided
      exact ⟨judged, fun _ => among⟩

/-- Which port is selected. A name, that of the options before that of the configuration, always
selects what it means. Without one the candidates are the known ports if there are some and not all
are wanted, else all ports. When prompts are unwanted the only candidate is selected, and without a
terminal the only candidate if it is known. Otherwise the run fails with exit code 2. In all these
cases the machine is left as it was: nothing was shown and no key was read. However a port was
selected, it comes with the answer whether it is known, and without a name it is known if some port
is and not all are wanted. -/
theorem selectPort_follows_preference
    (options : Options)
    (config : Config)
    (machine : Machine) :
    let ports := DeviceDescriptor.serialPorts machine.ports
    let name? := options.port.or config.serial.port
    let candidates :=
      if options.listAllPorts = false ∧ ∃ port ∈ ports, config.Recognises port then
        ports.filter fun port => config.Recognises port
      else ports
    let settles := fun port =>
      candidates = [port] ∧ (options.nonInteractive = true ∨ config.Recognises port)
    (∀ name, name? = some name →
      ∃ selected, selectPort options config machine = (.ok selected, machine) ∧
        Selection.Means ports name selected.port) ∧
    (name? = none → options.nonInteractive = true ∨ machine.terminal = none →
      (∃ selected, settles selected.port ∧
        selectPort options config machine = (.ok selected, machine)) ∨
      ((∀ port, ¬ settles port) ∧
        ∃ text failure,
          selectPort options config machine = (.error (.failed failure), machine) ∧
          failure.cause = .usage text ∧ failure.exitCode = 2)) ∧
    ∀ selected later, selectPort options config machine = (.ok selected, later) →
      (selected.known = true ↔ config.Recognises selected.port) ∧
      (name? = none →
        selected.port ∈ candidates ∧
        (options.listAllPorts = false → (∃ port ∈ ports, config.Recognises port) →
          config.Recognises selected.port)) := by
  intro ports name? candidates settles
  have preferred : Selection.candidates options.listAllPorts config ports = candidates :=
    Selection.candidates_eq _ _ _
  refine ⟨?_, ?_, ?_⟩
  · intro name named
    exact ⟨_, selectPort_of_name named, Selection.named_eq_iff_means.1 rfl⟩
  · intro unnamed unasked
    obtain ⟨port, settled, selection⟩ | ⟨unsettled, refused⟩ := selectPort_unasked unnamed unasked
    · exact .inl ⟨_, ⟨preferred.symm.trans settled.1, settled.2⟩, selection⟩
    · obtain ⟨text, isUsage⟩ := Selection.refusal_isUsage options.selection ports
      rw [isUsage] at refused
      refine .inr ⟨?_, text, _, refused, rfl, rfl⟩
      intro port settled
      exact unsettled port ⟨preferred.trans settled.1, settled.2⟩
  · intro selected later selection
    obtain ⟨judged, among⟩ := selectPort_selects selection
    refine ⟨?_, fun unnamed => ⟨preferred ▸ among unnamed, ?_⟩⟩
    · rw [judged, Selection.judged, Config.knows_eq_true_iff]
    · intro notAll someKnown
      have candidate := among unnamed
      rw [notAll] at candidate
      exact Selection.recognises_of_mem_candidates candidate someKnown

/-- Two ports have the same name up to case, and the ids of the first are known from the
configuration. The name of the second selects the second. Without a name the first is selected, and
none is when all ports are wanted. -/
theorem selectPort_follows_preference_listed_adapter :
    let config : Config := { serial := { devices := [⟨1, 2⟩] } }
    let adapter := DeviceDescriptor.usbSerial "COM3" 1 2
    let machine : Machine :=
      { files := { tree := { entries := [], working := [] }, globalDirectory := none }
        home := []
        dataDirectory := []
        configDirectory := []
        ports := some [⟨"COM3", some ⟨1, 2, none⟩⟩, ⟨"com3", none⟩] }
    let options (port : Option String) (all : Bool) : Options :=
      { port := port, listAllPorts := all, command := .listPorts false }
    (∃ selected, selectPort (options (some "com3") false) config machine =
        (.ok selected, machine) ∧
      selected.port = .serial "com3" ∧ selected.known = false) ∧
    (∃ selected, selectPort (options none false) config machine = (.ok selected, machine) ∧
      selected.port = adapter ∧ selected.known = true) ∧
    ∃ failure, selectPort (options none true) config machine = (.error (.failed failure), machine) ∧
      failure.exitCode = 2 := by
  intro config adapter machine options
  refine ⟨?_, ?_, ?_⟩
  · obtain ⟨byName, -, judges⟩ :=
      selectPort_follows_preference (options (some "com3") false) config machine
    obtain ⟨selected, selection, means⟩ := byName "com3" rfl
    have meant : selected.port = .serial "com3" := by
      rw [← Selection.named_eq_iff_means.2 means]
      decide
    obtain ⟨known, -⟩ := judges selected machine selection
    rw [meant] at known
    exact ⟨selected, selection, meant, Bool.eq_false_iff.2 (mt known.1 (by decide))⟩
  · obtain ⟨-, unnamed, judges⟩ := selectPort_follows_preference (options none false) config machine
    obtain ⟨selected, ⟨only, -⟩, selection⟩ | ⟨unsettled, -⟩ := unnamed rfl (.inr rfl)
    · obtain ⟨known, within⟩ := judges selected machine selection
      obtain ⟨among, prefers⟩ := within rfl
      have recognised := prefers rfl ⟨adapter, by decide, by decide⟩
      have meant : [adapter] = [selected.port] := only
      exact ⟨selected, selection, (List.cons.inj meant).1.symm, known.2 recognised⟩
    · exact absurd ⟨by decide, .inr (by decide)⟩ (unsettled adapter)
  · obtain ⟨-, unnamed, -⟩ := selectPort_follows_preference (options none true) config machine
    obtain ⟨selected, ⟨only, -⟩, -⟩ | ⟨-, text, failure, refused, -, usage⟩ :=
      unnamed rfl (.inr rfl)
    · have two : 2 = 1 := congrArg List.length only
      omega
    · exact ⟨failure, refused, usage⟩

end Run

end DeviceLink
