import DeviceLink.Proofs.Config.Layering
import DeviceLink.Proofs.Queue.HandshakeConnection
import DeviceLink.Tool.Session

/-!
# Time limits

How long a handshake, a write or a whole command may take is added up from the
settings of the configuration, with a check after each sum and product. The
checks amount to one check of the exact total. The total of a handshake is
always a duration. That of a write is multiplied by the number of attempts and
can pass the limit of durations, and then a run that sends a command breaks
down when it has opened the port and is about to wait.
-/

namespace DeviceLink

/-! ## Checked sums and products -/

namespace Duration

variable {nanos : Nat} {span : Duration}

theorem ofNanos?_eq_some_iff : ofNanos? nanos = some span ↔ span.nanos = nanos := by
  constructor
  · exact nanos_of_ofNanos?
  · rintro rfl
    exact dif_pos span.nanos_lt

theorem ofNanos?_eq_none_iff : ofNanos? nanos = none ↔ limit ≤ nanos := by
  unfold ofNanos?
  split
  next within => exact iff_of_false (Option.some_ne_none _) (Nat.not_le_of_lt within)
  next past => exact iff_of_true rfl (Nat.le_of_not_lt past)

theorem ofNanos?_nanos (span : Duration) : ofNanos? span.nanos = some span :=
  ofNanos?_eq_some_iff.2 rfl

/-- A checked sum of checked values is one check of the exact sum. -/
theorem ofNanos?_add (first second : Nat) :
    ofNanos? (first + second) =
      (ofNanos? first).bind fun left => (ofNanos? second).bind fun right => left.add? right := by
  cases known : ofNanos? first with
  | none =>
      have past := ofNanos?_eq_none_iff.1 known
      exact ofNanos?_eq_none_iff.2 (by omega)
  | some left =>
      cases knownToo : ofNanos? second with
      | none =>
          have past := ofNanos?_eq_none_iff.1 knownToo
          exact ofNanos?_eq_none_iff.2 (by omega)
      | some right =>
          rw [← nanos_of_ofNanos? known, ← nanos_of_ofNanos? knownToo]
          rfl

/-- A checked multiple of a checked value is one check of the exact multiple, if it is not zero. -/
theorem ofNanos?_mul {count : Nat} (positive : 0 < count) (nanos : Nat) :
    ofNanos? (nanos * count) = (ofNanos? nanos).bind fun span => span.times? count := by
  cases known : ofNanos? nanos with
  | none =>
      have past := ofNanos?_eq_none_iff.1 known
      exact ofNanos?_eq_none_iff.2 (Nat.le_trans past (Nat.le_mul_of_pos_right nanos positive))
  | some span =>
      rw [← nanos_of_ofNanos? known]
      rfl

/-- Durations end at the number of seconds that a word of 64 bits cannot hold. -/
theorem exists_ofNanos?_of_millis_lt {millis : Nat} (within : millis < 1000 * UInt64.size) :
    ∃ span, ofNanos? (millis * 1000000) = some span ∧ span.nanos = millis * 1000000 := by
  have bounded : millis * 1000000 < limit := by
    simp only [limit]
    omega
  exact ⟨⟨millis * 1000000, bounded⟩, ofNanos?_eq_some_iff.2 rfl, rfl⟩

theorem ofNanos?_millis_eq_none_iff {millis : Nat} :
    ofNanos? (millis * 1000000) = none ↔ 1000 * UInt64.size ≤ millis := by
  rw [ofNanos?_eq_none_iff]
  simp only [limit]
  omega

end Duration

/-- The longest time of a write is absent exactly when the exact time is no duration. -/
theorem LineSettings.worstCaseWrite?_eq (settings : LineSettings) :
    settings.worstCaseWrite? = Duration.ofNanos? settings.worstCaseWriteNanos := by
  rw [worstCaseWriteNanos, Duration.ofNanos?_mul settings.attempts_pos]
  rfl

/-- The time budget of a handshake is absent exactly when the exact budget is no duration. -/
theorem Handshake.timeBudget?_eq (handshake : Handshake) :
    handshake.timeBudget? = Duration.ofNanos? handshake.timeBudgetNanos := by
  rw [timeBudgetNanos, Nat.mul_comm, Duration.ofNanos?_add,
    Duration.ofNanos?_mul (by decide), Duration.ofNanos?_nanos]
  exact (Option.bind_assoc _ _ _).symm

/-- The wait for a command is absent exactly when the time of the write and two reads is no
duration. -/
theorem SendOptions.timeout?_eq (settings : LineSettings) (queue : QueueSettings) :
    timeout? settings queue =
      (Duration.ofNanos? (settings.worstCaseWriteNanos + settings.readTimeout.nanos * 2)).map
        queue.taskTimeout.longer := by
  rw [Duration.ofNanos?_add, Duration.ofNanos?_mul (by decide), Duration.ofNanos?_nanos,
    ← settings.worstCaseWrite?_eq, timeout?]
  cases settings.worstCaseWrite? with
  | none => rfl
  | some write =>
      rw [Option.bind_some, Option.bind_some]
      cases settings.readTimeout.times? 2 with
      | none => rfl
      | some read =>
          change (write.add? read).bind _ = Option.map _ (write.add? read)
          cases write.add? read <;> rfl

/-! ## The timing of a configuration -/

namespace Config

/-- The read timeout of a configuration, in milliseconds. -/
def readMillis (config : Config) : Nat :=
  ((config.get? .readTimeout).getD 1000).toNat

/-- The drain timeout of a configuration, in milliseconds. -/
def drainMillis (config : Config) : Nat :=
  ((config.get? .drainTimeout).getD 5000).toNat

/-- The number of times that a configuration has a command written. -/
def attempts (config : Config) : Nat :=
  max 1 ((config.get? .maxRetries).getD 5).toNat

section Timing

variable (config : Config)

theorem readMillis_lt : config.readMillis < UInt64.size :=
  UInt64.toNat_lt _

theorem drainMillis_lt : config.drainMillis < UInt64.size :=
  UInt64.toNat_lt _

theorem nanos_readTimeout : config.lineSettings.readTimeout.nanos = config.readMillis * 1000000 := by
  unfold lineSettings readMillis get?
  cases config.line.readTimeout <;> rfl

theorem nanos_drainTimeout :
    config.lineSettings.drainTimeout.nanos = config.drainMillis * 1000000 := by
  unfold lineSettings drainMillis get?
  cases config.line.drainTimeout <;> rfl

theorem attempts_lineSettings : config.lineSettings.attempts = config.attempts :=
  Nat.max_comm _ _

theorem worstCaseWriteNanos_lineSettings :
    config.lineSettings.worstCaseWriteNanos =
      (config.readMillis + config.drainMillis) * config.attempts * 1000000 := by
  rw [LineSettings.worstCaseWriteNanos, nanos_readTimeout, nanos_drainTimeout,
    attempts_lineSettings, ← Nat.add_mul, Nat.mul_right_comm]

/-- The wait for a command, from the timing of the configuration. -/
theorem timeout?_lineSettings (queue : QueueSettings) :
    SendOptions.timeout? config.lineSettings queue =
      (Duration.ofNanos? (((config.readMillis + config.drainMillis) * config.attempts
        + 2 * config.readMillis) * 1000000)).map queue.taskTimeout.longer := by
  have total : (config.readMillis + config.drainMillis) * config.attempts * 1000000
        + config.readMillis * 1000000 * 2 =
      ((config.readMillis + config.drainMillis) * config.attempts + 2 * config.readMillis)
        * 1000000 := by
    omega
  rw [SendOptions.timeout?_eq, worstCaseWriteNanos_lineSettings, nanos_readTimeout, total]

/-- Up to 499 attempts leave room for the write and two reads, whatever the timeouts are. -/
theorem wait_lt_of_attempts_le (few : config.attempts ≤ 499) :
    (config.readMillis + config.drainMillis) * config.attempts + 2 * config.readMillis <
      1000 * UInt64.size := by
  have read := config.readMillis_lt
  have drain := config.drainMillis_lt
  have write : (config.readMillis + config.drainMillis) * config.attempts ≤
      (config.readMillis + config.drainMillis) * 499 :=
    Nat.mul_le_mul_left _ few
  -- With the product bounded the rest is linear, and exact: 500 attempts can pass the limit.
  omega

end Timing

end Config

/-! ## Handshakes -/

namespace HandshakeOptions

/-- The settle delay that the options or the configuration ask for, in milliseconds. -/
def settleTime (wanted : HandshakeOptions) (config : Config) : Nat :=
  ((wanted.settleMillis.or (config.get? .settleDelay)).getD 600).toNat

variable {wanted : HandshakeOptions} {config : Config} {handshake : Handshake}

theorem settleTime_lt (wanted : HandshakeOptions) (config : Config) :
    wanted.settleTime config < UInt64.size :=
  UInt64.toNat_lt _

theorem settings_of_handshake? (asked : wanted.handshake? config = some handshake) :
    handshake.settings = config.lineSettings := by
  obtain ⟨startup, -, asked⟩ := Option.bind_eq_some_iff.1 asked
  obtain ⟨response, -, asked⟩ := Option.bind_eq_some_iff.1 asked
  cases asked
  rfl

theorem nanos_settleDelay (asked : wanted.handshake? config = some handshake) :
    handshake.settleDelay.nanos = wanted.settleTime config * 1000000 := by
  rw [settleDelay_of_handshake? asked, settleTime]
  cases wanted.settleMillis.or (config.get? .settleDelay) <;> rfl

/-- The time budget of a handshake that was asked for is exact, and always a duration. -/
theorem exists_timeBudget (asked : wanted.handshake? config = some handshake) :
    ∃ budget, handshake.timeBudget? = some budget ∧
      budget.nanos =
        (2 * (config.drainMillis + config.readMillis) + wanted.settleTime config) * 1000000 := by
  have total : handshake.timeBudgetNanos =
      (2 * (config.drainMillis + config.readMillis) + wanted.settleTime config) * 1000000 := by
    rw [Handshake.timeBudgetNanos, settings_of_handshake? asked, nanos_settleDelay asked,
      config.nanos_readTimeout, config.nanos_drainTimeout]
    omega
  have within : handshake.timeBudgetNanos < Duration.limit := by
    have read := config.readMillis_lt
    have drain := config.drainMillis_lt
    have settle := wanted.settleTime_lt config
    simp only [total, Duration.limit]
    omega
  refine ⟨⟨handshake.timeBudgetNanos, within⟩, ?_, total⟩
  rw [handshake.timeBudget?_eq]
  exact Duration.ofNanos?_eq_some_iff.2 rfl

end HandshakeOptions

namespace QueueSession

variable {handshake : Handshake} {budget : Duration}

/-- A handshake with a time budget is carried out without a break down. -/
theorem performHandshake_ne_crash
    (within : handshake.timeBudget? = some budget)
    (session : QueueSession SerialPort) :
    (session.performHandshake handshake).1 ≠ .error .crash := by
  rw [performHandshake_of_budget within, judgeAnswer]
  have judged (outcome : Except LinkError Unit) : Line.outcomeOf outcome ≠ .error .crash := by
    cases outcome with
    | ok done => rintro ⟨⟩
    | error cause => rintro ⟨⟩
  rcases session.executeWithin (.ofHandshake handshake) _ with ⟨cause | response, later⟩
  · rintro ⟨⟩
  · exact judged _

theorem finishHandshake_ne_crash
    (within : handshake.timeBudget? = some budget)
    (session : QueueSession SerialPort) :
    (session.finishHandshake handshake).1 ≠ .error .crash := by
  have performed := performHandshake_ne_crash within session
  unfold finishHandshake
  cases ended : session.performHandshake handshake with
  | mk outcome later =>
      rw [ended] at performed
      cases outcome with
      | ok done => exact nofun
      | error fault =>
          rintro ⟨⟩
          exact performed rfl

end QueueSession

/-! ## Parts of a run that do not break down -/

namespace Run

/-- The part does not break down on any machine. -/
def NeverCrashes {α : Type} (run : Run α) : Prop :=
  ∀ machine, (run machine).1 ≠ .error .crashed

namespace NeverCrashes

variable {α β : Type}

theorem stop_ne
    {run : Run α}
    {machine later : Machine}
    {stop : Stop}
    (safe : NeverCrashes run)
    (stopped : run machine = (.error stop, later)) :
    (.error stop : Except Stop β) ≠ .error .crashed := by
  rintro ⟨⟩
  exact safe machine (congrArg Prod.fst stopped)

theorem bind
    {first : Run α}
    {next : α → Run β}
    (firstSafe : NeverCrashes first)
    (nextSafe : ∀ value, NeverCrashes (next value)) :
    NeverCrashes (first >>= next) := by
  intro machine
  rw [bind_apply]
  cases ended : first machine with
  | mk outcome later =>
      cases outcome with
      | ok value => exact nextSafe value later
      | error stop => exact firstSafe.stop_ne ended

theorem pure (value : α) : NeverCrashes (Pure.pure value : Run α) := by
  intro machine
  exact nofun

theorem look (view : Machine → α) : NeverCrashes (look view) := by
  intro machine
  exact nofun

theorem change (edit : Machine → Machine) : NeverCrashes (change edit) := by
  intro machine
  exact nofun

theorem remark (line : String) : NeverCrashes (remark line) :=
  change _

theorem print (text : String) : NeverCrashes (print text) :=
  change _

theorem ofCause (outcome : Except FailureCause α) : NeverCrashes (ofCause outcome) := by
  intro machine
  cases outcome with
  | ok value => exact nofun
  | error cause => exact nofun

theorem ofLink (contexts : List String) (outcome : Except LinkError α) :
    NeverCrashes (ofLink contexts outcome) := by
  intro machine
  cases outcome with
  | ok value => exact nofun
  | error cause => exact nofun

theorem ofFault
    (contexts : List String)
    {outcome : Except Fault α}
    (safe : outcome ≠ .error .crash) :
    NeverCrashes (ofFault contexts outcome) := by
  intro machine
  cases outcome with
  | ok value => exact nofun
  | error fault =>
      cases fault with
      | error cause => exact nofun
      | crash => exact absurd rfl safe

end NeverCrashes

/-- A selected port does not break a run down. -/
theorem neverCrashes_selectPort (options : Options) (config : Config) :
    NeverCrashes (selectPort options config) := by
  refine .bind (.look _) fun ports => .bind (.ofCause _) fun proposal => .bind ?_ fun _ => ?_
  · refine .bind (.look _) fun terminal => ?_
    split
    · exact .remark _
    · exact .pure _
  · intro machine
    exact NeverCrashes.ofCause _ _

theorem neverCrashes_openPort (context : String) (config : SerialConfig) :
    NeverCrashes (openPort context config) :=
  .bind (.look _) fun _ => .bind (.ofLink _ _) fun port => .bind (.change _) fun _ => .pure port

theorem neverCrashes_shakeHands
    {handshake : Handshake}
    {budget : Duration}
    (within : handshake.timeBudget? = some budget)
    (context : String)
    (session : QueueSession SerialPort) :
    NeverCrashes (shakeHands context handshake session) :=
  .bind (.change _) fun _ =>
    .bind (.ofFault _ (QueueSession.finishHandshake_ne_crash within session)) fun _ => .pure _

theorem neverCrashes_connectPort
    {handshake? : Option Handshake}
    (within : ∀ handshake ∈ handshake?, ∃ budget, handshake.timeBudget? = some budget)
    (serial : SerialConfig)
    (settings : QueueSettings) :
    NeverCrashes (connectPort serial handshake? settings) := by
  cases handshake? with
  | none => exact .bind (neverCrashes_openPort _ _) fun _ => .pure _
  | some handshake =>
      obtain ⟨budget, known⟩ := within handshake rfl
      exact .bind (neverCrashes_openPort _ _) fun _ => neverCrashes_shakeHands known _ _

/-- No configuration breaks a run down before its port is open. -/
theorem neverCrashes_openSerial
    (options : Options)
    (config : Config)
    (wanted : HandshakeOptions) :
    NeverCrashes (openSerial options config wanted) := by
  intro machine
  cases selection : selectPort options config machine with
  | mk outcome between =>
      cases outcome with
      | error stop =>
          unfold openSerial
          rw [bind_of_stop selection]
          exact (neverCrashes_selectPort options config).stop_ne selection
      | ok selected =>
          -- Remembering the port may change the configuration, but not what its budget depends on.
          obtain ⟨kept, later, -, opened⟩ := openSerial_of_selected selection wanted
          rw [opened]
          refine neverCrashes_connectPort ?_ _ _ later
          intro handshake asked
          obtain ⟨budget, known, -⟩ := HandshakeOptions.exists_timeBudget asked
          exact ⟨budget, known⟩

theorem neverCrashes_sendOver
    (json : Bool)
    (request : SerialCommand)
    (timeout : Duration)
    (session : QueueSession SerialPort) :
    NeverCrashes (sendOver json request timeout session) :=
  .bind (.change _) fun _ => .bind (.ofLink _ _) fun _ =>
    .bind (.print _) fun _ => .ofCause _

/-- A run that sends a command breaks down in two places only: when the length field of the reply
cannot be checked, and when the port is open and the wait for the command is no duration. -/
theorem send_crashed_iff
    (options : Options)
    (config : Config)
    (wanted : SendOptions)
    (machine : Machine) :
    (send options config wanted machine).1 = .error .crashed ↔
      wanted.shape = .error .crash ∨
        ∃ shape session later, wanted.shape = .ok shape ∧
          openSerial options config wanted.handshake machine = (.ok session, later) ∧
          SendOptions.timeout? config.lineSettings session.queue.settings = none := by
  unfold send
  cases shaped : wanted.shape with
  | error fault =>
      cases fault with
      | error cause => exact iff_of_false nofun (by simp)
      | crash => exact iff_of_true rfl (.inl rfl)
  | ok shape =>
      rw [bind_of_ok (rfl : ofFault [] (.ok shape) machine = (.ok shape, machine))]
      cases opened : openSerial options config wanted.handshake machine with
      | mk outcome later =>
          cases outcome with
          | error stop =>
              have safe := neverCrashes_openSerial options config wanted.handshake
              rw [bind_of_stop opened]
              exact iff_of_false (safe.stop_ne opened) (by simp)
          | ok session =>
              rw [bind_of_ok opened]
              cases timed : SendOptions.timeout? config.lineSettings session.queue.settings with
              | none => exact iff_of_true rfl (.inr ⟨shape, session, later, rfl, rfl, timed⟩)
              | some timeout =>
                  refine iff_of_false (neverCrashes_sendOver _ _ timeout session later) ?_
                  simp [timed]

end Run

/-! ## The limits -/

/-- The time budget of every handshake that options and a configuration ask for is exact, and no
handshake breaks down. The longest time of a write, and the wait for a command, are exact as long
as they are durations, which they are for all timeouts with up to 499 attempts; else they are
absent. A run that sends a command breaks down exactly when its length field cannot be checked, or
when its port is open and the wait is absent. -/
theorem timeLimits_exact (config : Config) :
    let read := config.readMillis
    let drain := config.drainMillis
    let write := (read + drain) * config.attempts
    let wait := write + 2 * read
    let limit := 1000 * UInt64.size
    (∀ wanted handshake, HandshakeOptions.handshake? wanted config = some handshake →
      (∃ budget, handshake.timeBudget? = some budget ∧
        budget.nanos = (2 * (drain + read) + wanted.settleTime config) * 1000000) ∧
      ∀ session : QueueSession SerialPort,
        (session.performHandshake handshake).1 ≠ .error .crash) ∧
    (write < limit → ∃ budget, config.lineSettings.worstCaseWrite? = some budget ∧
      budget.nanos = write * 1000000) ∧
    (limit ≤ write → config.lineSettings.worstCaseWrite? = none) ∧
    (∀ queue : QueueSettings,
      (wait < limit → ∃ timeout,
        SendOptions.timeout? config.lineSettings queue = some timeout ∧
          timeout.nanos = max queue.taskTimeout.nanos (wait * 1000000)) ∧
      (limit ≤ wait → SendOptions.timeout? config.lineSettings queue = none)) ∧
    (config.attempts ≤ 499 → wait < limit) ∧
    ∀ options wanted machine,
      (Run.send options config wanted machine).1 = .error .crashed ↔
        wanted.shape = .error .crash ∨
          (∃ shape, wanted.shape = .ok shape) ∧
          (∃ session later,
            Run.openSerial options config wanted.handshake machine = (.ok session, later)) ∧
          limit ≤ wait := by
  intro read drain write wait limit
  have absent (queue : QueueSettings) :
      SendOptions.timeout? config.lineSettings queue = none ↔ limit ≤ wait := by
    rw [config.timeout?_lineSettings, Option.map_eq_none_iff]
    exact Duration.ofNanos?_millis_eq_none_iff
  refine ⟨?_, ?_, ?_, ?_, config.wait_lt_of_attempts_le, ?_⟩
  · intro wanted handshake asked
    obtain ⟨budget, within, nanos⟩ := HandshakeOptions.exists_timeBudget asked
    exact ⟨⟨budget, within, nanos⟩, QueueSession.performHandshake_ne_crash within⟩
  · intro within
    rw [LineSettings.worstCaseWrite?_eq, config.worstCaseWriteNanos_lineSettings]
    exact Duration.exists_ofNanos?_of_millis_lt within
  · intro past
    rw [LineSettings.worstCaseWrite?_eq, config.worstCaseWriteNanos_lineSettings]
    exact Duration.ofNanos?_millis_eq_none_iff.2 past
  · intro queue
    refine ⟨fun within => ?_, (absent queue).2⟩
    obtain ⟨span, known, nanos⟩ := Duration.exists_ofNanos?_of_millis_lt within
    refine ⟨queue.taskTimeout.longer span, ?_, ?_⟩
    · rw [config.timeout?_lineSettings, known]
      rfl
    · rw [Duration.nanos_longer, nanos]
  · intro options wanted machine
    rw [Run.send_crashed_iff]
    refine or_congr_right ?_
    simp only [absent]
    constructor
    · rintro ⟨shape, session, later, shaped, opened, past⟩
      exact ⟨⟨shape, shaped⟩, ⟨session, later, opened⟩, past⟩
    · rintro ⟨⟨shape, shaped⟩, ⟨session, later, opened⟩, past⟩
      exact ⟨shape, session, later, shaped, opened, past⟩

/-- With the longest timeouts and 499 attempts the wait is the largest whole number of seconds that
is a duration, and the time budget of a handshake is far from the limit. -/
theorem timeLimits_exact_longest_timeouts :
    let config : Config :=
      { line := ⟨some 18446744073709551615, some 18446744073709551615, some 499⟩ }
    let wanted : HandshakeOptions :=
      { startup := some [0x52], response := some [0x4F], settleMillis := some 18446744073709551615 }
    (∃ handshake budget, wanted.handshake? config = some handshake ∧
      handshake.timeBudget? = some budget ∧
      budget.nanos = 5 * 18446744073709551615 * 1000000) ∧
    config.attempts ≤ 499 ∧
    ∃ timeout, SendOptions.timeout? config.lineSettings config.queueSettings = some timeout ∧
      timeout.nanos = 18446744073709551615 * 1000000000 := by
  intro config wanted
  obtain ⟨budgets, -, -, waits, enough, -⟩ := timeLimits_exact config
  have few : config.attempts ≤ 499 := by decide
  obtain ⟨handshake, asked⟩ : ∃ handshake, wanted.handshake? config = some handshake := ⟨_, rfl⟩
  obtain ⟨⟨budget, within, total⟩, -⟩ := budgets wanted handshake asked
  obtain ⟨timeout, timed, longest⟩ := (waits config.queueSettings).1 (enough few)
  refine ⟨⟨handshake, budget, asked, within, ?_⟩, few, timeout, timed, ?_⟩
  · rw [total]
    decide
  · rw [longest]
    decide

/-- A configuration file can ask for so many attempts with so long a timeout that the longest time
of a write is no duration. A run with it opens the port and breaks down before the command is sent,
although the device would have answered at once. All it does with the port is to close it again. -/
theorem timeLimits_crash_for_endless_attempts :
    let text := "[io]\nmax_retries = 4294967295\nread_timeout_ms = 9223372036854775807\n"
    let config : Config := { line := ⟨some 9223372036854775807, none, some 4294967295⟩ }
    let line : Line := Line.quiet [.answer [] (some {}) [.byte 7]] .silent
    let machine (entries : List (Place × FileEntry)) : Machine :=
      { files :=
          { tree := { entries := entries, working := [] }
            globalDirectory := some ["global"] }
        home := []
        dataDirectory := []
        configDirectory := []
        attached := some ⟨"ttyS0", line⟩ }
    let configured := machine [([localConfigName], .file text.toUTF8.toList)]
    let words := ["--port", "ttyS0", "send", "4C", "-n", "1"]
    Config.parse? text = some config ∧
    config.lineSettings.worstCaseWrite? = none ∧
    (∀ queue, SendOptions.timeout? config.lineSettings queue = none) ∧
    (configured.runTool words).1.exitCode = 101 ∧
    (configured.runTool words).2.history = [.closed "ttyS0", .opened "ttyS0"] ∧
    (configured.runTool words).2.attached.map (fun device => device.line.received) = some [] ∧
    ((machine []).runTool words).1.exitCode = 0 := by
  intro text config line machine configured words
  have absent : config.lineSettings.worstCaseWrite? = none := by decide +kernel
  refine ⟨by decide +kernel, absent, fun queue => ?_, by decide +kernel, by decide +kernel,
    by decide +kernel, by decide +kernel⟩
  rw [SendOptions.timeout?, absent]
  rfl

end DeviceLink
