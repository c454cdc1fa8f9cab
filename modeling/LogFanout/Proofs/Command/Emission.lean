import LogFanout.Proofs.Command.Agreement
import LogFanout.Proofs.Logger.Single
import LogFanout.Proofs.Registry.Sending

/-!
# Sending one message

A message is sent through a logger that is set up for it and shut down again. `Emission` tells by
the calls on the writers what this comes to, and `run_emits` that nothing else can: whatever becomes
of the writes, the command succeeds if its logger could be set up. To say so for writes that come to
anything, the command is carried out over any writers (`EmitArguments.runBy`).
-/

namespace LogFanout

open World (builtins)

variable {ω σ : Type}

/-- Of a row of plans that come after the plans `earlier`, those that start enabled can be
opened. -/
def Plan.AllOpen (w : Writers ω σ) (start : σ) (earlier plans : List Plan) : Prop :=
  ∀ before plan after, plans = before ++ plan :: after → plan.enabled = true →
    (plan.opening w (Plan.openAll w start (earlier ++ before))).1 = .ok ()

namespace Command

/-- The blueprint of the logger that a message goes through. -/
def blueprintFor (host : Host) (config : Option String) : Except LoadError Blueprint :=
  match config with
  | none => .ok .standard
  | some path => Blueprint.load host path

/-- What is said of a configuration that was not loaded. -/
def unloadedChain (config : Option String) (why : LoadError) : List String :=
  ("Failed to load config from " ++ config.getD "") :: why.chain

/-- What is said of a logger that was not set up. -/
def refusedChain (why : RegistryError) : List String :=
  "Failed to set up endpoints" :: why.chain

/-- Builds the logger that a message goes through from any writers. -/
def emitLoggerBy (w : Writers ω σ) (host : Host) (config : Option String) (s : σ) :
    Except (List String) (Logger ω) × σ :=
  match blueprintFor host config with
  | .error why => (.error (unloadedChain config why), s)
  | .ok blueprint => Prod.map (Except.mapError refusedChain) id (blueprint.build w s)

end Command

namespace EmitArguments

/-- The message that is sent. -/
def message (arguments : EmitArguments) : Message :=
  ⟨arguments.rank, arguments.tag, Command.messageText arguments.words⟩

variable [DecidableEq ω]

/-- Sends one message over any writers; `say` prints a text on standard error. -/
def runBy (w : Writers ω σ) (say : String → σ → Except SystemFault Unit × σ)
    (arguments : EmitArguments) (host : Host) (now : Instant) (s : σ) : Command.Outcome × σ :=
  match Command.emitLoggerBy w host arguments.config s with
  | (.error why, s) => (⟨.error why, []⟩, s)
  | (.ok logger, s) =>
    let (logger, s) := logger.print w now arguments.message s
    let snapshot := logger.snapshot
    let (reported, s) := arguments.report say snapshot s
    (⟨reported, snapshot.published⟩, logger.shutdown w s)

end EmitArguments

lemma Command.emitLogger_eq (host : Host) (config : Option String) (world : World) :
    emitLogger host config world = emitLoggerBy (builtins host) host config world := by
  cases config with
  | none => rfl
  | some path =>
    simp only [emitLogger, emitLoggerBy, blueprintFor]
    rcases Blueprint.load host path with why | blueprint
    · rfl
    · simp only
      rcases blueprint.build (builtins host) world with ⟨why | logger, world'⟩ <;> rfl

/-- The command is the one over built-in writers. -/
lemma EmitArguments.run_eq (arguments : EmitArguments) (host : Host) (now : Instant)
    (world : World) :
    arguments.run host now world =
      arguments.runBy (builtins host) (World.print host Command.standardError) host now world := by
  rw [run, runBy, Command.emitLogger_eq]
  rcases Command.emitLoggerBy (builtins host) host arguments.config world with
    ⟨why | logger, world'⟩ <;> rfl

namespace EmitArguments

variable [DecidableEq ω] {w : Writers ω σ} {say : String → σ → Except SystemFault Unit × σ}
  {arguments : EmitArguments} {host : Host} {s s' : σ} {blueprint : Blueprint}

lemma runBy_unloaded {why : LoadError} (now : Instant)
    (found : Command.blueprintFor host arguments.config = .error why) :
    arguments.runBy w say host now s =
      (⟨.error (Command.unloadedChain arguments.config why), []⟩, s) := by
  rw [runBy, Command.emitLoggerBy, found]

lemma runBy_refused {why : RegistryError} (now : Instant)
    (found : Command.blueprintFor host arguments.config = .ok blueprint)
    (built : blueprint.build w s = (.error why, s')) :
    arguments.runBy w say host now s = (⟨.error (Command.refusedChain why), []⟩, s') := by
  rw [runBy, Command.emitLoggerBy, found]
  simp only [built, Prod.map, Except.mapError, id]

lemma runBy_built {logger logger' : Logger ω} {s₁ s₂ : σ} {now : Instant}
    {reported : Except (List String) Unit}
    (found : Command.blueprintFor host arguments.config = .ok blueprint)
    (built : blueprint.build w s = (.ok logger, s'))
    (printed : logger.print w now arguments.message s' = (logger', s₁))
    (said : arguments.report say logger'.snapshot s₁ = (reported, s₂)) :
    arguments.runBy w say host now s =
      (⟨reported, logger'.snapshot.published⟩, logger'.shutdown w s₂) := by
  rw [runBy, Command.emitLoggerBy, found]
  simp only [built, Prod.map, Except.mapError, id, printed, said]

end EmitArguments

section Mapped

variable {σ' : Type} {f : σ' → σ} {w' : Writers ω σ'} {w : Writers ω σ}

lemma Logger.print_map [DecidableEq ω] (maps : w'.Maps f w) (now : Instant) (message : Message)
    (logger : Logger ω) (s : σ') :
    logger.print w now message (f s) = Prod.map id f (logger.print w' now message s) := by
  rw [print, print]
  split
  · rfl
  · simp only [Registry.fanOut, Registry.fanOutWithin_map maps, Prod.map, id]

lemma Command.emitLoggerBy_map (maps : w'.Maps f w) (host : Host) (config : Option String)
    (s : σ') :
    emitLoggerBy w host config (f s) = Prod.map id f (emitLoggerBy w' host config s) := by
  rw [emitLoggerBy, emitLoggerBy]
  rcases blueprintFor host config with why | blueprint
  · rfl
  · simp only [Blueprint.build_map maps, Prod.map, id]

section Saying

variable {say : String → σ → Except SystemFault Unit × σ}
  {say' : String → σ' → Except SystemFault Unit × σ'}

lemma EmitArguments.report_map (same : ∀ text s, say text (f s) = Prod.map id f (say' text s))
    (arguments : EmitArguments) (snapshot : Snapshot) (s : σ') :
    arguments.report say snapshot (f s) = Prod.map id f (arguments.report say' snapshot s) := by
  rw [report, report]
  split
  · simp only [same, Prod.map, id]
  · rfl

lemma EmitArguments.runBy_map [DecidableEq ω] (maps : w'.Maps f w)
    (same : ∀ text s, say text (f s) = Prod.map id f (say' text s)) (arguments : EmitArguments)
    (host : Host) (now : Instant) (s : σ') :
    arguments.runBy w say host now (f s) =
      Prod.map id f (arguments.runBy w' say' host now s) := by
  rw [runBy, runBy, Command.emitLoggerBy_map maps]
  rcases Command.emitLoggerBy w' host arguments.config s with ⟨why | logger, s₁⟩
  · rfl
  · simp only [Prod.map, id, Logger.print_map maps, report_map same, Logger.shutdown,
      Registry.clear_map maps]

end Saying

end Mapped

/-- Words with single blanks between them. -/
inductive Command.Spaced : (words : List String) → String → Prop where
  | none :
    Spaced [] ""
  | last {word} :
    Spaced [word] word
  | more {word next words text} :
    Spaced (next :: words) text →
    Spaced (word :: next :: words) (word ++ " " ++ text)

/-- How the counters are printed, and what comes of it. -/
inductive EmitArguments.Reports (say : String → σ → Except SystemFault Unit × σ)
    (arguments : EmitArguments) (snapshot : Snapshot) (s : σ) :
    Except (List String) Unit → σ → Prop where
  | unasked :
    arguments.stats = false →
    Reports say arguments snapshot s (.ok ()) s
  | printed {text s'} :
    arguments.stats = true →
    snapshot.Shown text →
    say text s = (.ok (), s') →
    Reports say arguments snapshot s (.ok ()) s'
  | refused {text why s'} :
    arguments.stats = true →
    snapshot.Shown text →
    say text s = (.error why, s') →
    Reports say arguments snapshot s (.error ["failed printing to stderr: " ++ why.message]) s'

/-- What sending one message comes to: the outcome, the calls made on writers, and the state left
behind. -/
inductive EmitArguments.Emission [DecidableEq ω] (w : Writers ω σ)
    (say : String → σ → Except SystemFault Unit × σ) (arguments : EmitArguments) (host : Host)
    (now : Instant) (start : σ) : Command.Outcome → List (Call ω) → σ → Prop where
  /-- The configuration is not loaded; no writer is called. -/
  | unloaded {why} :
    Command.blueprintFor host arguments.config = .error why →
    Emission w say arguments host now start
      ⟨.error (Command.unloadedChain arguments.config why), []⟩ [] start
  /-- An endpoint that starts enabled cannot be opened; those before it are closed again, and
  nothing is written. -/
  | refused {blueprint before plan after why opening closing s} :
    Command.blueprintFor host arguments.config = .ok blueprint →
    blueprint.plans = before ++ plan :: after →
    Plan.AllOpen w start blueprint.seeds before →
    plan.enabled = true →
    (plan.opening w (Plan.openAll w start (blueprint.seeds ++ before))).1 = .error why →
    Call.Bracket opening closing →
    Writeless (opening ++ closing) →
    Emission w say arguments host now start
      ⟨.error (Command.refusedChain (.initFailed plan.name why)), []⟩ (opening ++ closing) s
  /-- All endpoints that start enabled are opened; the message is written to them, and they are
  closed. In between, the counters are published and, if asked for, printed. -/
  | sent {blueprint logger s opening writing closing text snapshot measurements reported s'} :
    Command.blueprintFor host arguments.config = .ok blueprint →
    Plan.AllOpen w start blueprint.seeds blueprint.plans →
    blueprint.build w start = (.ok logger, s) →
    logger.Embodies w start blueprint →
    Command.Spaced arguments.words text →
    logger.Prints now ⟨arguments.rank, arguments.tag, text⟩ writing snapshot →
    snapshot.Publishes measurements →
    arguments.Reports say snapshot
      (logger.print w now ⟨arguments.rank, arguments.tag, text⟩ s).2 reported s' →
    Call.Bracket opening closing →
    Emission w say arguments host now start ⟨reported, measurements⟩
      (opening ++ writing ++ closing) (logger.shutdown w s')

/-- Printing is no call on a writer. -/
def Command.unrecorded (say : String → σ → Except SystemFault Unit × σ) (text : String)
    (s : σ × List (Call ω)) : Except SystemFault Unit × σ × List (Call ω) :=
  ((say text s.1).1, (say text s.1).2, s.2)

/-- Sending one message gives `ran`, and the calls made meanwhile are those of an emission. -/
def EmitArguments.Emits [DecidableEq ω] (w : Writers ω σ)
    (say : String → σ → Except SystemFault Unit × σ) (arguments : EmitArguments) (host : Host)
    (now : Instant) (start : σ) (ran : Command.Outcome × σ) : Prop :=
  ∃ calls,
    arguments.runBy w.recorded (Command.unrecorded say) host now (start, []) =
      (ran.1, ran.2, calls) ∧
    arguments.Emission w say host now start ran.1 calls ran.2

/-- All writers that were made since the world was `start` are shut, and the earlier ones are what
they were. -/
structure World.Settled (start world : World) : Prop where
  shut : ∀ number, start.writers.length ≤ number → (world.writer number).isOpen = false
  kept : ∀ number < start.writers.length, world.writer number = start.writer number

/-- A plan that could not be opened is enrolled, and those before it are. -/
lemma Plan.Stops.enrolled {w : Writers ω σ} {start s : σ} {earlier : List Plan} {plan : Plan}
    {why : InitFault} {r : Registry ω} {calls : List (Call ω)}
    (stops : plan.Stops w start earlier (.initFailed plan.name why) r s calls) :
    Enrolled w start (earlier ++ [plan]) r s calls := by
  cases stops with
  | named _ other => exact absurd rfl (other why)
  | unopened refused enrolled =>
    cases refused with
    | unopened named absent =>
      exact enrolled.more named
        (Option.not_isSome_iff_eq_none.mp fun taken => absent (enrolled.contains_iff.mp taken))

namespace Blueprint.Acceptable

variable {w : Writers ω σ} {start s : σ} {blueprint : Blueprint} {before after : List Plan}

lemma allOpen (acceptable : blueprint.Acceptable) (split : blueprint.plans = before ++ after)
    (pass : Plan.Pass w start blueprint.seeds before) :
    Plan.AllOpen w start blueprint.seeds before := by
  intro before' plan after' eq on
  cases outcome : (plan.opening w (Plan.openAll w start (blueprint.seeds ++ before'))).1 with
  | ok => rfl
  | error why =>
    rw [eq, List.append_assoc, List.cons_append] at split
    exact absurd ((acceptable.unopened_iff split).mpr ⟨why, rfl, on, outcome⟩) (pass _ _ _ eq _)

lemma embodies {r : Registry ω} {calls : List (Call ω)} (acceptable : blueprint.Acceptable)
    (pass : Plan.Pass w start blueprint.seeds blueprint.plans)
    (enrolled : Enrolled w start (blueprint.seeds ++ blueprint.plans) r s calls) :
    Logger.Embodies w start blueprint
      ⟨r, max blueprint.settings.capacity.toNat LineBuffer.minCapacity⟩ where
  capacity := Nat.max_eq_left (Nat.le_trans (by decide) acceptable.capacity.1)
  names := enrolled.names_perm
  enabled _ mem := pass.isEnabled_eq enrolled mem
  seed seeded := by
    have place : blueprint.seeds ++ blueprint.plans = [] ++ .seed :: blueprint.plans := by
      rw [seeds, if_pos seeded]
      rfl
    exact enrolled.isEnabled_eq place

/-- A build sets up all plans, or one that starts enabled cannot be opened. -/
lemma build_recorded (acceptable : blueprint.Acceptable) (w : Writers ω σ) (start : σ) :
    (∃ r s opening,
      blueprint.build w.recorded (start, []) =
        (.ok ⟨r, max blueprint.settings.capacity.toNat LineBuffer.minCapacity⟩, s, opening) ∧
      Enrolled w start (blueprint.seeds ++ blueprint.plans) r s opening ∧
      Plan.AllOpen w start blueprint.seeds blueprint.plans ∧
      Logger.Embodies w start blueprint
        ⟨r, max blueprint.settings.capacity.toNat LineBuffer.minCapacity⟩) ∨
    ∃ before plan after why s opening closing,
      blueprint.build w.recorded (start, []) =
        (.error (.initFailed plan.name why), s, opening ++ closing) ∧
      blueprint.plans = before ++ plan :: after ∧
      Plan.AllOpen w start blueprint.seeds before ∧
      plan.enabled = true ∧
      (plan.opening w (Plan.openAll w start (blueprint.seeds ++ before))).1 = .error why ∧
      Call.Bracket opening closing := by
  obtain ⟨status, r, s, opening, registers, built⟩ := Blueprint.build_recorded w blueprint start
  cases registers with
  | done pass enrolled =>
    exact .inl ⟨r, s, opening, built, enrolled, acceptable.allOpen (List.append_nil _).symm pass,
      acceptable.embodies pass enrolled⟩
  | @stopped before plan after e _ _ _ split pass stops =>
    obtain ⟨why, rfl, on, failed⟩ := (acceptable.unopened_iff split).mp stops.refused
    have enrolled := stops.enrolled
    obtain ⟨s', cleared⟩ := Registry.clear_recorded enrolled.sound w (s, opening)
    simp only [cleared] at built
    exact .inr ⟨before, plan, after, why, s', opening, _, built, split,
      acceptable.allOpen split pass, on, failed, enrolled.bracket⟩

end Blueprint.Acceptable

lemma Command.acceptable_of_blueprintFor {host : Host} {config : Option String}
    {blueprint : Blueprint} (found : blueprintFor host config = .ok blueprint) :
    blueprint.Acceptable := by
  cases config with
  | none =>
    cases found
    exact Blueprint.acceptable_of_check (by decide)
  | some path => exact Blueprint.acceptable_of_check (Blueprint.of_load found).2

/-- Shutting down a logger closes the endpoints that are enabled. -/
lemma Logger.shutdown_recorded {logger : Logger ω} (sound : logger.registry.Sound)
    (w : Writers ω σ) (s : σ) (calls : List (Call ω)) :
    logger.shutdown w.recorded (s, calls) =
      (logger.shutdown w s, calls ++ logger.registry.endpoints.entries.flatMap fun entry =>
        Registry.closing entry.1 entry.2) := by
  have unrecorded := Registry.clear_map w.recorded_maps logger.registry (s, calls)
  obtain ⟨s', cleared⟩ := Registry.clear_recorded sound w (s, calls)
  rw [cleared] at unrecorded
  rw [shutdown, shutdown, cleared, unrecorded]
  rfl

lemma Command.spaced_messageText (words : List String) : Spaced words (messageText words) := by
  rw [messageText]
  induction words with
  | nil => exact .none
  | cons word words ih =>
    cases words with
    | nil => exact .last
    | cons next words =>
      rw [String.intercalate_cons_cons]
      exact .more ih

namespace EmitArguments

/-- The counters are printed as they are without a record of calls. -/
lemma report_unrecorded (say : String → σ → Except SystemFault Unit × σ)
    (arguments : EmitArguments) (snapshot : Snapshot) (s : σ) (calls : List (Call ω)) :
    ∃ reported s', arguments.report (Command.unrecorded say) snapshot (s, calls) =
        (reported, s', calls) ∧
      arguments.Reports say snapshot s reported s' := by
  rw [report]
  cases asked : arguments.stats with
  | false => exact ⟨_, _, rfl, .unasked asked⟩
  | true =>
    rcases said : say snapshot.text s with ⟨why | done, s'⟩
    · refine ⟨_, s', ?_, .refused asked snapshot.shown_text said⟩
      simp only [if_true, Command.unrecorded, said]
      rfl
    · refine ⟨_, s', ?_, .printed asked snapshot.shown_text said⟩
      simp only [if_true, Command.unrecorded, said]
      rfl

variable [DecidableEq ω] {w : Writers ω σ}

/-- Over plain writers every run is an emission. -/
lemma runBy_recorded (plain : w.Plain) (say : String → σ → Except SystemFault Unit × σ)
    (arguments : EmitArguments) (host : Host) (now : Instant) (start : σ) :
    ∃ outcome s calls,
      arguments.runBy w.recorded (Command.unrecorded say) host now (start, []) =
        (outcome, s, calls) ∧
      arguments.Emission w say host now start outcome calls s := by
  cases found : Command.blueprintFor host arguments.config with
  | error why =>
    exact ⟨_, _, _, runBy_unloaded now found, .unloaded found⟩
  | ok blueprint =>
    have acceptable := Command.acceptable_of_blueprintFor found
    rcases acceptable.build_recorded w start with
      ⟨r, s, opening, built, enrolled, opened, embodies⟩ |
      ⟨before, plan, after, why, s, opening, closing, built, split, opened, on, failed, bracket⟩
    -- The run keeps a record; what it comes to is told of the run without one.
    · obtain ⟨writing, ledger, s₁, printed, next, prints⟩ := enrolled.prints plain
        (max blueprint.settings.capacity.toNat LineBuffer.minCapacity) now arguments.message
      have unbuilt := Blueprint.build_map w.recorded_maps blueprint (start, [])
      rw [built] at unbuilt
      have unprinted := Logger.print_map w.recorded_maps now arguments.message
        ⟨r, max blueprint.settings.capacity.toNat LineBuffer.minCapacity⟩ (s, opening)
      rw [printed] at unprinted
      obtain ⟨reported, s₂, said, reports⟩ := report_unrecorded say arguments
        (Logger.snapshot
          ⟨{ r with ledger }, max blueprint.settings.capacity.toNat LineBuffer.minCapacity⟩)
        s₁ (opening ++ writing)
      have after : (Logger.print w now arguments.message
          ⟨r, max blueprint.settings.capacity.toNat LineBuffer.minCapacity⟩ s).2 = s₁ :=
        congrArg Prod.snd unprinted
      rw [← after] at reports
      have emission : arguments.Emission w say host now start _ _ _ :=
        .sent found opened unbuilt embodies (Command.spaced_messageText arguments.words) prints
          (Snapshot.publishes_published _) reports enrolled.bracket
      refine ⟨_, _, _, ?_, emission⟩
      rw [runBy_built found built printed said,
        Logger.shutdown_recorded (enrolled.sound.counted next)]
      rfl
    · exact ⟨_, s, _, runBy_refused now found built,
        .refused found split opened on failed bracket bracket.writeless⟩

/-- Recording makes no difference to a run. -/
lemma runBy_emits (plain : w.Plain) (say : String → σ → Except SystemFault Unit × σ)
    (arguments : EmitArguments) (host : Host) (now : Instant) (start : σ) :
    arguments.Emits w say host now start (arguments.runBy w say host now start) := by
  obtain ⟨outcome, s, calls, ran, emission⟩ :=
    runBy_recorded plain say arguments host now start
  have same : ∀ text (s : σ × List (Call ω)),
      say text s.1 = Prod.map id Prod.fst (Command.unrecorded say text s) := fun _ _ => rfl
  have unrecorded := runBy_map w.recorded_maps same arguments host now (start, [])
  rw [ran] at unrecorded
  rw [unrecorded]
  exact ⟨calls, ran, emission⟩

end EmitArguments

section Settled

variable {host : Host} {start world : World} {r : Registry Nat}

lemma World.Settled.refl (world : World) : world.Settled world where
  shut _ unmade := World.isOpen_unmade unmade
  kept _ _ := rfl

/-- Whose the open writers are has nothing to do with what was counted and sent. -/
lemma Registry.Stocked.moved (stocked : r.Stocked start world) (ledger : Ledger)
    (surroundings : Surroundings) :
    ({ r with ledger } : Registry Nat).Stocked { start with surroundings }
      { world with surroundings } where
  more := stocked.more
  kept := stocked.kept
  held := stocked.held
  owned := stocked.owned
  later := stocked.later
  silent := .refl _

/-- A build has writers open that belong to its logger, or has shut them again and sent nothing. -/
lemma Blueprint.build_builtins (host : Host) (blueprint : Blueprint) (world : World) :
    match blueprint.build (builtins host) world with
    | (.ok logger, world') => logger.registry.Stocked world world'
    | (.error _, world') =>
      world.Settled world' ∧ world.surroundings.Silent world'.surroundings := by
  have unrecorded := build_map (builtins host).recorded_maps blueprint (world, [])
  obtain ⟨status, r, world', calls, registers, built⟩ :=
    blueprint.build_recorded (builtins host) world
  rw [built] at unrecorded
  rw [unrecorded]
  cases registers with
  | done pass enrolled => exact enrolled.stocked.1
  | stopped split pass stops =>
    obtain ⟨undone, silent⟩ := stops.undone
    exact ⟨⟨undone.shut, undone.kept⟩, silent⟩

/-- Printing a message counts and sends, and does nothing else. -/
lemma Logger.print_builtins (host : Host) (now : Instant) (message : Message)
    (logger : Logger Nat) (world : World) :
    ∃ ledger surroundings, logger.print (builtins host) now message world =
      ({ logger with registry := { logger.registry with ledger } },
        { world with surroundings }) := by
  rw [print]
  split
  · exact ⟨logger.registry.ledger, world.surroundings, rfl⟩
  · have sent := Registry.fanOut_builtins host (message.render logger.capacity 0 now)
      logger.registry world
    simp only [sent]
    exact ⟨_, _, rfl⟩

/-- Shutting down a logger shuts the writers that were made for it, whatever it printed, and sends
nothing. -/
lemma Logger.shutdown_settled {logger : Logger Nat}
    (stocked : logger.registry.Stocked start world) (host : Host) (ledger : Ledger)
    (surroundings : Surroundings) :
    let left := ({ logger with registry := { logger.registry with ledger } } : Logger Nat).shutdown
      (builtins host) { world with surroundings }
    start.Settled left ∧ surroundings.Silent left.surroundings := by
  obtain ⟨-, kept, shut, silent⟩ := (stocked.moved ledger surroundings).clear host
  exact ⟨⟨shut, kept⟩, silent⟩

/-- Printing a text sends it, and does nothing else. -/
lemma World.print_eq (host : Host) (descriptor : Int32) (text : String) (world : World) :
    ∃ said surroundings,
      World.print host descriptor text world = (said, { world with surroundings }) := by
  rw [World.print]
  split
  · exact ⟨_, _, rfl⟩
  · exact ⟨_, world.surroundings, rfl⟩
  · exact ⟨_, world.surroundings, rfl⟩

lemma EmitArguments.report_builtins (arguments : EmitArguments) (host : Host)
    (snapshot : Snapshot) (world : World) :
    ∃ reported surroundings,
      arguments.report (World.print host Command.standardError) snapshot world =
        (reported, { world with surroundings }) := by
  obtain ⟨said, surroundings, eq⟩ :=
    World.print_eq host Command.standardError snapshot.text world
  rw [report]
  split
  · rw [eq]
    exact ⟨_, surroundings, rfl⟩
  · exact ⟨_, world.surroundings, rfl⟩

lemma EmitArguments.report_of_taken {arguments : EmitArguments} {host : Host}
    (asked : arguments.stats = true) (taken : host.append Command.standardError = .ok ())
    (snapshot : Snapshot) (world : World) :
    arguments.report (World.print host Command.standardError) snapshot world =
      (.ok (), { world with surroundings :=
        world.surroundings.write Command.standardError (Text.utf8 snapshot.text) }) := by
  rw [report, if_pos asked, World.print, taken]
  rfl

/-- A run fails with its logger, with all closed again and nothing sent; or it prints through its
logger, reports, and shuts it down, and only counters and what is sent change in between. -/
lemma EmitArguments.run_cases (arguments : EmitArguments) (host : Host) (now : Instant)
    (world : World) :
    (∃ why world',
      (Command.emitLogger host arguments.config world).1 = .error why ∧
      arguments.run host now world = (⟨.error why, []⟩, world') ∧
      world.Settled world' ∧ world.surroundings.Silent world'.surroundings) ∨
    ∃ (logger : Logger Nat) (ledger : Ledger) (world' : World) (surroundings : Surroundings),
      (Command.emitLogger host arguments.config world).1 = .ok logger ∧
      logger.registry.Stocked world world' ∧
      ∀ {reported left},
        arguments.report (World.print host Command.standardError)
          (Logger.snapshot { logger with registry := { logger.registry with ledger } })
          { world' with surroundings } = (reported, left) →
        arguments.run host now world =
          (⟨reported, (Logger.snapshot
              { logger with registry := { logger.registry with ledger } }).published⟩,
            Logger.shutdown (builtins host)
              { logger with registry := { logger.registry with ledger } } left) := by
  simp only [run_eq, Command.emitLogger_eq]
  cases found : Command.blueprintFor host arguments.config with
  | error why =>
    refine .inl ⟨_, world, ?_, runBy_unloaded now found, .refl world, .refl _⟩
    rw [Command.emitLoggerBy, found]
  | ok blueprint =>
    have left := blueprint.build_builtins host world
    rcases built : blueprint.build (builtins host) world with ⟨why | logger, world'⟩
    · rw [built] at left
      refine .inl ⟨_, world', ?_, runBy_refused now found built, left⟩
      simp only [Command.emitLoggerBy, found, built, Prod.map, Except.mapError]
    · rw [built] at left
      obtain ⟨ledger, surroundings, printed⟩ :=
        logger.print_builtins host now arguments.message world'
      refine .inr ⟨logger, ledger, world', surroundings, ?_, left, runBy_built found built printed⟩
      simp only [Command.emitLoggerBy, found, built, Prod.map, Except.mapError]

/-- A run leaves no writer open, and sends nothing if its logger cannot be set up. -/
lemma EmitArguments.run_settled (arguments : EmitArguments) (host : Host) (now : Instant)
    (world : World) :
    let ran := arguments.run host now world
    world.Settled ran.2 ∧
    ∀ why, (Command.emitLogger host arguments.config world).1 = .error why →
      ran.1.result = .error why ∧ world.surroundings.Silent ran.2.surroundings := by
  intro ran
  rcases arguments.run_cases host now world with
    ⟨why, world', failed, eq, settled, silent⟩ |
    ⟨logger, ledger, world', sent, set, stocked, run⟩
  · simp only [ran, eq, failed]
    refine ⟨settled, fun why' same => ⟨?_, silent⟩⟩
    cases same
    rfl
  · -- Neither the message nor the printed counters change which writers are open.
    obtain ⟨reported, surroundings, said⟩ := arguments.report_builtins host
      (Logger.snapshot { logger with registry := { logger.registry with ledger } })
      { world' with surroundings := sent }
    simp only [ran, run said, set]
    exact ⟨(Logger.shutdown_settled stocked host ledger surroundings).1, nofun⟩

/-- The counters that are asked for are the last thing that is sent. -/
lemma EmitArguments.run_reported {arguments : EmitArguments} {host : Host}
    (asked : arguments.stats = true) (taken : host.append Command.standardError = .ok ())
    (now : Instant) {world : World}
    (set : (Command.emitLogger host arguments.config world).1.isOk = true) :
    let ran := arguments.run host now world
    ∃ snapshot text, Snapshot.Publishes snapshot ran.1.published ∧ snapshot.Shown text ∧
      ran.2.surroundings.written.getLast? = some (Command.standardError, Text.utf8 text) := by
  intro ran
  rcases arguments.run_cases host now world with
    ⟨why, _, failed, -⟩ | ⟨logger, ledger, world', _, -, stocked, run⟩
  · rw [failed] at set
    cases set
  · simp only [ran, run (report_of_taken asked taken _ _)]
    refine ⟨_, _, Snapshot.publishes_published _, Snapshot.shown_text _, ?_⟩
    rw [(Logger.shutdown_settled stocked host ledger _).2.written]
    exact List.getLast?_concat

end Settled

/-- Sending one message fails if the configuration is not loaded or an endpoint that starts enabled
cannot be opened; then nothing is written, and nothing is sent. Otherwise it succeeds, whatever
becomes of the writes, unless the counters are asked for and standard error refuses them: the line is
written once to each endpoint that is enabled and to no other one, unless the tag is empty, and the
counters that are published and printed add up to the number of these writes. In any case all that
was opened is closed, once each, and no writer that was made is left open. -/
theorem EmitArguments.run_emits (arguments : EmitArguments) (host : Host) (now : Instant) :
    (∀ world,
      let ran := arguments.run host now world
      let logger := (Command.emitLogger host arguments.config world).1
      arguments.Emits (builtins host) (World.print host Command.standardError) host now world ran ∧
      (arguments.Unrefused host → ran.1.result = logger.map fun _ => ()) ∧
      (arguments.stats = true → host.append Command.standardError = .ok () → logger.isOk = true →
        ∃ snapshot text, Snapshot.Publishes snapshot ran.1.published ∧ snapshot.Shown text ∧
          ran.2.surroundings.written.getLast? = some (Command.standardError, Text.utf8 text)) ∧
      world.Settled ran.2 ∧
      ∀ why, logger = .error why →
        ran.1.result = .error why ∧ world.surroundings.Silent ran.2.surroundings) ∧
    ∀ {ω σ : Type} [DecidableEq ω] (w : Writers ω σ)
      (say : String → σ → Except SystemFault Unit × σ) (s : σ),
      w.Plain → arguments.Emits w say host now s (arguments.runBy w say host now s) := by
  constructor
  · intro world ran logger
    obtain ⟨settled, silent⟩ := arguments.run_settled host now world
    refine ⟨?_, fun unrefused => Command.run_result unrefused now world,
      fun asked taken set => run_reported asked taken now set, settled, silent⟩
    simp only [ran, run_eq]
    exact runBy_emits (World.builtins_plain host) _ arguments host now world
  · intro ω σ _ w say s plain
    exact runBy_emits plain say arguments host now s

end LogFanout
