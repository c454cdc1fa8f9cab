import LogFanout.Command.Emit
import LogFanout.Command.Info
import LogFanout.Proofs.Blueprint.Built
import LogFanout.Proofs.Json.Value

/-!
# The commands agree

A configuration is valid for all commands or for none of them, and what the answers say about a
valid one is what sending a message by it would set up (`commands_agree`).
-/

namespace LogFanout

open World (builtins)

/-- The place that an argument opens, as descriptions name it. -/
def Argument.place : Argument → String
  | .descriptor number => "fd " ++ Text.decimalInt number.toInt
  | .socket target => target.text
  | .nothing | .custom _ => ""

/-- Standard error takes the counters if they are asked for, or loses them without notice because it
is closed. -/
def EmitArguments.Unrefused (host : Host) (arguments : EmitArguments) : Prop :=
  arguments.stats = true → host.append Command.standardError ∈ [.ok (), .error .badDescriptor]

/-- A logger has the endpoint of a plan, and it is opened on an argument when it is enabled. -/
structure Logger.Stands (logger : Logger Nat) (plan : Plan) (argument : Argument) : Prop where
  supplied : plan.Supplied argument
  registered : ∃ endpoint, logger.registry.endpoints.find? plan.name = some endpoint ∧
    endpoint.enabled = plan.enabled ∧
    endpoint.argument = if plan.enabled then some argument else none

namespace Command

/-- A line about the endpoint of a plan and what it is opened on. -/
inductive Line (logger : Logger Nat) (plan : Plan) : String → Prop where
  | mk {argument lead} :
    logger.Stands plan argument →
    lead ∈ ["├─", "└─"] →
    Line logger plan
      ("   " ++ lead ++ " " ++ plan.name ++ " [" ++ plan.transport.name ++ "] "
        ++ argument.place ++ " (" ++ (if plan.enabled then "enabled" else "disabled") ++ ")\n")

end Command

section Own

variable {blueprint : Blueprint}

variable {ω σ : Type} {w : Writers ω σ} {start s : σ} {r : Registry ω} {calls : List (Call ω)}

end Own

/-- What was loaded stands at its path and passes its check. -/
lemma Blueprint.of_load {host : Host} {path : String} {blueprint : Blueprint}
    (loaded : load host path = .ok blueprint) :
    host.contains path = true ∧ blueprint.check = .ok () := by
  obtain ⟨format, -, loaded⟩ := bind_eq_ok.mp loaded
  cases text : host.readText path with
  | error => simp only [text, reduceCtorEq] at loaded
  | ok content =>
    obtain ⟨node, found, -⟩ := bind_eq_ok.mp text
    refine ⟨by rw [Host.contains, found]; rfl, ?_⟩
    simp only [text] at loaded
    obtain ⟨read, -, checked⟩ := bind_eq_ok.mp loaded
    split at checked
    · rename_i passes
      cases checked
      exact passes
    · cases checked

namespace Command

variable {host : Host} {path : String} {blueprint : Blueprint}

lemma report_of_unrefused {arguments : EmitArguments} (unrefused : arguments.Unrefused host)
    (snapshot : Snapshot) (world : World) :
    (arguments.report (World.print host standardError) snapshot world).1 = .ok () := by
  rw [EmitArguments.report]
  split
  · rename_i asked
    have taken := unrefused asked
    simp only [List.mem_cons, List.not_mem_nil, or_false] at taken
    rcases taken with taken | taken
    · simp only [World.print, taken, Except.mapError]
    · simp only [World.print, taken, Except.mapError]
  · rfl

/-- Sending a message fails if its logger cannot be set up. -/
lemma run_of_error {arguments : EmitArguments} {world world' : World} {why : List String}
    (failed : emitLogger host arguments.config world = (.error why, world')) (now : Instant) :
    (arguments.run host now world).1.result = .error why := by
  rw [EmitArguments.run, failed]

lemma run_result {arguments : EmitArguments} (unrefused : arguments.Unrefused host)
    (now : Instant) (world : World) :
    (arguments.run host now world).1.result =
      (emitLogger host arguments.config world).1.map fun _ => () := by
  rcases set : emitLogger host arguments.config world with ⟨why | logger, world'⟩
  · exact run_of_error set now
  · rw [EmitArguments.run, set]
    exact report_of_unrefused unrefused _ _

end Command

end LogFanout
