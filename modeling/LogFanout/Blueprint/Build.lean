import LogFanout.Logger.Basic

/-!
# Building a logger

The endpoints of a blueprint are added in order, and those that start enabled are enabled at once.
The first refusal ends the build: what was opened is closed again and there is no logger.
-/

namespace LogFanout

variable {ω σ : Type}

/-- Adds the endpoint of a plan and enables it if it starts enabled. -/
def Plan.register (w : Writers ω σ) (plan : Plan) (r : Registry ω) (s : σ) :
    Status × Registry ω × σ :=
  match r.addBuiltin w plan.name plan.transport s with
  | (.error why, r, s) => (.error why, r, s)
  | (.ok (), r, s) => if plan.enabled then r.enable w plan.name plan.argument s else (.ok (), r, s)

namespace Blueprint

/-- Registers plans until one is refused. -/
def registerAll (w : Writers ω σ) : List Plan → Registry ω → σ → Status × Registry ω × σ
  | [], r, s => (.ok (), r, s)
  | plan :: plans, r, s =>
    match plan.register w r s with
    | (.ok (), r, s) => registerAll w plans r s
    | (.error why, r, s) => (.error why, r, s)

/-- Builds the logger of a blueprint. -/
def build (w : Writers ω σ) (blueprint : Blueprint) (s : σ) : Except RegistryError (Logger ω) × σ :=
  let (logger, s) := Logger.build w blueprint.settings.capacity.toNat blueprint.settings.seeded s
  match registerAll w blueprint.plans logger.registry s with
  | (.ok (), registry, s) => (.ok { logger with registry }, s)
  | (.error why, registry, s) => (.error why, { logger with registry }.shutdown w s)

end Blueprint

end LogFanout
