import LogFanout.Blueprint.Draft
import LogFanout.Document.Source

/-!
# The layout of a blueprint

The members of a blueprint, of its settings and of its endpoints, for documents of any format.
-/

namespace LogFanout

open Document (Record Source)

variable {ρ : Type → Type}

/-- The layout of settings. -/
def Settings.record (source : Source ρ) : Record ρ SettingsDraft Settings where
  expected := .settings
  members := [
    { key := "buffer_capacity", required := false, isSet := fun d => d.capacity.isSome
      read := source.map (fun n d => { d with capacity := some (UInt64.ofNat n.toNat) })
        (source.integer 0 (UInt64.size - 1) .size) },
    { key := "seed_std", required := false, isSet := fun d => d.seeded.isSome
      read := source.map (fun b d => { d with seeded := some b }) source.boolean }]
  start := .empty
  finish := fun d => .ok d.finish

/-- The target of a text. -/
def Target.ofText (text : String) : Except Document.Mismatch Target :=
  match Target.parse text with
  | .ok target => .ok target
  | .error why => .error (.target why)

/-- The layout of an endpoint. -/
def Plan.record (source : Source ρ) : Record ρ PlanDraft Plan where
  expected := .plan
  members := [
    { key := "name", required := true, isSet := fun d => d.name.isSome
      read := source.map (fun s d => { d with name := some s }) source.text },
    { key := "writer", required := true, isSet := fun d => d.transport.isSome
      read := source.map (fun t d => { d with transport := some t })
        (source.choice ["fd", "socket"] Transport.ofExactName?) },
    { key := "enabled", required := false, isSet := fun d => d.enabled.isSome
      read := source.map (fun b d => { d with enabled := some b }) source.boolean },
    { key := "fd", required := false, isSet := fun d => d.descriptor.isSome
      read := source.map (fun n d => { d with descriptor := some n })
        (source.optional
          (source.map Int32.ofInt
            (source.integer Int32.minValue.toInt Int32.maxValue.toInt .descriptor))) },
    { key := "target", required := false, isSet := fun d => d.target.isSome
      read := source.map (fun t d => { d with target := some t })
        (source.optional (source.refine Target.ofText source.text)) }]
  start := .empty
  finish := PlanDraft.finish

/-- The layout of a blueprint. -/
def Blueprint.record (source : Source ρ) : Record ρ BlueprintDraft Blueprint where
  expected := .blueprint
  members := [
    { key := "version", required := false, isSet := fun d => d.version.isSome
      read := source.map (fun v d => { d with version := some v })
        (source.choice ["V1"] Version.ofName?) },
    { key := "logger", required := false, isSet := fun d => d.settings.isSome
      read := source.map (fun s d => { d with settings := some s })
        (source.record (Settings.record source)) },
    { key := "endpoints", required := false, isSet := fun d => d.plans.isSome
      read := source.map (fun p d => { d with plans := some p })
        (source.list .plans (source.record (Plan.record source))) }]
  start := .empty
  finish := fun d => .ok d.finish

end LogFanout
