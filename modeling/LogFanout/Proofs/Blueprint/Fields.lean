import LogFanout.Blueprint.Json
import LogFanout.Proofs.Blueprint.Load
import LogFanout.Proofs.Json.Fields
import Mathlib.Data.List.TakeWhile

/-!
# Blueprints by their fields

The fields of blueprints, of settings and of endpoints in JSON: the name and the transport of an
endpoint must be given, and every other field has a standard value. Their objects are read as what
they describe.
-/

namespace LogFanout

open Json (Admits Decimal Describes Field Maybe Quotes Reads ReadsFields Row Word)

/-- The fields of settings. -/
def Settings.fields (settings : Settings) : List Field := [
  ⟨"buffer_capacity", Decimal settings.capacity.toNat, settings.capacity = 4096⟩,
  ⟨"seed_std", Word settings.seeded, settings.seeded = true⟩]

/-- The fields of an endpoint. -/
def Plan.fields (plan : Plan) : List Field := [
  ⟨"name", Quotes plan.name, False⟩,
  ⟨"writer", Quotes plan.transport.name, False⟩,
  ⟨"enabled", Word plan.enabled, plan.enabled = true⟩,
  ⟨"fd", Maybe (fun number => Decimal number.toInt) plan.descriptor, plan.descriptor = none⟩,
  ⟨"target", Maybe (fun target => Quotes target.text) plan.target, plan.target = none⟩]

/-- The fields of a blueprint. -/
def Blueprint.fields (blueprint : Blueprint) : List Field := [
  ⟨"version", Quotes blueprint.version.name, blueprint.version = .v1⟩,
  ⟨"logger", Describes blueprint.settings.fields, blueprint.settings = ⟨4096, true⟩⟩,
  ⟨"endpoints", Row (fun plan => Describes plan.fields) blueprint.plans, blueprint.plans = []⟩]

/-- Settings of which the members of some keys have been read. -/
def Settings.draft (settings : Settings) (given : List String) : SettingsDraft where
  capacity := if "buffer_capacity" ∈ given then some settings.capacity else none
  seeded := if "seed_std" ∈ given then some settings.seeded else none

/-- An endpoint of which the members of some keys have been read. -/
def Plan.draft (plan : Plan) (given : List String) : PlanDraft where
  name := if "name" ∈ given then some plan.name else none
  transport := if "writer" ∈ given then some plan.transport else none
  enabled := if "enabled" ∈ given then some plan.enabled else none
  descriptor := if "fd" ∈ given then some plan.descriptor else none
  target := if "target" ∈ given then some plan.target else none

/-- A blueprint of which the members of some keys have been read. -/
def Blueprint.draft (blueprint : Blueprint) (given : List String) : BlueprintDraft where
  version := if "version" ∈ given then some blueprint.version else none
  settings := if "logger" ∈ given then some blueprint.settings else none
  plans := if "endpoints" ∈ given then some blueprint.plans else none

lemma Settings.nodup_fields (settings : Settings) : (settings.fields.map Field.key).Nodup := by
  simp [fields]

lemma Plan.nodup_fields (plan : Plan) : (plan.fields.map Field.key).Nodup := by
  simp [fields]

lemma Blueprint.nodup_fields (blueprint : Blueprint) : (blueprint.fields.map Field.key).Nodup := by
  simp [fields]

section Drafts

variable {α : Type} {given : Prop} [Decidable given] {value : α}

lemma isSome_ite : (if given then some value else none).isSome = decide given := by
  by_cases here : given
  · rw [if_pos here, decide_eq_true here]
    rfl
  · rw [if_neg here, decide_eq_false here]
    rfl

/-- What is left out has its standard value. -/
lemma getD_ite {standard : α} (left : ¬given → value = standard) :
    (if given then some value else none).getD standard = value := by
  by_cases here : given
  · rw [if_pos here]
    rfl
  · rw [if_neg here]
    exact (left here).symm

end Drafts

lemma Settings.readsFields (settings : Settings) :
    ReadsFields (Settings.record Json.source) settings.fields settings.draft settings where
  keys := rfl
  start := rfl
  admits := by
    have capacity : ∀ text, Decimal settings.capacity.toNat text →
        Reads (Json.source.integer 0 (UInt64.size - 1) .size) text settings.capacity.toNat :=
      fun _ decimal => decimal.reads (Int.natCast_nonneg _) settings.capacity_le (by decide)
        (by decide)
    have seeded : ∀ text, Word settings.seeded text →
        Reads Json.source.boolean text settings.seeded :=
      fun _ word => word.reads
    simp only [fields, List.forall_mem_cons, List.not_mem_nil, false_implies, implies_true,
      and_true]
    exact ⟨.of_map rfl (fun _ => isSome_ite) capacity (by simp [draft]),
      .of_map rfl (fun _ => isSome_ite) seeded (by simp [draft])⟩
  finish given standard := by
    simp only [fields, List.forall_mem_cons, List.not_mem_nil, false_implies, implies_true,
      and_true] at standard
    obtain ⟨capacity, seeded⟩ := standard
    simp only [record, SettingsDraft.finish, draft, Settings.standard, getD_ite capacity,
      getD_ite seeded]

lemma Plan.readsFields (plan : Plan) :
    ReadsFields (Plan.record Json.source) plan.fields plan.draft plan where
  keys := rfl
  start := rfl
  admits := by
    have name : ∀ text, Quotes plan.name text → Reads Json.source.text text plan.name :=
      fun _ quotes => Json.reads_string quotes
    have transport : ∀ text, Quotes plan.transport.name text →
        Reads (Json.source.choice ["fd", "socket"] Transport.ofExactName?) text plan.transport :=
      fun _ quotes => Json.reads_choice plan.transport.ofExactName?_name quotes
    have enabled : ∀ text, Word plan.enabled text → Reads Json.source.boolean text plan.enabled :=
      fun _ word => word.reads
    have descriptor : ∀ text, Maybe (fun number => Decimal number.toInt) plan.descriptor text →
        Reads (Json.source.optional (Json.source.map Int32.ofInt
          (Json.source.integer Int32.minValue.toInt Int32.maxValue.toInt .descriptor))) text
          plan.descriptor := by
      intro text maybe
      apply maybe.reads
      · intro number _ text decimal
        have reads : Reads (Json.readInteger _ _ .descriptor) text number.toInt :=
          decimal.reads number.minValue_le_toInt number.toInt_le (by decide) (by decide)
        have mapped := reads.map Int32.ofInt
        rwa [Int32.ofInt_toInt] at mapped
      · exact fun _ _ _ decimal => decimal.not_null
    have target : ∀ text, Maybe (fun target => Quotes target.text) plan.target text →
        Reads (Json.source.optional (Json.source.refine Target.ofText Json.source.text)) text
          plan.target := by
      intro text maybe
      apply maybe.reads
      · exact fun target _ _ quotes => (Json.reads_string quotes).refine target.ofText_text
      · exact fun _ _ _ quotes => quotes.not_null
    simp only [fields, List.forall_mem_cons, List.not_mem_nil, false_implies, implies_true,
      and_true]
    exact ⟨.of_map rfl (fun _ => isSome_ite) name (by simp [draft]),
      .of_map rfl (fun _ => isSome_ite) transport (by simp [draft]),
      .of_map rfl (fun _ => isSome_ite) enabled (by simp [draft]),
      .of_map rfl (fun _ => isSome_ite) descriptor (by simp [draft]),
      .of_map rfl (fun _ => isSome_ite) target (by simp [draft])⟩
  finish given standard := by
    simp only [fields, List.forall_mem_cons, List.not_mem_nil, false_implies, implies_true,
      and_true] at standard
    obtain ⟨name, transport, enabled, descriptor, target⟩ := standard
    simp only [record, PlanDraft.finish, draft, if_pos (not_not.mp name),
      if_pos (not_not.mp transport), getD_ite enabled, getD_ite descriptor, getD_ite target]

namespace Blueprint

lemma readsFields (blueprint : Blueprint) :
    ReadsFields (record Json.source) blueprint.fields blueprint.draft blueprint where
  keys := rfl
  start := rfl
  admits := by
    have version : ∀ text, Quotes blueprint.version.name text →
        Reads (Json.source.choice ["V1"] Version.ofName?) text blueprint.version :=
      fun _ quotes => Json.reads_choice blueprint.version.ofName?_name quotes
    have settings : ∀ text, Describes blueprint.settings.fields text →
        Reads (Json.source.record (Settings.record Json.source)) text blueprint.settings :=
      fun _ describes => describes.reads blueprint.settings.readsFields
    have plans : ∀ text, Row (fun plan => Describes plan.fields) blueprint.plans text →
        Reads (Json.source.list .plans (Json.source.record (Plan.record Json.source))) text
          blueprint.plans :=
      fun _ row => row.reads fun plan _ _ describes => describes.reads plan.readsFields
    simp only [fields, List.forall_mem_cons, List.not_mem_nil, false_implies, implies_true,
      and_true]
    exact ⟨.of_map rfl (fun _ => isSome_ite) version (by simp [draft]),
      .of_map rfl (fun _ => isSome_ite) settings (by simp [draft]),
      .of_map rfl (fun _ => isSome_ite) plans (by simp [draft])⟩
  finish given standard := by
    simp only [fields, List.forall_mem_cons, List.not_mem_nil, false_implies, implies_true,
      and_true] at standard
    obtain ⟨-, settings, plans⟩ := standard
    have version : "version" ∉ given → blueprint.version = .v1 := fun _ => rfl
    simp only [record, BlueprintDraft.finish, draft, Blueprint.standard, Settings.standard,
      getD_ite version, getD_ite settings, getD_ite plans]

/-- A document of one object between blanks is read as what the object describes. -/
lemma readJson_describes {blueprint : Blueprint} {text gap gap' : List Char}
    (describes : Describes blueprint.fields text) (blank : Json.Blank gap)
    (blank' : Json.Blank gap') : readJson (gap ++ text ++ gap') = .ok blueprint := by
  have apart : Json.Apart gap' := by
    have ends := Json.apart_append blank' Json.apart_nil
    rwa [List.append_nil] at ends
  have rest : Json.dropBlank gap' = [] := List.dropWhile_eq_nil_iff.mpr blank'
  have reads := (describes.reads blueprint.readsFields).reads gap gap' blank apart
  simp only [readJson, reads, bind, Except.bind, rest]

end Blueprint

end LogFanout
