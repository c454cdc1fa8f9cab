import LogFanout.Proofs.Blueprint.Load
import LogFanout.Proofs.Toml.Decode
import LogFanout.Proofs.Toml.Outline

/-!
# Blueprints through TOML

Every blueprint is read back from its TOML document (`ofToml_tomlText`). Without endpoints the array
of them stands next to the version, else its tables come last; either way the entries of the
document are the same once they are in order.
-/

namespace LogFanout

open Toml (Blocks Content Decodes Fills Lines entryLine headerLine inOrder)

section Settings

/-- The entries of the table of settings. -/
def Settings.tomlEntries (settings : Settings) : List (String × Content) :=
  [("buffer_capacity", .scalar (.integer (some settings.capacity.toNat))),
    ("seed_std", .scalar (.boolean settings.seeded))]

lemma Settings.lines_tomlEntries (settings : Settings) :
    ∃ lines, settings.tomlLines = headerLine false "logger" ++ lines ∧
      Lines lines settings.tomlEntries := by
  have capacity : Lines
      (entryLine "buffer_capacity" (Text.decimal settings.capacity.toNat).toList) _ :=
    .one (by decide) (Toml.reads_integer settings.capacity.toNat)
  have seeded : Lines (entryLine "seed_std" (Toml.writeBoolean settings.seeded)) _ :=
    .one (by decide) (Toml.reads_boolean settings.seeded)
  have header : "\n[logger]\n".toList = headerLine false "logger" := by decide
  refine ⟨_, ?_, capacity.append seeded⟩
  -- The literal stays closed: as a list of characters it would not be the header any more.
  unfold tomlLines
  rw [List.append_assoc]
  exact congrArg (· ++ _) header

lemma Settings.nodup_tomlEntries (settings : Settings) :
    (settings.tomlEntries.map Prod.fst).Nodup := by
  simp [tomlEntries]

lemma Settings.decodes_record (settings : Settings) :
    Decodes (Toml.source.record (Settings.record Toml.source)) (.table settings.tomlEntries)
      settings := by
  have capacity : Decodes (Toml.source.integer 0 (UInt64.size - 1) .size)
      (.scalar (.integer (some settings.capacity.toNat))) settings.capacity.toNat :=
    Toml.decodes_integer .size (Int.natCast_nonneg _) settings.capacity_le (by decide) (by decide)
  have seeded := Toml.decodes_boolean settings.seeded
  have order : inOrder settings.tomlEntries = settings.tomlEntries := by
    simp only [tomlEntries, inOrder, List.foldl_cons, List.foldl_nil, List.orderedInsert_cons,
      List.orderedInsert_nil, String.reduceLT, if_false]
  apply Fills.decodes_record
  · rw [order]
    exact (Fills.one rfl capacity rfl).append (.one rfl seeded rfl)
  · simp [record, SettingsDraft.finish]

end Settings

section Plans

/-- The entry for the descriptor of an endpoint, if it has one. -/
def Plan.descriptorEntry (plan : Plan) : List (String × Content) :=
  match plan.descriptor with
  | some number => [("fd", .scalar (.integer (some number.toInt)))]
  | none => []

/-- The entry for the target of an endpoint, if it has one. -/
def Plan.targetEntry (plan : Plan) : List (String × Content) :=
  match plan.target with
  | some target => [("target", .scalar (.text target.text))]
  | none => []

/-- The entries of the table of an endpoint. -/
def Plan.tomlEntries (plan : Plan) : List (String × Content) :=
  [("name", .scalar (.text plan.name)), ("writer", .scalar (.text plan.transport.name)),
    ("enabled", .scalar (.boolean plan.enabled))] ++ plan.descriptorEntry ++ plan.targetEntry

lemma Plan.lines_tomlEntries (plan : Plan) :
    ∃ lines, plan.tomlLines = headerLine true "endpoints" ++ lines ∧
      Lines lines plan.tomlEntries := by
  have name : Lines (entryLine "name" (Toml.writeText plan.name)) _ :=
    .one (by decide) (Toml.reads_text plan.name)
  have transport : Lines (entryLine "writer" (Toml.writeText plan.transport.name)) _ :=
    .one (by decide) (Toml.reads_text plan.transport.name)
  have enabled : Lines (entryLine "enabled" (Toml.writeBoolean plan.enabled)) _ :=
    .one (by decide) (Toml.reads_boolean plan.enabled)
  have descriptor : Lines
      (match plan.descriptor with
        | some number => entryLine "fd" (Text.decimalInt number.toInt).toList
        | none => []) plan.descriptorEntry := by
    rw [descriptorEntry]
    cases plan.descriptor with
    | none => exact .nil
    | some number => exact .one (by decide) (Toml.reads_integer number.toInt)
  have target : Lines
      (match plan.target with
        | some target => entryLine "target" (Toml.writeText target.text)
        | none => []) plan.targetEntry := by
    rw [targetEntry]
    cases plan.target with
    | none => exact .nil
    | some target => exact .one (by decide) (Toml.reads_text target.text)
  have header : "\n[[endpoints]]\n".toList = headerLine true "endpoints" := by decide
  refine ⟨_, ?_, (((name.append transport).append enabled).append descriptor).append target⟩
  unfold tomlLines
  simp only [List.append_assoc]
  exact congrArg (· ++ _) header

lemma Plan.nodup_tomlEntries (plan : Plan) : (plan.tomlEntries.map Prod.fst).Nodup := by
  rw [tomlEntries, descriptorEntry, targetEntry]
  cases plan.descriptor with
  | none => cases plan.target <;> simp
  | some number => cases plan.target <;> simp

/-- The order in which the entries of an endpoint are read. -/
lemma Plan.inOrder_tomlEntries (plan : Plan) :
    inOrder plan.tomlEntries =
      [("enabled", .scalar (.boolean plan.enabled))] ++ plan.descriptorEntry
        ++ [("name", .scalar (.text plan.name))] ++ plan.targetEntry
        ++ [("writer", .scalar (.text plan.transport.name))] := by
  rw [tomlEntries, descriptorEntry, targetEntry, inOrder]
  cases plan.descriptor
  all_goals
    cases plan.target
    all_goals
      simp only [List.cons_append, List.nil_append, List.append_nil, List.foldl_cons,
        List.foldl_nil, List.orderedInsert_cons, List.orderedInsert_nil, String.reduceLT, if_true,
        if_false]

lemma Plan.fills_descriptorEntry (plan : Plan) (draft : PlanDraft)
    (new : draft.descriptor = none) :
    Fills (record Toml.source).members draft plan.descriptorEntry
      { draft with descriptor := plan.descriptor.map some } := by
  have read : ∀ number : Int32, Decodes
      (Toml.source.optional (Toml.source.map Int32.ofInt
        (Toml.source.integer Int32.minValue.toInt Int32.maxValue.toInt .descriptor)))
      (.scalar (.integer (some number.toInt))) (some number) := by
    intro number
    have read := Toml.decodes_integer .descriptor number.minValue_le_toInt number.toInt_le
      (by decide) (by decide)
    have mapped := read.map Int32.ofInt
    rw [Int32.ofInt_toInt] at mapped
    exact mapped.optional
  rw [descriptorEntry]
  cases plan.descriptor with
  | none =>
    rw [Option.map_none, ← new]
    exact .done
  | some number => exact .one rfl (read number) rfl

lemma Plan.fills_targetEntry (plan : Plan) (draft : PlanDraft) (new : draft.target = none) :
    Fills (record Toml.source).members draft plan.targetEntry
      { draft with target := plan.target.map some } := by
  have read : ∀ target : Target, Decodes
      (Toml.source.optional (Toml.source.refine Target.ofText Toml.source.text))
      (.scalar (.text target.text)) (some target) := by
    intro target
    exact ((Toml.decodes_text target.text).refine target.ofText_text).optional
  rw [targetEntry]
  cases plan.target with
  | none =>
    rw [Option.map_none, ← new]
    exact .done
  | some target => exact .one rfl (read target) rfl

lemma Plan.decodes_record (plan : Plan) :
    Decodes (Toml.source.record (Plan.record Toml.source)) (.table plan.tomlEntries) plan := by
  have name := Toml.decodes_text plan.name
  have transport : Decodes (Toml.source.choice ["fd", "socket"] Transport.ofExactName?)
      (.scalar (.text plan.transport.name)) plan.transport :=
    Toml.decodes_choice plan.transport.ofExactName?_name
  have enabled := Toml.decodes_boolean plan.enabled
  have fills : Fills (record Toml.source).members PlanDraft.empty (inOrder plan.tomlEntries)
      ⟨some plan.name, some plan.transport, some plan.enabled, plan.descriptor.map some,
        plan.target.map some⟩ := by
    rw [inOrder_tomlEntries]
    exact ((((Fills.one rfl enabled rfl).append (plan.fills_descriptorEntry _ rfl)).append
      (.one rfl name rfl)).append (plan.fills_targetEntry _ rfl)).append (.one rfl transport rfl)
  -- Members left out come back as absent, the same as those that are absent.
  have given : ∀ {α : Type} (o : Option α), (o.map some).getD none = o := by
    intro α o
    cases o <;> rfl
  apply fills.decodes_record
  simp [record, PlanDraft.finish, given]

end Plans

namespace Blueprint

/-- The entries before the first table. -/
def firstEntries (blueprint : Blueprint) : List (String × Content) :=
  ("version", .scalar (.text blueprint.version.name)) ::
    if blueprint.plans.isEmpty then [("endpoints", .list [])] else []

/-- The entries of the document. -/
def tomlEntries (blueprint : Blueprint) : List (String × Content) :=
  blueprint.firstEntries ++ ("logger", .table blueprint.settings.tomlEntries) ::
    Toml.tablesEntry "endpoints" (blueprint.plans.map Plan.tomlEntries)

lemma lines_firstEntries (blueprint : Blueprint) :
    Lines (entryLine "version" (Toml.writeText blueprint.version.name)
      ++ (if blueprint.plans.isEmpty then entryLine "endpoints" ['[', ']'] else []))
      blueprint.firstEntries := by
  have version : Lines (entryLine "version" (Toml.writeText blueprint.version.name)) _ :=
    .one (by decide) (Toml.reads_text blueprint.version.name)
  apply version.append
  cases blueprint.plans.isEmpty with
  | true => exact .one (by decide) Toml.reads_empty
  | false => exact .nil

lemma blocks_plans (plans : List Plan) :
    Blocks (plans.flatMap Plan.tomlLines)
      ((plans.map Plan.tomlEntries).map (⟨true, "endpoints", ·⟩)) := by
  induction plans with
  | nil => exact .nil
  | cons plan plans ih =>
    obtain ⟨lines, eq, gives⟩ := plan.lines_tomlEntries
    rw [List.flatMap_cons, eq, List.append_assoc]
    exact .cons (by decide) gives plan.nodup_tomlEntries ih

lemma blocks (blueprint : Blueprint) :
    Blocks (blueprint.settings.tomlLines ++ blueprint.plans.flatMap Plan.tomlLines)
      (⟨false, "logger", blueprint.settings.tomlEntries⟩ ::
        (blueprint.plans.map Plan.tomlEntries).map (⟨true, "endpoints", ·⟩)) := by
  obtain ⟨lines, eq, gives⟩ := blueprint.settings.lines_tomlEntries
  rw [eq, List.append_assoc]
  exact .cons (by decide) gives blueprint.settings.nodup_tomlEntries (blocks_plans blueprint.plans)

lemma nodup_tomlEntries (blueprint : Blueprint) :
    (blueprint.tomlEntries.map Prod.fst).Nodup := by
  rw [tomlEntries, firstEntries]
  cases blueprint.plans with
  | nil => simp [Toml.tablesEntry]
  | cons plan plans => simp [Toml.tablesEntry]

/-- With endpoints and without, the entries are read in one order. -/
lemma inOrder_tomlEntries (blueprint : Blueprint) :
    inOrder blueprint.tomlEntries =
      [("endpoints", .list (blueprint.plans.map fun plan => .table plan.tomlEntries)),
        ("logger", .table blueprint.settings.tomlEntries),
        ("version", .scalar (.text blueprint.version.name))] := by
  rw [tomlEntries, firstEntries, inOrder]
  cases blueprint.plans
  all_goals
    simp only [Toml.tablesEntry, List.isEmpty_nil, List.isEmpty_cons, Bool.false_eq_true,
      List.map_nil, List.map_cons, List.map_map, Function.comp_def, List.nil_append,
      List.cons_append, List.foldl_cons, List.foldl_nil, List.orderedInsert_cons,
      List.orderedInsert_nil, String.reduceLT, if_true, if_false]

lemma decodes_record (blueprint : Blueprint) :
    Decodes (Toml.source.record (record Toml.source)) (.table blueprint.tomlEntries)
      blueprint := by
  have version : Decodes (Toml.source.choice ["V1"] Version.ofName?)
      (.scalar (.text blueprint.version.name)) blueprint.version :=
    Toml.decodes_choice blueprint.version.ofName?_name
  have settings := blueprint.settings.decodes_record
  have plans : Decodes (Toml.source.list .plans (Toml.source.record (Plan.record Toml.source)))
      (.list (blueprint.plans.map fun plan => .table plan.tomlEntries)) blueprint.plans :=
    Toml.decodes_list fun plan _ => plan.decodes_record
  apply Fills.decodes_record
  · rw [inOrder_tomlEntries]
    exact ((Fills.one rfl plans rfl).append (.one rfl settings rfl)).append (.one rfl version rfl)
  · rfl

/-- Every blueprint is read back from its TOML document, and loaded from it if it passes its check.
-/
theorem ofToml_tomlText (blueprint : Blueprint) :
    ofToml blueprint.tomlText = .ok blueprint ∧
      (parse .toml blueprint.tomlText = .ok blueprint ↔ blueprint.check = .ok ()) := by
  have read : ofToml blueprint.tomlText = .ok blueprint := by
    have text : blueprint.tomlText.toList =
        (entryLine "version" (Toml.writeText blueprint.version.name)
          ++ if blueprint.plans.isEmpty then entryLine "endpoints" ['[', ']'] else [])
          ++ (blueprint.settings.tomlLines ++ blueprint.plans.flatMap Plan.tomlLines) := by
      rw [tomlText, String.toList_ofList, List.append_assoc]
    have unmarked : Toml.dropByteOrderMark blueprint.tomlText.toList =
        blueprint.tomlText.toList := by
      rw [text]
      rfl
    rw [text] at unmarked
    obtain ⟨value, parses, same⟩ := Toml.parse_blocks unmarked blueprint.lines_firstEntries
      blueprint.blocks blueprint.nodup_tomlEntries
    have decodes : Toml.decodeRecord (record Toml.source) value = .ok blueprint :=
      blueprint.decodes_record value same
    rw [ofToml, readToml, text, parses]
    simp only [bind, Except.bind, decodes, Except.mapError]
  refine ⟨read, parse_eq_ok_iff ?_⟩
  rw [Blueprint.read, read]
  rfl

end Blueprint

end LogFanout
