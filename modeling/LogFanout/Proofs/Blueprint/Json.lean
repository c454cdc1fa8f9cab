import LogFanout.Proofs.Blueprint.Fields

/-!
# Blueprints through JSON

A blueprint is read from every document that describes it (`ofJson_writes`), its own JSON document
among them (`ofJson_jsonText`).
-/

namespace LogFanout

open Json (Blank Describes Given Maybe Named Quotes Reads Row Value WellFormed)

lemma Settings.describes_layout (settings : Settings) (depth : Nat) :
    Describes settings.fields ((Value.record [
      ("buffer_capacity", .integer settings.capacity.toNat),
      ("seed_std", .boolean settings.seeded)]).layout depth) := by
  apply Json.describes_layout _ settings.nodup_fields
  intro depth
  exact .given rfl (.given rfl .done)

lemma Plan.describes_layout (plan : Plan) (depth : Nat) :
    Describes plan.fields (plan.toJson.layout depth) := by
  apply Json.describes_layout _ plan.nodup_fields
  intro depth
  obtain ⟨name, transport, enabled, descriptor, target⟩ := plan
  have name := Json.quotes_writeText name
  have transport := Json.quotes_writeText transport.name
  cases descriptor with
  | none =>
    cases target with
    | none => exact .given name (.given transport (.given rfl (.left rfl (.left rfl .done))))
    | some target =>
      have target : Maybe (fun target => Quotes target.text) (some target) _ :=
        .value (Json.quotes_writeText target.text)
      exact .given name (.given transport (.given rfl (.left rfl (.given target .done))))
  | some number =>
    cases target with
    | none =>
      exact .given name (.given transport (.given rfl (.given (.value rfl) (.left rfl .done))))
    | some target =>
      have target : Maybe (fun target => Quotes target.text) (some target) _ :=
        .value (Json.quotes_writeText target.text)
      exact .given name (.given transport (.given rfl (.given (.value rfl) (.given target .done))))

namespace Blueprint

lemma describes_layout (blueprint : Blueprint) (depth : Nat) :
    Describes blueprint.fields (blueprint.toJson.layout depth) := by
  apply Json.describes_layout _ blueprint.nodup_fields
  intro depth
  have version := Json.quotes_writeText blueprint.version.name
  have settings := blueprint.settings.describes_layout depth
  have plans :=
    Json.row_layout (fun plan (_ : plan ∈ blueprint.plans) => plan.describes_layout) depth
  exact .given version (.given settings (.given plans .done))

lemma readBy_record (blueprint : Blueprint) (depth : Nat) :
    Reads (Json.readRecord (record Json.source)) (blueprint.toJson.layout depth) blueprint :=
  (blueprint.describes_layout depth).reads blueprint.readsFields

/-- Every blueprint is read back from its JSON document, and loaded from it if it passes its check.
-/
theorem ofJson_jsonText (blueprint : Blueprint) :
    ofJson blueprint.jsonText = .ok blueprint ∧
      (parse .json blueprint.jsonText = .ok blueprint ↔ blueprint.check = .ok ()) := by
  have read : ofJson blueprint.jsonText = .ok blueprint := by
    have apart : Json.Apart [] := by
      intro c mem
      cases mem
    have reads := (blueprint.readBy_record 0).reads [] [] Json.blank_nil apart
    rw [List.nil_append, List.append_nil] at reads
    rw [ofJson, jsonText, Json.Value.pretty, String.toList_ofList, readJson, reads]
    rfl
  refine ⟨read, parse_eq_ok_iff ?_⟩
  rw [Blueprint.read, read]
  rfl

/-- A JSON document writes a blueprint if its one object, which may stand between blanks, describes
it. -/
inductive WritesJson (blueprint : Blueprint) (content : String) : Prop where
  | mk {gap text gap'} :
    content.toList = gap ++ text ++ gap' →
    Blank gap →
    Blank gap' →
    Describes blueprint.fields text →
    WritesJson blueprint content

/-- The JSON document of a blueprint writes it. -/
lemma writesJson_jsonText (blueprint : Blueprint) : blueprint.WritesJson blueprint.jsonText := by
  have chars : blueprint.jsonText.toList = [] ++ blueprint.toJson.layout 0 ++ [] := by
    rw [jsonText, Value.pretty, String.toList_ofList, List.nil_append, List.append_nil]
  exact .mk chars Json.blank_nil Json.blank_nil (blueprint.describes_layout 0)

/-- A blueprint is read from every document that writes it: members may come in any order, among
members of other names, and may be left out where their values are standard. -/
theorem ofJson_writes {blueprint : Blueprint} {content : String}
    (writes : blueprint.WritesJson content) : ofJson content = .ok blueprint := by
  obtain ⟨eq, blank, blank', describes⟩ := writes
  rw [ofJson, eq, readJson_describes describes blank blank']
  rfl

/-- A document with an endpoint whose transport stands in front of its name, which is escaped; an
unknown member stands on both sides of the endpoints. -/
def shuffled : String :=
  "\x7b\"x\":[null,\"\\ud800\"],\n\"endpoints\":[\x7b\"writer\":\"fd\",\"\\u006eame\":\"a\"\x7d],"
    ++ "\"x\":[null,\"\\ud800\"]\x7d "

theorem ofJson_writes_shuffled :
    let blueprint : Blueprint := ⟨.v1, ⟨4096, true⟩, [⟨"a", .descriptor, true, none, none⟩]⟩
    blueprint.WritesJson shuffled ∧ ofJson shuffled = .ok blueprint := by
  intro blueprint
  have gap := Json.blank_nil
  have hex : Json.Hex ['0', '0', '6', 'e'] 'n'.toNat := ⟨rfl, List.all_eq_true.mp rfl, rfl⟩
  have key : Named ('\\' :: 'u' :: ['0', '0', '6', 'e'] ++ ['a', 'm', 'e']) "name" :=
    .cons (.code hex) (Json.spells_escape ['a', 'm', 'e'])
  have plan : Given (Plan.fields ⟨"a", .descriptor, true, none, none⟩)
      [("writer", ['"', 'f', 'd', '"']), ("name", ['"', 'a', '"'])] := by
    have writer : Quotes "fd" ['"', 'f', 'd', '"'] := Json.quotes_writeText "fd"
    have name : Quotes "a" ['"', 'a', '"'] := Json.quotes_writeText "a"
    constructor
    all_goals simp [Plan.fields, writer, name, Transport.name]
  have plans : Row (fun plan => Describes plan.fields) blueprint.plans
      "[\x7b\"writer\":\"fd\",\"\\u006eame\":\"a\"\x7d]".toList := by
    have object : Describes (Plan.fields ⟨"a", .descriptor, true, none, none⟩) _ :=
      .mk (.next (.first gap) (Json.named_escape "writer") gap gap
        (.next (.next gap gap) key gap gap (.done gap))) plan
    have row : Row (fun plan => Describes plan.fields) blueprint.plans _ :=
      .mk (.next (.first gap) (.done gap)) (.cons object .nil)
    exact row
  have unknown : WellFormed "[null,\"\\ud800\"]".toList := by
    have word : WellFormed ['n', 'u', 'l', 'l'] := .word (by decide)
    have hex : Json.Hex ['d', '8', '0', '0'] 0xD800 := ⟨rfl, List.all_eq_true.mp rfl, rfl⟩
    have array : WellFormed _ := .array (.next (.first gap) (.next (.next gap gap) (.done gap)))
      (List.forall_mem_cons.mpr ⟨word, List.forall_mem_singleton.mpr (.string (.code hex .nil))⟩)
    exact array
  have gives : ∀ text value, Row (fun plan => Describes plan.fields) blueprint.plans text →
      WellFormed value →
      Given blueprint.fields [("x", value), ("endpoints", text), ("x", value)] := by
    intro text value plans unknown
    constructor
    all_goals simp [fields, blueprint, plans, unknown]
  have object : Describes blueprint.fields _ :=
    .mk (.next (.first gap) (Json.named_escape "x") gap gap
      (.next (.next gap (Json.blank_newLine 0)) (Json.named_escape "endpoints") gap gap
        (.next (.next gap gap) (Json.named_escape "x") gap gap (.done gap))))
      (gives _ _ plans unknown)
  have writes : blueprint.WritesJson shuffled := .mk rfl gap Json.blank_space object
  exact ⟨writes, ofJson_writes writes⟩

end Blueprint

end LogFanout
