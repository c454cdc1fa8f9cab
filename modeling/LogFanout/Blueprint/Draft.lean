import LogFanout.Blueprint.Basic
import LogFanout.Document.Mismatch

/-!
# Drafts

A blueprint while its document is being read: members may still be missing. A finished draft has the
standard value for each member left out; the name and the transport of an endpoint have none and
must be given.
-/

namespace LogFanout

open Document (Mismatch)

/-- Settings while they are being read. -/
structure SettingsDraft where
  capacity : Option UInt64
  seeded : Option Bool

/-- An endpoint while it is being read; `null` counts as given. -/
structure PlanDraft where
  name : Option String
  transport : Option Transport
  enabled : Option Bool
  descriptor : Option (Option Int32)
  target : Option (Option Target)

/-- A blueprint while it is being read. -/
structure BlueprintDraft where
  version : Option Version
  settings : Option Settings
  plans : Option (List Plan)

namespace SettingsDraft

/-- Settings of which nothing has been read. -/
def empty : SettingsDraft :=
  ⟨none, none⟩

/-- The settings, with standard values for members left out. -/
def finish (draft : SettingsDraft) : Settings where
  capacity := draft.capacity.getD Settings.standard.capacity
  seeded := draft.seeded.getD Settings.standard.seeded

end SettingsDraft

namespace PlanDraft

/-- An endpoint of which nothing has been read. -/
def empty : PlanDraft :=
  ⟨none, none, none, none, none⟩

/-- The endpoint, enabled unless it says otherwise. -/
def finish (draft : PlanDraft) : Except Mismatch Plan :=
  match draft.name, draft.transport with
  | none, _ => .error (.missingField "name")
  | some _, none => .error (.missingField "writer")
  | some name, some transport =>
    .ok { name, transport
          enabled := draft.enabled.getD true
          descriptor := draft.descriptor.getD none
          target := draft.target.getD none }

end PlanDraft

namespace BlueprintDraft

/-- A blueprint of which nothing has been read. -/
def empty : BlueprintDraft :=
  ⟨none, none, none⟩

/-- The blueprint, with standard values for members left out. -/
def finish (draft : BlueprintDraft) : Blueprint where
  version := draft.version.getD Blueprint.standard.version
  settings := draft.settings.getD Blueprint.standard.settings
  plans := draft.plans.getD Blueprint.standard.plans

end BlueprintDraft

/-- The version of a name. -/
def Version.ofName? (name : String) : Option Version :=
  [Version.v1].find? fun version => version.name = name

/-- The transport of a name in a document, where case matters. -/
def Transport.ofExactName? (name : String) : Option Transport :=
  [Transport.descriptor, .socket].find? fun transport => transport.name = name

end LogFanout
