import LogFanout.Blueprint.Load
import LogFanout.Proofs.Target

/-!
# Loading what was written

The names of transports and versions and the texts of targets stand for what they were written for,
and every capacity is in range. A document that reads as a blueprint is loaded exactly if the
blueprint passes its check.
-/

namespace LogFanout

lemma Transport.ofExactName?_name (transport : Transport) :
    Transport.ofExactName? transport.name = some transport := by
  cases transport <;> rfl

lemma Version.ofName?_name (version : Version) : Version.ofName? version.name = some version := by
  cases version
  rfl

lemma Settings.capacity_le (settings : Settings) :
    (settings.capacity.toNat : Int) ≤ UInt64.size - 1 := by
  have size : UInt64.size = 18446744073709551616 := rfl
  have fits := settings.capacity.toNat_lt
  omega

lemma Target.ofText_text (target : Target) : Target.ofText target.text = .ok target := by
  rw [ofText, parse_text]

lemma Blueprint.parse_eq_ok_iff {blueprint : Blueprint} {format : Format} {content : String}
    (reads : read format content = .ok blueprint) :
    parse format content = .ok blueprint ↔ blueprint.check = .ok () := by
  rw [parse, reads]
  constructor
  · intro loaded
    cases passes : blueprint.check with
    | ok => rfl
    | error why =>
      simp only [bind, Except.bind, passes] at loaded
      cases loaded
  · intro passes
    simp only [bind, Except.bind, passes]

end LogFanout
