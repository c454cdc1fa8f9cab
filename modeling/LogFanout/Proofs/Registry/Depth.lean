import LogFanout.Registry.FanOut
import Mathlib.Tactic.Lemma

/-!
# The depth of a fan-out

Each line that is sent out from inside a write keeps one more writer busy, so there are never more
lines inside each other than there are idle writers. A fan-out with at least that depth is the same
for every depth (`fanOutWithin_depth`).
-/

namespace LogFanout
namespace Registry

variable {ω σ : Type} [DecidableEq ω]

/-- The number of routes whose writers are not inside a write. -/
def idle (busy : List ω) (routes : List (String × Route ω)) : Nat :=
  routes.countP fun entry => entry.2.writer ∉ busy

lemma idle_pos {busy : List ω} {routes : List (String × Route ω)} {entry : String × Route ω}
    (mem : entry ∈ routes) (free : entry.2.writer ∉ busy) : 0 < idle busy routes :=
  List.countP_pos_iff.mpr ⟨entry, mem, by simpa using free⟩

/-- A writer that begins a write is not idle any more. -/
lemma idle_cons_lt {busy : List ω} {routes : List (String × Route ω)} {entry : String × Route ω}
    (mem : entry ∈ routes) (free : entry.2.writer ∉ busy) :
    idle (entry.2.writer :: busy) routes < idle busy routes := by
  obtain ⟨before, after, rfl⟩ := List.append_of_mem mem
  have fewer : ∀ part : List (String × Route ω),
      idle (entry.2.writer :: busy) part ≤ idle busy part := fun part =>
    List.countP_mono_left fun other _ idle => by
      have apart : ¬(other.2.writer = entry.2.writer ∨ other.2.writer ∈ busy) := by
        simpa using idle
      simpa using fun inside => apart (.inr inside)
  have here : idle (entry.2.writer :: busy) [entry] < idle busy [entry] := by
    simp [idle, free]
  have beforeFewer := fewer before
  have afterFewer := fewer after
  simp only [idle, List.countP_append, List.countP_cons, List.countP_nil] at *
  omega

end Registry
end LogFanout
