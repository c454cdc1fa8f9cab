import LogFanout.Proofs.Writer.Recorded
import LogFanout.Registry.Drain

/-!
# Registries over a part of a state

If writers act on a part of their state as other writers do, then a registry does the same with
either of them: `perform_map` and `run_map`. Recorded writers are such writers.
-/

namespace LogFanout
namespace Registry

variable {ω σ σ' : Type} {f : σ' → σ} {w' : Writers ω σ'} {w : Writers ω σ}

lemma letGo_map (maps : w'.Maps f w) (ownership : Ownership) (writer : ω) (s : σ') :
    letGo w ownership writer (f s) = f (letGo w' ownership writer s) := by
  cases ownership with
  | owned => exact maps.release writer s
  | shared => rfl

lemma close_map (maps : w'.Maps f w) (name : String) (endpoint : Endpoint ω)
    (routes : Table (Route ω)) (s : σ') :
    close w name endpoint routes (f s) =
      Prod.map id (Prod.map id f) (close w' name endpoint routes s) := by
  rw [close, close]
  split
  · rw [maps.destroy]
    rfl
  · rfl

/-- Adds the same endpoints. -/
lemma add_map (maps : w'.Maps f w) (name : String) (writer : ω) (ownership : Ownership)
    (r : Registry ω) (s : σ') :
    r.add w name writer ownership (f s) =
      Prod.map id (Prod.map id f) (r.add w' name writer ownership s) := by
  rw [add, add, letGo_map maps]
  split
  · rfl
  · split <;> rfl

lemma addBuiltin_map (maps : w'.Maps f w) (name : String) (transport : Transport)
    (r : Registry ω) (s : σ') :
    r.addBuiltin w name transport (f s) =
      Prod.map id (Prod.map id f) (r.addBuiltin w' name transport s) := by
  simp only [addBuiltin, maps.create, Prod.map, id, add_map maps]

/-- Removes the same endpoints. -/
lemma remove_map (maps : w'.Maps f w) (name : String) (r : Registry ω) (s : σ') :
    r.remove w name (f s) = Prod.map id f (r.remove w' name s) := by
  rw [remove, remove]
  split
  · rfl
  · simp only [close_map maps, Prod.map, id, letGo_map maps]

/-- Enables the same endpoints. -/
lemma enable_map (maps : w'.Maps f w) (name : String) (argument : Argument) (r : Registry ω)
    (s : σ') :
    r.enable w name argument (f s) =
      Prod.map id (Prod.map id f) (r.enable w' name argument s) := by
  rw [enable, enable]
  split
  · rfl
  · split
    · rfl
    · rename_i endpoint _
      split
      · rfl
      · rw [maps.init]
        rcases w'.init name endpoint.writer argument s with ⟨_ | _, _⟩ <;> rfl

/-- Disables the same endpoints. -/
lemma disable_map (maps : w'.Maps f w) (name : String) (r : Registry ω) (s : σ') :
    r.disable w name (f s) = Prod.map id (Prod.map id f) (r.disable w' name s) := by
  rw [disable, disable]
  split
  · rfl
  · split
    · rfl
    · simp only [close_map maps, Prod.map, id]

/-- Makes the same changes. -/
lemma change_map (maps : w'.Maps f w) (change : Change ω) (r : Registry ω) (s : σ') :
    r.change w change (f s) = Prod.map id (Prod.map id f) (r.change w' change s) := by
  cases change with
  | add name writer ownership => exact add_map maps name writer ownership r s
  | remove name =>
    simp only [change, remove_map maps, Prod.map, id]
  | enable name argument => exact enable_map maps name argument r s
  | disable name => exact disable_map maps name r s
  | setEnabled name argument on =>
    cases on with
    | true => exact enable_map maps name argument r s
    | false => exact disable_map maps name r s

/-- Closes all endpoints in the same way. -/
lemma closeAll_map (maps : w'.Maps f w) (entries : List (String × Endpoint ω))
    (routes : Table (Route ω)) (s : σ') :
    closeAll w entries routes (f s) = Prod.map id f (closeAll w' entries routes s) := by
  induction entries generalizing routes s with
  | nil => rfl
  | cons entry entries ih =>
    simp only [closeAll, close_map maps, Prod.map, id, letGo_map maps]
    exact ih _ _

/-- Removes all endpoints in the same way. -/
lemma clear_map (maps : w'.Maps f w) (r : Registry ω) (s : σ') :
    r.clear w (f s) = Prod.map id f (r.clear w' s) := by
  simp only [clear, closeAll_map maps, Prod.map, id]

lemma clearIn_map (maps : w'.Maps f w) (drain : Drain) (r : Registry ω) (s : σ') :
    r.clearIn w drain (f s) = Prod.map id f (r.clearIn w' drain s) := by
  simp only [clearIn, closeAll_map maps, Prod.map, id]

variable [DecidableEq ω]

/-- Deliveries are the same if the lines inside them are. -/
lemma deliver_map (maps : w'.Maps f w) {relay relay'}
    (same : ∀ busy line ledger s,
      relay busy line ledger (f s) = Prod.map id (Prod.map id f) (relay' busy line ledger s))
    (names : List String) (busy : List ω) (line : Bytes) (routes : List (String × Route ω))
    (ledger : Ledger) (s : σ') :
    deliver w names relay busy line routes ledger (f s) =
      Prod.map id (Prod.map id f) (deliver w' names relay' busy line routes ledger s) := by
  induction routes generalizing ledger s with
  | nil => rfl
  | cons entry routes ih =>
    obtain ⟨name, route⟩ := entry
    have one : writeRoute w names relay busy line name route ledger (f s) =
        Prod.map id (Prod.map id f)
          (writeRoute w' names relay' busy line name route ledger s) := by
      simp only [writeRoute, maps.write, Prod.map, id]
      split
      · simp only [same, Prod.map, id]
      · rfl
    simp only [deliver, one, Prod.map, id]
    rw [ih]
    rfl

/-- Fan-outs inside writes are the same. -/
lemma fanOutWithin_map (maps : w'.Maps f w) (routes : List (String × Route ω)) (depth : Nat)
    (busy : List ω) (line : Bytes) (ledger : Ledger) (s : σ') :
    fanOutWithin w routes depth busy line ledger (f s) =
      Prod.map id (Prod.map id f) (fanOutWithin w' routes depth busy line ledger s) := by
  induction depth generalizing busy line ledger s with
  | zero => exact deliver_map maps (fun _ _ _ _ => rfl) _ busy line routes ledger s
  | succ depth ih => exact deliver_map maps ih _ busy line routes ledger s

/-- Carries out an operation in the same way. -/
lemma perform_map (maps : w'.Maps f w) (operation : Operation ω) (r : Registry ω) (s : σ') :
    r.perform w operation (f s) = Prod.map id (Prod.map id f) (r.perform w' operation s) := by
  cases operation with
  | change change => simp only [perform, change_map maps, Prod.map, id]
  | fanOut line => simp only [perform, fanOut, fanOutWithin_map maps, Prod.map, id]
  | clear => simp only [perform, clear_map maps, Prod.map, id]

/-- Carries out an operation in the same way, in whatever order a clear goes through the endpoints. -/
lemma performIn_map (maps : w'.Maps f w) (drain : Drain) (operation : Operation ω)
    (r : Registry ω) (s : σ') :
    r.performIn w drain operation (f s) =
      Prod.map id (Prod.map id f) (r.performIn w' drain operation s) := by
  cases operation with
  | change made => exact perform_map maps (.change made) r s
  | fanOut line => exact perform_map maps (.fanOut line) r s
  | clear => simp only [performIn, clearIn_map maps, Prod.map, id]

end Registry
end LogFanout
