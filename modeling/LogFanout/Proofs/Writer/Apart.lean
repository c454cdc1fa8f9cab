import LogFanout.Proofs.Writer.Recorded

/-!
# Writers that share no state

`Writers.Apart` says that the writers of one endpoint share no state with those of the others: what
is done with the former the latter do not notice. They may still hear of the endpoint by way of the
registry, by lines that its writers send out and by asking whether it is enabled;
`Writers.Unnoticed` excludes that. Recording the calls changes neither (`Apart.recorded`,
`Unnoticed.recorded`).
-/

namespace LogFanout

variable {ω σ : Type}

/-- What a writer can see of the registry if an endpoint is not there. -/
def Situation.without (name : String) (situation : Situation) : Situation :=
  { situation with enabled := situation.enabled.filter (· ≠ name) }

/-- The writers `own` of the endpoint `name` share no state with the writers of other endpoints.
Two states are `alike` if the latter are the same in both. -/
structure Writers.Apart (w : Writers ω σ) (name : String) (own : ω → Prop)
    (alike : σ → σ → Prop) : Prop where
  symm : ∀ {s s'}, alike s s' → alike s' s
  trans : ∀ {s s' s''}, alike s s' → alike s' s'' → alike s s''
  initOwn : ∀ {writer s s'}, own writer → alike s s' → ∀ argument,
    alike (w.init name writer argument s).2 s'
  writeOwn : ∀ {writer s s'}, own writer → alike s s' → ∀ situation line,
    situation.endpoint = name → alike (w.write situation writer line s).2 s'
  destroyOwn : ∀ {writer s s'}, own writer → alike s s' → alike (w.destroy name writer s) s'
  releaseOwn : ∀ {writer s s'}, own writer → alike s s' → alike (w.release writer s) s'
  initOther : ∀ {other writer s s'}, ¬own writer → alike s s' → other ≠ name → ∀ argument,
    (w.init other writer argument s).1 = (w.init other writer argument s').1 ∧
      alike (w.init other writer argument s).2 (w.init other writer argument s').2
  writeOther : ∀ {writer s s'}, ¬own writer → alike s s' → ∀ situation line,
    situation.endpoint ≠ name →
    (w.write situation writer line s).1 = (w.write situation writer line s').1 ∧
      alike (w.write situation writer line s).2 (w.write situation writer line s').2
  destroyOther : ∀ {other writer s s'}, ¬own writer → alike s s' → other ≠ name →
    alike (w.destroy other writer s) (w.destroy other writer s')
  releaseOther : ∀ {writer s s'}, ¬own writer → alike s s' →
    alike (w.release writer s) (w.release writer s')

/-- The writers of other endpoints do not hear of the endpoint `name` by way of the registry. -/
structure Writers.Unnoticed (w : Writers ω σ) (name : String) (own : ω → Prop)
    (alike : σ → σ → Prop) : Prop where
  /-- Its writers send out no line from inside a write. -/
  silent : ∀ {writer s}, own writer → alike s s → ∀ situation line, situation.endpoint = name →
    (w.write situation writer line s).1.sent situation = none
  /-- It makes no difference to the other writers whether it is enabled. -/
  unseen : ∀ {writer s}, ¬own writer → alike s s → ∀ situation line, situation.endpoint ≠ name →
    (w.write situation writer line s).1 = (w.write (situation.without name) writer line s).1 ∧
      alike (w.write situation writer line s).2 (w.write (situation.without name) writer line s).2

variable {w : Writers ω σ} {name : String} {own : ω → Prop} {alike : σ → σ → Prop}

/-- A state that is alike another one is alike itself. -/
lemma Writers.Apart.left (apart : w.Apart name own alike) {s s' : σ} (same : alike s s') :
    alike s s :=
  apart.trans same (apart.symm same)

lemma Writers.Apart.right (apart : w.Apart name own alike) {s s' : σ} (same : alike s s') :
    alike s' s' :=
  apart.trans (apart.symm same) same

/-- Whatever the writers are asked, they keep a property of their state. -/
structure Writers.Keeps (w : Writers ω σ) (P : σ → Prop) : Prop where
  init : ∀ {s}, P s → ∀ name writer argument, P (w.init name writer argument s).2
  write : ∀ {s}, P s → ∀ situation writer line, P (w.write situation writer line s).2
  destroy : ∀ {s}, P s → ∀ name writer, P (w.destroy name writer s)
  release : ∀ {s}, P s → ∀ writer, P (w.release writer s)

/-- Writers that share no state share none if only the states with a property are looked at. -/
lemma Writers.Apart.within (apart : w.Apart name own alike) {P : σ → Prop} (keeps : w.Keeps P) :
    w.Apart name own fun s s' => alike s s' ∧ P s ∧ P s' where
  symm same := ⟨apart.symm same.1, same.2.symm⟩
  trans same same' := ⟨apart.trans same.1 same'.1, same.2.1, same'.2.2⟩
  initOwn mine same argument :=
    ⟨apart.initOwn mine same.1 argument, keeps.init same.2.1 name _ argument, same.2.2⟩
  writeOwn mine same situation line endpoint :=
    ⟨apart.writeOwn mine same.1 situation line endpoint, keeps.write same.2.1 situation _ line,
      same.2.2⟩
  destroyOwn mine same :=
    ⟨apart.destroyOwn mine same.1, keeps.destroy same.2.1 name _, same.2.2⟩
  releaseOwn mine same := ⟨apart.releaseOwn mine same.1, keeps.release same.2.1 _, same.2.2⟩
  initOther others same ne argument :=
    have init := apart.initOther others same.1 ne argument
    ⟨init.1, init.2, keeps.init same.2.1 _ _ argument, keeps.init same.2.2 _ _ argument⟩
  writeOther others same situation line ne :=
    have write := apart.writeOther others same.1 situation line ne
    ⟨write.1, write.2, keeps.write same.2.1 situation _ line, keeps.write same.2.2 situation _ line⟩
  destroyOther others same ne :=
    ⟨apart.destroyOther others same.1 ne, keeps.destroy same.2.1 _ _, keeps.destroy same.2.2 _ _⟩
  releaseOther others same :=
    ⟨apart.releaseOther others same.1, keeps.release same.2.1 _, keeps.release same.2.2 _⟩

/-- The calls that are not made on behalf of a name. -/
def callsExcept (name : String) (calls : List (Call ω)) : List (Call ω) :=
  calls.filter fun call => call.endpoint ≠ name

/-- Recorded states are alike if the states are and the calls on behalf of other names. -/
def recordedAlike (name : String) (alike : σ → σ → Prop) (s s' : σ × List (Call ω)) : Prop :=
  alike s.1 s'.1 ∧ callsExcept name s.2 = callsExcept name s'.2

/-- A call on behalf of the name is passed over. -/
lemma callsExcept_own {name : String} (calls : List (Call ω)) (call : Call ω)
    (own : call.endpoint = name) : callsExcept name (calls ++ [call]) = callsExcept name calls := by
  simp [callsExcept, own]

lemma callsExcept_other {name : String} {calls calls' : List (Call ω)}
    (same : callsExcept name calls = callsExcept name calls') (call : Call ω) :
    callsExcept name (calls ++ [call]) = callsExcept name (calls' ++ [call]) := by
  simp only [callsExcept, List.filter_append] at *
  rw [same]

/-- Writers that are apart stay so when they are recorded. -/
lemma Writers.Apart.recorded (apart : w.Apart name own alike) :
    w.recorded.Apart name own (recordedAlike name alike) where
  symm same := ⟨apart.symm same.1, same.2.symm⟩
  trans same same' := ⟨apart.trans same.1 same'.1, same.2.trans same'.2⟩
  initOwn mine same argument :=
    ⟨apart.initOwn mine same.1 argument, (callsExcept_own _ ⟨name, _, _⟩ rfl).trans same.2⟩
  writeOwn mine same situation line endpoint :=
    ⟨apart.writeOwn mine same.1 situation line endpoint,
      (callsExcept_own _ _ endpoint).trans same.2⟩
  destroyOwn mine same :=
    ⟨apart.destroyOwn mine same.1, (callsExcept_own _ ⟨name, _, _⟩ rfl).trans same.2⟩
  releaseOwn mine same := ⟨apart.releaseOwn mine same.1, same.2⟩
  initOther others same ne argument := by
    obtain ⟨outcome, after⟩ := apart.initOther others same.1 ne argument
    refine ⟨outcome, after, ?_⟩
    simp only [Writers.recorded, outcome]
    exact callsExcept_other same.2 _
  writeOther others same situation line ne := by
    obtain ⟨written, after⟩ := apart.writeOther others same.1 situation line ne
    refine ⟨written, after, ?_⟩
    simp only [Writers.recorded, written]
    exact callsExcept_other same.2 _
  destroyOther others same ne := ⟨apart.destroyOther others same.1 ne, callsExcept_other same.2 _⟩
  releaseOther others same := ⟨apart.releaseOther others same.1, same.2⟩

lemma Writers.Unnoticed.recorded (unnoticed : w.Unnoticed name own alike) :
    w.recorded.Unnoticed name own (recordedAlike name alike) where
  silent mine same := unnoticed.silent mine same.1
  unseen others same situation line ne := by
    obtain ⟨written, after⟩ := unnoticed.unseen others same.1 situation line ne
    refine ⟨written, after, ?_⟩
    simp only [Writers.recorded, written]
    rfl

end LogFanout
