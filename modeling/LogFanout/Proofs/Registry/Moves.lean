import LogFanout.Proofs.Registry.Apart
import LogFanout.Proofs.Registry.Holding

/-!
# Moves of a registry and its writers

`Moves` lists what a change can do to a registry and the built-in writers of its endpoints: endpoints
are opened and closed together with their writers, and a writer whose registration is refused or
ends is let go of. Every change does one of these (`change_moves`), whatever the host decides and
whatever writers of other kinds do. That all operations keep what endpoints hold follows by cases.
-/

namespace LogFanout

open World (builtins)

variable {ω σ : Type} {w : Writers ω σ} {host : Host} {number? : ω → Option Nat} {world : σ → World}

namespace Registry

/-- Letting go of a writer closes it, unless it is the caller's. -/
lemma letGo_world (among : w.Extends host number? world) {writer : ω} {ownership : Ownership}
    (owned : number? writer ≠ none → ownership = .owned) (s : σ) :
    world (letGo w ownership writer s) = (world s).shutAt (number? writer) := by
  cases ownership with
  | owned => exact among.release writer s
  | shared =>
    have none : number? writer = none := Decidable.byContradiction fun own => by cases owned own
    rw [none]
    rfl

/-- Closing all endpoints closes their writers. -/
lemma closeAll_world (among : w.Extends host number? world) {entries : List (String × Endpoint ω)}
    (owned : ∀ entry ∈ entries, number? entry.2.writer ≠ none → entry.2.ownership = .owned)
    (routes : Table (Route ω)) (s : σ) :
    world (closeAll w entries routes s).2 =
      (world s).shutAll (entries.filterMap fun entry => number? entry.2.writer) := by
  induction entries generalizing routes s with
  | nil => rfl
  | cons entry entries ih =>
    obtain ⟨name, endpoint⟩ := entry
    obtain ⟨here, rest⟩ := List.forall_mem_cons.mp owned
    -- A writer that is let go of is closed anyway, so it does not matter if it was closed before.
    have closed : (world (close w name endpoint routes s).2.2).shutAt (number? endpoint.writer) =
        (world s).shutAt (number? endpoint.writer) := by
      rw [close]
      split
      · rw [among.destroy, World.shutAt_shutAt]
      · rfl
    simp only [closeAll, letGo_close]
    rw [ih rest, letGo_world among here, closed, List.filterMap_cons]
    cases number? endpoint.writer <;> rfl

/-- Clearing a sound registry leaves neither endpoints nor routes. -/
lemma Sound.clear_eq {r : Registry ω} (sound : r.Sound) (w : Writers ω σ) (s : σ) :
    (r.clear w s).1 = ⟨.empty, .empty, r.ledger⟩ := by
  obtain ⟨s', eq⟩ := clear_recorded sound w (s, [])
  have same := clear_map w.recorded_maps r (s, [])
  rw [eq] at same
  exact congrArg Prod.fst same

section

variable [DecidableEq ω] {P : σ → Prop}

/-- What every write keeps is kept by deliveries, if it is by the lines inside them. -/
lemma deliver_keeps (w : Writers ω σ)
    (writes : ∀ situation writer line s, P s → P (w.write situation writer line s).2)
    {relay : List ω → Bytes → Ledger → σ → Nat × Ledger × σ}
    (relays : ∀ busy line ledger s, P s → P (relay busy line ledger s).2.2)
    (names : List String) (busy : List ω) (line : Bytes) (routes : List (String × Route ω))
    (ledger : Ledger) {s : σ} (before : P s) :
    P (deliver w names relay busy line routes ledger s).2.2 := by
  induction routes generalizing ledger s with
  | nil => exact before
  | cons entry routes ih =>
    obtain ⟨name, route⟩ := entry
    have one : P (writeRoute w names relay busy line name route ledger s).2.2 := by
      simp only [writeRoute]
      have after := writes ⟨name, names, decide (route.writer ∈ busy)⟩ route.writer line s before
      split
      · exact relays _ _ _ _ after
      · exact after
    exact ih _ one

/-- What every write keeps is kept by a fan-out. -/
lemma fanOut_keeps (w : Writers ω σ)
    (writes : ∀ situation writer line s, P s → P (w.write situation writer line s).2)
    (line : Bytes) (r : Registry ω) {s : σ} (before : P s) : P (r.fanOut w line s).2.2 := by
  have within : ∀ depth busy line ledger s, P s →
      P (fanOutWithin w r.routes.entries depth busy line ledger s).2.2 := by
    intro depth
    induction depth with
    | zero =>
      intro busy line ledger s before
      exact deliver_keeps w writes (fun _ _ _ _ same => same) _ busy line _ ledger before
    | succ depth ih =>
      intro busy line ledger s before
      exact deliver_keeps w writes ih _ busy line _ ledger before
  exact within _ _ _ _ _ before

end

/-- A change that brings along no built-in writer, or one that is free. -/
def Offers (number? : ω → Option Nat) (start : World) (r : Registry ω) (world : World) :
    Change ω → Prop
  | .add _ writer ownership => ∀ number, number? writer = some number →
    ownership = .owned ∧ start.writers.length ≤ number ∧ number < world.writers.length ∧
      ∀ name endpoint, ¬r.Lodges number? name endpoint number
  | _ => True

/-- What a change can do to a registry and the built-in writers. -/
inductive Moves (host : Host) (number? : ω → Option Nat) (r : Registry ω) (world : World) :
    Change ω → Status → Registry ω → World → Prop where
  | refused {change e} :
    Moves host number? r world change (.error e) r world
  | added {name writer ownership} :
    name ≠ "" →
    r.endpoints.find? name = none →
    Moves host number? r world (.add name writer ownership) (.ok ())
      { r with
        endpoints := r.endpoints.insert name (.fresh writer ownership r.ledger.next)
        ledger := r.ledger.extend }
      world
  | passed {name} :
    r.endpoints.find? name = none →
    Moves host number? r world (.remove name) (.ok ()) r world
  | removed {name endpoint} :
    r.endpoints.find? name = some endpoint →
    Moves host number? r world (.remove name) (.ok ())
      { r with endpoints := r.endpoints.erase name, routes := r.routes.erase name }
      (world.shutAt (number? endpoint.writer))
  | tried {name argument e s} :
    s.connections = world.surroundings.connections →
    world.surroundings.Silent s →
    Moves host number? r world (.enable name argument) (.error e) r { world with surroundings := s }
  | opened {name argument endpoint number writer s} :
    r.endpoints.find? name = some endpoint →
    endpoint.enabled = false →
    number? endpoint.writer = some number →
    Builtin.Opens host (world.writer number) world.surroundings argument (.ok ()) writer s →
    world.surroundings.Silent s →
    Moves host number? r world (.enable name argument) (.ok ())
      { r with
        endpoints := r.endpoints.insert name (endpoint.opened argument)
        routes := r.routes.insert name endpoint.route }
      ({ world with surroundings := s }.setWriter number writer)
  | openedOther {name argument endpoint} :
    r.endpoints.find? name = some endpoint →
    number? endpoint.writer = none →
    Moves host number? r world (.enable name argument) (.ok ())
      { r with
        endpoints := r.endpoints.insert name (endpoint.opened argument)
        routes := r.routes.insert name endpoint.route }
      world
  | closed {name endpoint} :
    r.endpoints.find? name = some endpoint →
    Moves host number? r world (.disable name) (.ok ())
      { r with
        endpoints := r.endpoints.insert name endpoint.closed
        routes := r.routes.erase name }
      (world.shutAt (number? endpoint.writer))
  | enabling {name argument status r' world'} :
    Moves host number? r world (.enable name argument) status r' world' →
    Moves host number? r world (.setEnabled name argument true) status r' world'
  | disabling {name argument status r' world'} :
    Moves host number? r world (.disable name) status r' world' →
    Moves host number? r world (.setEnabled name argument false) status r' world'

variable {start : World} {r : Registry ω} {name : String} {endpoint : Endpoint ω} {s : σ}

lemma Holds.close (among : w.Extends host number? world) (holds : r.Holds number? start (world s))
    (found : r.endpoints.find? name = some endpoint) :
    ∃ s', Registry.close w name endpoint r.routes s =
        (endpoint.closed, r.routes.erase name, s') ∧
      world s' = (world s).shutAt (number? endpoint.writer) := by
  rw [Registry.close]
  split
  · exact ⟨_, rfl, among.destroy name endpoint.writer s⟩
  · rename_i off
    have off := Bool.eq_false_iff.mpr off
    refine ⟨s, by rw [holds.sound.closed_eq found off, holds.sound.erase_routes found off], ?_⟩
    exact (World.shutAt_of_shut fun _ own => (holds.isOpen_eq ⟨found, own⟩).trans off).symm

lemma add_moves (among : w.Extends host number? world) (holds : r.Holds number? start (world s))
    {writer : ω} {ownership : Ownership}
    (offers : r.Offers number? start (world s) (.add name writer ownership)) :
    r.Moves host number? (world s) (.add name writer ownership)
      (r.add w name writer ownership s).1 (r.add w name writer ownership s).2.1
      (world (r.add w name writer ownership s).2.2) := by
  have owned : number? writer ≠ none → ownership = .owned := fun some => by
    obtain ⟨number, own⟩ := Option.ne_none_iff_exists'.mp some
    exact (offers number own).1
  have shut : (world s).shutAt (number? writer) = world s :=
    World.shutAt_of_shut fun number own => by
      obtain ⟨-, later, -, none⟩ := offers number own
      exact holds.idle number later none
  have letGo : world (letGo w ownership writer s) = world s :=
    (letGo_world among owned s).trans shut
  rw [add]
  split
  · simp only [letGo]
    exact .refused
  · rename_i named
    split
    · simp only [letGo]
      exact .refused
    · rename_i free
      exact .added named (Option.not_isSome_iff_eq_none.mp free)

lemma remove_moves (among : w.Extends host number? world)
    (holds : r.Holds number? start (world s)) (name : String) :
    r.Moves host number? (world s) (.remove name) (.ok ()) (r.remove w name s).1
      (world (r.remove w name s).2) := by
  rw [remove]
  split
  · rename_i free
    exact .passed free
  · rename_i endpoint found
    obtain ⟨s', eq, after⟩ := holds.close among found
    have letGo := letGo_world among (holds.owned_of_own found) s'
    rw [after, World.shutAt_shutAt] at letGo
    simp only [eq, Endpoint.closed, letGo]
    exact .removed found

/-- Opening an endpoint, or trying to. -/
lemma init_moves (among : w.Extends host number? world)
    (found : r.endpoints.find? name = some endpoint) (off : endpoint.enabled = false)
    (argument : Argument) {s' : σ} :
    (∀ why, w.init name endpoint.writer argument s = (.error why, s') →
      r.Moves host number? (world s) (.enable name argument) (.error (.initFailed name why)) r
        (world s')) ∧
    (w.init name endpoint.writer argument s = (.ok (), s') →
      r.Moves host number? (world s) (.enable name argument) (.ok ())
        { r with
          endpoints := r.endpoints.insert name (endpoint.opened argument)
          routes := r.routes.insert name endpoint.route }
        (world s')) := by
  cases own : number? endpoint.writer with
  | none =>
    have same := among.initOther own name argument s
    refine ⟨fun why eq => ?_, fun eq => ?_⟩ <;> rw [eq] at same <;> rw [same]
    · exact .refused
    · exact .openedOther found own
  | some number =>
    obtain ⟨outcome, after⟩ := among.init own name argument s
    obtain ⟨writer, around, opens, silent, eq'⟩ :=
      World.init_opens host name number argument (world s)
    rw [← outcome] at opens
    rw [eq'] at after
    refine ⟨fun why eq => ?_, fun eq => ?_⟩ <;> rw [eq] at opens after <;> rw [after]
    · cases opens with
      | @failed _ _ around kept =>
        have self := World.setWriter_self ⟨around, (world s).writers⟩ number
        exact self.symm ▸ .tried kept silent
    · exact .opened found off own opens silent

lemma enable_moves (among : w.Extends host number? world) (r : Registry ω) (name : String)
    (argument : Argument) (s : σ) :
    r.Moves host number? (world s) (.enable name argument) (r.enable w name argument s).1
      (r.enable w name argument s).2.1 (world (r.enable w name argument s).2.2) := by
  rw [enable]
  split
  · exact .refused
  · split
    · exact .refused
    · rename_i endpoint found
      split
      · exact .refused
      · rename_i off
        have off := Bool.eq_false_iff.mpr off
        rcases eq : w.init name endpoint.writer argument s with ⟨why | ⟨⟨⟩⟩, s'⟩
        · exact (init_moves among found off argument).1 why eq
        · exact (init_moves among found off argument).2 eq

lemma disable_moves (among : w.Extends host number? world)
    (holds : r.Holds number? start (world s)) (name : String) :
    r.Moves host number? (world s) (.disable name) (r.disable w name s).1
      (r.disable w name s).2.1 (world (r.disable w name s).2.2) := by
  rw [disable]
  split
  · exact .refused
  · split
    · exact .refused
    · rename_i endpoint found
      obtain ⟨s', eq, after⟩ := holds.close among found
      simp only [eq, after]
      exact .closed found

/-- A change does one of the things listed. -/
lemma change_moves (among : w.Extends host number? world)
    (holds : r.Holds number? start (world s)) {change : Change ω}
    (offers : r.Offers number? start (world s) change) :
    r.Moves host number? (world s) change (r.change w change s).1 (r.change w change s).2.1
      (world (r.change w change s).2.2) := by
  cases change with
  | add name writer ownership => exact add_moves among holds offers
  | remove name => exact remove_moves among holds name
  | enable name argument => exact enable_moves among r name argument s
  | disable name => exact disable_moves among holds name
  | setEnabled name argument on =>
    cases on with
    | true => exact .enabling (enable_moves among r name argument s)
    | false => exact .disabling (disable_moves among holds name)

/-- Every change keeps what the endpoints hold. -/
lemma Moves.holds {r' : Registry ω} {now now' : World} {change : Change ω} {status : Status}
    (moves : r.Moves host number? now change status r' now') (holds : r.Holds number? start now)
    (offers : r.Offers number? start now change) : r'.Holds number? start now' := by
  induction moves with
  | refused => exact holds
  | added named free => exact holds.added named free _ _ offers
  | passed _ => exact holds
  | removed found => exact holds.removed found
  | tried kept _ => exact holds.unchanged rfl (kept ▸ List.prefix_rfl)
  | @opened name argument endpoint number writer around found _ own opens _ =>
    have made := (holds.owned ⟨found, own⟩).2.2
    have self : ({ now with surroundings := around }.setWriter number writer).writer number =
        writer := World.writer_setWriter made writer
    refine holds.changed found (holds.sound.opened found argument) rfl rfl
      (World.length_setWriter ..) (fun other ne => ?_) (fun other own' => ?_) opens.connections
    · exact World.writer_setWriter_ne (fun eq => ne (own.trans (congrArg _ eq.symm))) _ _
    · cases own.symm.trans own'
      rw [self]
      exact ⟨opens.holding, opens.fits, fun _ => opens.le_connection⟩
  | openedOther found other =>
    exact holds.changed found (holds.sound.opened found _) rfl rfl rfl (fun _ _ => rfl)
      (fun _ own => by cases other.symm.trans own) List.prefix_rfl
  | closed found => exact holds.closed found
  | enabling _ ih => exact ih trivial
  | disabling _ ih => exact ih trivial

section

variable {r' : Registry ω} {now now' : World} {change : Change ω} {status : Status}

/-- A change sends nothing. -/
lemma Moves.silent (moves : r.Moves host number? now change status r' now') :
    now.surroundings.Silent now'.surroundings := by
  induction moves with
  | refused => exact .refl _
  | added _ _ => exact .refl _
  | passed _ => exact .refl _
  | removed _ =>
    rw [World.surroundings_shutAt]
    exact .refl _
  | tried _ silent => exact silent
  | opened _ _ _ _ silent => exact silent
  | openedOther _ _ => exact .refl _
  | closed _ =>
    rw [World.surroundings_shutAt]
    exact .refl _
  | enabling _ ih => exact ih
  | disabling _ ih => exact ih

/-- A change that fails leaves the endpoints and the connections as they were. -/
lemma Moves.failed {e : RegistryError}
    (moves : r.Moves host number? now change (.error e) r' now') :
    r' = r ∧ now'.surroundings.connections = now.surroundings.connections := by
  generalize failed : (.error e : Status) = status at moves
  induction moves with
  | refused => exact ⟨rfl, rfl⟩
  | tried kept _ => exact ⟨rfl, kept⟩
  | enabling _ ih => exact ih failed
  | disabling _ ih => exact ih failed
  | _ => cases failed

/-- What is done with the endpoint of one name leaves those of other names and their writers as they
are. -/
lemma Moves.elsewhere (moves : r.Moves host number? now change status r' now')
    (holds : r.Holds number? start now) (ne : name ≠ change.name) :
    r'.endpoints.find? name = r.endpoints.find? name ∧
      ∀ endpoint number, r.Lodges number? name endpoint number →
        now'.writer number = now.writer number := by
  -- The writer of an endpoint of another name is another writer.
  have apart : ∀ {endpoint : Endpoint ω}, r.endpoints.find? change.name = some endpoint →
      ∀ endpoint' number, r.Lodges number? name endpoint' number →
        number? endpoint.writer ≠ some number := by
    intro endpoint found endpoint' number lodges own
    exact ne (holds.apart lodges ⟨found, own⟩)
  induction moves with
  | refused => exact ⟨rfl, fun _ _ _ => rfl⟩
  | added _ _ => exact ⟨(Table.find?_insert ..).trans (if_neg ne), fun _ _ _ => rfl⟩
  | passed _ => exact ⟨rfl, fun _ _ _ => rfl⟩
  | removed found =>
    refine ⟨(Table.find?_erase ..).trans (if_neg ne), fun endpoint number lodges => ?_⟩
    exact World.writer_shutAt_ne (apart found endpoint number lodges) now
  | tried _ _ => exact ⟨rfl, fun _ _ _ => rfl⟩
  | opened found _ own _ _ =>
    refine ⟨(Table.find?_insert ..).trans (if_neg ne), fun endpoint number lodges => ?_⟩
    refine World.writer_setWriter_ne (fun eq => apart found endpoint number lodges ?_) _ _
    rw [own, eq]
  | openedOther _ _ => exact ⟨(Table.find?_insert ..).trans (if_neg ne), fun _ _ _ => rfl⟩
  | closed found =>
    refine ⟨(Table.find?_insert ..).trans (if_neg ne), fun endpoint number lodges => ?_⟩
    exact World.writer_shutAt_ne (apart found endpoint number lodges) now
  | enabling _ ih => exact ih ne apart
  | disabling _ ih => exact ih ne apart

end

namespace Holds

/-- A built-in writer that has just been made is no endpoint's. -/
lemma create (among : w.Extends host number? world) (holds : r.Holds number? start (world s))
    (transport : Transport) : r.Holds number? start (world (w.create transport s).2) := by
  rw [(among.create transport s).2]
  refine holds.kept ?_ (fun number made => ?_) (fun number beyond => ?_) List.prefix_rfl
  · rw [World.length_create]
    exact Nat.le_succ _
  · exact World.writer_create host transport _ (Nat.ne_of_lt made)
  · by_cases eq : number = (world s).writers.length
    · rw [eq, World.writer_create_self, Builtin.isOpen_ofTransport]
    · rw [World.writer_create host transport _ eq]
      exact World.isOpen_unmade beyond

/-- A built-in writer that has just been made is free. -/
lemma offers_create (among : w.Extends host number? world)
    (holds : r.Holds number? start (world s)) (name : String) (transport : Transport) :
    r.Offers number? start (world (w.create transport s).2)
      (.add name (w.create transport s).1 .owned) := by
  obtain ⟨own, after⟩ := among.create transport s
  intro number eq
  cases own.symm.trans eq
  rw [after, World.length_create]
  exact ⟨rfl, holds.more, Nat.lt_succ_self _, fun other endpoint lodges =>
    absurd (holds.owned lodges).2.2 (Nat.lt_irrefl _)⟩

lemma change (among : w.Extends host number? world) (holds : r.Holds number? start (world s))
    {change : Change ω} (offers : r.Offers number? start (world s) change) :
    (r.change w change s).2.1.Holds number? start (world (r.change w change s).2.2) :=
  (change_moves among holds offers).holds holds offers

lemma addBuiltin (among : w.Extends host number? world) (holds : r.Holds number? start (world s))
    (name : String) (transport : Transport) :
    (r.addBuiltin w name transport s).2.1.Holds number? start
      (world (r.addBuiltin w name transport s).2.2) :=
  (holds.create among transport).change among (holds.offers_create among name transport)

lemma clear_world (among : w.Extends host number? world)
    (holds : r.Holds number? start (world s)) :
    world (r.clear w s).2 =
      (world s).shutAll (r.endpoints.entries.filterMap fun entry => number? entry.2.writer) :=
  closeAll_world among (fun _ mem => holds.owned_of_own (Table.mem_entries_iff.mp mem)) r.routes s

/-- Clearing leaves nothing open. -/
lemma clear_shut (among : w.Extends host number? world) (holds : r.Holds number? start (world s)) :
    World.Shut start (world (r.clear w s).2) := by
  intro number later
  rw [holds.clear_world among]
  refine World.isOpen_shutAll fun other => holds.idle number later fun name endpoint lodges => ?_
  exact other (List.mem_filterMap.mpr ⟨_, Table.mem_entries_iff.mpr lodges.1, lodges.2⟩)

lemma clear (among : w.Extends host number? world) (holds : r.Holds number? start (world s)) :
    (r.clear w s).1.Holds number? start (world (r.clear w s).2) := by
  rw [holds.sound.clear_eq w s]
  refine .cleared ?_ (holds.clear_shut among) r.ledger
  rw [holds.clear_world among, World.length_shutAll]
  exact holds.more

/-- Fanning out opens and closes nothing. -/
lemma fanOut [DecidableEq ω] (among : w.Extends host number? world)
    (holds : r.Holds number? start (world s)) (line : Bytes) :
    (r.fanOut w line s).2.1.Holds number? start (world (r.fanOut w line s).2.2) := by
  have writes : ∀ situation writer line s, r.Holds number? start (world s) →
      r.Holds number? start (world (w.write situation writer line s).2) := by
    intro situation writer line s holds
    cases own : number? writer with
    | none =>
      rw [among.writeOther own]
      exact holds
    | some number =>
      rw [among.write own]
      have kept := Builtin.write_connections host line ((world s).writer number)
        (world s).surroundings
      exact holds.unchanged rfl (kept ▸ List.prefix_rfl)
  have sound := (observe_takes holds.sound w (.fanOut line) s).sound holds.sound
  have same := observe_eq w (.fanOut line) r s
  rw [← congrArg (fun result => result.2.1) same] at sound
  exact (fanOut_keeps w writes line r holds).counted sound

end Holds

end Registry
end LogFanout
