import LogFanout.Logger.Shared
import Mathlib.Tactic.Lemma

/-!
# The shared logger as one logger

The functions of the shared logger do to it what the methods of a logger do (`serve_eq`). So a
program that uses them goes on as one does that holds a logger and calls its methods (`run_held`),
and which logger that is, is decided by the first event that has to do with it (`run_simulates`).
-/

namespace LogFanout
namespace SharedLogger

variable {ω σ : Type}

/-- Something that happens in a program with a shared logger. -/
inductive Event (ω σ : Type) where
  | install (logger : Logger ω)
  | ask (request : Logger.Request ω)
  /-- Whatever else the program does, such as building a logger or letting go of one. -/
  | elsewhere (act : σ → σ)

/-- What an event is answered with. -/
inductive Answer (ω : Type) where
  | install (result : Except (Logger ω) Unit)
  | ask (answer : Logger.Answer ω)
  | elsewhere

/-- Whether an event neither installs nor asks anything. -/
def Event.isElsewhere : Event ω σ → Bool
  | .elsewhere _ => true
  | .install _ | .ask _ => false

/-- Whether an install succeeded. -/
def Answer.isInstalled : Answer ω → Bool
  | .install (.ok ()) => true
  | .install (.error _) | .ask _ | .elsewhere => false

/-- The answer to an event, and what the event leaves behind. -/
structure Moment (κ ω σ : Type) where
  answer : Answer ω
  /-- What holds the logger. -/
  keeper : κ
  state : σ

/-- The same moment with the logger in the shared place. -/
def Moment.held (moment : Moment (Logger ω) ω σ) : Moment (SharedLogger ω) ω σ :=
  ⟨moment.answer, ⟨some moment.keeper⟩, moment.state⟩

variable [DecidableEq ω]

/-- Lets an event happen. -/
def perform (w : Writers ω σ) (event : Event ω σ) (shared : SharedLogger ω) (s : σ) :
    Moment (SharedLogger ω) ω σ :=
  match event with
  | .install logger =>
    let (result, shared) := shared.install logger
    ⟨.install result, shared, s⟩
  | .ask request =>
    let (answer, shared, s) := shared.serve w request s
    ⟨.ask answer, shared, s⟩
  | .elsewhere act => ⟨.elsewhere, shared, act s⟩

/-- The moments of a history. -/
def run (w : Writers ω σ) :
    List (Event ω σ) → SharedLogger ω → σ → List (Moment (SharedLogger ω) ω σ)
  | [], _, _ => []
  | event :: history, shared, s =>
    let moment := shared.perform w event s
    moment :: run w history moment.keeper moment.state

end SharedLogger

open SharedLogger (Event Answer Moment)

variable {ω σ : Type} [DecidableEq ω]

/-- The moments of a history in a program that holds a logger and asks it by its methods; loggers
that are to take its place are handed back. -/
def Logger.follow (w : Writers ω σ) :
    List (Event ω σ) → Logger ω → σ → List (Moment (Logger ω) ω σ)
  | [], _, _ => []
  | .install other :: history, logger, s =>
    ⟨.install (.error other), logger, s⟩ :: follow w history logger s
  | .ask request :: history, logger, s =>
    let (answer, logger, s) := logger.serve w request s
    ⟨.ask answer, logger, s⟩ :: follow w history logger s
  | .elsewhere act :: history, logger, s =>
    ⟨.elsewhere, logger, act s⟩ :: follow w history logger (act s)

namespace SharedLogger

/-- The moments of a history are those of one logger: of the one that is installed if that comes
before any use, and of a standard one, made when it is first asked for something, otherwise. Until
then there is none. -/
inductive Simulates (w : Writers ω σ) :
    List (Event ω σ) → σ → List (Moment (SharedLogger ω) ω σ) → Prop
  | unused (s : σ) : Simulates w [] s []
  | elsewhere {history : List (Event ω σ)} {s : σ} {moments : List (Moment (SharedLogger ω) ω σ)}
      (act : σ → σ) (later : Simulates w history (act s) moments) :
      Simulates w (.elsewhere act :: history) s (⟨.elsewhere, unused, act s⟩ :: moments)
  | installed (logger : Logger ω) (history : List (Event ω σ)) (s : σ) :
      Simulates w (.install logger :: history) s
        (⟨.install (.ok ()), ⟨some logger⟩, s⟩ :: (logger.follow w history s).map Moment.held)
  | made (request : Logger.Request ω) (history : List (Event ω σ)) (s : σ) :
      Simulates w (.ask request :: history) s
        (((Logger.standard w s).1.follow w (.ask request :: history) (Logger.standard w s).2).map
          Moment.held)

/-- What a function for the shared logger does is what the method does to that logger. -/
lemma serve_eq (w : Writers ω σ) (request : Logger.Request ω) (shared : SharedLogger ω) (s : σ) :
    shared.serve w request s = shared.use w (Logger.serve w request) s := by
  cases request <;> rfl

lemma serve_held (w : Writers ω σ) (request : Logger.Request ω) (logger : Logger ω) (s : σ) :
    serve w request ⟨some logger⟩ s =
      ((logger.serve w request s).1, ⟨some (logger.serve w request s).2.1⟩,
        (logger.serve w request s).2.2) := by
  rw [serve_eq]
  rfl

lemma serve_unused (w : Writers ω σ) (request : Logger.Request ω) (s : σ) :
    serve w request unused s =
      serve w request ⟨some (Logger.standard w s).1⟩ (Logger.standard w s).2 := by
  rw [serve_eq, serve_eq]
  rfl

/-- From the moment that there is a logger, the program goes on as one that holds it. -/
lemma run_held (w : Writers ω σ) (logger : Logger ω) (history : List (Event ω σ)) (s : σ) :
    run w history ⟨some logger⟩ s = (logger.follow w history s).map Moment.held := by
  induction history generalizing logger s with
  | nil => rfl
  | cons event history ih =>
    cases event with
    | install other => exact congrArg _ (ih logger s)
    | ask request =>
      simp only [run, perform, serve_held, Logger.follow, List.map_cons, ih]
      rfl
    | elsewhere act => exact congrArg _ (ih logger (act s))

lemma simulates_run (w : Writers ω σ) (history : List (Event ω σ)) (s : σ) :
    Simulates w history s (run w history unused s) := by
  induction history generalizing s with
  | nil => exact .unused s
  | cons event history ih =>
    cases event with
    | install logger =>
      have rest := run_held w logger history s
      have simulates := Simulates.installed (w := w) logger history s
      rw [← rest] at simulates
      exact simulates
    | ask request =>
      have simulates := Simulates.made (w := w) request history s
      rw [← run_held] at simulates
      simp only [run, perform, serve_unused]
      exact simulates
    | elsewhere act => exact .elsewhere act (ih (act s))

end SharedLogger

/-- A logger that is to take the place of another one is handed back. -/
lemma Logger.follow_install (w : Writers ω σ) (logger other : Logger ω)
    (before after : List (Event ω σ)) (s : σ) :
    ((logger.follow w (before ++ .install other :: after) s)[before.length]?).map Moment.answer =
      some (.install (.error other)) := by
  induction before generalizing logger s with
  | nil => rfl
  | cons event before ih => cases event <;> exact ih _ _

/-- While there is a logger, no install succeeds. -/
lemma Logger.countP_follow (w : Writers ω σ) (logger : Logger ω) (history : List (Event ω σ))
    (s : σ) : (logger.follow w history s).countP (·.answer.isInstalled) = 0 := by
  induction history generalizing logger s with
  | nil => rfl
  | cons event history ih =>
    cases event <;> exact (List.countP_cons_of_neg Bool.false_ne_true).trans (ih _ _)

namespace SharedLogger
namespace Simulates

lemma install {w : Writers ω σ} {s : σ} {moments : List (Moment (SharedLogger ω) ω σ)}
    {before after : List (Event ω σ)} {logger : Logger ω}
    (simulates : Simulates w (before ++ .install logger :: after) s moments) :
    (moments[before.length]?).map Moment.answer =
      some (.install (if before.all Event.isElsewhere then .ok () else .error logger)) := by
  -- What went before decides: nothing that has to do with the logger, or the first such event.
  induction before generalizing s moments with
  | nil =>
    cases simulates
    rfl
  | cons event before ih =>
    cases simulates with
    | elsewhere act later => simpa [Event.isElsewhere] using ih later
    | installed first =>
      have handed := first.follow_install w logger before after s
      simpa [Event.isElsewhere, Moment.held, Function.comp_def] using handed
    | made request =>
      have handed := (Logger.standard w s).1.follow_install w logger (.ask request :: before) after
        (Logger.standard w s).2
      simpa [Event.isElsewhere, Moment.held, Function.comp_def] using handed

omit [DecidableEq ω] in
lemma countP_held (moments : List (Moment (Logger ω) ω σ)) :
    (moments.map Moment.held).countP (·.answer.isInstalled) =
      moments.countP (·.answer.isInstalled) :=
  List.countP_map

lemma countP_le {w : Writers ω σ} {history : List (Event ω σ)} {s : σ}
    {moments : List (Moment (SharedLogger ω) ω σ)} (simulates : Simulates w history s moments) :
    moments.countP (·.answer.isInstalled) ≤ 1 := by
  induction simulates with
  | unused s => exact Nat.zero_le 1
  | elsewhere act later ih => simpa [Answer.isInstalled] using ih
  | installed logger history s =>
    refine Nat.le_of_eq ?_
    rw [List.countP_cons_of_pos rfl, countP_held, logger.countP_follow]
  | made request history s =>
    rw [countP_held, Logger.countP_follow]
    exact Nat.zero_le 1

end Simulates

/-- Whatever happens in a program, its shared logger answers and leaves behind what one logger does
that is asked by its methods: the one of an install that comes before any use, otherwise a standard
one made by the first use. An install succeeds if neither a use nor another install went before it,
so at most one does; any other logger is handed back as it is. -/
theorem run_simulates (w : Writers ω σ) (history : List (Event ω σ)) (s : σ) :
    Simulates w history s (run w history unused s) ∧
    (∀ before logger after, history = before ++ .install logger :: after →
      ((run w history unused s)[before.length]?).map Moment.answer =
        some (.install (if before.all Event.isElsewhere then .ok () else .error logger))) ∧
    (run w history unused s).countP (·.answer.isInstalled) ≤ 1 := by
  have simulates := simulates_run w history s
  refine ⟨simulates, ?_, simulates.countP_le⟩
  rintro before logger after rfl
  exact simulates.install

end SharedLogger
end LogFanout
