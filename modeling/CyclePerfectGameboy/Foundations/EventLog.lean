import Mathlib.Data.List.Basic

/-!
# The most recent event that targets a key

A system whose keys are only changed by logged events shows, under every
key, the value given by the latest event that targets that key.
-/

namespace CyclePerfectGameboy.EventLog

universe u v w x y

section Latest

variable {Event : Type u} {Key : Type v} {Value : Type w}

/-- The value that the most recent event targeting `key` gives to it;
`effect event key` is `none` when `event` does not target `key`. -/
def latest (effect : Event → Key → Option Value)
    (log : List Event) (key : Key) : Option Value :=
  log.reverse.findSome? (fun event => effect event key)

variable (effect : Event → Key → Option Value)

theorem latest_append (earlier later : List Event) (key : Key) :
    latest effect (earlier ++ later) key =
      (latest effect later key).or (latest effect earlier key) := by
  rw [latest, List.reverse_append, List.findSome?_append]
  rfl

@[simp]
theorem latest_singleton (event : Event) (key : Key) :
    latest effect [event] key = effect event key := by
  simp [latest]

theorem getD_latest_append
    (earlier later : List Event) (key : Key) (initial : Value) :
    (latest effect (earlier ++ later) key).getD initial =
      (latest effect later key).getD
        ((latest effect earlier key).getD initial) := by
  rw [latest_append]
  cases latest effect later key with
  | none => rfl
  | some value => rfl

end Latest

section Runs

variable {State : Type x} {Op : Type y}
variable {Event : Type u} {Key : Type v} {Value : Type w}

/-- The events of a run, in order: `emits` says which events one operation
logs in the state it starts from. -/
def trace (step : State → Op → State)
    (emits : State → Op → List Event) :
    State → List Op → List Event
  | _, [] => []
  | state, op :: rest =>
      emits state op ++ trace step emits (step state op) rest

theorem trace_append
    (step : State → Op → State) (emits : State → Op → List Event)
    (state : State) (earlier later : List Op) :
    trace step emits state (earlier ++ later) =
      trace step emits state earlier ++
        trace step emits (earlier.foldl step state) later := by
  induction earlier generalizing state with
  | nil =>
      rfl
  | cons op rest inductionHypothesis =>
      rw [List.cons_append, trace, trace, inductionHypothesis,
        List.append_assoc, List.foldl_cons]

theorem trace_concat
    (step : State → Op → State) (emits : State → Op → List Event)
    (state : State) (earlier : List Op) (op : Op) :
    trace step emits state (earlier ++ [op]) =
      trace step emits state earlier ++
        emits (earlier.foldl step state) op := by
  rw [trace_append, trace, trace, List.append_nil]

/-- A run whose operations are its events is its own trace. -/
theorem trace_self
    (step : State → Op → State) (state : State) (ops : List Op) :
    trace step (fun _ op => [op]) state ops = ops := by
  induction ops generalizing state with
  | nil =>
      rfl
  | cons op rest inductionHypothesis =>
      rw [trace, inductionHypothesis, List.singleton_append]

/-- If one operation changes a key only through the events it logs, then so
does every run. -/
theorem observe_run
    {step : State → Op → State}
    {emits : State → Op → List Event}
    {effect : Event → Key → Option Value}
    (observe : State → Key → Value)
    (tracked :
      ∀ state op key,
        observe (step state op) key =
          (latest effect (emits state op) key).getD (observe state key))
    (ops : List Op) (state : State) (key : Key) :
    observe (ops.foldl step state) key =
      (latest effect (trace step emits state ops) key).getD
        (observe state key) := by
  induction ops generalizing state with
  | nil =>
      rfl
  | cons op rest inductionHypothesis =>
      rw [List.foldl_cons, inductionHypothesis, tracked, trace,
        getD_latest_append]

end Runs

end CyclePerfectGameboy.EventLog
