import Mathlib.Data.List.Basic
import Mathlib.Order.BooleanAlgebra.Basic

/-!
# What a caller can see

An object answers calls and changes its state.  Two states are
indistinguishable if no sequence of calls tells them apart by its answers.
-/

namespace CyclePerfectGameboy.CallSequence

universe u v w

variable {State : Type u} {Call : Type v} {Answer : Type w}

/-- The answers to a sequence of calls, or `none` if one of them does not
return. -/
def answers (perform : State → Call → Option (Answer × State)) :
    State → List Call → Option (List Answer)
  | _, [] => some []
  | state, call :: rest =>
      match perform state call with
      | none => none
      | some (answer, next) =>
          (answers perform next rest).map (fun later => answer :: later)

def Indistinguishable
    (perform : State → Call → Option (Answer × State))
    (left right : State) : Prop :=
  ∀ calls, answers perform left calls = answers perform right calls

/-- Related states give the same answer to every call and stay related. -/
def Bisimulation
    (perform : State → Call → Option (Answer × State))
    (Relation : State → State → Prop) : Prop :=
  ∀ left right, Relation left right → ∀ call,
    Option.Rel
      (fun a b => a.1 = b.1 ∧ Relation a.2 b.2)
      (perform left call) (perform right call)

variable {perform : State → Call → Option (Answer × State)}

theorem answers_cons_of_returned
    {state next : State} {call : Call} {answer : Answer}
    (returned : perform state call = some (answer, next))
    (rest : List Call) :
    answers perform state (call :: rest) =
      (answers perform next rest).map (fun later => answer :: later) := by
  rw [answers, returned]

section Simulation

universe x

variable {Other : Type x}

/-- Related states of two objects give the same answer to every allowed call
and stay related. -/
def SimulatesOn (Allowed : Call → Prop)
    (left : State → Call → Option (Answer × State))
    (right : Other → Call → Option (Answer × Other))
    (Relation : State → Other → Prop) : Prop :=
  ∀ a b, Relation a b → ∀ call, Allowed call →
    Option.Rel (fun x y => x.1 = y.1 ∧ Relation x.2 y.2)
      (left a call) (right b call)

def Simulates
    (left : State → Call → Option (Answer × State))
    (right : Other → Call → Option (Answer × Other))
    (Relation : State → Other → Prop) : Prop :=
  SimulatesOn (fun _ => True) left right Relation

section Answers

variable {left : State → Call → Option (Answer × State)}
variable {right : Other → Call → Option (Answer × Other)}
variable {Relation : State → Other → Prop}

/-- No sequence of allowed calls tells related states of two objects
apart. -/
theorem SimulatesOn.answers_eq
    {Allowed : Call → Prop}
    (simulates : SimulatesOn Allowed left right Relation)
    {a : State} {b : Other} (related : Relation a b) {calls : List Call}
    (allowed : ∀ call ∈ calls, Allowed call) :
    answers left a calls = answers right b calls := by
  induction calls generalizing a b with
  | nil =>
      rfl
  | cons call rest inductionHypothesis =>
      have called :=
        simulates a b related call (allowed call List.mem_cons_self)
      have later : ∀ call ∈ rest, Allowed call :=
        fun call member => allowed call (List.mem_cons_of_mem _ member)
      rw [answers, answers]
      cases leftCall : left a call with
      | none =>
          rw [leftCall] at called
          cases rightCall : right b call with
          | none =>
              rfl
          | some result =>
              rw [rightCall] at called
              cases called
      | some leftResult =>
          rw [leftCall] at called
          cases rightCall : right b call with
          | none =>
              rw [rightCall] at called
              cases called
          | some rightResult =>
              rw [rightCall] at called
              cases called with
              | some both =>
                  simp only [both.1, inductionHypothesis both.2 later]

theorem Simulates.answers_eq
    (simulates : Simulates left right Relation)
    {a : State} {b : Other} (related : Relation a b) (calls : List Call) :
    answers left a calls = answers right b calls :=
  SimulatesOn.answers_eq simulates related (fun _ _ => trivial)

end Answers

/-- A call that answers nothing but that it returned. -/
theorem returned_related
    {Relation : State → Other → Prop} {left : Option State}
    {right : Option Other} (related : Option.Rel Relation left right)
    (answer : Answer) :
    Option.Rel (fun x y => x.1 = y.1 ∧ Relation x.2 y.2)
      (left.map (fun next => (answer, next)))
      (right.map (fun next => (answer, next))) := by
  cases related with
  | none =>
      exact Option.Rel.none
  | some next =>
      exact Option.Rel.some ⟨rfl, next⟩

end Simulation

/-- The members of a bisimulation cannot be told apart. -/
theorem Bisimulation.indistinguishable
    {Relation : State → State → Prop}
    (bisimulation : Bisimulation perform Relation)
    {left right : State} (related : Relation left right) :
    Indistinguishable perform left right :=
  Simulates.answers_eq
    (fun a b same call _ => bisimulation a b same call) related

/-- What cannot be told apart answers alike and cannot be told apart after
any call that returns. -/
theorem Indistinguishable.after_call
    {left right leftNext rightNext : State} {call : Call}
    {leftAnswer rightAnswer : Answer}
    (same : Indistinguishable perform left right)
    (leftReturned : perform left call = some (leftAnswer, leftNext))
    (rightReturned : perform right call = some (rightAnswer, rightNext)) :
    leftAnswer = rightAnswer ∧
      Indistinguishable perform leftNext rightNext := by
  have sameAnswer : leftAnswer = rightAnswer := by
    have alone := same [call]
    rw [answers_cons_of_returned leftReturned,
      answers_cons_of_returned rightReturned] at alone
    have lists := Option.some.inj alone
    exact List.head_eq_of_cons_eq lists
  refine ⟨sameAnswer, ?_⟩
  intro rest
  have longer := same (call :: rest)
  rw [answers_cons_of_returned leftReturned,
    answers_cons_of_returned rightReturned, sameAnswer] at longer
  exact Option.map_injective (List.cons_injective) longer

/-- A sequence of calls that all return, and the state after them. -/
inductive Runs (perform : State → Call → Option (Answer × State)) :
    State → List Call → State → Prop where
  | nil (state : State) : Runs perform state [] state
  | cons {state next final : State} {call : Call} {answer : Answer}
      {rest : List Call}
      (returned : perform state call = some (answer, next))
      (runs : Runs perform next rest final) :
      Runs perform state (call :: rest) final

/-- A flag that some calls set and others clear: the last call that does
either decides. -/
def latched (sets clears : Call → Bool) (start : Bool) (calls : List Call) :
    Bool :=
  calls.foldl (fun flag call => sets call || flag && !clears call) start

section Latches

variable {sets clears : Call → Bool} (flag : State → Bool)
variable {state final : State} {calls : List Call}

/-- A flag that each call leaves below the latch stays below it. -/
theorem Runs.le_latched
    (step :
      ∀ state call answer next, perform state call = some (answer, next) →
        flag next ≤ (sets call || flag state && !clears call))
    (runs : Runs perform state calls final)
    {start : Bool} (below : flag state ≤ start) :
    flag final ≤ latched sets clears start calls := by
  induction runs generalizing start with
  | nil state =>
      exact below
  | cons returned runs inductionHypothesis =>
      refine inductionHypothesis ((step _ _ _ _ returned).trans ?_)
      exact sup_le_sup_left (inf_le_inf_right _ below) _

/-- One that each call leaves above the latch stays above it. -/
theorem Runs.latched_le
    (step :
      ∀ state call answer next, perform state call = some (answer, next) →
        (sets call || flag state && !clears call) ≤ flag next)
    (runs : Runs perform state calls final)
    {start : Bool} (above : start ≤ flag state) :
    latched sets clears start calls ≤ flag final := by
  induction runs generalizing start with
  | nil state =>
      exact above
  | cons returned runs inductionHypothesis =>
      refine inductionHypothesis (le_trans ?_ (step _ _ _ _ returned))
      exact sup_le_sup_left (inf_le_inf_right _ above) _

end Latches

end CyclePerfectGameboy.CallSequence
