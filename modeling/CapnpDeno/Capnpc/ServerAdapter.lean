import CapnpDeno.Errors
import CapnpDeno.Lib.Runs

/-!
# The emitted server adapter

`create…ServiceServer` wraps an implementation.  A call of a streaming method appends its invocation
to the promise chain of the method; a call of another method waits for the chains as it finds them.
The machine has the adapter's promises with their reactions, and the job queue on which the
reactions run in the order in which they were queued.
-/

namespace CapnpDeno

namespace ServiceServer

/-! ## Calls -/

/-- How far a call has come; `α` is what the implementation returns. -/
inductive Stage (α : Type)
  /-- For its turn in the chain, or for the chains of these methods among the elements of its
  `Promise.all`. -/
  | waiting (left : List ℕ)
  /-- The implementation has been invoked. -/
  | running
  /-- The implementation has settled, or its arguments could not be built; the adapter has not gone
  on. -/
  | finished (outcome : Except Thrown α)
  /-- `pending` is settled. -/
  | returned (outcome : Except Thrown α)
  | settled

/-- A call of a method, which is its place in `resolved.methods`, and the error of its argument
expression, if that throws: a capability parameter has no stub without an outbound client. -/
structure Call (α : Type) where
  method : ℕ
  badArguments : Option Thrown
  stage : Stage α

inductive Job
  /-- `run`, a reaction to the chain. -/
  | run (call : ℕ)
  /-- The reaction of `pending.catch(() => {})`. -/
  | caught (call : ℕ)
  /-- What follows `await pending`. -/
  | resumed (call : ℕ)
  /-- An element of `Promise.all`, the chain of a method. -/
  | element (call : ℕ) (method : ℕ)
  /-- What follows `await Promise.all([…])`. -/
  | gate (call : ℕ)
deriving DecidableEq

def Job.call : Job → ℕ
  | run call | caught call | resumed call | element call _ | gate call => call

structure State (α : Type) where
  /-- The calls so far, a call being its position. -/
  calls : List (Call α)
  /-- `…StreamChain`: the call whose `pending.catch(…)` it is; the first promise has none. -/
  chain : ℕ → Option ℕ
  /-- The calls whose `pending.catch(…)` is settled. -/
  caught : List ℕ
  /-- The reactions to the others, in the order in which they were added. -/
  reactions : List (ℕ × Job)
  queue : List Job

inductive Event (α β : Type)
  | called (call : ℕ) (method : ℕ) (badArguments : Option Thrown)
  | invoked (call : ℕ)
  | finished (call : ℕ) (outcome : Except Thrown α)
  | settled (call : ℕ) (outcome : Except Thrown β)

inductive Action (α : Type)
  | call (method : ℕ) (badArguments : Option Thrown)
  /-- The next job. -/
  | job
  /-- The implementation of a call settles. -/
  | finish (call : ℕ) (outcome : Except Thrown α)
  /-- The adapter goes on after the implementation of a call has settled. -/
  | proceed (call : ℕ)

section

variable {α β : Type}

def State.initial : State α := ⟨[], fun _ => none, [], [], []⟩

def State.setStage (s : State α) (call : ℕ) (stage : Stage α) : State α :=
  { s with calls := s.calls.modify call fun c => { c with stage } }

/-- `promise.then(job)`, where the promise is that of a chain. -/
def State.react (s : State α) (chain : Option ℕ) (job : Job) : State α :=
  match chain with
  | none => { s with queue := s.queue ++ [job] }
  | some call =>
    if call ∈ s.caught then { s with queue := s.queue ++ [job] }
    else { s with reactions := s.reactions ++ [(call, job)] }

/-- The invocation expression is evaluated. -/
def State.invoke (s : State α) (call : ℕ) : State α × List (Event α β) :=
  match s.calls[call]? with
  | some ⟨_, none, _⟩ => (s.setStage call .running, [.invoked call])
  | some ⟨_, some e, _⟩ => (s.setStage call (.finished (.error e)), [])
  | none => (s, [])

end

section

/- The streaming methods in the order of `resolved.methods`; what the adapter makes of a result, by
the call, a streaming method returning nothing; `annotateCapnpError` with the metadata of the
call. -/
variable {α β : Type} (streams : List ℕ) (construct : ℕ → α → Except Thrown β)
  (annotate : ℕ → Thrown → Thrown)

/-- The settlement of a call whose invocation had the outcome. -/
def respond (call : ℕ) (outcome : Except Thrown α) : Except Thrown β :=
  (outcome >>= construct call).mapError (annotate call)

/-- A method of the adapter is called; it runs to its first `await`. -/
def State.call (s : State α) (method : ℕ) (badArguments : Option Thrown) :
    State α × List (Event α β) :=
  let call := s.calls.length
  let called := .called call method badArguments
  if method ∈ streams then
    let s : State α := { s with calls := s.calls ++ [⟨method, badArguments, .waiting []⟩] }
    let s := s.react (s.chain method) (.run call)
    ({ s with chain := Function.update s.chain method (some call) }, [called])
  else
    let s : State α := { s with calls := s.calls ++ [⟨method, badArguments, .waiting streams⟩] }
    if streams = [] then
      let (s, events) := s.invoke call
      (s, called :: events)
    else
      (streams.foldl (fun s stream => s.react (s.chain stream) (.element call stream)) s, [called])

/-- The job is off the queue and runs. -/
def State.runJob (s : State α) : Job → State α × List (Event α β)
  | .run call => s.invoke call
  | .caught call =>
    ({ s with
      caught := call :: s.caught
      queue := s.queue ++ (s.reactions.filter (·.1 = call)).map Prod.snd
      reactions := s.reactions.filter (·.1 ≠ call) }, [])
  | .resumed call =>
    match s.calls[call]? with
    | some ⟨_, _, .returned outcome⟩ =>
      (s.setStage call .settled, [.settled call (respond construct annotate call outcome)])
    | _ => (s, [])
  | .element call stream =>
    match s.calls[call]? with
    | some ⟨_, _, .waiting left⟩ =>
      let left := left.erase stream
      let s := s.setStage call (.waiting left)
      (if left = [] then { s with queue := s.queue ++ [.gate call] } else s, [])
    | _ => (s, [])
  | .gate call => s.invoke call

def step (s : State α) : Action α → State α × List (Event α β)
  | .call method badArguments => s.call streams method badArguments
  | .job =>
    match s.queue with
    | [] => (s, [])
    | job :: queue => { s with queue }.runJob construct annotate job
  | .finish call outcome =>
    match s.calls[call]? with
    | some ⟨_, _, .running⟩ => (s.setStage call (.finished outcome), [.finished call outcome])
    | _ => (s, [])
  | .proceed call =>
    match s.calls[call]? with
    | some ⟨method, _, .finished outcome⟩ =>
      if method ∈ streams then
        let s := s.setStage call (.returned outcome)
        -- `pending.catch` was called before `await pending`
        ({ s with queue := s.queue ++ [.caught call, .resumed call] }, [])
      else (s.setStage call .settled, [.settled call (respond construct annotate call outcome)])
    | _ => (s, [])

end

end ServiceServer

end CapnpDeno
