import MmtkOpenJDK.StopTheWorld.Companion

/-! What the companion-thread protocol is for, without its lock and its waits: a
GC round as the worker sees it, the one operation of the VM thread, and the
moves of the two. Consecutive rounds may overlap, because the operation is
released after the world has been resumed. -/

namespace MmtkOpenJDK.StopTheWorld

open MmtkOpenJDK.Foundation

/-- The round of the GC worker: the world runs, a suspend request is issued, it
has returned, or a resume request is issued. -/
inductive Stage where
  | running
  | suspending
  | stopped
  | resuming
  deriving DecidableEq

/-- The operation of the VM thread: absent, asked for, its body entered, the world
stopped, the resume request seen, or done and the companion thread not released. -/
inductive Operation where
  | absent
  | asked
  | entered
  | stopped
  | leaving
  | released
  deriving DecidableEq

def Stage.desired : Stage → StwState
  | .running | .resuming => .threadsResumed
  | .suspending | .stopped => .threadsSuspended

def Operation.reached : Operation → StwState
  | .stopped | .leaving => .threadsSuspended
  | .absent | .asked | .entered | .released => .threadsResumed

/-- The stage, the operation, and the numbers of suspend requests issued and
returned and of operation bodies started. -/
structure Round where
  stage : Stage
  operation : Operation
  requests : Nat
  returns : Nat
  operations : Nat

inductive Move where
  | suspend
  | stop
  | resume
  | start
  | ask
  | enter
  | reach
  | leave
  | release
  | forget

namespace Round

/-- A request returns when the state it asked for is reached; the operation is
asked for and left when that is desired. -/
def enabled (round : Round) : Move → Prop
  | .suspend => round.stage = .running
  | .stop => round.stage = .suspending ∧ round.operation.reached = .threadsSuspended
  | .resume => round.stage = .stopped
  | .start => round.stage = .resuming ∧ round.operation.reached = .threadsResumed
  | .ask => round.operation = .absent ∧ round.stage.desired = .threadsSuspended
  | .enter => round.operation = .asked
  | .reach => round.operation = .entered
  | .leave => round.operation = .stopped ∧ round.stage.desired = .threadsResumed
  | .release => round.operation = .leaving
  | .forget => round.operation = .released

def next (round : Round) : Move → Round
  | .suspend => { round with stage := .suspending, requests := round.requests + 1 }
  | .stop => { round with stage := .stopped, returns := round.returns + 1 }
  | .resume => { round with stage := .resuming }
  | .start => { round with stage := .running }
  | .ask => { round with operation := .asked }
  | .enter => { round with operation := .entered, operations := round.operations + 1 }
  | .reach => { round with operation := .stopped }
  | .leave => { round with operation := .leaving }
  | .release => { round with operation := .released }
  | .forget => { round with operation := .absent }

/-- The operations that may be found in each stage. -/
def Compatible : Stage → Operation → Prop
  | .running, operation => operation = .absent ∨ operation = .released
  | .suspending, operation => operation ≠ .leaving
  | .stopped, operation => operation = .stopped
  | .resuming, operation => operation ≠ .asked ∧ operation ≠ .entered

/-- The suspend requests that are issued and have not returned. -/
def outstanding : Stage → Nat
  | .suspending => 1
  | _ => 0

/-- The operation bodies started for the outstanding suspend request. -/
def begun : Stage → Operation → Nat
  | .suspending, .entered | .suspending, .stopped => 1
  | _, _ => 0

structure Valid (round : Round) : Prop where
  compatible : Compatible round.stage round.operation
  requests : round.requests = round.returns + outstanding round.stage
  operations : round.operations = round.returns + begun round.stage round.operation

theorem begun_le_outstanding (stage : Stage) (operation : Operation) :
    begun stage operation ≤ outstanding stage := by
  cases stage <;> cases operation <;> decide

end Round

def roundSystem : System Round Move where
  initial round := round = ⟨.running, .absent, 0, 0, 0⟩
  enabled := Round.enabled
  next := Round.next

/-- The world is stopped when a suspend request may return. -/
theorem Round.Compatible.stopped {operation : Operation} (compatible : Compatible .suspending operation)
    (reached : operation.reached = .threadsSuspended) : operation = .stopped := by
  cases operation <;> simp_all [Compatible, Operation.reached]

theorem Round.Valid.next {round : Round} (valid : round.Valid) {move : Move} (allowed : round.enabled move) :
    (round.next move).Valid := by
  obtain ⟨stage, operation, requests, returns, operations⟩ := round
  obtain ⟨compatible, counted, started⟩ := valid
  simp only at compatible counted started
  cases move with
  | suspend =>
    cases (show stage = .running from allowed)
    rcases compatible with same | same <;> cases same
    · exact ⟨by simp [Round.next, Compatible], congrArg (· + 1) counted, started⟩
    · exact ⟨by simp [Round.next, Compatible], congrArg (· + 1) counted, started⟩
  | stop =>
    obtain ⟨same, reached⟩ := allowed
    cases same
    cases (compatible.stopped reached)
    exact ⟨rfl, counted, started⟩
  | resume =>
    cases (show stage = .stopped from allowed)
    cases (show operation = .stopped from compatible)
    exact ⟨by simp [Round.next, Compatible], counted, started⟩
  | start =>
    obtain ⟨same, reached⟩ := allowed
    cases same
    refine ⟨?_, counted, ?_⟩
    · cases operation <;> simp_all [Round.next, Compatible, Operation.reached]
    · cases operation <;> exact started
  | ask =>
    obtain ⟨same, desired⟩ := allowed
    cases same
    cases stage <;> simp [Compatible] at compatible <;> simp [Stage.desired] at desired
    exact ⟨by simp [Round.next, Compatible], counted, started⟩
  | enter =>
    cases (show operation = .asked from allowed)
    cases stage <;> simp [Compatible] at compatible
    exact ⟨by simp [Round.next, Compatible], counted, congrArg (· + 1) started⟩
  | reach =>
    cases (show operation = .entered from allowed)
    cases stage <;> simp [Compatible] at compatible
    exact ⟨by simp [Round.next, Compatible], counted, started⟩
  | leave =>
    obtain ⟨same, desired⟩ := allowed
    cases same
    cases stage <;> simp [Compatible] at compatible <;> simp [Stage.desired] at desired
    exact ⟨by simp [Round.next, Compatible], counted, started⟩
  | release =>
    cases (show operation = .leaving from allowed)
    cases stage <;> simp [Compatible] at compatible
    exact ⟨by simp [Round.next, Compatible], counted, started⟩
  | forget =>
    cases (show operation = .released from allowed)
    refine ⟨?_, counted, ?_⟩
    · cases stage <;> simp_all [Round.next, Compatible]
    · cases stage <;> exact started

theorem Round.valid_of_reachable {round : Round} (reachable : roundSystem.Reachable round) : round.Valid := by
  refine reachable.invariant Round.Valid ?_ (fun _ _ valid allowed => valid.next allowed)
  intro start initial
  cases initial
  exact ⟨.inl rfl, rfl, rfl⟩

end MmtkOpenJDK.StopTheWorld
