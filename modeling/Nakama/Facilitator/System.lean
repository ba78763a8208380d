import Nakama.Facilitator.Handlers
import Nakama.Refinement.Effect

/-!
# The facilitator among everyone else

Requests, answers of the RPC node, confirmations and the transactions of the rest of the
world, in any order.  The node is not trusted with what it answers; the network executes a
signed transaction at most once and at any later time, also after the handler gave up on it.
-/

namespace Nakama.Facilitator

open Guard

/-- A handler that waits for the node. -/
inductive Task (config : Config) (demoSubscriber : Option Signer) where
  /-- `top_up`: `get_account_with_commitment`. -/
  | subscription (accepted : Accepted config demoSubscriber)
  /-- `top_up`: `get_latest_blockhash`. -/
  | blockhash (prepared : Prepared config demoSubscriber)
  /-- `computed_status`: the first `get_account_with_commitment`. -/
  | status (subscription : Pubkey)
  /-- `computed_status`: the second one. -/
  | satellite (sub : SubscriptionView Pubkey)

/-- A signed transaction on its way, and whether its handler still waits for it. -/
structure Submission (config : Config) (demoSubscriber : Option Signer) where
  prepared : Prepared config demoSubscriber
  waiting : Bool

/-- A transaction that the network executed, successfully or not. -/
structure Landing (config : Config) (demoSubscriber : Option Signer) where
  prepared : Prepared config demoSubscriber
  before : Ledger
  now : Int64

/-- What the transaction did. -/
def Landing.result {config : Config} {demoSubscriber : Option Signer}
    (landing : Landing config demoSubscriber) : Except Error Outcome :=
  Nakama.topUp landing.before landing.now landing.prepared.accounts
    landing.prepared.accepted.amount

/-- The successful answers of the service. -/
inductive Success where
  | healthy
  | confirmed
  | status (status : Rust.ComputedStatus)
  deriving DecidableEq, Repr

/-- What the service keeps, with the chain it works on. -/
structure Core (config : Config) (demoSubscriber : Option Signer) where
  chain : Chain
  tasks : List (Task config demoSubscriber)
  inFlight : List (Submission config demoSubscriber)
  landed : List (Landing config demoSubscriber)

/-- The service and, newest first, what it replied. -/
structure System (config : Config) (demoSubscriber : Option Signer) where
  core : Core config demoSubscriber
  replies : List (Except ApiError Success)

/-- The routes of `router`, with the parts of a request that the handlers extract. -/
inductive Endpoint where
  | healthz
  | topUp (path : String) (amount : UInt64)
  | computedStatus (path : String)
  deriving DecidableEq, Repr

/-- One thing that happens. -/
inductive Label where
  /-- A transaction of somebody else. -/
  | world (tx : Tx)
  | request (authorization : Option (List UInt8)) (endpoint : Endpoint)
  /-- The node answers an account query, or fails; the host clock is read afterwards. -/
  | account (task : Nat) (answer : Except String (Option Account)) (hostClock : Int64)
  | blockhash (task : Nat) (answer : Except String Unit)
  /-- The handler gives up on a transaction that may still be executed. -/
  | timeout (submission : Nat) (message : String)
  /-- The transaction expires. -/
  | drop (submission : Nat) (message : String)
  /-- The network executes the transaction; the message is what the node says if it fails. -/
  | land (submission : Nat) (now : Int64) (message : String)

/-- The transaction that the network executes. -/
def Prepared.tx {config : Config} {demoSubscriber : Option Signer}
    (prepared : Prepared config demoSubscriber) (now : Int64) : Tx :=
  ⟨now, .program (.topUp prepared.accounts prepared.accepted.amount)⟩

section Steps

variable (sdk : Sdk) (config : Config) (demoSubscriber : Option Signer)

/-- A request up to its first await: an immediate reply, or a handler that waits. -/
def dispatch (authorization : Option (List UInt8)) :
    Endpoint → Except ApiError (Success ⊕ Task config demoSubscriber)
  | .healthz => .ok (.inl .healthy)
  | .topUp path amount => do
      requireBearer config authorization
      let accepted ← acceptTopUp sdk config demoSubscriber path amount
      return .inr (.subscription accepted)
  | .computedStatus path => do
      requireBearer config authorization
      match sdk.fromStr path with
      | .ok subscription => return .inr (.status subscription)
      | .error refusal => .error (.badRequest ("sub_pda: " ++ refusal))

variable {config demoSubscriber}

namespace System

def reply (system : System config demoSubscriber) (answer : Except ApiError Success) :
    System config demoSubscriber :=
  { system with replies := answer :: system.replies }

def replyIf (system : System config demoSubscriber) (waiting : Bool)
    (answer : Except ApiError Success) : System config demoSubscriber :=
  if waiting then system.reply answer else system

def request (system : System config demoSubscriber) (authorization : Option (List UInt8))
    (endpoint : Endpoint) : System config demoSubscriber :=
  match dispatch sdk config demoSubscriber authorization endpoint with
  | .error refusal => system.reply (.error refusal)
  | .ok (.inl success) => system.reply (.ok success)
  | .ok (.inr task) =>
      { system with core := { system.core with tasks := task :: system.core.tasks } }

/-- Take a task off the list. -/
def finish (system : System config demoSubscriber) (task : Nat) :
    System config demoSubscriber :=
  { system with core := { system.core with tasks := system.core.tasks.eraseIdx task } }

/-- Let a handler wait for its next answer. -/
def await (system : System config demoSubscriber) (task : Task config demoSubscriber) :
    System config demoSubscriber :=
  { system with core := { system.core with tasks := task :: system.core.tasks } }

/-- Reply, or go on waiting. -/
def resume {α : Type} (system : System config demoSubscriber) (result : Except ApiError α)
    (next : α → System config demoSubscriber) : System config demoSubscriber :=
  match result with
  | .error refusal => system.reply (.error refusal)
  | .ok value => next value

/-- `?` on the client of the node. -/
def answered {α : Type} : Except String α → Except ApiError α
  | .ok value => .ok value
  | .error message => .error (.rpc message)

def account (system : System config demoSubscriber) (task : Nat)
    (answer : Except String (Option Account)) (hostClock : Int64) :
    System config demoSubscriber :=
  match system.core.tasks[task]? with
  | some (.subscription accepted) =>
      let rest := system.finish task
      rest.resume (answered answer >>= prepareTopUp sdk accepted) fun prepared =>
        rest.await (.blockhash prepared)
  | some (.status subscription) =>
      let rest := system.finish task
      rest.resume (answered answer >>= readStatus sdk subscription) fun sub =>
        rest.await (.satellite sub)
  | some (.satellite sub) =>
      let rest := system.finish task
      rest.resume (answered answer >>= fun found => answerStatus sub found hostClock)
        fun status => rest.reply (.ok (.status status))
  | _ => system

def blockhash (system : System config demoSubscriber) (task : Nat)
    (answer : Except String Unit) : System config demoSubscriber :=
  match system.core.tasks[task]? with
  | some (.blockhash prepared) =>
      let rest := system.finish task
      rest.resume (answered answer) fun _ =>
        { rest with core := { rest.core with
            inFlight := ⟨prepared, true⟩ :: rest.core.inFlight } }
  | _ => system

/-- Take a submission off the list. -/
def settle (system : System config demoSubscriber) (submission : Nat) :
    System config demoSubscriber :=
  { system with core := { system.core with
      inFlight := system.core.inFlight.eraseIdx submission } }

def timeout (system : System config demoSubscriber) (submission : Nat) (message : String) :
    System config demoSubscriber :=
  match system.core.inFlight[submission]? with
  | some ⟨prepared, waiting⟩ =>
      let rest := system.settle submission
      { rest with core := { rest.core with
          inFlight := ⟨prepared, false⟩ :: rest.core.inFlight } }.replyIf waiting
        (.error (.rpc message))
  | none => system

def drop (system : System config demoSubscriber) (submission : Nat) (message : String) :
    System config demoSubscriber :=
  match system.core.inFlight[submission]? with
  | some ⟨_, waiting⟩ =>
      (system.settle submission).replyIf waiting (.error (.rpc message))
  | none => system

def land (system : System config demoSubscriber) (submission : Nat) (now : Int64)
    (message : String) : System config demoSubscriber :=
  match system.core.inFlight[submission]? with
  | some ⟨prepared, waiting⟩ =>
      let rest := system.settle submission
      { rest with core := { rest.core with
          chain := rest.core.chain.step (prepared.tx now)
          landed := ⟨prepared, rest.core.chain.ledger, now⟩ :: rest.core.landed } }.replyIf
        waiting
        (if rest.core.chain.Succeeds (prepared.tx now) then .ok .confirmed
          else .error (.rpc message))
  | none => system

def step (system : System config demoSubscriber) : Label → System config demoSubscriber
  | .world tx => { system with core := { system.core with chain := system.core.chain.step tx } }
  | .request authorization endpoint => system.request sdk authorization endpoint
  | .account task answer hostClock => system.account sdk task answer hostClock
  | .blockhash task answer => system.blockhash task answer
  | .timeout submission message => system.timeout submission message
  | .drop submission message => system.drop submission message
  | .land submission now message => system.land submission now message

end System

end Steps

/-- Nothing is under way, and the chain is one that the program reaches. -/
structure System.Idle {config : Config} {demoSubscriber : Option Signer}
    (system : System config demoSubscriber) : Prop where
  chain : Nakama.machine.Reachable system.core.chain
  tasks : system.core.tasks = []
  inFlight : system.core.inFlight = []
  landed : system.core.landed = []

/-- The service in any environment whose clock does not run backwards. -/
def service (sdk : Sdk) (config : Config) (demoSubscriber : Option Signer) :
    Machine (System config demoSubscriber) Label where
  initial := System.Idle
  allows system label :=
    match label with
    | .world tx => system.core.chain.clock.toInt ≤ tx.now.toInt
    | .land _ now _ => system.core.chain.clock.toInt ≤ now.toInt
    | _ => True
  step := System.step sdk

instance (sdk : Sdk) (config : Config) (demoSubscriber : Option Signer)
    (system : System config demoSubscriber) (label : Label) :
    Decidable ((service sdk config demoSubscriber).allows system label) :=
  match label with
  | .world tx => inferInstanceAs (Decidable (system.core.chain.clock.toInt ≤ tx.now.toInt))
  | .land _ now _ => inferInstanceAs (Decidable (system.core.chain.clock.toInt ≤ now.toInt))
  | .request .. | .account .. | .blockhash .. | .timeout .. | .drop .. => .isTrue trivial

end Nakama.Facilitator
