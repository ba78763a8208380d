import Mathlib.Data.List.Perm.Basic
import Nakama.Facilitator.System
import Nakama.Refinement.Lifecycle

/-!
# What the service can do

Every step of the service in terms of its core, and what follows from it: the chain takes
program steps only, and a request is executed at most once.
-/

namespace Nakama.Facilitator

open Guard

section Steps

variable {sdk : Sdk} {config : Config} {demoSubscriber : Option Signer}

/-- The top-up that a task works on. -/
def Task.accepted? : Task config demoSubscriber → Option (Accepted config demoSubscriber)
  | .subscription accepted => some accepted
  | .blockhash prepared => some prepared.accepted
  | .status _ => none
  | .satellite _ => none

/-- One step, seen from the core. -/
inductive Core.Step (sdk : Sdk) :
    Label → Core config demoSubscriber → Core config demoSubscriber → Prop where
  | world {core : Core config demoSubscriber} (tx : Tx) :
      Step sdk (.world tx) core { core with chain := core.chain.step tx }
  | idle {label : Label} {core : Core config demoSubscriber} : Step sdk label core core
  | accept {core : Core config demoSubscriber} {authorization : Option (List UInt8)}
      {endpoint : Endpoint} {task : Task config demoSubscriber}
      (dispatched : dispatch sdk config demoSubscriber authorization endpoint =
        .ok (.inr task)) :
      Step sdk (.request authorization endpoint) core { core with tasks := task :: core.tasks }
  | finish {label : Label} {core : Core config demoSubscriber} (index : Nat) :
      Step sdk label core { core with tasks := core.tasks.eraseIdx index }
  | advance {label : Label} {core : Core config demoSubscriber} {index : Nat}
      {task next : Task config demoSubscriber} (found : core.tasks[index]? = some task)
      (same : next.accepted? = task.accepted?) :
      Step sdk label core { core with tasks := next :: core.tasks.eraseIdx index }
  | send {label : Label} {core : Core config demoSubscriber} {index : Nat}
      {prepared : Prepared config demoSubscriber}
      (found : core.tasks[index]? = some (.blockhash prepared)) :
      Step sdk label core { core with
        tasks := core.tasks.eraseIdx index
        inFlight := ⟨prepared, true⟩ :: core.inFlight }
  | abandon {label : Label} {core : Core config demoSubscriber} {index : Nat}
      {prepared : Prepared config demoSubscriber} {waiting : Bool}
      (found : core.inFlight[index]? = some ⟨prepared, waiting⟩) :
      Step sdk label core { core with
        inFlight := ⟨prepared, false⟩ :: core.inFlight.eraseIdx index }
  | drop {label : Label} {core : Core config demoSubscriber} (index : Nat) :
      Step sdk label core { core with inFlight := core.inFlight.eraseIdx index }
  | land {core : Core config demoSubscriber} {index : Nat} {now : Int64} {message : String}
      {prepared : Prepared config demoSubscriber} {waiting : Bool}
      (found : core.inFlight[index]? = some ⟨prepared, waiting⟩) :
      Step sdk (.land index now message) core { core with
        chain := core.chain.step (prepared.tx now)
        inFlight := core.inFlight.eraseIdx index
        landed := ⟨prepared, core.chain.ledger, now⟩ :: core.landed }

namespace System

variable {system : System config demoSubscriber}

@[simp] theorem reply_core (answer : Except ApiError Success) :
    (system.reply answer).core = system.core := rfl

@[simp] theorem replyIf_core (waiting : Bool) (answer : Except ApiError Success) :
    (system.replyIf waiting answer).core = system.core := by
  unfold replyIf
  split <;> rfl

@[simp] theorem finish_core (task : Nat) :
    (system.finish task).core =
      { system.core with tasks := system.core.tasks.eraseIdx task } := rfl

@[simp] theorem await_core (task : Task config demoSubscriber) :
    (system.await task).core = { system.core with tasks := task :: system.core.tasks } := rfl

@[simp] theorem settle_core (submission : Nat) :
    (system.settle submission).core =
      { system.core with inFlight := system.core.inFlight.eraseIdx submission } := rfl

theorem resume_cases {α : Type} {result : Except ApiError α}
    {next : α → System config demoSubscriber} :
    (system.resume result next).core = system.core ∨
      ∃ value, result = .ok value ∧ system.resume result next = next value := by
  cases result with
  | error refusal => exact .inl rfl
  | ok value => exact .inr ⟨value, rfl, rfl⟩

theorem account_step (task : Nat) (answer : Except String (Option Account))
    (hostClock : Int64) :
    Core.Step sdk (.account task answer hostClock) system.core
      (system.account sdk task answer hostClock).core := by
  unfold account
  split
  next accepted found =>
    rcases @resume_cases _ _ (system.finish task) _ (answered answer >>= prepareTopUp sdk accepted)
      (fun prepared => (system.finish task).await (.blockhash prepared)) with
      refused | ⟨prepared, succeeds, goes⟩
    · rw [refused]
      exact .finish task
    · rw [goes]
      simp only [bind_eq_ok] at succeeds
      obtain ⟨found', _, ready⟩ := succeeds
      obtain ⟨_, _, _, rfl⟩ := prepareTopUp_eq_ok.mp ready
      exact .advance found rfl
  next subscription found =>
    rcases @resume_cases _ _ (system.finish task) _
      (answered answer >>= readStatus sdk subscription)
      (fun sub => (system.finish task).await (.satellite sub)) with
      refused | ⟨sub, _, goes⟩
    · rw [refused]
      exact .finish task
    · rw [goes]
      exact .advance found rfl
  next sub found =>
    rcases @resume_cases _ _ (system.finish task) _
      (answered answer >>= fun satellite => answerStatus sub satellite hostClock)
      (fun status => (system.finish task).reply (.ok (.status status))) with
      refused | ⟨status, _, goes⟩
    · rw [refused]
      exact .finish task
    · rw [goes]
      exact .finish task
  next => exact .idle

/-- Every step of the service is one of these. -/
theorem step_core (label : Label) :
    Core.Step sdk label system.core (system.step sdk label).core := by
  cases label with
  | world tx => exact .world tx
  | request authorization endpoint =>
      change Core.Step _ _ _ (system.request sdk authorization endpoint).core
      unfold request
      split
      next => exact .idle
      next => exact .idle
      next task dispatched => exact .accept dispatched
  | account task answer hostClock => exact account_step task answer hostClock
  | blockhash task answer =>
      change Core.Step _ _ _ (system.blockhash task answer).core
      unfold blockhash
      split
      next prepared found =>
        cases answer with
        | error message => exact .finish task
        | ok => exact .send found
      next => exact .idle
  | timeout submission message =>
      change Core.Step _ _ _ (system.timeout submission message).core
      unfold timeout
      split
      next prepared waiting found =>
        rw [replyIf_core]
        exact .abandon found
      next => exact .idle
  | drop submission message =>
      change Core.Step _ _ _ (system.drop submission message).core
      unfold drop
      split
      next =>
        rw [replyIf_core]
        exact .drop submission
      next => exact .idle
  | land submission now message =>
      change Core.Step _ _ _ (system.land submission now message).core
      unfold land
      split
      next prepared waiting found =>
        rw [replyIf_core]
        exact .land found
      next => exact .idle

end System

/-! ## The chain -/

/-- Through the service the chain only takes steps of the program and of its environment. -/
theorem chain_reachable {system : System config demoSubscriber}
    (reachable : (service sdk config demoSubscriber).Reachable system) :
    Nakama.machine.Reachable system.core.chain := by
  refine @Machine.Reachable.invariant _ _ (service sdk config demoSubscriber)
    (fun system => Nakama.machine.Reachable system.core.chain) ?_ ?_ _ reachable
  · intro start idle
    exact idle.chain
  · intro before label reached allowed
    have taken := @System.step_core sdk config demoSubscriber before label
    change Nakama.machine.Reachable (before.step sdk label).core.chain
    generalize (before.step sdk label).core = after at taken ⊢
    cases taken with
    | world tx => exact reached.step allowed
    | land => exact reached.step allowed
    | _ => exact reached

/-! ## At most once -/

/-- The top-up that a request is accepted for. -/
def Label.accepted? (sdk : Sdk) (config : Config) (demoSubscriber : Option Signer) :
    Label → Option (Accepted config demoSubscriber)
  | .request authorization endpoint =>
      match dispatch sdk config demoSubscriber authorization endpoint with
      | .ok (.inr task) => task.accepted?
      | _ => none
  | _ => none

/-- The top-ups that are under way or executed. -/
def Core.held (core : Core config demoSubscriber) : List (Accepted config demoSubscriber) :=
  core.tasks.filterMap Task.accepted? ++ core.inFlight.map (·.prepared.accepted) ++
    core.landed.map (·.prepared.accepted)

theorem perm_cons_eraseIdx {α : Type} {items : List α} {index : Nat} {item : α}
    (found : items[index]? = some item) : items.Perm (item :: items.eraseIdx index) := by
  obtain ⟨bound, rfl⟩ := List.getElem?_eq_some_iff.mp found
  exact (List.getElem_cons_eraseIdx_perm bound).symm

/-- A step works on no top-up that it did not find or accept. -/
theorem Core.Step.held_count {label : Label} {before after : Core config demoSubscriber}
    (taken : Core.Step sdk label before after) (accepted : Accepted config demoSubscriber) :
    after.held.count accepted ≤ before.held.count accepted +
      (label.accepted? sdk config demoSubscriber).toList.count accepted := by
  simp only [Core.held, List.count_append]
  cases taken with
  | world => exact Nat.le_add_right _ _
  | idle => exact Nat.le_add_right _ _
  | @accept _ authorization endpoint task dispatched =>
      simp only [Label.accepted?, dispatched]
      cases work : task.accepted? with
      | none => simp [work]
      | some found =>
          simp only [List.filterMap_cons, work, Option.toList_some, List.count_cons,
            List.count_nil]
          omega
  | finish index =>
      have fewer := ((List.eraseIdx_sublist before.tasks index).filterMap
        Task.accepted?).count_le accepted
      dsimp only
      omega
  | @advance _ _ index task next found same =>
      have moved := ((perm_cons_eraseIdx found).filterMap Task.accepted?).count_eq accepted
      rw [List.filterMap_cons, ← same, ← List.filterMap_cons] at moved
      dsimp only
      omega
  | @send _ _ index prepared found =>
      have moved := ((perm_cons_eraseIdx found).filterMap Task.accepted?).count_eq accepted
      simp only [List.filterMap_cons, Task.accepted?] at moved
      simp only [List.map_cons, List.count_cons] at moved ⊢
      omega
  | @abandon _ _ index prepared waiting found =>
      have moved := ((perm_cons_eraseIdx found).map (·.prepared.accepted)).count_eq accepted
      simp only [List.map_cons, List.count_cons] at moved ⊢
      omega
  | drop index =>
      have fewer := ((List.eraseIdx_sublist before.inFlight index).map
        (·.prepared.accepted)).count_le accepted
      dsimp only
      omega
  | @land _ index now message prepared waiting found =>
      have moved := ((perm_cons_eraseIdx found).map (·.prepared.accepted)).count_eq accepted
      simp only [List.map_cons, List.count_cons] at moved ⊢
      omega

theorem held_count_run {start : System config demoSubscriber} {labels : List Label}
    (accepted : Accepted config demoSubscriber) :
    ((service sdk config demoSubscriber).run start labels).core.held.count accepted ≤
      start.core.held.count accepted +
        (labels.filterMap (Label.accepted? sdk config demoSubscriber)).count accepted := by
  induction labels generalizing start with
  | nil => simp
  | cons label labels ih =>
      have one := (@System.step_core sdk config demoSubscriber start label).held_count accepted
      have rest := @ih (start.step sdk label)
      rw [Machine.run_cons]
      change ((service sdk config demoSubscriber).run (start.step sdk label)
        labels).core.held.count accepted ≤ _
      cases work : label.accepted? sdk config demoSubscriber with
      | none =>
          simp only [work, Option.toList_none, List.count_nil] at one
          simp only [List.filterMap_cons, work]
          omega
      | some found =>
          simp only [work, Option.toList_some] at one
          simp only [List.filterMap_cons, work, List.count_cons, List.count_nil] at one ⊢
          omega

/-- After a run only accepted top-ups are under way or executed, each at most once. -/
theorem held_subperm {start : System config demoSubscriber} {labels : List Label} :
    ((service sdk config demoSubscriber).run start labels).core.held.Subperm
      (start.core.held ++ labels.filterMap (Label.accepted? sdk config demoSubscriber)) := by
  rw [List.subperm_ext_iff]
  intro accepted _
  rw [List.count_append]
  exact held_count_run accepted

/-! ## Who is let in -/

/-- The header presents the configured key. -/
def Config.knows (config : Config) (authorization : Option (List UInt8)) : Bool :=
  config.apiKey.isSome ∧ extractBearer authorization = config.apiKey

theorem requireBearer_eq_ok {authorization : Option (List UInt8)} {done : Unit} :
    requireBearer config authorization = .ok done ↔ config.knows authorization = true := by
  simp only [requireBearer, bind_eq_ok, okOr_eq_ok, require_eq_ok, Config.knows,
    decide_eq_true_eq]
  constructor
  · rintro ⟨expected, configured, presented, extracted, same⟩
    have equal : expected = presented := by
      unfold tokenMatches at same
      split at same
      · cases same
      · exact of_decide_eq_true same
    rw [extracted, configured, equal]
    exact ⟨rfl, rfl⟩
  · rintro ⟨configured, extracted⟩
    obtain ⟨expected, expectedEq⟩ := Option.isSome_iff_exists.mp configured
    refine ⟨expected, expectedEq, expected, extracted.trans expectedEq, ?_⟩
    simp [tokenMatches]

/-- A request is accepted for the top-up that it asks for, under the configured key. -/
theorem Label.accepted_spec {label : Label} {accepted : Accepted config demoSubscriber}
    (found : label.accepted? sdk config demoSubscriber = some accepted) :
    ∃ authorization path, label = .request authorization (.topUp path accepted.amount) ∧
      config.knows authorization = true ∧ sdk.fromStr path = .ok accepted.subscription := by
  unfold Label.accepted? at found
  split at found
  next authorization endpoint =>
    split at found
    next task dispatched =>
      cases endpoint with
      | healthz => cases dispatched
      | topUp path amount =>
          simp only [dispatch, bind_eq_ok, pure_eq_ok, Sum.inr.injEq] at dispatched
          obtain ⟨_, known, parsed, accepts, rfl⟩ := dispatched
          cases found
          obtain ⟨parses, rfl⟩ := acceptTopUp_eq_ok accepts
          exact ⟨authorization, path, rfl, requireBearer_eq_ok.mp known, parses⟩
      | computedStatus path =>
          simp only [dispatch, bind_eq_ok] at dispatched
          obtain ⟨_, _, dispatched⟩ := dispatched
          split at dispatched
          · rw [pure_eq_ok, Sum.inr.injEq] at dispatched
            subst dispatched
            cases found
          · cases dispatched
    next => cases found
  next => cases found

/-- The label is no request, or one that the bearer check lets through. -/
def Label.authentic (config : Config) : Label → Bool
  | .request _ .healthz => true
  | .request authorization _ => config.knows authorization
  | _ => true

theorem requireBearer_of_not_knows {authorization : Option (List UInt8)}
    (unknown : config.knows authorization = false) :
    ∃ refusal, (refusal = .unauthorized ∨
        config.apiKey = none ∧ refusal = .internal "api_key not configured") ∧
      requireBearer config authorization = .error refusal := by
  cases outcome : requireBearer config authorization with
  | ok =>
      rw [requireBearer_eq_ok.mp outcome] at unknown
      cases unknown
  | error refusal =>
      refine ⟨refusal, ?_, rfl⟩
      unfold requireBearer at outcome
      cases configured : config.apiKey with
      | none =>
          rw [configured] at outcome
          cases outcome
          exact .inr ⟨rfl, rfl⟩
      | some expected =>
          rw [configured] at outcome
          cases extracted : extractBearer authorization with
          | none =>
              rw [extracted] at outcome
              cases outcome
              exact .inl rfl
          | some presented =>
              rw [extracted] at outcome
              change require (tokenMatches expected presented = true) ApiError.unauthorized =
                .error refusal at outcome
              unfold require at outcome
              split at outcome
              · cases outcome
              · cases outcome
                exact .inl rfl

/-- What the bearer check refuses is answered at once, and nothing else happens. -/
theorem step_of_not_authentic {system : System config demoSubscriber} {label : Label}
    (stranger : label.authentic config = false) :
    ∃ refusal, (refusal = .unauthorized ∨
        config.apiKey = none ∧ refusal = .internal "api_key not configured") ∧
      system.step sdk label = system.reply (.error refusal) := by
  unfold Label.authentic at stranger
  split at stranger
  next => cases stranger
  next authorization endpoint notHealthz =>
    obtain ⟨refusal, kind, refused⟩ := requireBearer_of_not_knows stranger
    refine ⟨refusal, kind, ?_⟩
    have dispatched : dispatch sdk config demoSubscriber authorization endpoint =
        .error refusal := by
      cases endpoint with
      | healthz => exact (notHealthz rfl).elim
      | topUp =>
          unfold dispatch
          rw [refused]
          rfl
      | computedStatus =>
          unfold dispatch
          rw [refused]
          rfl
    change system.request sdk authorization endpoint = _
    unfold System.request
    rw [dispatched]
  next => cases stranger

theorem System.resume_core_congr {α : Type} {first second : System config demoSubscriber}
    (same : first.core = second.core) (result : Except ApiError α)
    {next other : α → System config demoSubscriber}
    (follow : ∀ value, (next value).core = (other value).core) :
    (first.resume result next).core = (second.resume result other).core := by
  cases result with
  | error => exact same
  | ok value => exact follow value

theorem step_core_congr {first second : System config demoSubscriber}
    (same : first.core = second.core) (label : Label) :
    (first.step sdk label).core = (second.step sdk label).core := by
  obtain ⟨core, replies⟩ := first
  obtain ⟨_, others⟩ := second
  cases same
  cases label with
  | world => rfl
  | request authorization endpoint =>
      simp only [System.step, System.request]
      split <;> rfl
  | account task answer hostClock =>
      simp only [System.step, System.account]
      split
      next =>
        apply System.resume_core_congr
        · rfl
        · exact fun _ => rfl
      next =>
        apply System.resume_core_congr
        · rfl
        · exact fun _ => rfl
      next =>
        apply System.resume_core_congr
        · rfl
        · exact fun _ => rfl
      next => rfl
  | blockhash task answer =>
      simp only [System.step, System.blockhash]
      split
      next =>
        apply System.resume_core_congr
        · rfl
        · exact fun _ => rfl
      next => rfl
  | timeout submission message =>
      simp only [System.step, System.timeout]
      split
      next => simp
      next => rfl
  | drop submission message =>
      simp only [System.step, System.drop]
      split
      next => simp
      next => rfl
  | land submission now message =>
      simp only [System.step, System.land]
      split
      next => simp
      next => rfl

/-! ## What a landing does -/

/-- The transaction moved the amount that was accepted, from a token account of the signer
to the vault of one of the signer's subscriptions. -/
structure Landing.Deposits (landing : Landing config demoSubscriber) (outcome : Outcome) :
    Prop where
  transfers : outcome.transfers = [⟨.deposit, landing.prepared.subscriberAta,
    .vault landing.prepared.accepted.subscription, landing.prepared.accepted.amount⟩]
  subscription : ∃ planKey, landing.prepared.accepted.subscription =
    .sub landing.prepared.accepted.signer.key planKey
  source : ∃ token, landing.before.account landing.prepared.subscriberAta =
    some (.token token) ∧ token.owner = landing.prepared.accepted.signer.key

theorem Landing.deposits {landing : Landing config demoSubscriber} {outcome : Outcome}
    (executed : landing.result = .ok outcome) : landing.Deposits outcome := by
  cases topUp_effect executed with
  | topUp _ address signed _ ataLoaded ataOwner =>
      rw [signed] at address
      exact ⟨rfl, ⟨_, address⟩, _, ataLoaded, ataOwner⟩
  | recover _ address signed _ ataLoaded ataOwner =>
      rw [signed] at address
      exact ⟨rfl, ⟨_, address⟩, _, ataLoaded, ataOwner⟩

end Steps

end Nakama.Facilitator
