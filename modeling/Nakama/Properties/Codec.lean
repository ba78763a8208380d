import Nakama.Client.Sessions

/-!
# The client reads what the program wrote

For each of the five account types the view of the client decodes the bytes of the program
to the same field values, and nothing else decodes but the right owner, tag and length.
Both clients find exactly the open sessions.
-/

namespace Nakama

open Borsh

/-- A decoder of the client against the bytes that the program writes for one type. -/
structure Faithful {α ν : Type} (serialize : α → List UInt8) (seen : α → ν)
    (layout : Borsh ν) (decode : RawAccount → KeyBytes → Except AccountDecodeError ν)
    (tag : Discriminator) (size : Nat) : Prop where
  /-- An account that the program wrote decodes to its field values. -/
  decodes : ∀ value programId,
    decode ⟨programId, tag.toList ++ serialize value⟩ programId = .ok (seen value)
  /-- The view in field order gives back the bytes of the program. -/
  reencodes : ∀ value, layout.serialize (seen value) = serialize value
  /-- Any account that decodes is the tag and the view in field order. -/
  canonical : ∀ account programId view, decode account programId = .ok view →
    account.data = tag.toList ++ layout.serialize view
  /-- Owner, tag and length decide, whatever the other bytes are. -/
  accepts : ∀ account programId, (∃ view, decode account programId = .ok view) ↔
    account.owner = programId ∧ account.data.take 8 = tag.toList ∧
      account.data.length = 8 + size

/-- The decoder of a type is faithful as soon as its view has the layout of the program. -/
theorem Faithful.of_layout {α ν : Type} {serialize : α → List UInt8} {seen : α → ν}
    {layout : Borsh ν} {tag : Discriminator}
    (same : ∀ value, layout.serialize (seen value) = serialize value) :
    Faithful serialize seen layout
      (fun account programId => decodeProgramOwned layout account programId tag) tag
      layout.size where
  decodes := by
    intro value programId
    rw [decodeProgramOwned_eq_ok]
    exact ⟨rfl, by rw [same]⟩
  reencodes := same
  canonical := by
    intro account programId view decoded
    exact (decodeProgramOwned_eq_ok.mp decoded).2
  accepts := by
    intro account programId
    exact exists_decodeProgramOwned

section Layouts

variable (plan : Plan KeyBytes) (sub : Subscription KeyBytes)
  (graced : GracedSubscription KeyBytes) (paused : PausedSubscription KeyBytes)
  (session : PaySession KeyBytes)

-- The nested pairs of a view are the fields of the program's bytes, bracketed to the right.

theorem plan_layout : PlanView.layout.serialize plan.seen = plan.serialize := by
  unfold Plan.serialize
  simp only [List.append_assoc]
  rfl

theorem subscription_layout :
    SubscriptionView.layout.serialize sub.seen = sub.serialize := by
  unfold Subscription.serialize
  simp only [List.append_assoc]
  rfl

theorem graced_layout :
    GracedSubscriptionView.layout.serialize graced.seen = graced.serialize := by
  unfold GracedSubscription.serialize
  simp only [List.append_assoc]
  rfl

theorem paused_layout :
    PausedSubscriptionView.layout.serialize paused.seen = paused.serialize := by
  unfold PausedSubscription.serialize
  simp only [List.append_assoc]
  rfl

theorem paySession_layout :
    PaySessionView.layout.serialize session.seen = session.serialize := by
  unfold PaySession.serialize
  simp only [List.append_assoc]
  rfl

end Layouts

section Offsets

variable {session : PaySession KeyBytes} {tag : Discriminator}

theorem length_keyLayout (key : KeyBytes) : (keyLayout.serialize key).length = 32 :=
  keyLayout.width key

theorem length_u64 (value : UInt64) : (u64.serialize value).length = 8 := u64.width value

theorem length_i64 (value : Int64) : (i64.serialize value).length = 8 := i64.width value

/-- The tag is followed by the parent. -/
theorem session_subscription_at :
    ((tag.toList ++ session.serialize).drop 8).take 32 = session.subscription.toList := by
  simp only [PaySession.serialize, List.append_assoc]
  rw [List.drop_left' tag.length_toList,
    List.take_left' (length_keyLayout session.subscription)]
  rfl

/-- The four keys are followed by the session id. -/
theorem session_id_at :
    readU64Le (tag.toList ++ session.serialize) paySessionIdOffset = session.sessionId := by
  obtain ⟨back, split⟩ : ∃ back, tag.toList ++ session.serialize =
      (tag.toList ++ keyLayout.serialize session.subscription ++
        keyLayout.serialize session.merchant ++ keyLayout.serialize session.merchantAta ++
        keyLayout.serialize session.facilitator) ++
      (u64.serialize session.sessionId ++ back) := by
    simp only [PaySession.serialize, List.append_assoc]
    exact ⟨_, rfl⟩
  unfold readU64Le
  rw [split, List.drop_left', List.take_left' (length_u64 session.sessionId)]
  · exact ofNat_ofLeBytes_leBytes session.sessionId
  · simp only [List.length_append, length_keyLayout, Vector.length_toList,
      paySessionIdOffset]

/-- Four keys and five words are followed by the state. -/
theorem session_state_at :
    (tag.toList ++ session.serialize)[paySessionStateOffset]? = some session.state := by
  obtain ⟨back, split⟩ : ∃ back, tag.toList ++ session.serialize =
      (tag.toList ++ keyLayout.serialize session.subscription ++
        keyLayout.serialize session.merchant ++ keyLayout.serialize session.merchantAta ++
        keyLayout.serialize session.facilitator ++ u64.serialize session.sessionId ++
        i64.serialize session.openedAt ++ i64.serialize session.lastSettleAt ++
        u64.serialize session.usageAmount ++ u64.serialize session.reservationCap) ++
      session.state :: back := by
    simp only [PaySession.serialize, List.append_assoc]
    exact ⟨_, rfl⟩
  have offset : (tag.toList ++ keyLayout.serialize session.subscription ++
      keyLayout.serialize session.merchant ++ keyLayout.serialize session.merchantAta ++
      keyLayout.serialize session.facilitator ++ u64.serialize session.sessionId ++
      i64.serialize session.openedAt ++ i64.serialize session.lastSettleAt ++
      u64.serialize session.usageAmount ++ u64.serialize session.reservationCap).length =
        paySessionStateOffset := by
    simp only [List.length_append, length_keyLayout, length_u64, length_i64,
      Vector.length_toList, paySessionStateOffset]
  rw [split, ← offset, List.getElem?_append_right (le_refl _), Nat.sub_self]
  rfl

end Offsets

section Enumeration

variable {tag : Discriminator} {programId subscription : KeyBytes}
  {accounts answer other : List (KeyBytes × RawAccount)}

theorem tryDecode_written (session : PaySession KeyBytes) :
    PaySessionView.tryDecode (tag.toList ++ session.serialize) = .ok session.seen := by
  have eight : tag.toList.length = 8 := tag.length_toList
  simp only [PaySessionView.tryDecode, stripDiscriminator, Guard.bind_eq_ok,
    Guard.require_eq_ok, Guard.pure_eq_ok, exists_const, Guard.okOr_eq_ok,
    Borsh.tryFromSlice_eq_some]
  refine ⟨_, ⟨?_, List.drop_left' eight⟩, ?_⟩
  · rw [List.length_append]
    omega
  · rw [paySession_layout]

theorem aliveSessionId_written (session : PaySession KeyBytes) :
    aliveSessionId (tag.toList ++ session.serialize) =
      if session.state = 0 then some session.sessionId else none := by
  rw [aliveSessionId, session_state_at, session_id_at]

theorem mem_answer (answers : Answers accounts programId (listAliveFilters tag subscription) answer)
    {found : KeyBytes × RawAccount} :
    found ∈ answer ↔ found ∈ accounts ∧ found.2.owner = programId ∧
      memcmp 0 tag.toList found.2.data ∧ memcmp 8 subscription.toList found.2.data := by
  rw [List.Perm.mem_iff answers]
  simp [listAliveFilters]

theorem memcmp_tag (bytes : List UInt8) : memcmp 0 tag.toList (tag.toList ++ bytes) := by
  rw [memcmp, List.drop_zero, List.take_left' rfl, decide_eq_true_eq]

theorem memcmp_subscription {session : PaySession KeyBytes} :
    memcmp 8 subscription.toList (tag.toList ++ session.serialize) ↔
      session.subscription = subscription := by
  rw [memcmp, Vector.length_toList, session_subscription_at, decide_eq_true_eq,
    Vector.toList_inj]

/-- The loop of the Rust client on sessions that the program wrote under the parent. -/
theorem listAlive_written
    (written : ∀ found ∈ answer, ∃ session : PaySession KeyBytes,
      found.2.data = tag.toList ++ session.serialize ∧ session.subscription = subscription) :
    ∃ alive, listAlivePaySessions subscription answer = .ok alive ∧
      (∀ pda view, (pda, view) ∈ alive ↔ ∃ account, (pda, account) ∈ answer ∧
        PaySessionView.tryDecode account.data = .ok view ∧ view.state = 0) ∧
      answer.filterMap (fun found => aliveSessionId found.2.data) =
        alive.map (·.2.sessionId) := by
  induction answer with
  | nil => exact ⟨[], rfl, by simp, rfl⟩
  | cons found answer ih =>
      obtain ⟨alive, listed, members, same⟩ := ih fun other member =>
        written other (List.mem_cons_of_mem _ member)
      obtain ⟨session, data, parent⟩ := written found List.mem_cons_self
      obtain ⟨pda, account⟩ := found
      have decoded : PaySessionView.tryDecode account.data = .ok session.seen := by
        rw [show account.data = _ from data, tryDecode_written]
      have read : aliveSessionId account.data =
          if session.state = 0 then some session.sessionId else none := by
        rw [show account.data = _ from data, aliveSessionId_written]
      have child : ¬session.seen.subscription ≠ subscription := not_not.mpr parent
      have step : listAlivePaySessions subscription ((pda, account) :: answer) =
          .ok (if session.state = 0 then (pda, session.seen) :: alive else alive) := by
        rw [listAlivePaySessions, Guard.bind_of_ok decoded, Guard.bind_of_ok listed,
          if_neg child]
        exact (apply_ite Except.ok (session.state = 0) _ _).symm
      have head {key : KeyBytes} {view : PaySessionView KeyBytes} :
          (∃ stored, (key, stored) = (pda, account) ∧
            PaySessionView.tryDecode stored.data = .ok view ∧ view.state = 0) ↔
          (key, view) = (pda, session.seen) ∧ session.state = 0 := by
        constructor
        · rintro ⟨stored, same, decodes, opened⟩
          cases same
          cases decoded.symm.trans decodes
          exact ⟨rfl, opened⟩
        · rintro ⟨same, opened⟩
          cases same
          exact ⟨account, rfl, decoded, opened⟩
      refine ⟨_, step, ?_, ?_⟩
      · intro key view
        simp only [List.mem_cons, or_and_right, exists_or, head, ← members]
        -- Both loops look at the same state byte.
        by_cases opened : session.state = 0
        · rw [if_pos opened, List.mem_cons, and_iff_left opened]
        · rw [if_neg opened]
          simp only [opened, and_false, false_or]
      · rw [List.filterMap_cons, read, same]
        by_cases opened : session.state = 0
        · rw [if_pos opened, if_pos opened]
          rfl
        · rw [if_neg opened, if_neg opened]

/-- The TypeScript client sorts, so that the order of the answer does not matter. -/
theorem findAlive_of_perm (same : answer.Perm other) :
    findAlivePaySessions answer = findAlivePaySessions other := by
  unfold findAlivePaySessions
  have sorted (ids : List UInt64) : ids.mergeSort.Pairwise (· ≤ ·) := by
    simpa using @List.pairwise_mergeSort _ (fun a b : UInt64 => decide (a ≤ b))
      (by simpa using fun _ _ _ => UInt64.le_trans) (by simpa using UInt64.le_total) ids
  apply List.Perm.eq_of_pairwise _ (sorted _) (sorted _)
  · exact ((List.mergeSort_perm _ _).trans (same.filterMap _)).trans
      (List.mergeSort_perm _ _).symm
  · intro _ _ _ _
    exact UInt64.le_antisymm

end Enumeration

/-- For every account type, every value and every account: the client decodes what the
program wrote to the same field values and re-encodes it to the same bytes, and decodes
exactly what has the owner, the tag and the length.  The fixed offsets read the fields of
the view, and from whatever the node answers to their filters both clients enumerate
exactly the open sessions of the parent. -/
theorem account_codec (sha256 : List UInt8 → Vector UInt8 32) :
    Faithful Plan.serialize Plan.seen PlanView.layout (PlanView.decodeOwned sha256)
      (PlanView.discriminator sha256) 153 ∧
    Faithful Subscription.serialize Subscription.seen SubscriptionView.layout
      (SubscriptionView.decodeOwned sha256) (SubscriptionView.discriminator sha256) 267 ∧
    Faithful GracedSubscription.serialize GracedSubscription.seen
      GracedSubscriptionView.layout (GracedSubscriptionView.decodeOwned sha256)
      (GracedSubscriptionView.discriminator sha256) 48 ∧
    Faithful PausedSubscription.serialize PausedSubscription.seen
      PausedSubscriptionView.layout (PausedSubscriptionView.decodeOwned sha256)
      (PausedSubscriptionView.discriminator sha256) 41 ∧
    Faithful PaySession.serialize PaySession.seen PaySessionView.layout
      (PaySessionView.decodeOwned sha256) (PaySessionView.discriminator sha256) 202 ∧
    (∀ (session : PaySession KeyBytes) (data : List UInt8),
      data = (PaySessionView.discriminator sha256).toList ++ session.serialize →
      (data.drop 8).take 32 = session.seen.subscription.toList ∧
      readU64Le data paySessionIdOffset = session.seen.sessionId ∧
      data[paySessionStateOffset]? = some session.seen.state) ∧
    (∀ (accounts answer other : List (KeyBytes × RawAccount))
        (programId subscription : KeyBytes),
      Answers accounts programId
        (listAliveFilters (PaySessionView.discriminator sha256) subscription) answer →
      Answers accounts programId
        (findAliveFilters (PaySessionView.discriminator sha256) subscription) other →
      (∀ found ∈ accounts, found.2.owner = programId →
        memcmp 0 (PaySessionView.discriminator sha256).toList found.2.data →
        ∃ session : PaySession KeyBytes, found.2.data =
          (PaySessionView.discriminator sha256).toList ++ session.serialize) →
      ∃ alive, listAlivePaySessions subscription answer = .ok alive ∧
        (∀ pda view, (pda, view) ∈ alive ↔ ∃ session : PaySession KeyBytes,
          (pda, ⟨programId, (PaySessionView.discriminator sha256).toList ++
            session.serialize⟩) ∈ accounts ∧
          session.subscription = subscription ∧ session.state = 0 ∧ view = session.seen) ∧
        findAlivePaySessions other = (alive.map (·.2.sessionId)).mergeSort) := by
  refine ⟨.of_layout plan_layout, .of_layout subscription_layout, .of_layout graced_layout,
    .of_layout paused_layout, .of_layout paySession_layout, ?_, ?_⟩
  · rintro session _ rfl
    exact ⟨session_subscription_at, session_id_at, session_state_at⟩
  · intro accounts answer other programId subscription answers others written
    have matching : ∀ found ∈ answer, ∃ session : PaySession KeyBytes, found.2.data =
        (PaySessionView.discriminator sha256).toList ++ session.serialize ∧
          session.subscription = subscription := by
      intro found member
      obtain ⟨listed, owner, tagged, under⟩ := (mem_answer answers).mp member
      obtain ⟨session, data⟩ := written found listed owner tagged
      rw [data] at under
      exact ⟨session, data, memcmp_subscription.mp under⟩
    obtain ⟨alive, collected, members, same⟩ := listAlive_written matching
    refine ⟨alive, collected, ?_, ?_⟩
    · intro pda view
      rw [members]
      constructor
      · rintro ⟨⟨owner, data⟩, member, decodes, opened⟩
        obtain ⟨session, rfl, parent⟩ := matching _ member
        obtain ⟨listed, rfl, _⟩ := (mem_answer answers).mp member
        cases (tryDecode_written session).symm.trans decodes
        exact ⟨session, listed, parent, opened, rfl⟩
      · rintro ⟨session, listed, parent, opened, rfl⟩
        refine ⟨_, (mem_answer answers).mpr ⟨listed, rfl, memcmp_tag _, ?_⟩,
          tryDecode_written session, opened⟩
        exact memcmp_subscription.mpr parent
    · rw [findAlive_of_perm (List.Perm.trans others answers.symm), findAlivePaySessions, same]

section Witness

/-- The hash of `account:PaySession`, which is the only one that the sample asks for. -/
def paySessionHash (_ : List UInt8) : Vector UInt8 32 :=
  ⟨#[0, 64, 118, 208, 55, 92, 91, 176, 172, 249, 146, 67, 89, 13, 142, 134, 196, 193, 165,
    234, 198, 79, 15, 143, 196, 232, 17, 53, 7, 120, 218, 85], rfl⟩

/-- A key for each byte. -/
def keyOf (byte : UInt8) : KeyBytes := Vector.replicate 32 byte

def sessionOf (parent sessionId state : UInt8) : PaySession KeyBytes where
  subscription := keyOf parent
  merchant := keyOf 2
  merchantAta := keyOf 3
  facilitator := keyOf 4
  sessionId := sessionId.toUInt64
  openedAt := 100
  lastSettleAt := 100
  usageAmount := 0
  reservationCap := 50
  state := state
  bump := 255
  reserved := Reserved.zero

def storedSession (owner parent sessionId state : UInt8) : KeyBytes × RawAccount :=
  (keyOf (10 + sessionId), ⟨keyOf owner,
    (PaySessionView.discriminator paySessionHash).toList ++
      (sessionOf parent sessionId state).serialize⟩)

/-- Sessions 5 and 7 of the parent 1 are open, 6 is settling, 8 belongs to another parent
and 9 to another program. -/
def storedSessions : List (KeyBytes × RawAccount) :=
  [storedSession 0 1 7 0, storedSession 0 1 6 1, storedSession 0 2 8 0, storedSession 0 1 5 0,
    storedSession 3 1 9 0]

/-- On these accounts both clients find the open sessions, whatever the order of the two
answers. -/
theorem account_codec_sessions :
    ∃ alive, listAlivePaySessions (keyOf 1)
        [storedSession 0 1 5 0, storedSession 0 1 6 1, storedSession 0 1 7 0] = .ok alive ∧
      (keyOf 15, (sessionOf 1 5 0).seen) ∈ alive ∧
      findAlivePaySessions
          [storedSession 0 1 7 0, storedSession 0 1 6 1, storedSession 0 1 5 0] =
        (alive.map (·.2.sessionId)).mergeSort := by
  obtain ⟨_, _, _, _, _, _, enumerates⟩ := account_codec paySessionHash
  obtain ⟨alive, listed, members, found⟩ := enumerates storedSessions
    [storedSession 0 1 5 0, storedSession 0 1 6 1, storedSession 0 1 7 0]
    [storedSession 0 1 7 0, storedSession 0 1 6 1, storedSession 0 1 5 0] (keyOf 0) (keyOf 1)
    (by unfold Answers; decide +kernel) (by unfold Answers; decide +kernel) (by
      intro found member _ _
      simp only [storedSessions, List.mem_cons, List.not_mem_nil, or_false] at member
      rcases member with rfl | rfl | rfl | rfl | rfl
      all_goals exact ⟨_, rfl⟩)
  refine ⟨alive, listed, ?_, found⟩
  exact (members _ _).mpr ⟨sessionOf 1 5 0, by decide +kernel, rfl, rfl, rfl⟩

end Witness

end Nakama
