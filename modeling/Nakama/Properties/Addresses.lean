import Mathlib.Data.Set.Function
import Nakama.Client.Pda

/-!
# Two accounts at one address

The model keeps derived addresses apart by their shape.  On chain they are hashes of the
joined seeds, in which the bounds between the seeds are lost.  The seeds of the six kinds
are still told apart after joining, so that two addresses of the model share their 32 bytes
only through a collision of the hash or of two wallets.
-/

namespace Nakama

/-! ## Joined seeds -/

theorem toLeBytes_inj {first second : UInt64} :
    toLeBytes first = toLeBytes second ↔ first = second := by
  constructor
  · intro same
    have read := (Borsh.u64.reads (toLeBytes first) second []).mpr (by
      rw [same, List.append_nil]
      rfl)
    have self := (Borsh.u64.reads (toLeBytes first) first []).mpr (by
      rw [List.append_nil]
      rfl)
    cases read.symm.trans self
    rfl
  · rintro rfl
    rfl

@[simp] theorem length_toLeBytes (value : UInt64) : (toLeBytes value).length = 8 :=
  Borsh.u64.width value

/-- The same kind of account, of keys with the same bytes and with the same number. -/
def Pubkey.Alike (bytes : Pubkey → KeyBytes) : Pubkey → Pubkey → Prop
  | .plan merchant planId, .plan otherMerchant otherId =>
      bytes merchant = bytes otherMerchant ∧ planId = otherId
  | .sub subscriber planKey, .sub otherSubscriber otherPlan =>
      bytes subscriber = bytes otherSubscriber ∧ bytes planKey = bytes otherPlan
  | .vault subscription, .vault other => bytes subscription = bytes other
  | .grace subscription, .grace other => bytes subscription = bytes other
  | .pausedSub subscription, .pausedSub other => bytes subscription = bytes other
  | .paySession subscription sessionId, .paySession other otherId =>
      bytes subscription = bytes other ∧ sessionId = otherId
  | _, _ => False

/-- How many bytes the joined seeds are. -/
def Pubkey.joinedLength : Pubkey → Nat
  | .external _ => 0
  | .plan _ _ => 44
  | .sub _ _ => 67
  | .vault _ => 37
  | .grace _ => 37
  | .pausedSub _ => 42
  | .paySession _ _ => 51

section Joining

variable {bytes : Pubkey → KeyBytes} {first second : Pubkey} {seeds otherSeeds : Seeds}

theorem length_joined (seedsOf : first.seeds bytes = some seeds) :
    seeds.flatten.length = first.joinedLength := by
  have width (key : KeyBytes) : key.toList.length = 32 := key.length_toList
  cases first with
  | external => cases seedsOf
  | plan | sub | vault | grace | pausedSub | paySession =>
      cases seedsOf
      simp only [List.flatten_cons, List.flatten_nil, List.length_append, List.length_nil,
        length_toLeBytes, width]
      rfl

/-- The bytes of a key end where the next seed begins. -/
theorem key_append_inj {key other : KeyBytes} {rest otherRest : List UInt8} :
    key.toList ++ rest = other.toList ++ otherRest ↔ key = other ∧ rest = otherRest := by
  constructor
  · intro joined
    obtain ⟨keys, rests⟩ := List.append_inj joined (by
      rw [key.length_toList, other.length_toList])
    exact ⟨Vector.toList_inj.mp keys, rests⟩
  · rintro ⟨rfl, rfl⟩
    rfl

/-- Joined seeds tell the kind of account and what it belongs to: their length gives the
kind away, except that a vault and a grace satellite have one length and different tags. -/
theorem alike_of_joined (seedsOf : first.seeds bytes = some seeds)
    (otherSeedsOf : second.seeds bytes = some otherSeeds)
    (joined : seeds.flatten = otherSeeds.flatten) : first.Alike bytes second := by
  have lengths : first.joinedLength = second.joinedLength := by
    rw [← length_joined seedsOf, ← length_joined otherSeedsOf, joined]
  have cut {tag : List UInt8} {one other : Seeds}
      (same : (tag :: one).flatten = (tag :: other).flatten) : one.flatten = other.flatten :=
    List.append_cancel_left same
  have tags {tag otherTag : List UInt8} {one other : Seeds}
      (same : (tag :: one).flatten = (otherTag :: other).flatten)
      (long : tag.length = otherTag.length) : tag = otherTag :=
    (List.append_inj same long).1
  cases first with
  | external => cases seedsOf
  | plan merchant planId =>
      cases second with
      | plan =>
          cases seedsOf
          cases otherSeedsOf
          obtain ⟨keys, rest⟩ := key_append_inj.mp (cut joined)
          exact ⟨keys, toLeBytes_inj.mp (List.append_cancel_right rest)⟩
      | external => cases otherSeedsOf
      | _ => cases lengths
  | sub subscriber planKey =>
      cases second with
      | sub =>
          cases seedsOf
          cases otherSeedsOf
          obtain ⟨keys, rest⟩ := key_append_inj.mp (cut joined)
          exact ⟨keys, (key_append_inj.mp rest).1⟩
      | external => cases otherSeedsOf
      | _ => cases lengths
  | vault subscription =>
      cases second with
      | vault =>
          cases seedsOf
          cases otherSeedsOf
          exact (key_append_inj.mp (cut joined)).1
      | grace =>
          cases seedsOf
          cases otherSeedsOf
          exact absurd (tags joined rfl) (by decide)
      | external => cases otherSeedsOf
      | _ => cases lengths
  | grace subscription =>
      cases second with
      | grace =>
          cases seedsOf
          cases otherSeedsOf
          exact (key_append_inj.mp (cut joined)).1
      | vault =>
          cases seedsOf
          cases otherSeedsOf
          exact absurd (tags joined rfl) (by decide)
      | external => cases otherSeedsOf
      | _ => cases lengths
  | pausedSub subscription =>
      cases second with
      | pausedSub =>
          cases seedsOf
          cases otherSeedsOf
          exact (key_append_inj.mp (cut joined)).1
      | external => cases otherSeedsOf
      | _ => cases lengths
  | paySession subscription sessionId =>
      cases second with
      | paySession =>
          cases seedsOf
          cases otherSeedsOf
          obtain ⟨keys, rest⟩ := key_append_inj.mp (cut joined)
          exact ⟨keys, toLeBytes_inj.mp (List.append_cancel_right rest)⟩
      | external => cases otherSeedsOf
      | _ => cases lengths

end Joining

/-! ## Collisions -/

/-- The address and those that it is derived from. -/
def Pubkey.parts : Pubkey → List Pubkey
  | .external index => [.external index]
  | .plan merchant planId => .plan merchant planId :: merchant.parts
  | .sub subscriber planKey => .sub subscriber planKey :: (subscriber.parts ++ planKey.parts)
  | .vault subscription => .vault subscription :: subscription.parts
  | .grace subscription => .grace subscription :: subscription.parts
  | .pausedSub subscription => .pausedSub subscription :: subscription.parts
  | .paySession subscription sessionId =>
      .paySession subscription sessionId :: subscription.parts

/-- The addresses that an address is directly derived from. -/
def Pubkey.components : Pubkey → List Pubkey
  | .external _ => []
  | .plan merchant _ => [merchant]
  | .sub subscriber planKey => [subscriber, planKey]
  | .vault subscription | .grace subscription | .pausedSub subscription => [subscription]
  | .paySession subscription _ => [subscription]

theorem Pubkey.self_mem_parts (key : Pubkey) : key ∈ key.parts := by
  cases key with
  | _ => exact List.mem_cons_self

theorem Pubkey.parts_subset {key component part : Pubkey} (member : component ∈ key.components)
    (within : part ∈ component.parts) : part ∈ key.parts := by
  cases key with
  | external => cases member
  | sub =>
      simp only [components, List.mem_cons, List.not_mem_nil, or_false] at member
      obtain rfl | rfl := member
      · exact List.mem_cons_of_mem _ (List.mem_append_left _ within)
      · exact List.mem_cons_of_mem _ (List.mem_append_right _ within)
  | plan | vault | grace | pausedSub | paySession =>
      cases List.mem_singleton.mp member
      exact List.mem_cons_of_mem _ within

section Colliding

variable (findProgramAddress : Seeds → KeyBytes → KeyBytes × UInt8) (programId : KeyBytes)
  (wallet : Nat → KeyBytes)

/-- What `find_program_address` hashes in the end: the seeds joined, the bump, the program
and the marker. -/
def hashedBytes (seeds : Seeds) : List UInt8 :=
  seeds.flatten ++ [(findProgramAddress seeds programId).2] ++ programId.toList ++
    "ProgramDerivedAddress".toUTF8.data.toList

/-- Two wallets with one key, a wallet at a derived address, or two byte strings with one
hash. -/
inductive Pubkey.Clash (first second : Pubkey) : Prop where
  | wallets {index other : Nat} (firstEq : first = .external index)
      (secondEq : second = .external other) (different : index ≠ other)
      (same : wallet index = wallet other)
  | curve {index : Nat} {seeds : Seeds} (firstEq : first = .external index)
      (seedsOf : second.seeds (Pubkey.address findProgramAddress programId wallet) =
        some seeds)
      (same : wallet index = (findProgramAddress seeds programId).1)
  | hash {seeds otherSeeds : Seeds}
      (seedsOf : first.seeds (Pubkey.address findProgramAddress programId wallet) =
        some seeds)
      (otherSeedsOf : second.seeds (Pubkey.address findProgramAddress programId wallet) =
        some otherSeeds)
      (different : hashedBytes findProgramAddress programId seeds ≠
        hashedBytes findProgramAddress programId otherSeeds)
      (same : (findProgramAddress seeds programId).1 =
        (findProgramAddress otherSeeds programId).1)

variable {findProgramAddress programId wallet} {first second : Pubkey} {seeds : Seeds}

theorem Pubkey.external_or_seeds (bytes : Pubkey → KeyBytes) (key : Pubkey) :
    (∃ index, key = .external index) ∨ ∃ seeds, key.seeds bytes = some seeds := by
  cases key with
  | external index => exact .inl ⟨index, rfl⟩
  | _ => exact .inr ⟨_, rfl⟩

/-- The Rust client derives every address from the seeds that the program checks. -/
theorem Pubkey.address_of_seeds
    (seedsOf : first.seeds (Pubkey.address findProgramAddress programId wallet) = some seeds) :
    first.address findProgramAddress programId wallet =
      (findProgramAddress seeds programId).1 := by
  cases first with
  | external => cases seedsOf
  | _ =>
      cases seedsOf
      rfl

/-- The two clients derive the same addresses. -/
theorem TypeScript.address_eq :
    TypeScript.address findProgramAddress programId wallet =
      Pubkey.address findProgramAddress programId wallet := by
  funext key
  induction key with
  | external => rfl
  | sub _ _ subscriber planKey =>
      rw [TypeScript.address, subscriber, planKey]
      rfl
  | plan _ _ ih | vault _ ih | grace _ ih | pausedSub _ ih | paySession _ _ ih =>
      rw [TypeScript.address, ih]
      rfl

/-- The TypeScript client derives every address from these seeds, too. -/
theorem TypeScript.address_of_seeds
    (seedsOf : first.seeds (TypeScript.address findProgramAddress programId wallet) =
      some seeds) :
    TypeScript.address findProgramAddress programId wallet first =
      (findProgramAddress seeds programId).1 := by
  rw [TypeScript.address_eq] at seedsOf ⊢
  exact Pubkey.address_of_seeds seedsOf

theorem joined_of_hashedBytes {otherSeeds : Seeds}
    (same : hashedBytes findProgramAddress programId seeds =
      hashedBytes findProgramAddress programId otherSeeds) :
    seeds.flatten = otherSeeds.flatten := by
  have bumped := List.append_cancel_right (List.append_cancel_right same)
  exact (List.append_inj' bumped rfl).1

/-- Alike addresses that differ have components that differ and share their bytes. -/
theorem Pubkey.Alike.component {bytes : Pubkey → KeyBytes} (alike : first.Alike bytes second)
    (different : first ≠ second) :
    ∃ one ∈ first.components, ∃ other ∈ second.components,
      one ≠ other ∧ bytes one = bytes other := by
  have single {key other : Pubkey} (same : bytes key = bytes other) (apart : key ≠ other) :
      ∃ one ∈ [key], ∃ two ∈ [other], one ≠ two ∧ bytes one = bytes two :=
    ⟨key, List.mem_cons_self, other, List.mem_cons_self, apart, same⟩
  cases first <;> cases second <;> try exact alike.elim
  next merchant planId other otherId =>
    obtain ⟨same, rfl⟩ := alike
    exact single same (mt (congrArg (Pubkey.plan · planId)) different)
  next subscriber planKey other otherPlan =>
    obtain ⟨same, samePlan⟩ := alike
    by_cases equal : subscriber = other
    · subst equal
      exact ⟨planKey, by simp [components], otherPlan, by simp [components],
        mt (congrArg (Pubkey.sub subscriber)) different, samePlan⟩
    · exact ⟨subscriber, by simp [components], other, by simp [components], equal, same⟩
  next => exact single alike (mt (congrArg Pubkey.vault) different)
  next => exact single alike (mt (congrArg Pubkey.grace) different)
  next => exact single alike (mt (congrArg Pubkey.pausedSub) different)
  next subscription sessionId other otherId =>
    obtain ⟨same, rfl⟩ := alike
    exact single same (mt (congrArg (Pubkey.paySession · sessionId)) different)

theorem Pubkey.components_induction {motive : Pubkey → Prop}
    (step : ∀ key : Pubkey, (∀ component ∈ key.components, motive component) → motive key)
    (key : Pubkey) : motive key := by
  induction key with
  | external => exact step _ (by simp [components])
  | sub _ _ subscriber planKey => exact step _ (by simp [components, subscriber, planKey])
  | plan _ _ ih | vault _ ih | grace _ ih | pausedSub _ ih | paySession _ _ ih =>
      exact step _ (by simp [components, ih])

/-- Two addresses with the same bytes are the same or rest on a clash. -/
theorem Pubkey.exists_clash
    (same : first.address findProgramAddress programId wallet =
      second.address findProgramAddress programId wallet) (different : first ≠ second) :
    ∃ one ∈ first.parts, ∃ other ∈ second.parts,
      one.Clash findProgramAddress programId wallet other ∨
        other.Clash findProgramAddress programId wallet one := by
  induction first using Pubkey.components_induction generalizing second with
  | step first ih =>
      have here := first.self_mem_parts
      have there := second.self_mem_parts
      obtain ⟨index, rfl⟩ | ⟨seeds, seedsOf⟩ := first.external_or_seeds
        (Pubkey.address findProgramAddress programId wallet)
      · obtain ⟨other, rfl⟩ | ⟨otherSeeds, otherSeedsOf⟩ := second.external_or_seeds
          (Pubkey.address findProgramAddress programId wallet)
        · exact ⟨_, here, _, there, .inl (.wallets rfl rfl (by simpa using different) same)⟩
        · rw [address_of_seeds otherSeedsOf] at same
          exact ⟨_, here, _, there, .inl (.curve rfl otherSeedsOf same)⟩
      · obtain ⟨other, rfl⟩ | ⟨otherSeeds, otherSeedsOf⟩ := second.external_or_seeds
          (Pubkey.address findProgramAddress programId wallet)
        · rw [address_of_seeds seedsOf] at same
          exact ⟨_, here, _, there, .inr (.curve rfl seedsOf same.symm)⟩
        · have sameHash := (address_of_seeds seedsOf).symm.trans
            (same.trans (address_of_seeds otherSeedsOf))
          by_cases hashed : hashedBytes findProgramAddress programId seeds =
            hashedBytes findProgramAddress programId otherSeeds
          · have alike := alike_of_joined seedsOf otherSeedsOf (joined_of_hashedBytes hashed)
            obtain ⟨one, oneOf, other, otherOf, apart, sameBytes⟩ := alike.component different
            obtain ⟨part, partOf, otherPart, otherPartOf, clash⟩ := ih one oneOf sameBytes apart
            exact ⟨part, parts_subset oneOf partOf, otherPart, parts_subset otherOf otherPartOf,
              clash⟩
          · exact ⟨_, here, _, there, .inl (.hash seedsOf otherSeedsOf hashed sameHash)⟩

theorem Pubkey.Clash.same (clash : first.Clash findProgramAddress programId wallet second) :
    first ≠ second ∧ first.address findProgramAddress programId wallet =
      second.address findProgramAddress programId wallet := by
  cases clash with
  | wallets firstEq secondEq different same =>
      subst firstEq secondEq
      exact ⟨by simpa using different, same⟩
  | curve firstEq seedsOf same =>
      subst firstEq
      refine ⟨?_, same.trans (address_of_seeds seedsOf).symm⟩
      rintro rfl
      cases seedsOf
  | hash seedsOf otherSeedsOf different same =>
      refine ⟨?_, (address_of_seeds seedsOf).trans
        (same.trans (address_of_seeds otherSeedsOf).symm)⟩
      rintro rfl
      cases seedsOf.symm.trans otherSeedsOf
      exact different rfl

end Colliding

/-- Among any addresses together with what they are derived from, two share their bytes
exactly when two wallets have one key, a wallet sits at a derived address, or the hash of two
different byte strings is the same: the seeds of different accounts are never joined to one
string. -/
theorem address_injOn_iff (findProgramAddress : Seeds → KeyBytes → KeyBytes × UInt8)
    (programId : KeyBytes) (wallet : Nat → KeyBytes) {used : Set Pubkey}
    (closed : ∀ key ∈ used, ∀ part ∈ key.parts, part ∈ used) :
    Set.InjOn (Pubkey.address findProgramAddress programId wallet) used ↔
      ∀ first ∈ used, ∀ second ∈ used,
        ¬first.Clash findProgramAddress programId wallet second := by
  constructor
  · intro injective first firstUsed second secondUsed clash
    exact clash.same.1 (injective firstUsed secondUsed clash.same.2)
  · intro clashless first firstUsed second secondUsed same
    by_contra different
    obtain ⟨one, oneOf, other, otherOf, clash | clash⟩ := Pubkey.exists_clash same different
    · exact clashless one (closed _ firstUsed _ oneOf) other (closed _ secondUsed _ otherOf) clash
    · exact clashless other (closed _ secondUsed _ otherOf) one (closed _ firstUsed _ oneOf) clash

section Witness

/-- A number as a key. -/
def numberedKey (value : Nat) : KeyBytes :=
  Vector.ofFn fun i : Fin 32 => UInt8.ofNat (value / 256 ^ i.val)

/-- A polynomial of the joined seeds, above all wallets. -/
def polynomialHash (seeds : Seeds) (_ : KeyBytes) : KeyBytes × UInt8 :=
  (numberedKey (2 ^ 255 +
    seeds.flatten.foldl (fun sum byte => (sum * 257 + byte.toNat) % 2 ^ 255) 0), 255)

/-- A subscription with everything that belongs to it. -/
def subscriptionKeys : List Pubkey :=
  let planKey := Pubkey.plan (.external 0) 7
  let subscription := Pubkey.sub (.external 1) planKey
  [.external 0, .external 1, planKey, subscription, .vault subscription, .grace subscription,
    .pausedSub subscription, .paySession subscription 1, .paySession subscription 256]

/-- No two accounts of the subscription clash. -/
theorem address_injOn_iff_subscription :
    ¬∃ first ∈ {key | key ∈ subscriptionKeys}, ∃ second ∈ {key | key ∈ subscriptionKeys},
      first.Clash polynomialHash (numberedKey 0) numberedKey second := by
  rintro ⟨one, oneUsed, other, otherUsed, clash⟩
  refine (address_injOn_iff polynomialHash (numberedKey 0) numberedKey ?_).mp ?_ one oneUsed
    other otherUsed clash
  · have closed : ∀ key ∈ subscriptionKeys, ∀ part ∈ key.parts,
        part ∈ subscriptionKeys := by decide
    exact closed
  · have apart : ∀ first ∈ subscriptionKeys, ∀ second ∈ subscriptionKeys,
        first.address polynomialHash (numberedKey 0) numberedKey =
          second.address polynomialHash (numberedKey 0) numberedKey → first = second := by
      decide +kernel
    intro first firstUsed second secondUsed same
    exact apart first firstUsed second secondUsed same

end Witness

end Nakama
