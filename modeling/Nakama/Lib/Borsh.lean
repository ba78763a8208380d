import Mathlib.Tactic.Common
import Mathlib.Tactic.Linarith

/-!
# Fixed-size Borsh layouts

A layout writes a value as a fixed number of bytes and reads it back from the front of a
byte string.  Every layout here accepts any bytes of the right number, so that reading and
writing are inverse to each other in both directions.
-/

/-- A type with a fixed-size layout.  Reading takes the bytes of one value off the front. -/
structure Borsh (α : Type) where
  size : Nat
  serialize : α → List UInt8
  deserialize : List UInt8 → Option (α × List UInt8)
  width : ∀ value, (serialize value).length = size
  reads : ∀ bytes value rest,
    deserialize bytes = some (value, rest) ↔ bytes = serialize value ++ rest
  total : ∀ bytes, size ≤ bytes.length → ∃ value rest, deserialize bytes = some (value, rest)

namespace Borsh

variable {α β : Type}

/-! ## Little-endian numbers -/

/-- The `count` lowest bytes of a number, lowest first. -/
def leBytes : (count value : Nat) → List UInt8
  | 0, _ => []
  | count + 1, value => UInt8.ofNat value :: leBytes count (value / 256)

/-- The number with the given bytes, lowest first. -/
def ofLeBytes : List UInt8 → Nat
  | [] => 0
  | byte :: bytes => byte.toNat + 256 * ofLeBytes bytes

@[simp] theorem length_leBytes (count value : Nat) :
    (leBytes count value).length = count := by
  induction count generalizing value with
  | zero => rfl
  | succ count ih => simp [leBytes, ih]

theorem ofLeBytes_lt (bytes : List UInt8) : ofLeBytes bytes < 256 ^ bytes.length := by
  induction bytes with
  | nil => simp [ofLeBytes]
  | cons byte bytes ih =>
      have bound : byte.toNat < 256 := byte.toNat_lt
      rw [ofLeBytes, List.length_cons, pow_succ]
      omega

theorem ofLeBytes_leBytes (count value : Nat) :
    ofLeBytes (leBytes count value) = value % 256 ^ count := by
  induction count generalizing value with
  | zero => simp [leBytes, ofLeBytes, Nat.mod_one]
  | succ count ih =>
      rw [leBytes, ofLeBytes, ih, pow_succ, Nat.mul_comm (256 ^ count) 256, Nat.mod_mul]
      rfl

theorem leBytes_ofLeBytes (bytes : List UInt8) :
    leBytes bytes.length (ofLeBytes bytes) = bytes := by
  induction bytes with
  | nil => rfl
  | cons byte bytes ih =>
      have bound : byte.toNat < 256 := byte.toNat_lt
      have low : UInt8.ofNat (byte.toNat + 256 * ofLeBytes bytes) = byte := by
        apply UInt8.toNat_inj.mp
        rw [UInt8.toNat_ofNat']
        omega
      have high : (byte.toNat + 256 * ofLeBytes bytes) / 256 = ofLeBytes bytes := by omega
      rw [ofLeBytes, List.length_cons, leBytes, low, high, ih]

theorem ofNat_ofLeBytes_leBytes (value : UInt64) :
    UInt64.ofNat (ofLeBytes (leBytes 8 value.toNat)) = value := by
  have bound : value.toNat < 2 ^ 64 := value.toNat_lt
  apply UInt64.toNat_inj.mp
  rw [ofLeBytes_leBytes, UInt64.toNat_ofNat']
  omega

/-! ## Layouts -/

/-- The layout of a type whose values are the byte strings of one length. -/
def exact (size : Nat) (encode : α → List UInt8) (decode : List UInt8 → α)
    (width : ∀ value, (encode value).length = size)
    (decode_encode : ∀ value, decode (encode value) = value)
    (encode_decode : ∀ bytes, bytes.length = size → encode (decode bytes) = bytes) :
    Borsh α where
  size := size
  serialize := encode
  deserialize bytes :=
    if size ≤ bytes.length then some (decode (bytes.take size), bytes.drop size) else none
  width := width
  reads := by
    intro bytes value rest
    constructor
    · intro found
      split at found
      next enough =>
        cases found
        have taken : (bytes.take size).length = size := by
          rw [List.length_take]
          omega
        rw [encode_decode _ taken, List.take_append_drop]
      next => cases found
    · rintro rfl
      have enough : size ≤ (encode value ++ rest).length := by
        rw [List.length_append, width]
        omega
      rw [if_pos enough, ← width value, List.take_left, List.drop_left, decode_encode]
  total := by
    intro bytes enough
    exact ⟨_, _, if_pos enough⟩

/-- `u8`. -/
def u8 : Borsh UInt8 :=
  exact 1 (fun value => [value]) (fun bytes => bytes.headD 0)
    (fun _ => rfl) (fun _ => rfl) (by
      intro bytes single
      obtain ⟨byte, rfl⟩ := List.length_eq_one_iff.mp single
      rfl)

/-- `u64`, little-endian. -/
def u64 : Borsh UInt64 :=
  exact 8 (fun value => leBytes 8 value.toNat) (fun bytes => UInt64.ofNat (ofLeBytes bytes))
    (fun value => length_leBytes 8 value.toNat) ofNat_ofLeBytes_leBytes (by
      intro bytes eight
      have bound := ofLeBytes_lt bytes
      rw [eight] at bound
      have same : (UInt64.ofNat (ofLeBytes bytes)).toNat = ofLeBytes bytes := by
        rw [UInt64.toNat_ofNat']
        omega
      rw [same, ← eight, leBytes_ofLeBytes])

/-- A layout under another name for its values. -/
def map (layout : Borsh α) (into : α → β) (back : β → α)
    (into_back : ∀ value, into (back value) = value)
    (back_into : ∀ value, back (into value) = value) : Borsh β where
  size := layout.size
  serialize value := layout.serialize (back value)
  deserialize bytes := (layout.deserialize bytes).map fun found => (into found.1, found.2)
  width value := layout.width (back value)
  reads := by
    intro bytes value rest
    rw [← layout.reads, Option.map_eq_some_iff]
    constructor
    · rintro ⟨⟨found, left⟩, read, same⟩
      rw [Prod.mk.injEq] at same
      obtain ⟨rfl, rfl⟩ := same
      rw [back_into]
      exact read
    · intro read
      exact ⟨_, read, by rw [into_back]⟩
  total := by
    intro bytes enough
    obtain ⟨value, rest, read⟩ := layout.total bytes enough
    exact ⟨into value, rest, by rw [read]; rfl⟩

/-- `i64`: the bits of a `u64`. -/
def i64 : Borsh Int64 :=
  u64.map UInt64.toInt64 Int64.toUInt64 (fun _ => rfl) (fun _ => rfl)

/-- `[u8; n]`. -/
def array (count : Nat) : Borsh (Vector UInt8 count) :=
  exact count Vector.toList (fun bytes => Vector.ofFn fun i : Fin count => bytes.getD i 0)
    (fun value => value.length_toList) (by
      intro value
      ext i bound
      simp) (by
      intro bytes length
      apply List.ext_getElem
      · rw [Vector.length_toList, length]
      · intro i bound inside
        simp [inside])

/-- Two fields in declaration order. -/
def pair (first : Borsh α) (second : Borsh β) : Borsh (α × β) where
  size := first.size + second.size
  serialize value := first.serialize value.1 ++ second.serialize value.2
  deserialize bytes := do
    let (left, rest) ← first.deserialize bytes
    let (right, rest) ← second.deserialize rest
    return ((left, right), rest)
  width value := by rw [List.length_append, first.width, second.width]
  reads := by
    rintro bytes ⟨left, right⟩ rest
    constructor
    · intro read
      rw [Option.bind_eq_bind, Option.bind_eq_some_iff] at read
      obtain ⟨⟨foundLeft, middle⟩, readLeft, read⟩ := read
      rw [Option.bind_eq_bind, Option.bind_eq_some_iff] at read
      obtain ⟨⟨foundRight, last⟩, readRight, same⟩ := read
      cases same
      rw [(first.reads _ _ _).mp readLeft, (second.reads _ _ _).mp readRight,
        List.append_assoc]
    · rintro rfl
      rw [List.append_assoc, (first.reads _ _ _).mpr rfl]
      change ((second.deserialize (second.serialize right ++ rest)) >>= _) = _
      rw [(second.reads _ _ _).mpr rfl]
      rfl
  total := by
    intro bytes enough
    obtain ⟨left, middle, readLeft⟩ := first.total bytes (by omega)
    have lengths := congrArg List.length ((first.reads _ _ _).mp readLeft)
    rw [List.length_append, first.width] at lengths
    obtain ⟨right, rest, readRight⟩ := second.total middle (by omega)
    refine ⟨(left, right), rest, ?_⟩
    rw [readLeft]
    change (second.deserialize middle >>= _) = _
    rw [readRight]
    rfl

/-! ## Whole byte strings -/

variable (layout : Borsh α)

/-- `BorshDeserialize::try_from_slice`: read one value, and nothing may be left over. -/
def tryFromSlice (bytes : List UInt8) : Option α :=
  match layout.deserialize bytes with
  | some (value, []) => some value
  | _ => none

theorem tryFromSlice_eq_some {bytes : List UInt8} {value : α} :
    layout.tryFromSlice bytes = some value ↔ bytes = layout.serialize value := by
  have whole := layout.reads bytes value []
  rw [List.append_nil] at whole
  rw [← whole]
  unfold tryFromSlice
  split
  next found read =>
    rw [read, Option.some.injEq, Option.some.injEq, Prod.mk.injEq, and_iff_left rfl]
  next other =>
    constructor
    · intro impossible
      cases impossible
    · intro read
      exact (other value read).elim

theorem exists_tryFromSlice {bytes : List UInt8} :
    (∃ value, layout.tryFromSlice bytes = some value) ↔ bytes.length = layout.size := by
  constructor
  · rintro ⟨value, read⟩
    rw [(tryFromSlice_eq_some layout).mp read, layout.width]
  · intro length
    obtain ⟨value, rest, read⟩ := layout.total bytes (by omega)
    have split := (layout.reads _ _ _).mp read
    have lengths := congrArg List.length split
    rw [List.length_append, layout.width, length] at lengths
    have nothing : rest = [] := List.length_eq_zero_iff.mp (by omega)
    rw [nothing, List.append_nil] at split
    exact ⟨value, (tryFromSlice_eq_some layout).mpr split⟩

end Borsh
