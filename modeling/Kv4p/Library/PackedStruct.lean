import Mathlib.Algebra.Order.Ring.Int
import Mathlib.Data.Nat.ModEq
import Mathlib.Tactic.NormNum
import Mathlib.Tactic.Ring

/-! Packed little-endian records: a layout is a list of format codes, a record is the tuple of
their values, and packing fails at the first value outside its field. -/
namespace PackedStruct

def leBytes : ℕ → ℕ → List UInt8
  | 0, _ => []
  | width+1, n => UInt8.ofNat n :: leBytes width (n/256)

def leNat : List UInt8 → ℕ
  | [] => 0
  | b :: bs => b.toNat+256*leNat bs

@[simp] theorem leBytes_length (width n : ℕ) : (leBytes width n).length = width := by
  induction width generalizing n with
  | zero => rfl
  | succ width ih => rw [leBytes, List.length_cons, ih]

/-- Reading back keeps the low `width` bytes. -/
theorem leNat_leBytes (width n : ℕ) : leNat (leBytes width n) = n%256^width := by
  induction width generalizing n with
  | zero => simp only [leBytes, leNat, pow_zero, Nat.mod_one]
  | succ width ih =>
    have hb : (UInt8.ofNat n).toNat = n%256 := by simp
    rw [leBytes, leNat, ih, hb, pow_succ', Nat.mod_mul]

/-- Writing at the width that was read gives the bytes back. -/
theorem leBytes_leNat (bs : List UInt8) : leBytes bs.length (leNat bs) = bs := by
  induction bs with
  | nil => rfl
  | cons b bs ih =>
    have hb : b.toNat < 256 := b.toNat_lt
    have hlow : UInt8.ofNat (b.toNat+256*leNat bs) = b := by
      apply UInt8.toNat_inj.mp
      rw [UInt8.toNat_ofNat']
      omega
    have hhigh : (b.toNat+256*leNat bs)/256 = leNat bs := by omega
    rw [List.length_cons, leBytes, leNat, hlow, hhigh, ih]

theorem leNat_lt (bs : List UInt8) : leNat bs < 256^bs.length := by
  induction bs with
  | nil => simp only [leNat, List.length_nil, pow_zero, Nat.lt_one_iff]
  | cons b bs ih =>
    have hb : b.toNat < 256 := b.toNat_lt
    rw [leNat, List.length_cons, pow_succ]
    omega

/-- Floats as far as a four-byte field needs them. `toBits` has no value where the float is too
large for the field. -/
class WireFloat (F : Type) where
  toBits : F → Option (BitVec 32)
  ofBits : BitVec 32 → F

inductive PackError
  | outOfRange
  | floatOverflow
deriving DecidableEq, Repr

inductive Code
  | u8
  | u16
  | u32
  | i32
  | f32
  | char
deriving DecidableEq, Repr

variable {F : Type}

namespace Code

/-- Integer fields take any integer: the range is checked when they are packed. -/
@[reducible] def Val (F : Type) : Code → Type
  | u8 => ℤ
  | u16 => ℤ
  | u32 => ℤ
  | i32 => ℤ
  | f32 => F
  | char => UInt8

def size : Code → ℕ
  | u8 => 1
  | u16 => 2
  | u32 => 4
  | i32 => 4
  | f32 => 4
  | char => 1

/-- The integers of an unsigned field of `width` bytes. -/
def FitsUnsigned (width : ℕ) (z : ℤ) : Prop := 0 ≤ z ∧ z < 256^width

/-- The integers of a four-byte two's complement field. -/
def FitsSigned (z : ℤ) : Prop := -2147483648 ≤ z ∧ z < 2147483648

/-- The test runs on natural numbers: subtracting a large bound from a variable integer is slow to
evaluate. -/
instance (width : ℕ) (z : ℤ) : Decidable (FitsUnsigned width z) :=
  decidable_of_iff (0 ≤ z ∧ z.toNat < 256^width) (by
    have hcast : ((256^width : ℕ) : ℤ) = 256^width := by push_cast; rfl
    rw [FitsUnsigned, ← hcast]
    omega)

instance (z : ℤ) : Decidable (FitsSigned z) := inferInstanceAs (Decidable (_ ∧ _))

def packUnsigned (width : ℕ) (z : ℤ) : Except PackError (List UInt8) :=
  if FitsUnsigned width z then .ok (leBytes width z.toNat) else .error .outOfRange

def packSigned (z : ℤ) : Except PackError (List UInt8) :=
  if FitsSigned z then .ok (leBytes 4 (z%4294967296).toNat) else .error .outOfRange

def signedOf (n : ℕ) : ℤ := if n < 2147483648 then n else (n : ℤ)-4294967296

def encode [WireFloat F] : (c : Code) → c.Val F → Except PackError (List UInt8)
  | u8, z => packUnsigned 1 z
  | u16, z => packUnsigned 2 z
  | u32, z => packUnsigned 4 z
  | i32, z => packSigned z
  | f32, x =>
    match WireFloat.toBits x with
    | some bits => .ok (leBytes 4 bits.toNat)
    | none => .error .floatOverflow
  | char, b => .ok [b]

/-- The value of a field, given exactly its bytes. -/
def decode [WireFloat F] : (c : Code) → List UInt8 → c.Val F
  | u8, bs => (leNat bs : ℤ)
  | u16, bs => (leNat bs : ℤ)
  | u32, bs => (leNat bs : ℤ)
  | i32, bs => signedOf (leNat bs)
  | f32, bs => WireFloat.ofBits (BitVec.ofNat 32 (leNat bs))
  | char, bs => bs.headD 0

/-- The values a field can hold. -/
def Fits [WireFloat F] : (c : Code) → c.Val F → Prop
  | u8, z => FitsUnsigned 1 z
  | u16, z => FitsUnsigned 2 z
  | u32, z => FitsUnsigned 4 z
  | i32, z => FitsSigned z
  | f32, x => (WireFloat.toBits x).isSome
  | char, _ => True

/-- What a field reads back after it was packed: a float comes back at the precision of the
field, everything else as it was. -/
def canon [WireFloat F] : (c : Code) → c.Val F → c.Val F
  | f32, x =>
    match WireFloat.toBits x with
    | some bits => WireFloat.ofBits bits
    | none => x
  | u8, z => z
  | u16, z => z
  | u32, z => z
  | i32, z => z
  | char, b => b

theorem packUnsigned_eq_ok {width : ℕ} {z : ℤ} {bs : List UInt8} :
    packUnsigned width z = .ok bs ↔ FitsUnsigned width z ∧ bs = leBytes width z.toNat := by
  unfold packUnsigned
  split
  · rename_i h
    simp only [Except.ok.injEq, h, true_and, eq_comm]
  · rename_i h
    simp only [h, false_and, reduceCtorEq]

theorem packSigned_eq_ok {z : ℤ} {bs : List UInt8} :
    packSigned z = .ok bs ↔ FitsSigned z ∧ bs = leBytes 4 (z%4294967296).toNat := by
  unfold packSigned
  split
  · rename_i h
    simp only [Except.ok.injEq, h, true_and, eq_comm]
  · rename_i h
    simp only [h, false_and, reduceCtorEq]

theorem leNat_packUnsigned {width : ℕ} {z : ℤ} (h : FitsUnsigned width z) :
    (leNat (leBytes width z.toNat) : ℤ) = z := by
  have hz : z.toNat < 256^width := by
    have : (z.toNat : ℤ) < ((256^width : ℕ) : ℤ) := by
      rw [Int.toNat_of_nonneg h.1]
      exact_mod_cast h.2
    exact_mod_cast this
  rw [leNat_leBytes, Nat.mod_eq_of_lt hz, Int.toNat_of_nonneg h.1]

theorem signedOf_packSigned {z : ℤ} (h : FitsSigned z) :
    signedOf (leNat (leBytes 4 (z%4294967296).toNat)) = z := by
  obtain ⟨hlo, hhi⟩ := h
  rw [leNat_leBytes, Nat.mod_eq_of_lt (by omega), signedOf]
  split <;> omega

theorem fitsUnsigned_of_lt {width n : ℕ} (h : n < 256^width) : FitsUnsigned width n :=
  ⟨by omega, by exact_mod_cast h⟩

theorem fitsSigned_signedOf {n : ℕ} (h : n < 256^4) : FitsSigned (signedOf n) := by
  unfold FitsSigned signedOf
  split <;> omega

variable [WireFloat F]

theorem encode_length {c : Code} {v : c.Val F} {bs : List UInt8} (h : c.encode v = .ok bs) :
    bs.length = c.size := by
  cases c with
  | u8 | u16 | u32 => simp [(packUnsigned_eq_ok.mp h).2, size]
  | i32 => simp [(packSigned_eq_ok.mp h).2, size]
  | f32 =>
    simp only [encode] at h
    split at h
    · cases h
      simp [size]
    · cases h
  | char =>
    cases h
    rfl

/-- A packed field reads back its value. -/
theorem decode_encode {c : Code} {v : c.Val F} {bs : List UInt8} (h : c.encode v = .ok bs) :
    c.decode bs = c.canon v := by
  cases c with
  | u8 | u16 | u32 =>
    obtain ⟨hz, rfl⟩ := packUnsigned_eq_ok.mp h
    exact leNat_packUnsigned hz
  | i32 =>
    obtain ⟨hz, rfl⟩ := packSigned_eq_ok.mp h
    exact signedOf_packSigned hz
  | f32 =>
    simp only [encode] at h
    split at h
    · rename_i bits hbits
      cases h
      have hn : leNat (leBytes 4 bits.toNat) = bits.toNat := by
        rw [leNat_leBytes, Nat.mod_eq_of_lt (by have := bits.isLt; omega)]
      simp only [decode, canon, hn, hbits, BitVec.ofNat_toNat, BitVec.setWidth_eq]
    · cases h
  | char =>
    cases h
    rfl

/-- A field packs exactly the values it can hold. -/
theorem encode_isOk_iff {c : Code} {v : c.Val F} : (∃ bs, c.encode v = .ok bs) ↔ c.Fits v := by
  cases c with
  | u8 | u16 | u32 => simp [encode, packUnsigned_eq_ok, Fits]
  | i32 => simp [encode, packSigned_eq_ok, Fits]
  | f32 =>
    simp only [encode, Fits]
    cases WireFloat.toBits v <;> simp
  | char => simp [encode, Fits]

/-- Bytes of the right length decode to a value the field can hold. -/
theorem decode_fits {c : Code} {bs : List UInt8} (hl : bs.length = c.size)
    (hf : ∀ b : BitVec 32, (WireFloat.toBits (WireFloat.ofBits b : F)).isSome) :
    c.Fits (c.decode bs : c.Val F) := by
  have hlt := leNat_lt bs
  rw [hl] at hlt
  cases c with
  | u8 | u16 | u32 => exact fitsUnsigned_of_lt hlt
  | i32 => exact fitsSigned_signedOf hlt
  | f32 => exact hf _
  | char => trivial

/-- The bits of a float field. -/
def floatBits : Code → List UInt8 → List (BitVec 32)
  | f32, bs => [BitVec.ofNat 32 (leNat bs)]
  | u8, _ => []
  | u16, _ => []
  | u32, _ => []
  | i32, _ => []
  | char, _ => []

theorem packUnsigned_leNat (bs : List UInt8) : packUnsigned bs.length (leNat bs) = .ok bs := by
  have hbytes : bs = leBytes bs.length (leNat bs : ℤ).toNat := by
    rw [Int.toNat_natCast, leBytes_leNat]
  exact packUnsigned_eq_ok.mpr ⟨fitsUnsigned_of_lt (leNat_lt bs), hbytes⟩

theorem packSigned_leNat {bs : List UInt8} (hl : bs.length = 4) :
    packSigned (signedOf (leNat bs)) = .ok bs := by
  have hlt := leNat_lt bs
  rw [hl] at hlt
  have hn : (signedOf (leNat bs)%4294967296).toNat = leNat bs := by
    unfold signedOf
    split <;> omega
  have hbytes : bs = leBytes 4 (signedOf (leNat bs)%4294967296).toNat := by
    rw [hn, ← hl, leBytes_leNat]
  exact packSigned_eq_ok.mpr ⟨fitsSigned_signedOf hlt, hbytes⟩

/-- A field that was read packs to its bytes; a float field does if its bits survive as a float. -/
theorem encode_decode {c : Code} {bs : List UInt8} (hl : bs.length = c.size)
    (hf : ∀ bits ∈ c.floatBits bs, WireFloat.toBits (WireFloat.ofBits bits : F) = some bits) :
    c.encode (c.decode bs : c.Val F) = .ok bs := by
  cases c with
  | u8 | u16 | u32 =>
    have h := packUnsigned_leNat bs
    rw [hl] at h
    exact h
  | i32 => exact packSigned_leNat hl
  | f32 =>
    have hlt := leNat_lt bs
    rw [hl] at hlt
    have hbits := hf _ (List.mem_singleton_self _)
    have hn : (BitVec.ofNat 32 (leNat bs)).toNat = leNat bs := by
      rw [BitVec.toNat_ofNat]
      exact Nat.mod_eq_of_lt hlt
    have hsize : bs.length = 4 := hl
    simp only [encode, decode, hbits]
    rw [hn, ← hsize, leBytes_leNat]
  | char =>
    obtain ⟨b, rfl⟩ := List.length_eq_one_iff.mp hl
    rfl

end Code

variable [WireFloat F]

/-- The record type of a layout. -/
@[reducible] def Record (F : Type) : List Code → Type
  | [] => Unit
  | c :: cs => c.Val F × Record F cs

def layoutSize (l : List Code) : ℕ := (l.map Code.size).sum

def pack : (l : List Code) → Record F l → Except PackError (List UInt8)
  | [], _ => .ok []
  | c :: cs, (v, vs) => do
    let bs ← c.encode v
    let rest ← pack cs vs
    pure (bs++rest)

/-- Read a record off the front of a byte string. -/
def read : (l : List Code) → List UInt8 → Option (Record F l × List UInt8)
  | [], bs => some ((), bs)
  | c :: cs, bs =>
    if bs.length < c.size then none
    else do
      let (vs, rest) ← read cs (bs.drop c.size)
      pure ((c.decode (bs.take c.size), vs), rest)

/-- The record of a byte string of exactly the layout's size. -/
def unpack (l : List Code) (bs : List UInt8) : Option (Record F l) :=
  match read l bs with
  | some (v, []) => some v
  | _ => none

def Fits : (l : List Code) → Record F l → Prop
  | [], _ => True
  | c :: cs, (v, vs) => c.Fits v ∧ Fits cs vs

def canon : (l : List Code) → Record F l → Record F l
  | [], u => u
  | c :: cs, (v, vs) => (c.canon v, canon cs vs)

theorem pack_cons_eq_ok {c : Code} {cs : List Code} {v : c.Val F} {vs : Record F cs}
    {bs : List UInt8} :
    pack (c :: cs) (v, vs) = .ok bs ↔
      ∃ b rest, c.encode v = .ok b ∧ pack cs vs = .ok rest ∧ bs = b++rest := by
  simp only [pack]
  cases hb : c.encode v with
  | error e => simp [bind, Except.bind]
  | ok b =>
    cases hr : pack cs vs with
    | error e => simp [bind, Except.bind]
    | ok rest => simp [bind, Except.bind, pure, Except.pure, eq_comm]

theorem pack_length {l : List Code} {v : Record F l} {bs : List UInt8} (h : pack l v = .ok bs) :
    bs.length = layoutSize l := by
  induction l generalizing bs with
  | nil => cases h; rfl
  | cons c cs ih =>
    obtain ⟨v, vs⟩ := v
    obtain ⟨b, rest, hb, hr, rfl⟩ := pack_cons_eq_ok.mp h
    rw [List.length_append, Code.encode_length hb, ih hr]
    simp [layoutSize]

/-- A packed record reads back, whatever follows it. -/
theorem read_pack {l : List Code} {v : Record F l} {bs : List UInt8} (h : pack l v = .ok bs)
    (tail : List UInt8) : read l (bs++tail) = some (canon l v, tail) := by
  induction l generalizing bs with
  | nil => cases h; rfl
  | cons c cs ih =>
    obtain ⟨v, vs⟩ := v
    obtain ⟨b, rest, hb, hr, rfl⟩ := pack_cons_eq_ok.mp h
    have hl := Code.encode_length hb
    have hn : ¬ (b++rest++tail).length < c.size := by
      simp only [List.length_append]
      omega
    rw [List.append_assoc] at hn ⊢
    rw [read, if_neg hn, ← hl, List.drop_left, List.take_left, ih hr]
    simp only [canon, Code.decode_encode hb, Option.bind_eq_bind, Option.bind_some, pure]

theorem unpack_pack {l : List Code} {v : Record F l} {bs : List UInt8} (h : pack l v = .ok bs) :
    unpack l bs = some (canon l v) := by
  have hr := read_pack h []
  rw [List.append_nil] at hr
  simp only [unpack, hr]

/-- A record packs exactly when every field does. -/
theorem pack_isOk_iff {l : List Code} {v : Record F l} :
    (∃ bs, pack l v = .ok bs) ↔ Fits l v := by
  induction l with
  | nil => simp [pack, Fits]
  | cons c cs ih =>
    obtain ⟨v, vs⟩ := v
    simp only [Fits, ← ih, ← Code.encode_isOk_iff]
    constructor
    · rintro ⟨bs, h⟩
      obtain ⟨b, rest, hb, hr, _⟩ := pack_cons_eq_ok.mp h
      exact ⟨⟨b, hb⟩, ⟨rest, hr⟩⟩
    · rintro ⟨⟨b, hb⟩, ⟨rest, hr⟩⟩
      exact ⟨b++rest, pack_cons_eq_ok.mpr ⟨b, rest, hb, hr, rfl⟩⟩

/-- Unsigned fields hold no negative value. -/
def Code.Nonneg : (c : Code) → c.Val F → Prop
  | u8, z => 0 ≤ z
  | u16, z => 0 ≤ z
  | u32, z => 0 ≤ z
  | i32, _ => True
  | f32, _ => True
  | char, _ => True

theorem Code.decode_nonneg (c : Code) (bs : List UInt8) : c.Nonneg (c.decode bs : c.Val F) := by
  cases c with
  | u8 | u16 | u32 => exact Int.natCast_nonneg _
  | i32 | f32 | char => trivial

/-- Every field satisfies `Q`. -/
def All (Q : (c : Code) → c.Val F → Prop) : (l : List Code) → Record F l → Prop
  | [], _ => True
  | c :: cs, (v, vs) => Q c v ∧ All Q cs vs

theorem fits_iff_all {l : List Code} {v : Record F l} : Fits l v ↔ All Code.Fits l v := by
  induction l with
  | nil => exact Iff.rfl
  | cons c cs ih =>
    obtain ⟨v, vs⟩ := v
    exact and_congr_right fun _ => ih

theorem read_cons_eq_some {c : Code} {cs : List Code} {bs rest : List UInt8} {v : c.Val F}
    {vs : Record F cs} :
    read (c :: cs) bs = some ((v, vs), rest) ↔
      c.size ≤ bs.length ∧ v = c.decode (bs.take c.size) ∧
        read cs (bs.drop c.size) = some (vs, rest) := by
  rw [read]
  split
  · rename_i h
    simp [not_le.mpr h]
  · rename_i h
    have hle : c.size ≤ bs.length := not_lt.mp h
    cases read (F := F) cs (bs.drop c.size) with
    | none => simp
    | some p => simp [hle, Prod.ext_iff, eq_comm, and_assoc]

/-- What decoded values satisfy, every field of a record that was read satisfies. -/
theorem all_of_read {Q : (c : Code) → c.Val F → Prop}
    (hQ : ∀ c bs, bs.length = c.size → Q c (c.decode bs)) {l : List Code} {bs rest : List UInt8}
    {v : Record F l} (h : read l bs = some (v, rest)) : All Q l v := by
  induction l generalizing bs with
  | nil => trivial
  | cons c cs ih =>
    obtain ⟨v, vs⟩ := v
    obtain ⟨hle, rfl, hrest⟩ := read_cons_eq_some.mp h
    refine ⟨hQ c _ ?_, ih hrest⟩
    rw [List.length_take]
    exact min_eq_left hle

/-- A byte string of the layout's size is read to its end. -/
theorem read_of_length {l : List Code} {bs : List UInt8} (h : bs.length = layoutSize l) :
    ∃ v : Record F l, read l bs = some (v, []) := by
  induction l generalizing bs with
  | nil =>
    have hnil : bs = [] := List.length_eq_zero_iff.mp h
    exact ⟨(), by rw [hnil, read]⟩
  | cons c cs ih =>
    have hsz : bs.length = c.size+layoutSize cs := by simpa [layoutSize] using h
    have hdrop : (bs.drop c.size).length = layoutSize cs := by
      rw [List.length_drop]
      omega
    obtain ⟨vs, hvs⟩ := ih hdrop
    exact ⟨(c.decode (bs.take c.size), vs), read_cons_eq_some.mpr ⟨by omega, rfl, hvs⟩⟩

/-- The values at the front of a byte string. -/
def decodeAll : (l : List Code) → List UInt8 → Record F l
  | [], _ => ()
  | c :: cs, bs => (c.decode (bs.take c.size), decodeAll cs (bs.drop c.size))

theorem eq_decodeAll_of_read {l : List Code} {bs rest : List UInt8} {v : Record F l}
    (h : read l bs = some (v, rest)) : v = decodeAll l bs := by
  induction l generalizing bs with
  | nil => rfl
  | cons c cs ih =>
    obtain ⟨v, vs⟩ := v
    obtain ⟨_, rfl, hrest⟩ := read_cons_eq_some.mp h
    rw [decodeAll, ih hrest]

/-- The bits of the float fields, in order. -/
def floatFields : List Code → List UInt8 → List (BitVec 32)
  | [], _ => []
  | c :: cs, bs => c.floatBits (bs.take c.size)++floatFields cs (bs.drop c.size)

/-- A record that was read to the end packs to the bytes it was read from. -/
theorem pack_of_read {l : List Code} {bs : List UInt8} {v : Record F l}
    (h : read l bs = some (v, []))
    (hf : ∀ bits ∈ floatFields l bs, WireFloat.toBits (WireFloat.ofBits bits : F) = some bits) :
    pack l v = .ok bs := by
  induction l generalizing bs with
  | nil =>
    have hnil : bs = [] := congrArg Prod.snd (Option.some.inj h)
    rw [hnil, pack]
  | cons c cs ih =>
    obtain ⟨v, vs⟩ := v
    obtain ⟨hle, rfl, hrest⟩ := read_cons_eq_some.mp h
    have hsize : (bs.take c.size).length = c.size := by
      rw [List.length_take]
      exact min_eq_left hle
    have hfirst := Code.encode_decode (F := F) hsize fun bits hb =>
      hf bits (List.mem_append_left _ hb)
    have hothers := ih hrest fun bits hb => hf bits (List.mem_append_right _ hb)
    exact pack_cons_eq_ok.mpr ⟨_, _, hfirst, hothers, (List.take_append_drop c.size bs).symm⟩

theorem unpack_eq_some {l : List Code} {bs : List UInt8} {v : Record F l} :
    unpack l bs = some v ↔ read l bs = some (v, []) := by
  unfold unpack
  split
  · rename_i u hu
    simp [hu]
  · rename_i hne
    simp only [reduceCtorEq, false_iff]
    exact hne v

theorem length_of_read {l : List Code} {bs rest : List UInt8} {v : Record F l}
    (h : read l bs = some (v, rest)) : bs.length = layoutSize l+rest.length := by
  induction l generalizing bs with
  | nil =>
    cases h
    exact (Nat.zero_add _).symm
  | cons c cs ih =>
    obtain ⟨v, vs⟩ := v
    obtain ⟨hsize, _, hrest⟩ := read_cons_eq_some.mp h
    have hdrop := ih hrest
    rw [List.length_drop] at hdrop
    have hsum : layoutSize (c :: cs) = c.size+layoutSize cs := List.sum_cons
    omega

theorem length_of_unpack {l : List Code} {bs : List UInt8} {v : Record F l}
    (h : unpack l bs = some v) : bs.length = layoutSize l :=
  length_of_read (unpack_eq_some.mp h)

/-- A byte string of the layout's size always unpacks, to a record that fits. -/
theorem unpack_of_length {l : List Code} {bs : List UInt8} (h : bs.length = layoutSize l)
    (hf : ∀ b : BitVec 32, (WireFloat.toBits (WireFloat.ofBits b : F)).isSome) :
    ∃ v : Record F l, unpack l bs = some v ∧ Fits l v := by
  obtain ⟨v, hv⟩ := read_of_length (F := F) h
  have hfit : All Code.Fits l v := all_of_read (fun c bs hl => Code.decode_fits hl hf) hv
  exact ⟨v, unpack_eq_some.mpr hv, fits_iff_all.mpr hfit⟩

def Record.append : {l : List Code} → Record F l → {k : List Code} → Record F k → Record F (l++k)
  | [], _, _, w => w
  | _ :: _, (v, vs), _, w => (v, Record.append vs w)

/-- A layout followed by another reads the one record after the other. -/
theorem read_append {l k : List Code} {bs mid rest : List UInt8} {v : Record F l} {w : Record F k}
    (hv : read l bs = some (v, mid)) (hw : read k mid = some (w, rest)) :
    read (l++k) bs = some (v.append w, rest) := by
  induction l generalizing bs with
  | nil =>
    cases hv
    exact hw
  | cons c cs ih =>
    obtain ⟨v, vs⟩ := v
    obtain ⟨hle, rfl, hrest⟩ := read_cons_eq_some.mp hv
    exact read_cons_eq_some.mpr ⟨hle, rfl, ih hrest⟩

end PackedStruct
