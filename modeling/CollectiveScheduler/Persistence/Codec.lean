/-
  Persistence/Codec.lean --- the byte codec of snapshots.

  Source: `PersistenceWriter` and `PersistenceReader` of src/persistence.cpp, and
  `fnv1a64` of include/collective_scheduler/deterministic.hpp.

  A writer method is the bytes it appends.  The reader's position is what is left
  of its input; `max_` is the limit of the reader.
-/
import CollectiveScheduler.Foundation.Codec
import CollectiveScheduler.Foundation.Double
import CollectiveScheduler.Model.Request

set_option autoImplicit false

namespace CollectiveScheduler

open Foundation

/-! ## Writer -/

namespace PersistenceWriter

def u8 (v : UInt8) : List UInt8 := [v]

def u16 (v : UInt16) : List UInt8 := littleEndian 2 v.toNat

def u32 (v : UInt32) : List UInt8 := littleEndian 4 v.toNat

def u64 (v : UInt64) : List UInt8 := littleEndian 8 v.toNat

def i32 (v : Int32) : List UInt8 := u32 v.toUInt32

/-- `f64`: the bit pattern of the double. -/
def f64 {D : Type} [Double D] (v : D) : List UInt8 := u64 (Double.toBits v)

def bool (b : Bool) : List UInt8 := u8 (if b then 1 else 0)

/-- `id` on an identity. -/
def ident {d : IdDomain} (v : Id d) : List UInt8 := u64 v.value

/-- `id` on a generation. -/
def gen {d : GenDomain} (v : Gen d) : List UInt8 := u64 v.value

/-- A size and the elements. -/
def vec {α : Type} (write : α → List UInt8) (l : List α) : List UInt8 :=
  u64 (UInt64.ofNat l.length) ++ (l.map write).flatten

/-- `str`. -/
def str (s : ByteString) : List UInt8 := u64 (UInt64.ofNat s.val.length) ++ s.val

/-- A flag byte and the value, if there is one. -/
def opt {α : Type} (write : α → List UInt8) : Option α → List UInt8
  | none => bool false
  | some a => bool true ++ write a

end PersistenceWriter

/-! ## Reader -/

namespace PersistenceReader

/-- A reader that throws. -/
abbrev Read (α : Type) := Reader SchedulerError α

/-- `need(n)` and the bytes it guarantees. -/
def need (n : Nat) : Read (List UInt8) :=
  Reader.chunk (throwMalformed "persistence read exceeds max size")
    (throwMalformed "persistence truncation") n

/-- A little-endian number of `width` bytes. -/
def number (width : Nat) : Read Nat := do
  let bytes ← need width
  return ofLittleEndian bytes

def u8 : Read UInt8 := do return UInt8.ofNat (← number 1)

def u16 : Read UInt16 := do return UInt16.ofNat (← number 2)

def u32 : Read UInt32 := do return UInt32.ofNat (← number 4)

def u64 : Read UInt64 := do return UInt64.ofNat (← number 8)

def i32 : Read Int32 := do return (← u32).toInt32

/-- `f64`: the double with the bit pattern read. -/
def f64 {D : Type} [Double D] : Read D := do return Double.ofBits (← u64)

/-- `r.u8() != 0`. -/
def bool : Read Bool := do return (← u8) != 0

/-- `id` for an identity. -/
def ident {d : IdDomain} : Read (Id d) := do return ⟨← u64⟩

/-- `id` for a generation. -/
def gen {d : GenDomain} : Read (Gen d) := do return ⟨← u64⟩

/-- A size and that many elements. -/
def vec {α : Type} (r : Read α) : Read (List α) := do
  let n ← u64
  r.times n.toNat

/-- `str`. -/
def str : Read ByteString := do
  let n ← u64
  let max ← Reader.limit
  if n.toNat > max then Reader.fail (throwMalformed "persistence string exceeds max")
  else return Sized.ofList (← need n.toNat)

/-- A flag byte and the value, if the flag is set. -/
def opt {α : Type} (r : Read α) : Read (Option α) := do
  if ← bool then return some (← r) else return none

end PersistenceReader

/-! ## Reading back what was written -/

section RoundTrip

open PersistenceReader Reader

theorem decodes_number (width : Nat) {n : Nat} (h : n < 256 ^ width) :
    Decodes (number width) (littleEndian width n) n := by
  have hchunk := Decodes.chunk (throwMalformed "persistence read exceeds max size")
    (throwMalformed "persistence truncation") (littleEndian width n)
  rw [length_littleEndian] at hchunk
  have hnumber := Decodes.map (g := ofLittleEndian) hchunk
  rwa [ofLittleEndian_littleEndian h] at hnumber

theorem decodes_u8 (v : UInt8) : Decodes u8 (PersistenceWriter.u8 v) v := by
  have hread := (decodes_number 1 v.toNat_lt).map (g := UInt8.ofNat)
  rw [UInt8.ofNat_toNat] at hread
  have hbytes : littleEndian 1 v.toNat = PersistenceWriter.u8 v := by
    rw [littleEndian, littleEndian, UInt8.ofNat_toNat]
    rfl
  rwa [hbytes] at hread

theorem decodes_u16 (v : UInt16) : Decodes u16 (PersistenceWriter.u16 v) v := by
  have hread := (decodes_number 2 v.toNat_lt).map (g := UInt16.ofNat)
  rwa [UInt16.ofNat_toNat] at hread

theorem decodes_u32 (v : UInt32) : Decodes u32 (PersistenceWriter.u32 v) v := by
  have hread := (decodes_number 4 v.toNat_lt).map (g := UInt32.ofNat)
  rwa [UInt32.ofNat_toNat] at hread

theorem decodes_u64 (v : UInt64) : Decodes u64 (PersistenceWriter.u64 v) v := by
  have hread := (decodes_number 8 v.toNat_lt).map (g := UInt64.ofNat)
  rwa [UInt64.ofNat_toNat] at hread

theorem decodes_i32 (v : Int32) : Decodes i32 (PersistenceWriter.i32 v) v :=
  (decodes_u32 v.toUInt32).map

theorem decodes_f64 {D : Type} [Double D] (v : D) :
    Decodes f64 (PersistenceWriter.f64 v) (Double.ofBits (Double.toBits v) : D) :=
  (decodes_u64 (Double.toBits v)).map

theorem decodes_bool (b : Bool) : Decodes bool (PersistenceWriter.bool b) b := by
  have hread := (decodes_u8 (if b then 1 else 0)).map (g := fun v => v != 0)
  have hflag : ((if b then 1 else 0 : UInt8) != 0) = b := by cases b <;> rfl
  rwa [hflag] at hread

theorem decodes_ident {d : IdDomain} (v : Id d) : Decodes ident (PersistenceWriter.ident v) v :=
  (decodes_u64 v.value).map

theorem decodes_gen {d : GenDomain} (v : Gen d) : Decodes gen (PersistenceWriter.gen v) v :=
  (decodes_u64 v.value).map

theorem toNat_size {n : Nat} (h : n < 2 ^ 64) : (UInt64.ofNat n).toNat = n :=
  UInt64.toNat_ofNat_of_lt h

theorem decodes_vec {α β : Type} {write : α → List UInt8} {r : Read β} {value : α → β}
    {l : List α} (hsize : l.length < 2 ^ 64)
    (h : ∀ a ∈ l, Decodes r (write a) (value a)) :
    Decodes (vec r) (PersistenceWriter.vec write l) (l.map value) := by
  refine (decodes_u64 _).bind ?_
  rw [toNat_size hsize]
  exact Decodes.times l h

theorem decodes_str (s : ByteString) : Decodes str (PersistenceWriter.str s) s := by
  have hsize := toNat_size s.property
  refine (decodes_u64 _).bind ?_
  intro limit rest hlimit
  have hneed := Decodes.chunk (throwMalformed "persistence read exceeds max size")
    (throwMalformed "persistence truncation") s.val limit rest hlimit
  have hfits : ¬(UInt64.ofNat s.val.length).toNat > limit := by
    rw [hsize]
    exact Nat.not_lt.mpr hlimit
  change (if (UInt64.ofNat s.val.length).toNat > limit then
      Reader.fail (throwMalformed "persistence string exceeds max")
    else Reader.bind (need (UInt64.ofNat s.val.length).toNat)
      (fun bytes => Reader.pure (Sized.ofList bytes))) limit (s.val ++ rest) = .ok (s, rest)
  rw [if_neg hfits, hsize, Reader.bind, need, hneed]
  exact congrArg (fun v => Except.ok (v, rest)) (Sized.ofList_val s.property)

theorem decodes_opt {α : Type} {write : α → List UInt8} {r : Read α} {o : Option α}
    (h : ∀ a ∈ o, Decodes r (write a) a) :
    Decodes (opt r) (PersistenceWriter.opt write o) o := by
  cases o with
  | none =>
      have hflag := (decodes_bool false).bind (f := fun flag =>
        if flag then r >>= fun a => Pure.pure (some a) else Pure.pure none) (Decodes.pure none)
      rwa [List.append_nil] at hflag
  | some a => exact (decodes_bool true).bind (h a rfl).map

end RoundTrip

/-! ## Checksum -/

/-- `fnv1a64`. -/
def fnv1a64 (data : List UInt8) (seed : UInt64) : UInt64 :=
  data.foldl (fun h b => (h ^^^ b.toUInt64) * 0x100000001b3) (seed ^^^ 0x9e3779b97f4a7c15)

end CollectiveScheduler
