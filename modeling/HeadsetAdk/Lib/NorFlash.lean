import Mathlib.Data.List.Basic
import Mathlib.Data.UInt

/-!
# NOR flash

Programming combines the written byte with the stored one by bitwise and; erasing sets it to
`0xFF`.  A device keeps its operations, of which a power cut leaves a prefix.
-/

namespace HeadsetAdk.NorFlash

abbrev Cells := Nat → UInt8

/-- One atomic operation.  The source of a program operation is read as from a
pointer, by the distance from its start. -/
inductive Op
  | program (offset length : Nat) (data : Nat → UInt8)
  | erase (offset length : Nat)

def Op.apply : Op → Cells → Cells
  | .program offset length data, cells => fun address =>
      if offset ≤ address ∧ address < offset + length then
        cells address &&& data (address - offset)
      else cells address
  | .erase offset length, cells => fun address =>
      if offset ≤ address ∧ address < offset + length then 0xFF
      else cells address

def replay (ops : List Op) (cells : Cells) : Cells :=
  ops.foldl (fun cells op => op.apply cells) cells

structure Device where
  cells : Cells
  issued : List Op

namespace Device

def observe (cells : Cells) : Device := ⟨cells, []⟩

def issue (device : Device) (op : Op) : Device :=
  ⟨op.apply device.cells, device.issued ++ [op]⟩

def program (device : Device) (offset length : Nat) (data : Nat → UInt8) : Device :=
  device.issue (.program offset length data)

def erase (device : Device) (offset length : Nat) : Device :=
  device.issue (.erase offset length)

def read (device : Device) (offset length : Nat) : List UInt8 :=
  (List.range length).map fun index => device.cells (offset + index)

/-- The contents after a power cut that let `count` operations through. -/
def cutAfter (device : Device) (start : Cells) (count : Nat) : Cells :=
  replay (device.issued.take count) start

end Device

@[simp] theorem and_ones (byte : UInt8) : byte &&& 0xFF = byte :=
  UInt8.and_neg_one

@[simp] theorem ones_and (byte : UInt8) : 0xFF &&& byte = byte :=
  (UInt8.and_comm 0xFF byte).trans (and_ones byte)

section Apply

variable {offset length address : Nat} {cells : Cells} {data : Nat → UInt8}

theorem program_apply_inside (lower : offset ≤ address) (upper : address < offset + length) :
    (Op.program offset length data).apply cells address =
      cells address &&& data (address - offset) :=
  if_pos ⟨lower, upper⟩

theorem program_apply_outside (outside : address < offset ∨ offset + length ≤ address) :
    (Op.program offset length data).apply cells address = cells address :=
  if_neg (by omega)

theorem erase_apply_inside (lower : offset ≤ address) (upper : address < offset + length) :
    (Op.erase offset length).apply cells address = 0xFF :=
  if_pos ⟨lower, upper⟩

theorem erase_apply_outside (outside : address < offset ∨ offset + length ≤ address) :
    (Op.erase offset length).apply cells address = cells address :=
  if_neg (by omega)

end Apply

end HeadsetAdk.NorFlash
