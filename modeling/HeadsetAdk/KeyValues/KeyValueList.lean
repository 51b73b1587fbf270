import HeadsetAdk.Lib.CellArray

/-!
# The key-value list

`key_value_list.c`: values of one, two and four bytes live in packed arrays that share one array of
keys, others in a linked list.  The callback for additions is called on a list that is already
complete and is left out.
-/

namespace HeadsetAdk.KeyValues

open CellArray

abbrev Key := UInt16

abbrev Cell (size : Nat) := { bytes : List UInt8 // bytes.length = size }

/-- `large_kv_element_t` -/
structure LargeElement where
  len : Nat
  key : Key
  data : List UInt8
  deriving DecidableEq, Repr

/-- `struct key_value_list_tag`.  The lengths are `uint8`. -/
structure KeyValueList where
  lenKeys : Nat
  len8 : Nat
  len16 : Nat
  len32 : Nat
  keys : List Key
  values8 : List (Cell 1)
  values16 : List (Cell 2)
  values32 : List (Cell 4)
  head : List LargeElement
  deriving DecidableEq, Repr

/-- What unwritten heap cells happen to hold. -/
structure Unknown where
  key : Key
  value8 : Cell 1
  value16 : Cell 2
  value32 : Cell 4

def create : KeyValueList := ⟨0, 0, 0, 0, [], [], [], [], []⟩

namespace KeyValueList

variable (unknown : Unknown)

/-- The second half of `keyValueList_addKeyValuePair`. -/
def insertKey (list : KeyValueList) (key : Key) (keyIndex : Nat) : KeyValueList :=
  let newLen := list.lenKeys + 1
  let keys := realloc unknown.key list.keys newLen
  let moved := memmove unknown.key keys (keyIndex + 1) keyIndex (list.lenKeys - keyIndex)
  { list with
    keys := moved.set keyIndex key
    lenKeys := newLen % 256 }

/-- `keyValueList_addKeyValuePair`.  The length of a large element is a `uint16`. -/
def addKeyValuePair (list : KeyValueList) (key : Key) (value : List UInt8) : KeyValueList :=
  if size : value.length = 1 then
    insertKey unknown
      { list with
        values8 := (realloc unknown.value8 list.values8 (list.len8 + 1)).set list.len8 ⟨value, size⟩
        len8 := (list.len8 + 1) % 256 }
      key list.len8
  else if size : value.length = 2 then
    insertKey unknown
      { list with
        values16 :=
          (realloc unknown.value16 list.values16 (list.len16 + 1)).set list.len16 ⟨value, size⟩
        len16 := (list.len16 + 1) % 256 }
      key (list.len8 + list.len16)
  else if size : value.length = 4 then
    insertKey unknown
      { list with
        values32 :=
          (realloc unknown.value32 list.values32 (list.len32 + 1)).set list.len32 ⟨value, size⟩
        len32 := (list.len32 + 1) % 256 }
      key (list.len8 + list.len16 + list.len32)
  else { list with head := ⟨value.length % 65536, key, value⟩ :: list.head }

def findKey (list : KeyValueList) (key : Key) : Option Nat :=
  (List.range list.lenKeys).find? fun index => list.keys[index]? == some key

def cellBytes {size : Nat} (values : List (Cell size)) (index : Nat) : List UInt8 :=
  (values[index]?.map Subtype.val).getD []

/-- `KeyValueList_Get`: the size, and the bytes at the address. -/
def get (list : KeyValueList) (key : Key) : Option (Nat × List UInt8) :=
  match list.head.find? fun element => element.key == key with
  | some element => some (element.len, element.data)
  | none =>
      (list.findKey key).map fun index =>
        if index < list.len8 then (1, cellBytes list.values8 index)
        else if index - list.len8 < list.len16 then
          (2, cellBytes list.values16 (index - list.len8))
        else (4, cellBytes list.values32 (index - list.len8 - list.len16))

def isSet (list : KeyValueList) (key : Key) : Bool := (list.get key).isSome

def add (list : KeyValueList) (key : Key) (value : List UInt8) : Bool × KeyValueList :=
  if list.isSet key = true then (false, list)
  else (true, addKeyValuePair unknown list key value)

/-- An array of `len` cells closed up over one of them.  The move reads one cell past
the end. -/
def closeGap {α : Type} (unknown : α) (cells : List α) (len index : Nat) : List α :=
  let moved := memmove unknown cells index (index + 1) (len - index)
  if len - 1 ≠ 0 then realloc unknown moved (len - 1) else []

/-- The removal of a value in `KeyValueList_Remove`; `none` is a panic. -/
def removeValue (list : KeyValueList) (keyIndex : Nat) : Option KeyValueList :=
  if keyIndex < list.len8 then
    some
      { list with
        values8 := closeGap unknown.value8 list.values8 list.len8 keyIndex
        len8 := list.len8 - 1 }
  else if keyIndex - list.len8 < list.len16 then
    some
      { list with
        values16 := closeGap unknown.value16 list.values16 list.len16 (keyIndex - list.len8)
        len16 := list.len16 - 1 }
  else if keyIndex - list.len8 - list.len16 < list.len32 then
    some
      { list with
        values32 :=
          closeGap unknown.value32 list.values32 list.len32 (keyIndex - list.len8 - list.len16)
        len32 := list.len32 - 1 }
  else none

def remove (list : KeyValueList) (key : Key) : Option KeyValueList :=
  if (list.head.any fun element => element.key == key) = true then
    some { list with head := list.head.eraseP fun element => element.key == key }
  else
    match list.findKey key with
    | none => some list
    | some keyIndex =>
        (removeValue unknown list keyIndex).map fun list =>
          { list with
            keys := closeGap unknown.key list.keys list.lenKeys keyIndex
            lenKeys := list.lenKeys - 1 }

def removeAll (_list : KeyValueList) : KeyValueList := create

end KeyValueList

inductive Call
  | add (key : Key) (value : List UInt8)
  | remove (key : Key)
  | removeAll
  | get (key : Key)
  | isSet (key : Key)
  deriving DecidableEq, Repr

inductive Reply
  | none
  | bool (result : Bool)
  | value (result : Option (Nat × List UInt8))
  deriving DecidableEq, Repr

/-- One call; `none` is a panic. -/
def step (unknown : Unknown) (list : KeyValueList) : Call → Option (KeyValueList × Reply)
  | .add key value =>
      let (success, list) := list.add unknown key value
      some (list, .bool success)
  | .remove key => (list.remove unknown key).map fun list => (list, .none)
  | .removeAll => some (list.removeAll, .none)
  | .get key => some (list, .value (list.get key))
  | .isSet key => some (list, .bool (list.isSet key))

def run (unknown : Unknown) :
    KeyValueList → List Call → Option (KeyValueList × List Reply)
  | list, [] => some (list, [])
  | list, call :: calls => do
      let (list, reply) ← step unknown list call
      let (list, replies) ← run unknown list calls
      some (list, reply :: replies)

end HeadsetAdk.KeyValues
