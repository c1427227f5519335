import Mathlib.Tactic

/-! The request buffers of `redfish.c`. A `Slot` is one resource's `http_resource_user_data` with the
heap all resources share; `alloc_user_data` returns only with a block, so allocation is total. The
abstract buffer is `Option Buffer`, and `BufferStore` is what both offer to the handler. -/

namespace WallaBMC.Redfish

/-- Data of one callback, of less than `2 ^ 31` bytes. -/
structure Chunk where
  bytes : List UInt8
  small : bytes.length < 2 ^ 31

structure Block where
  size : ℕ
  mem : ℕ → UInt8

inductive Fault
  | badFree (id : ℕ)
  | badWrite (id : Option ℕ)

/-- Block names are never reused; a new block holds whatever `garbage` says. -/
structure Heap where
  next : ℕ
  live : ℕ → Option Block
  faults : List Fault
  garbage : ℕ → ℕ → UInt8

namespace Heap

def alloc (heap : Heap) (size : ℕ) : Heap × ℕ :=
  ({ heap with
      next := heap.next + 1
      live := Function.update heap.live heap.next (some ⟨size, heap.garbage heap.next⟩) }, heap.next)

def free (heap : Heap) : Option ℕ → Heap
  | none => heap
  | some id =>
    match heap.live id with
    | none => { heap with faults := heap.faults ++ [.badFree id] }
    | some _ => { heap with live := Function.update heap.live id none }

def fill (mem : ℕ → UInt8) (off : ℕ) (src : List UInt8) : ℕ → UInt8 :=
  fun i => if off ≤ i then src.getD (i - off) (mem i) else mem i

def write (heap : Heap) (ptr : Option ℕ) (off : ℕ) (src : List UInt8) : Heap :=
  match ptr.bind (fun id => (heap.live id).map (fun block => (id, block))) with
  | none => if src = [] then heap else { heap with faults := heap.faults ++ [.badWrite ptr] }
  | some (id, block) =>
    if off + src.length ≤ block.size then
      { heap with
        live := Function.update heap.live id (some { block with mem := fill block.mem off src }) }
    else { heap with faults := heap.faults ++ [.badWrite ptr] }

def read (heap : Heap) (ptr : Option ℕ) (len : ℕ) : List UInt8 :=
  match ptr.bind heap.live with
  | none => []
  | some block => (List.range len).map block.mem

end Heap

structure UserData where
  started : Bool
  size : ℕ
  dataLen : ℕ
  dataBuffer : Option ℕ
  deriving DecidableEq

def UserData.zero : UserData := ⟨false, 0, 0, none⟩

structure Slot where
  heap : Heap
  userData : UserData

def userDataHeapSize : ℕ := 2048
def userDataBufferGetSize : ℕ := 1024
def userDataBufferPostSize : ℕ := 512

def allocUserData (size : ℕ) (slot : Slot) : Slot :=
  let (heap, block) := slot.heap.alloc size
  ⟨heap, { slot.userData with started := true, size := size, dataBuffer := some block }⟩

def freeUserData (slot : Slot) : Slot :=
  if !slot.userData.started then slot
  else ⟨slot.heap.free slot.userData.dataBuffer, ⟨false, 0, 0, none⟩⟩

-- The sum is a `size_t` of 32 bits.
def appendUserData (src : Chunk) (slot : Slot) : Bool × Slot :=
  let ud := slot.userData
  if (ud.dataLen + src.bytes.length) % 2 ^ 32 > ud.size then (false, slot)
  else (true, ⟨slot.heap.write ud.dataBuffer ud.dataLen src.bytes,
    { ud with dataLen := (ud.dataLen + src.bytes.length) % 2 ^ 32 }⟩)

class BufferStore (β : Type*) where
  started : β → Bool
  size : β → ℕ
  data : β → List UInt8
  alloc : ℕ → β → β
  free : β → β
  append : Chunk → β → Bool × β

instance : BufferStore Slot where
  started slot := slot.userData.started
  size slot := slot.userData.size
  data slot := slot.heap.read slot.userData.dataBuffer slot.userData.dataLen
  alloc := allocUserData
  free := freeUserData
  append := appendUserData

structure Buffer where
  size : ℕ
  data : List UInt8
  fits : data.length ≤ size
  deriving DecidableEq

def Buffer.empty (size : ℕ) : Buffer := ⟨size, [], Nat.zero_le _⟩

def Buffer.append (src : List UInt8) (buffer : Buffer) : Option Buffer :=
  if h : buffer.data.length + src.length ≤ buffer.size then
    some ⟨buffer.size, buffer.data ++ src, by simpa using h⟩
  else none

instance : BufferStore (Option Buffer) where
  started buffer := buffer.isSome
  size buffer := buffer.elim 0 Buffer.size
  data buffer := buffer.elim [] Buffer.data
  alloc size _ := some (Buffer.empty size)
  free _ := none
  append src buffer :=
    match buffer with
    | none => (src.bytes.isEmpty, none)
    | some b =>
      match b.append src.bytes with
      | none => (false, some b)
      | some b' => (true, some b')

end WallaBMC.Redfish
