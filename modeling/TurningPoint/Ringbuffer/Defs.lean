import Mathlib.Data.Nat.Bitwise

/-! The ring buffer of `potringbuffer.c`, for any capacity `C` and element type.  A `size_t` is a
natural number kept below `2 ^ 32`; of the slots `mData` only those below `C` are ever addressed. -/

universe u

namespace TurningPoint

structure PotRingbuffer (α : Type u) where
  mBegin : Nat
  mEnd : Nat
  mData : Nat → α

variable {α : Type u} (C : Nat)

def potRingbufferInit (p : PotRingbuffer α) : PotRingbuffer α := { p with mBegin := 0, mEnd := 0 }

def potRingbufferWrappedIndex (index : Nat) : Nat := index &&& (C - 1)

def potRingbufferWrappedAccess (p : PotRingbuffer α) (index : Nat) : α :=
  p.mData (potRingbufferWrappedIndex C index)

def potRingbufferAdd (beginOrEnd amount : Nat) : Nat :=
  ((beginOrEnd + amount) % 2 ^ 32) &&& (2 * C - 1)

def potRingbufferIncr (beginOrEnd : Nat) : Nat := potRingbufferAdd C beginOrEnd 1

-- `-1` converts to the largest `size_t`.
def potRingbufferDecr (beginOrEnd : Nat) : Nat := potRingbufferAdd C beginOrEnd (2 ^ 32 - 1)

def potRingbufferEmpty (p : PotRingbuffer α) : Bool := p.mBegin == p.mEnd

def potRingbufferFull (p : PotRingbuffer α) : Bool := (p.mBegin ^^^ C) == p.mEnd

def potRingbufferSize (p : PotRingbuffer α) : Nat :=
  if potRingbufferFull C p then C else ((p.mEnd + 2 ^ 32 - p.mBegin) % 2 ^ 32) &&& (C - 1)

def potRingbufferAt (p : PotRingbuffer α) (index : Nat) : α :=
  potRingbufferWrappedAccess C p ((p.mBegin + index) % 2 ^ 32)

def potRingbufferReverseAt (p : PotRingbuffer α) (index : Nat) : α :=
  potRingbufferWrappedAccess C p ((p.mEnd + 2 ^ 32 - index) % 2 ^ 32)

def potRingbufferFront (p : PotRingbuffer α) : α := potRingbufferAt C p 0

def potRingbufferBack (p : PotRingbuffer α) : α := potRingbufferReverseAt C p 1

/-- `memcpy` through the pointer that `potRingbufferWrappedAccess` returns for `index`. -/
def potRingbufferStore (p : PotRingbuffer α) (index : Nat) (elem : α) : PotRingbuffer α :=
  { p with mData := Function.update p.mData (potRingbufferWrappedIndex C index) elem }

def potRingbufferPushBack (p : PotRingbuffer α) (elem : α) : PotRingbuffer α :=
  let p := if potRingbufferFull C p then { p with mBegin := potRingbufferIncr C p.mBegin } else p
  let p := { p with mEnd := potRingbufferIncr C p.mEnd }
  potRingbufferStore C p ((p.mEnd + 2 ^ 32 - 1) % 2 ^ 32) elem

def potRingbufferPushFront (p : PotRingbuffer α) (elem : α) : PotRingbuffer α :=
  let p := if potRingbufferFull C p then { p with mEnd := potRingbufferDecr C p.mEnd } else p
  let p := { p with mBegin := potRingbufferDecr C p.mBegin }
  potRingbufferStore C p ((p.mBegin + 0) % 2 ^ 32) elem

def potRingbufferPopFront (p : PotRingbuffer α) : PotRingbuffer α :=
  { p with mBegin := potRingbufferIncr C p.mBegin }

def potRingbufferPopBack (p : PotRingbuffer α) : PotRingbuffer α :=
  { p with mEnd := potRingbufferDecr C p.mEnd }

end TurningPoint
