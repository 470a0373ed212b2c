import SysZerotier.Net.Bytes

/-! The serialised `mmsghdr` buffer of `SendMMsg` (`source/mitm/bsd_shim.cpp`).

A cursor is the bytes it has left. A message is its name, its I/O vector (a count
and for each part a length and the bytes), its control data and two words; numbers
are in the console's order, low byte first. -/
namespace SysZerotier.Mitm
open Net

def MMsgPayloadMax : Nat := 2048

/-- `iov` are the serialised parts, lengths included. -/
structure MMsgView where
  name : List U8
  iov : List U8
  iovCount : Nat
  payloadLen : Nat
  deriving DecidableEq

/-- The number of bytes, low byte first. -/
def littleEndian (bytes : List U8) : Nat := bytes.foldr (fun b n => b.toNat + 256 * n) 0

def mmsgTake (cursor : List U8) (size : Nat) : Option (List U8 × List U8) :=
  if cursor.length < size then none else some (cursor.take size, cursor.drop size)

def mmsgReadU32 (cursor : List U8) : Option (Nat × List U8) :=
  (mmsgTake cursor 4).map fun r => (littleEndian r.1, r.2)

def mmsgReadU64 (cursor : List U8) : Option (Nat × List U8) :=
  (mmsgTake cursor 8).map fun r => (littleEndian r.1, r.2)

/-- The loop over the I/O vector in `ParseMMsg`: the cursor behind it and its payload length. -/
def parseIov : Nat → List U8 → Nat → Option (List U8 × Nat)
  | 0, cursor, payloadLen => some (cursor, payloadLen)
  | count + 1, cursor, payloadLen => do
    let (len, cursor) ← mmsgReadU64 cursor
    if MMsgPayloadMax < len ∨ MMsgPayloadMax - len < payloadLen then none
    else
      let (_, cursor) ← mmsgTake cursor len
      parseIov count cursor (payloadLen + len)

def parseMMsg (cursor : List U8) : Option (MMsgView × List U8) := do
  let (nameLen, cursor) ← mmsgReadU32 cursor
  let (name, cursor) ← mmsgTake cursor nameLen
  let (iovCount, iov) ← mmsgReadU32 cursor
  if 64 < iovCount then none
  else
    let (cursor, payloadLen) ← parseIov iovCount iov 0
    let view : MMsgView := ⟨name, iov.take (iov.length - cursor.length), iovCount, payloadLen⟩
    let (controlLen, cursor) ← mmsgReadU32 cursor
    let (_, cursor) ← mmsgTake cursor controlLen
    let (_, cursor) ← mmsgTake cursor 4
    let (_, cursor) ← mmsgTake cursor 4
    return (view, cursor)

/-- The parts of the I/O vector one behind the other. -/
def assembleIov : Nat → List U8 → Option (List U8)
  | 0, _ => some []
  | count + 1, cursor => do
    let (len, cursor) ← mmsgReadU64 cursor
    let (part, cursor) ← mmsgTake cursor len
    let rest ← assembleIov count cursor
    return part ++ rest

def assembleMMsgPayload (view : MMsgView) : Option (List U8) := assembleIov view.iovCount view.iov

end SysZerotier.Mitm
