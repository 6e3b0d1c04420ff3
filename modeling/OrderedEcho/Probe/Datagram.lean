import OrderedEcho.BigEndian
import OrderedEcho.Probe.Pattern
import OrderedEcho.Probe.Settings

/-!
# Datagrams of a probe

A datagram starts with its index, in eight big-endian bytes, and goes on with the pattern from that
index on.  `Datagram.fill?` makes one, and `Datagram.check` reads the index of an echo after it has
checked all other bytes.
-/

namespace OrderedEcho

namespace Probe

/-- What is wrong with an echoed datagram. -/
inductive DatagramError
  | length (actual expected : Nat)
  /-- There is no room for the index. -/
  | noHeader
  /-- The byte at `position` is not the one of the pattern. -/
  | corrupted (index position : Nat)
  deriving DecidableEq

def DatagramError.message : DatagramError → String
  | length actual expected => s!"echoed datagram has {actual} bytes, expected {expected}"
  | noHeader => s!"echoed datagram has less than {headerSize} bytes"
  | corrupted index position => s!"echoed datagram {index} is corrupted at byte {position}"

namespace Datagram

def header (index : Nat) : List UInt8 :=
  (BigEndian.digits 256 headerSize index).map UInt8.ofNat

def readHeader (bytes : List UInt8) : Nat := BigEndian.value 256 (bytes.map UInt8.toNat)

/-- The datagram of the given size and index, if there is room for the index. -/
def fill? (size index : Nat) : Option (List UInt8) :=
  if size < headerSize then none
  else some (header index ++ Pattern.bytes index (size - headerSize))

/-- The index of an echoed datagram, provided that its size and all bytes are right. -/
def check (data : List UInt8) (size : Nat) : Except DatagramError Nat :=
  if data.length ≠ size then .error (.length data.length size)
  else if size < headerSize then .error .noHeader
  else
    let index := readHeader (data.take headerSize)
    match Pattern.firstMismatch (data.drop headerSize) index with
    | some offset => .error (.corrupted index (offset - index + headerSize))
    | none => .ok index

@[simp] theorem length_header (index : Nat) : (header index).length = headerSize := by
  simp [header]

end Datagram

end Probe

end OrderedEcho
