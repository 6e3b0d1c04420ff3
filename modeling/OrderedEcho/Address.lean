/-!
# Addresses

Internet addresses of both families, and socket addresses, which add a port.  The family of an
address is that of its form: an IPv4 address that is mapped into the IPv6 range is an IPv6 address.
-/

namespace OrderedEcho

/-- The two kinds of internet address. -/
inductive AddressFamily
  | v4
  | v6
  deriving DecidableEq

/-- The family as it is listed in messages. -/
def AddressFamily.name : AddressFamily → String
  | .v4 => "V4"
  | .v6 => "V6"

/-- An internet address, by its bits. -/
inductive IpAddress
  | v4 (bits : BitVec 32)
  | v6 (bits : BitVec 128)
  deriving DecidableEq

namespace IpAddress

/-- The family that the address has the form of. -/
def family : IpAddress → AddressFamily
  | v4 _ => .v4
  | v6 _ => .v6

/-- The address that a socket binds to in order to listen on all interfaces. -/
def unspecified : AddressFamily → IpAddress
  | .v4 => v4 0
  | .v6 => v6 0

@[simp] theorem family_unspecified (f : AddressFamily) : (unspecified f).family = f := by
  cases f <;> rfl

end IpAddress

/-- An address with a port.  The zone selects the interface of a link-local IPv6 address, and is
zero where there is none. -/
structure SocketAddress where
  ip : IpAddress
  port : BitVec 16
  zone : BitVec 32 := 0
  deriving DecidableEq

/-- The family of the address without its port. -/
def SocketAddress.family (a : SocketAddress) : AddressFamily := a.ip.family

end OrderedEcho
