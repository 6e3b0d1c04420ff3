import OrderedEcho.Address.Text
import OrderedEcho.Listing
import OrderedEcho.Settings

/-!
# Bind addresses

`Settings.bindAddresses` are the local addresses that a server with the given settings listens on:
those of its host, or all interfaces of both families, restricted to the family that was chosen.
-/

namespace OrderedEcho

/-- Why there is nothing to bind to. -/
inductive BindError
  /-- No address is left for the family. -/
  | noAddress (host : Option String) (family : Option AddressFamily)
  /-- The host is no address, and names are not looked up here. -/
  | notAnAddress (host : String)
  deriving DecidableEq

namespace BindError

/-- The host is the text of an address, so listing it needs no escapes. -/
def message : BindError → String
  | noAddress host family =>
    "no local address for " ++ Listing.option Listing.quoted host ++ " matches address family " ++
      Listing.option AddressFamily.name family
  | notAnAddress host => "no address known for " ++ Listing.quoted host

end BindError

namespace Settings

/-- The addresses of the host, or of all interfaces. -/
def hostAddresses (s : Settings) : Except BindError (List IpAddress) :=
  match s.host with
  | none => .ok [.unspecified .v4, .unspecified .v6]
  | some host =>
    match IpAddress.parse? host with
    | some ip => .ok [ip]
    | none => .error (.notAnAddress host)

/-- The socket addresses to bind to, without repetitions. -/
def bindAddresses (s : Settings) : Except BindError (List SocketAddress) := do
  let ips := (← s.hostAddresses).filter fun ip => s.family.all (ip.family == ·)
  match ips.eraseDups with
  | [] => .error (.noAddress s.host s.family)
  | ips => return ips.map fun ip => { ip, port := s.port }

end Settings

end OrderedEcho
