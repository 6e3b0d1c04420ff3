import OrderedEcho.Directory
import OrderedEcho.Inbox
import OrderedEcho.Link
import OrderedEcho.Settings
import OrderedEcho.Table
import OrderedEcho.TrafficLog
import OrderedEcho.VisitingOrder

/-!
# The server

A `Server` has endpoints on sockets, a pool that they share, a directory of those that are
registered, and a meter.  `Server.link` is the view of one endpoint with all that it can change, and
`Server.setLink` writes it back.  An endpoint stays in the table after it was destroyed; then it is
no longer in the directory.

Here are the server's state and the registration and removal of endpoints; the handling of
completions is in `OrderedEcho.Server.Completed`.
-/

namespace OrderedEcho

structure Server where
  settings : Settings
  pool : Pool
  directory : Directory := {}
  endpoints : Table Endpoint
  sockets : Table Socket := { blank := {} }
  /-- Endpoints that wait for deferred receives. -/
  starved : Ascending EndpointId id := .empty
  meter : Meter
  shuttingDown : Bool := false

/-- Stands at the ids that were never handed out. -/
def Endpoint.absent : Endpoint :=
  { Endpoint.ofInfo { id := 0, kind := .listener, family := .v4 } 0 with
    closing := true, destroyed := true }

namespace Server

/-- A server that starts now, if there is no fault in its settings. -/
def ofSettings (settings : Settings) (now : Int) : Except SettingsError Server := do
  settings.check
  return {
    settings
    pool := {
      bufferSize := settings.bufferSize, cacheSize := settings.cacheSize, limit := settings.limit }
    endpoints := { blank := .absent }
    meter := .startingAt now }

/-- What is logged beside the traffic. -/
def gauges (s : Server) : Gauges := ⟨s.directory.size, s.pool.outstanding⟩

/-! ## Links -/

/-- The endpoint with its socket and the pool. -/
def link (s : Server) (id : EndpointId) : Link :=
  let endpoint := s.endpoints.get id
  ⟨endpoint, s.sockets.get endpoint.socket, s.pool⟩

/-- Writes back what an endpoint did to itself, its socket and the pool. -/
def setLink (s : Server) (id : EndpointId) (l : Link) : Server :=
  { s with
    endpoints := s.endpoints.set id l.endpoint
    sockets := s.sockets.set l.endpoint.socket l.socket
    pool := l.pool }

def modifyLink (s : Server) (id : EndpointId) (f : Link → Link) : Server :=
  s.setLink id (f (s.link id))

/-- Notes that the endpoint waits for deferred receives. -/
def starve (s : Server) (id : EndpointId) : Server :=
  { s with starved := s.starved.insert id }

/-- Lets an endpoint do something after which it may have to wait for receives. -/
def act (s : Server) (id : EndpointId) (f : Link → Bool × Link) : Server :=
  let (waits, l) := f (s.link id)
  let s := s.setLink id l
  if waits then s.starve id else s

/-! ## Sockets and the pool -/

def modifySocket (s : Server) (socket : SocketId) (f : Socket → Socket) : Server :=
  { s with sockets := s.sockets.set socket (f (s.sockets.get socket)) }

def release (s : Server) (op : Operation) : Server := { s with pool := s.pool.release op }

/-! ## Endpoints -/

/-- Registers a new endpoint on a socket. -/
def register (s : Server) (kind : EndpointKind) (family : AddressFamily)
    (peer : Option SocketAddress) (socket : SocketId) : EndpointId × Server :=
  let (id, directory) := s.directory.takeId
  let info : EndpointInfo := { id, kind, family, peer }
  (id, { s with
    directory := directory.insert info
    endpoints := s.endpoints.set id (.ofInfo info socket) })

/-- Destroys the endpoint if nothing is left to do for it, and says whether it did.  This ends its
registration and closes its socket. -/
def retire (s : Server) (id : EndpointId) : Bool × Server :=
  match (s.endpoints.get id).tryDestroy with
  | (false, _) => (false, s)
  | (true, endpoint) =>
    (true, { s with
      directory := s.directory.erase id
      endpoints := s.endpoints.set id endpoint
      starved := s.starved.filter (· != id) }.modifySocket endpoint.socket .close)

/-- Registers an endpoint and posts its first operations.  If one cannot be posted, the endpoint is
closed again. -/
def addEndpoint (s : Server) (kind : EndpointKind) (family : AddressFamily) (socket : SocketId)
    (post : Link → PostResult × Link) : Except PostError EndpointId × Server :=
  let (id, s) := s.register kind family none socket
  match Link.postMany post s.settings.fanOut (s.link id) with
  | (none, l) => (.ok id, s.setLink id l)
  | (some i, l) => (.error i.error, ((s.setLink id (l.close true)).retire id).2)

/-- Registers a listener and posts its accepts. -/
def addListener (s : Server) (socket : SocketId) (family : AddressFamily) :
    Except PostError EndpointId × Server :=
  s.addEndpoint .listener family socket Link.postNewAccept

/-- Registers a datagram socket and posts its receives. -/
def addDatagram (s : Server) (socket : SocketId) (family : AddressFamily) :
    Except PostError EndpointId × Server :=
  s.addEndpoint .datagram family socket Link.postNewReceive

/-- Closes an endpoint because of an error. -/
def abort (s : Server) (id : EndpointId) : Server :=
  ((s.modifyLink id (·.close true)).retire id).2

/-- Closes all registered endpoints, in any order.  Each is destroyed when its last operation has
completed. -/
def shutdown (s : Server) (order : VisitingOrder) : Server :=
  (order.arrange s.directory.ids).foldl abort { s with shuttingDown := true }

end Server

end OrderedEcho
