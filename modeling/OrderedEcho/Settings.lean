import OrderedEcho.Address

/-!
# Settings

`Settings` is everything that can be chosen about a server.  `Settings.check` finds the first fault
of a choice, in a fixed order, and `Protocol.parse` and `AddressFamily.parse` read two of the values
as they are written on a command line.
-/

namespace OrderedEcho

/-- How the server talks to its clients. -/
inductive Protocol
  /-- Streams: an empty receive is the end of the stream. -/
  | tcp
  /-- Datagrams: each one, empty or not, is echoed to its sender. -/
  | udp
  deriving DecidableEq

/-! ## Words of the command line -/

/-- A word of the command line that has no meaning. -/
inductive WordError
  | family (word : String)
  | protocol (word : String)
  deriving DecidableEq

def WordError.message : WordError → String
  | family word => s!"invalid address family {word} - expected 4 or 6"
  | protocol word => s!"invalid protocol {word} - expected tcp or udp"

/-- A family is written as its number. -/
def AddressFamily.parse (word : String) : Except WordError AddressFamily :=
  if word = "4" then .ok .v4
  else if word = "6" then .ok .v6
  else .error (.family word)

/-- The case of ASCII letters does not matter. -/
def Protocol.parse (word : String) : Except WordError Protocol :=
  if word.toLower = "tcp" then .ok .tcp
  else if word.toLower = "udp" then .ok .udp
  else .error (.protocol word)

/-! ## Settings -/

/-- Everything that can be chosen about a server. -/
structure Settings where
  /-- The local address to bind to.  Without one, the server binds to all interfaces. -/
  host : Option String := none
  port : BitVec 16 := 5150
  /-- The family that binding is restricted to. -/
  family : Option AddressFamily := none
  protocol : Protocol
  /-- The most bytes that one receive delivers. -/
  bufferSize : Nat := 4096
  /-- The number of receives that are posted at a time on an endpoint, and of accepts on a
  listener. -/
  fanOut : Nat := 5
  workers : Nat
  /-- The number of operations that may be alive at a time. -/
  limit : Option Nat := none
  /-- The number of buffers that are kept for reuse. -/
  cacheSize : Nat := 1024
  backlog : Nat := 100
  /-- The time between two traffic reports, in nanoseconds. -/
  reportInterval : Nat := 5000000000

/-- What is wrong with settings. -/
inductive SettingsError
  | noBuffer
  | noFanOut
  | workers (n : Nat)
  | limitBelowFanOut (limit fanOut : Nat)
  | noReportInterval
  deriving DecidableEq

namespace Settings

def maxWorkers : Nat := 32

/-- One worker for each processor, up to the largest number of workers. -/
def defaultWorkers (processors : Nat) : Nat := min (max processors 1) maxWorkers

/-- The settings of which nothing was chosen but the protocol. -/
def ofProtocol (protocol : Protocol) (processors : Nat) : Settings :=
  { protocol, workers := defaultWorkers processors }

/-- Finds the first fault. -/
def check (s : Settings) : Except SettingsError Unit :=
  if s.bufferSize = 0 then .error .noBuffer
  else if s.fanOut = 0 then .error .noFanOut
  else if s.workers = 0 ∨ maxWorkers < s.workers then .error (.workers s.workers)
  else
    match s.limit.filter (· < s.fanOut) with
    | some limit => .error (.limitBelowFanOut limit s.fanOut)
    | none => if s.reportInterval = 0 then .error .noReportInterval else .ok ()

/-- What settings without a fault are like. -/
theorem check_eq_ok_iff {s : Settings} : s.check = .ok () ↔
    0 < s.bufferSize ∧ 0 < s.fanOut ∧ (0 < s.workers ∧ s.workers ≤ maxWorkers) ∧
      (∀ limit, s.limit = some limit → s.fanOut ≤ limit) ∧ 0 < s.reportInterval := by
  have hlimit : s.limit.filter (· < s.fanOut) = none ↔
      ∀ limit, s.limit = some limit → s.fanOut ≤ limit := by
    cases s.limit <;> simp
  rw [← hlimit]
  unfold check
  cases s.limit.filter (· < s.fanOut) with
  | none =>
    dsimp only
    repeat' split
    all_goals simp
    all_goals omega
  | some limit =>
    dsimp only
    repeat' split
    all_goals simp

theorem defaultWorkers_pos (processors : Nat) : 0 < defaultWorkers processors := by
  unfold defaultWorkers maxWorkers
  omega

theorem defaultWorkers_le (processors : Nat) : defaultWorkers processors ≤ maxWorkers :=
  Nat.min_le_right _ _

end Settings

def SettingsError.message : SettingsError → String
  | noBuffer => "buffer size must be positive"
  | noFanOut => "at least one receive must be posted per connection"
  | workers n => s!"number of workers must be between 1 and {Settings.maxWorkers}, was {n}"
  | limitBelowFanOut limit fanOut =>
    s!"descriptor limit {limit} is smaller than the fan-out {fanOut}"
  | noReportInterval => "statistics interval must be positive"

end OrderedEcho
