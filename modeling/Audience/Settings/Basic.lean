import Audience.LogLevel
import Audience.Text.Lowercase
import Audience.Settings.Address

/-!
# Settings

The settings of the program with their defaults, and what makes them usable:
`Settings.fault?` looks at the log level first, then at the cleanup interval,
then at the listeners. At least one listener has to be on, and the address of
one that is on has to split; that of one that is off may be anything.
-/

namespace Audience

/-- What the broker engine listens on. A size of zero leaves the choice to the engine. -/
structure ListenOptions where
  websocketEnabled : Bool := true
  websocketAddress : String := "localhost:1888"
  tcpEnabled : Bool := false
  tcpAddress : String := "localhost:1883"
  bufferSize : Nat := 0
  bufferBlockSize : Nat := 0
deriving DecidableEq, Repr

/-- How often filters without a holder are swept, and how long they are kept. -/
structure CleanupOptions where
  interval : Nat := 60 * 1000000000
  threshold : Nat := 300 * 1000000000
deriving DecidableEq, Repr

/-- One span for both: a sweep as often as the grace period is long. -/
def CleanupOptions.ofThreshold (threshold : Nat) : CleanupOptions := ⟨threshold, threshold⟩

structure Settings where
  level : String := "info"
  broker : ListenOptions := {}
  cleanup : CleanupOptions := {}
deriving DecidableEq, Repr

namespace Settings

/-- What makes listener options unusable. -/
inductive OptionsFault where
  | noListener
  | websocketAddress (address : String) (fault : AddressFault)
  | tcpAddress (address : String) (fault : AddressFault)
deriving DecidableEq, Repr

def OptionsFault.message : OptionsFault → String
  | .noListener => "at least websocket or TCP must be enabled"
  | .websocketAddress address fault =>
    s!"parsing websocket bind address ({address}) failed: {fault.message}"
  | .tcpAddress address fault => s!"parsing TCP bind address ({address}) failed: {fault.message}"

/-- The fault of the websocket address, looked at only when it is used. -/
def websocketFault? (o : ListenOptions) : Option OptionsFault :=
  if o.websocketEnabled then
    (Address.fault? o.websocketAddress).map (.websocketAddress o.websocketAddress)
  else none

/-- The fault of the TCP address, looked at only when it is used. -/
def tcpFault? (o : ListenOptions) : Option OptionsFault :=
  if o.tcpEnabled then (Address.fault? o.tcpAddress).map (.tcpAddress o.tcpAddress) else none

/-- The first fault of listener options. -/
def optionsFault? (o : ListenOptions) : Option OptionsFault :=
  if !o.websocketEnabled && !o.tcpEnabled then some .noListener
  else match websocketFault? o with
    | some fault => some fault
    | none => tcpFault? o

/-- What makes settings unusable. -/
inductive Fault where
  | unknownLevel (lowered : String)
  | zeroInterval
  | broker (fault : OptionsFault)
deriving DecidableEq, Repr

def Fault.message : Fault → String
  | .unknownLevel lowered => s!"unknown log level '{lowered}'"
  | .zeroInterval => "topics.cleanup_interval must be greater than zero"
  | .broker fault => fault.message

/-- The log level that the settings name, in any case. -/
def logLevel? (s : Settings) : Option LogLevel := LogLevel.ofName? (Text.lowercase s.level)

/-- The first fault of the settings. -/
def fault? (s : Settings) : Option Fault :=
  if s.logLevel?.isNone then some (.unknownLevel (Text.lowercase s.level))
  else if s.cleanup.interval = 0 then some .zeroInterval
  else (optionsFault? s.broker).map .broker

end Settings

end Audience
