/-!
# Reports

At the end of a run a report says what the programs recorded: the drained request
ids and, for gRPC, the cached paths.
-/

namespace MeshTrace

/-- The application protocol whose outbound messages are looked at. -/
inductive Protocol where
  | grpc
  | thrift
deriving Repr, DecidableEq

namespace Protocol

/-- The name by which a protocol is chosen and reported. -/
def name : Protocol → String
  | grpc => "grpc"
  | thrift => "thrift"

/-- The name by which log records mention a protocol. -/
def label : Protocol → String
  | grpc => "Grpc"
  | thrift => "Thrift"

/-- All protocols. -/
def all : List Protocol := [grpc, thrift]

/-- A text with its capital letters among the first 128 characters made small. -/
def lowered (text : String) : String :=
  String.ofList (text.toList.map Char.toLower)

/-- The protocol with a name.  Only the letters A to Z can be told from small ones or
not. -/
def ofName? (text : String) (ignoreCase : Bool := false) : Option Protocol :=
  all.find? fun protocol =>
    if ignoreCase then lowered text == protocol.name else text == protocol.name

end Protocol

/-- A request id under the number of its call. -/
structure Correlation where
  sequence : UInt64
  requestId : UInt64
deriving Repr, DecidableEq

/-- What was drained during a run. -/
structure CorrelationStats where
  /-- How many correlations were drained. -/
  total : UInt64
  /-- How many times the map was drained. -/
  drains : UInt64
  /-- The lowest call number. -/
  first : Option UInt64
  /-- The highest call number. -/
  last : Option UInt64
  /-- The correlations by call number. -/
  records : List Correlation
deriving Repr, DecidableEq

/-- One cached path. -/
structure CachedPath where
  /-- The trace id in hexadecimal. -/
  traceId : String
  /-- Service ids, newest first. -/
  hops : List UInt8
deriving Repr, DecidableEq

/-- What the path cache holds. -/
structure PathCacheStats where
  cachedPaths : UInt64
  ringHead : UInt32
  ringTail : UInt32
  /-- The ring slots in use. -/
  ringOccupancy : UInt32
  /-- The largest hop count. -/
  maxHops : UInt8
  /-- The cached paths by trace id. -/
  paths : List CachedPath
deriving Repr, DecidableEq

/-- The report of one run. -/
structure Report where
  timestamp : String
  durationSeconds : UInt64
  pod : String
  protocol : Protocol
  serviceId : Option UInt8
  correlations : CorrelationStats
  pathCache : Option PathCacheStats
deriving Repr, DecidableEq

end MeshTrace
