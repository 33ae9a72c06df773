/-!
# Names in a program object

The names under which the maps and the programs of a service stand in a program
object, and under which the maps are pinned.
-/

namespace MeshTrace

namespace MapName

/-- The registered sockets by connection. -/
def sockets := "sock_ops_map"

/-- The programs that others continue with. -/
def jumpTable := "jmp_table"

/-- The argument slots. -/
def arguments := "msg_args"

/-- The cursors by peer. -/
def cursors := "header_index"

/-- The cached paths by trace id. -/
def paths := "path_map"

/-- The slots of the eviction ring. -/
def ring := "eviction_ring"

/-- Head and tail of the eviction ring. -/
def ringIndex := "ring_index"

/-- The service's own id. -/
def service := "svc_id"

/-- The number of the next call. -/
def counter := "msg_id_counter"

/-- Request ids by call number. -/
def correlations := "msg_data_map"

/-- All map names. -/
def all : List String :=
  [sockets, jumpTable, arguments, cursors, paths, ring, ringIndex, service, counter,
    correlations]

end MapName

namespace ProgramName

/-- Registers established sockets. -/
def registrar := "register_socket"

/-- Looks for the tracing header. -/
def locator := "parse_grpc_headers"

/-- Goes on looking for the tracing header. -/
def extendedLocator := "parse_grpc_headers_ext"

/-- Puts the context frame in front. -/
def propagator := "propagate_path"

/-- Numbers Thrift calls. -/
def callLocator := "parse_thrift_call"

/-- Makes inbound messages addressable. -/
def streamParser := "pull_full_message"

/-- Caches received paths. -/
def streamVerdict := "cache_path"

/-- All program names. -/
def all : List String :=
  [registrar, locator, extendedLocator, propagator, callLocator, streamParser, streamVerdict]

end ProgramName

/-- A program that another one continues with. -/
inductive JumpTarget where
  | propagator
  | extendedLocator
deriving Repr, DecidableEq

namespace JumpTarget

/-- The target's place in the jump table. -/
def index : JumpTarget → Nat
  | propagator => 0
  | extendedLocator => 1

/-- The target's name. -/
def name : JumpTarget → String
  | propagator => ProgramName.propagator
  | extendedLocator => ProgramName.extendedLocator

/-- All targets, in the order of their places. -/
def all : List JumpTarget := [propagator, extendedLocator]

end JumpTarget

end MeshTrace
