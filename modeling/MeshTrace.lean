import MeshTrace.Main
import MeshTrace.Program.Inbound
import MeshTrace.Program.Outbound
import MeshTrace.Proofs.Command.Reported
import MeshTrace.Proofs.Command.Traffic
import MeshTrace.Proofs.Correlation.Recording
import MeshTrace.Proofs.Frame.Context
import MeshTrace.Proofs.Frame.RoundTrip
import MeshTrace.Proofs.Header.DynamicTable
import MeshTrace.Proofs.Header.FirstTracing
import MeshTrace.Proofs.Header.FrameEnd
import MeshTrace.Proofs.Header.Scan
import MeshTrace.Proofs.Installation.JumpTable
import MeshTrace.Proofs.Network.Basic
import MeshTrace.Proofs.Network.Provenance
import MeshTrace.Proofs.PathCache.Bound
import MeshTrace.Proofs.PathCache.HopBound
import MeshTrace.Proofs.PathCache.InsertionOrder
import MeshTrace.Proofs.PathCache.Retention
import MeshTrace.Proofs.PathCache.SingleUse
import MeshTrace.Proofs.PinLayout.Isolation
import MeshTrace.Proofs.Program.Arrival
import MeshTrace.Proofs.Program.Composition
import MeshTrace.Proofs.Program.CountedNames
import MeshTrace.Proofs.Program.FailOpen
import MeshTrace.Proofs.Program.HandOver
import MeshTrace.Proofs.Thrift
import MeshTrace.Proofs.Window
import MeshTrace.Proofs.Report.RoundTrip
import MeshTrace.Proofs.Propagation.Unsent
import MeshTrace.Proofs.Propagation.NameReference
import MeshTrace.Proofs.Command.DrainPasses
import MeshTrace.Proofs.Network.Growth
import MeshTrace.Proofs.Report.Batches
import MeshTrace.Proofs.Report.Listing
import MeshTrace.Proofs.Connection.Registered
import MeshTrace.Proofs.Bytes.Linear
import MeshTrace.Proofs.Files.Writing
