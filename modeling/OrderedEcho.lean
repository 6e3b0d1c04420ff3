import OrderedEcho.Probe.Report
import OrderedEcho.Proofs.AnyUse
import OrderedEcho.Proofs.BlankReceives
import OrderedEcho.Proofs.BufferCache
import OrderedEcho.Proofs.ByteAccount
import OrderedEcho.Proofs.CompletionOrder
import OrderedEcho.Proofs.DatagramAccount
import OrderedEcho.Proofs.DatagramCheck
import OrderedEcho.Proofs.Dispatch
import OrderedEcho.Proofs.Draining
import OrderedEcho.Proofs.EntryAccount
import OrderedEcho.Proofs.Exhaustion
import OrderedEcho.Proofs.GracefulEnd
import OrderedEcho.Proofs.Isolation
import OrderedEcho.Proofs.Latecomers
import OrderedEcho.Proofs.Listening
import OrderedEcho.Proofs.Reclamation
import OrderedEcho.Proofs.Retry
import OrderedEcho.Proofs.SendRuns
import OrderedEcho.Proofs.Setup
import OrderedEcho.Proofs.SlotAccount
import OrderedEcho.Proofs.StreamIntegrity
import OrderedEcho.Proofs.VisitingOrder
import OrderedEcho.Server.Workers
import OrderedEcho.Settings.BindAddress
import OrderedEcho.Proofs.DatagramCorruption
import OrderedEcho.Proofs.Meter.History
import OrderedEcho.Proofs.WindowAccount
import OrderedEcho.Proofs.ReportSchedule
import OrderedEcho.Proofs.InterruptedRetry
import OrderedEcho.Proofs.StreamCheck
