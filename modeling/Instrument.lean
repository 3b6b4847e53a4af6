import Instrument.Board.EdgeWait
import Instrument.Controller.Document
import Instrument.Controller.Request
import Instrument.Controller.Tick
import Instrument.Element.Codec
import Instrument.Firmware.Machine
import Instrument.NosePoke.Boot
import Instrument.Pin.Document
import Instrument.Pin.Record
import Instrument.Proofs.DrivenPins
import Instrument.Proofs.Placement
import Instrument.Proofs.PulseTable
import Instrument.Proofs.StoreWindows
import Instrument.Proofs.RequestOutcomes
import Instrument.Proofs.Runs
import Instrument.Proofs.StoredRegisters
import Instrument.Proofs.Frames
import Instrument.Proofs.PinCommands
import Instrument.Proofs.FiredInterrupts
import Instrument.Proofs.SignalHistory
import Instrument.Proofs.ReportedEvents
import Instrument.Proofs.Requirements
import Instrument.Proofs.Counters
import Instrument.Proofs.Faults
import Instrument.Proofs.ElementBits
import Instrument.Proofs.CheckedElements
import Instrument.Proofs.CheckedSignals
import Instrument.Proofs.RawController
import Instrument.Proofs.FaultFreedom
import Instrument.Proofs.IndependentRequests
import Instrument.Proofs.Partition
import Instrument.Proofs.PinCells
import Instrument.Proofs.BootedPins
import Instrument.Proofs.OtherPins
import Instrument.Proofs.BoardAgreement
import Instrument.Proofs.BeamCounts
import Instrument.Proofs.SharedInterrupts
import Instrument.Proofs.ElementValues
import Instrument.Proofs.RoundedIntegers
import Instrument.Proofs.WritableRegisters
import Instrument.Proofs.MachineRuns
import Instrument.Proofs.ArmedInputs
import Instrument.Proofs.TaskCalls
import Instrument.Proofs.CaughtEdges
import Instrument.Proofs.OrderedReplies
import Instrument.Proofs.PadDiscipline
import Instrument.Proofs.ChipPulses
import Instrument.Proofs.SlowConsumer
import Instrument.Proofs.AnalogFrames
import Instrument.Proofs.CompleteSamples
import Instrument.Proofs.Handover
import Instrument.Proofs.HandoverInvariant
import Instrument.Proofs.FreshFrames
import Instrument.Proofs.PackedLevels
import Instrument.Proofs.IndependentPins
import Instrument.Proofs.SetUpPlan
import Instrument.Proofs.SimulatedSetUp
import Instrument.Proofs.RepeatedSetUp
import Instrument.Proofs.DividedTicks
import Instrument.Proofs.TimerTable
import Instrument.Proofs.TimerCalls
import Instrument.Proofs.SingleTransitions
import Instrument.Proofs.LiveSamples
import Instrument.Proofs.WholeReplies
import Instrument.Proofs.LatchMemory
import Instrument.Proofs.RulesByValue
import Instrument.Proofs.RoundedBounds
import Instrument.Proofs.ElementLists
import Instrument.Proofs.NearestNumbers
import Instrument.Proofs.ElementPositions
import Instrument.Proofs.ByteCodecs
import Instrument.Proofs.LoadedContents
import Instrument.Proofs.RepeatedBoot
