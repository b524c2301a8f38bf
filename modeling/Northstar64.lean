import Northstar64.Library.BitMask
import Northstar64.Library.Execution
import Northstar64.Types
import Northstar64.PhysicalMemory
import Northstar64.Sv39Correct
import Northstar64.Replay
import Northstar64.PreciseTraps
import Northstar64.Accounting
import Northstar64.Privilege
import Northstar64.UserIsolation
import Northstar64.UserConfidentiality
import Northstar64.ImageLoad
import Northstar64.FaultingPc
import Northstar64.FlatRam
import Northstar64.AccessFaults
import Northstar64.Encoding
import Northstar64.TraceRecords
import Northstar64.BusMap
import Northstar64.CsrUpdate
import Northstar64.AcceptanceOrder
import Northstar64.ElfFaithful
import Northstar64.LeafRegions
import Northstar64.WalkLocality
import Northstar64.IntegerSemantics
import Northstar64.StoreLoad
import Northstar64.RoundTrip
import Northstar64.CsrViews
import Northstar64.RunSlices
import Northstar64.ImageRange
import Northstar64.TrapPolicy
import Northstar64.JumpTargets
import Northstar64.PutsRoutine
import Northstar64.HartBoot
import Northstar64.TraceJson
import Northstar64.RunOptions
import Northstar64.RunSession
import Northstar64.TraceAssembly
