import GuestResume.Register.Command
import GuestResume.Cpu.Command
import GuestResume.Memory.Desk
import GuestResume.Session.Command
import GuestResume.Proofs.DeskAccounts
import GuestResume.Proofs.SessionMemory
import GuestResume.Proofs.ResolverRequests
import GuestResume.Proofs.ResolverAccounts
import GuestResume.Proofs.RunTrace
import GuestResume.Proofs.SessionHistory
import GuestResume.Proofs.HookCalls
import GuestResume.Proofs.RunSplits
import GuestResume.Proofs.StopOrder
import GuestResume.Proofs.AddressBlocks
import GuestResume.Proofs.TableReads
import GuestResume.Proofs.TableRecords
import GuestResume.Proofs.RecordLookups
import GuestResume.Proofs.TableDecoding
import GuestResume.Proofs.WrittenBytes
import GuestResume.Proofs.WritingOut
import GuestResume.Proofs.LayoutContents
import GuestResume.Proofs.AddressAliases
import GuestResume.Proofs.WalkTargets
import GuestResume.Proofs.BytewiseReads
import GuestResume.Proofs.AccessBounds
import GuestResume.Proofs.ResidentMemory
import GuestResume.Proofs.FreeBase
import GuestResume.Proofs.SnapshotContents
import GuestResume.Proofs.RegisterHistory
import GuestResume.Proofs.FixedBits
import GuestResume.Proofs.ModeDetection
import GuestResume.Proofs.ModeStability
import GuestResume.Proofs.ThreadResumption
import GuestResume.Proofs.NumeralGrammar
import GuestResume.Proofs.ByteMemory
import GuestResume.Proofs.DumpReading
import GuestResume.Proofs.RangeChunks
import GuestResume.Proofs.IndexPaths
