import LuksEnroll.Library.Pool
import LuksEnroll.Library.Journal
import LuksEnroll.Library.Matching
import LuksEnroll.Library.Answering
import LuksEnroll.Effects
import LuksEnroll.Outcomes
import LuksEnroll.Failure
import LuksEnroll.Enrollment
import LuksEnroll.Concurrency
import LuksEnroll.Origins
import LuksEnroll.Tokens
import LuksEnroll.LastKeyslot
import LuksEnroll.Wiping
import LuksEnroll.Extraction
import LuksEnroll.Unsealing
import LuksEnroll.Fido2
import LuksEnroll.PinUse
import LuksEnroll.Esys
import LuksEnroll.SlotReuse
import LuksEnroll.Unlocking
import LuksEnroll.Service
import LuksEnroll.Keyless
import LuksEnroll.Overwriting
import LuksEnroll.KeyCache
import LuksEnroll.Descriptors
import LuksEnroll.Methods
import LuksEnroll.Enrolled
import LuksEnroll.Parity
import LuksEnroll.CacheHistory
import LuksEnroll.Removable
import LuksEnroll.Opening
import LuksEnroll.Client
import LuksEnroll.Watcher
import LuksEnroll.Gate
import LuksEnroll.Possession
import LuksEnroll.Admission
import LuksEnroll.Resolution
import LuksEnroll.Library.Symlinks
import LuksEnroll.Library.Traversal
import LuksEnroll.Placement
import LuksEnroll.Library.Sections
import LuksEnroll.Creation
import LuksEnroll.Library.Sorting
import LuksEnroll.Library.Interpretation
import LuksEnroll.UnsealOrder
import LuksEnroll.PyText
import LuksEnroll.Mounts
import LuksEnroll.Library.Chunks
import LuksEnroll.Recovery
import LuksEnroll.Teardown
import LuksEnroll.Library.Scanning
import LuksEnroll.DiskNames
import LuksEnroll.Library.Utf8
import LuksEnroll.Library.Patterns
import LuksEnroll.DiskLoops
import LuksEnroll.Library.Bits
import LuksEnroll.PcrSelections
import LuksEnroll.ClientPaths
import LuksEnroll.Duplicates
import LuksEnroll.Leftovers
import LuksEnroll.Reformatting
import LuksEnroll.JsonText
import LuksEnroll.Views
import LuksEnroll.Library.Events
import LuksEnroll.Secrets
import LuksEnroll.DetailPage
import LuksEnroll.Sealing
import LuksEnroll.EnrollPage
import LuksEnroll.Discovery
import LuksEnroll.AsyncCalls
import LuksEnroll.Authenticators
import LuksEnroll.Confirmed
import LuksEnroll.UnlockDialog
import LuksEnroll.FreshVolume
import LuksEnroll.LoopDevices
import LuksEnroll.MappingControls
import LuksEnroll.FormatDialogs
