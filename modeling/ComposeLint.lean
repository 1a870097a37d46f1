import ComposeLint.Log.Failure
import ComposeLint.Main
import ComposeLint.Proofs.Acceptance
import ComposeLint.Proofs.Declared
import ComposeLint.Proofs.Isolation
import ComposeLint.Proofs.Manifest
import ComposeLint.Proofs.Port
import ComposeLint.Proofs.Reference
import ComposeLint.Proofs.Replacement
import ComposeLint.Substitution.Units
import ComposeLint.Proofs.Cutting
import ComposeLint.Proofs.Spelling
import ComposeLint.Proofs.Image
import ComposeLint.Proofs.Settings
import ComposeLint.Proofs.Plan
import ComposeLint.Proofs.Precedence
import ComposeLint.Proofs.Discovery
import ComposeLint.Proofs.ExitStatus
import ComposeLint.Proofs.Gate
import ComposeLint.Proofs.FileByFile
import ComposeLint.Proofs.Canonical
import ComposeLint.Proofs.Strictness
import ComposeLint.Proofs.Unaudited
import ComposeLint.Proofs.Locality
import ComposeLint.Proofs.ServiceByService
import ComposeLint.Proofs.Growth
import ComposeLint.Proofs.FieldByField
import ComposeLint.Proofs.Additions
import ComposeLint.Proofs.Volume
import ComposeLint.Proofs.Environment
import ComposeLint.Proofs.Presentation
import ComposeLint.Proofs.Trust
import ComposeLint.Proofs.Agreement
import ComposeLint.Proofs.SameReading
import ComposeLint.Proofs.Place
import ComposeLint.Proofs.LeftOut
import ComposeLint.Proofs.Unread
import ComposeLint.Proofs.ReportViews
import ComposeLint.Proofs.BestPractices
import ComposeLint.Proofs.Escapes
import ComposeLint.Proofs.Splitting
import ComposeLint.Proofs.Closed
import ComposeLint.Proofs.NormalForm
import ComposeLint.Proofs.NothingDeclared
import ComposeLint.Proofs.SmallLetters
import ComposeLint.Proofs.ShortPort
import ComposeLint.Proofs.RenderedPort
import ComposeLint.Proofs.KeptGroups
import ComposeLint.Proofs.ServiceItems
import ComposeLint.Proofs.ExposedPorts
import ComposeLint.Proofs.DangerousMounts
import ComposeLint.Proofs.BroadMounts
import ComposeLint.Proofs.MountSource
import ComposeLint.Proofs.ShortVolume
import ComposeLint.Proofs.Repetition
import ComposeLint.Proofs.HardcodedSecrets
import ComposeLint.Proofs.DangerousCapabilities
import ComposeLint.Proofs.UntrustedRegistry
import ComposeLint.Proofs.FirstFault
import ComposeLint.Proofs.ProfileSelection
import ComposeLint.Proofs.LetterCase
import ComposeLint.Proofs.Seams
import ComposeLint.Proofs.Topics
