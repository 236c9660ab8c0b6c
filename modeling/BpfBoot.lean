import BpfBoot.Bootstrap
import BpfBoot.Bpf.Error
import BpfBoot.Bpf.Instruction
import BpfBoot.Bpf.Kernel
import BpfBoot.Bpf.Map
import BpfBoot.Bpf.Model
import BpfBoot.Bpf.Script
import BpfBoot.Bytes
import BpfBoot.Capabilities
import BpfBoot.CommandLine
import BpfBoot.Device
import BpfBoot.DevicePlatform
import BpfBoot.Elf.Error
import BpfBoot.Elf.File
import BpfBoot.Elf.Header
import BpfBoot.Elf.Relocation
import BpfBoot.Environment
import BpfBoot.Errno
import BpfBoot.File.Path
import BpfBoot.File.System
import BpfBoot.File.Tree
import BpfBoot.HandOff
import BpfBoot.HandOff.Error
import BpfBoot.Json5.Character
import BpfBoot.Json5.Number
import BpfBoot.Json5.Parser
import BpfBoot.Json5.Quoted
import BpfBoot.Json5.Value
import BpfBoot.Kernel.Branch
import BpfBoot.Kernel.Version
import BpfBoot.LoaderError
import BpfBoot.Location
import BpfBoot.Log.Channel
import BpfBoot.Log.Clock
import BpfBoot.Log.Event
import BpfBoot.Log.Filter
import BpfBoot.Log.Line
import BpfBoot.Log.Output
import BpfBoot.Log.Session
import BpfBoot.Machine.Basic
import BpfBoot.Machine.Executable
import BpfBoot.Machine.Script
import BpfBoot.Machine.Shell
import BpfBoot.Main
import BpfBoot.Mounts
import BpfBoot.Number.Binary64
import BpfBoot.Number.Shortest
import BpfBoot.Object.Directory
import BpfBoot.Object.Error
import BpfBoot.Object.Image
import BpfBoot.Object.Info
import BpfBoot.Object.Linking
import BpfBoot.Object.Loader
import BpfBoot.Object.MapDeclaration
import BpfBoot.Object.Name
import BpfBoot.Object.ProgramKind
import BpfBoot.Object.TypeInformation
import BpfBoot.PinDirs
import BpfBoot.Process
import BpfBoot.Program
import BpfBoot.Proofs.Log.Session
import BpfBoot.Property
import BpfBoot.Release
import BpfBoot.Settings
import BpfBoot.Settings.Address
import BpfBoot.Settings.Decode
import BpfBoot.Settings.Error
import BpfBoot.Settings.Load
import BpfBoot.Settings.Tree
import BpfBoot.Sysctl
import BpfBoot.Text.CodeRange
import BpfBoot.Text.LetterCase
import BpfBoot.Text.Numeral
import BpfBoot.Text.Quoted
import BpfBoot.Text.Space
import BpfBoot.Text.Utf8
import BpfBoot.Proofs.Object.Directory
import BpfBoot.Proofs.Bootstrap.Transcript
import BpfBoot.Proofs.Bootstrap.Agenda
import BpfBoot.Proofs.Bootstrap.Sequence
import BpfBoot.Proofs.Bootstrap.Order
import BpfBoot.Proofs.Bootstrap.Success
import BpfBoot.Proofs.Object.Criticality
import BpfBoot.Proofs.Agreement
import BpfBoot.Proofs.Bootstrap.Surroundings
import BpfBoot.Proofs.Bootstrap.Failures
import BpfBoot.Proofs.Bootstrap.GenericImage
import BpfBoot.Proofs.Program.Ending
import BpfBoot.Proofs.Bpf.Operation
import BpfBoot.Proofs.Bpf.Transcript
import BpfBoot.Proofs.Bpf.Session
import BpfBoot.Proofs.Bpf.Dictionary
import BpfBoot.Proofs.Bpf.Simulation
import BpfBoot.Proofs.Bpf.Visit
import BpfBoot.Proofs.Bpf.Store
import BpfBoot.Proofs.Text.Numeral
import BpfBoot.Proofs.Text.Utf8
import BpfBoot.Proofs.Kernel.Reading
import BpfBoot.Proofs.Kernel.Saturation
import BpfBoot.Proofs.Bpf.Opening
import BpfBoot.Proofs.Object.Description
import BpfBoot.Proofs.Text.Pieces
import BpfBoot.Proofs.File.Tree
import BpfBoot.Proofs.Mounts
import BpfBoot.Proofs.File.Directory
import BpfBoot.Proofs.PinDirs
import BpfBoot.Proofs.Log.History
import BpfBoot.Proofs.Object.Loading
import BpfBoot.Proofs.Object.VersionRange
import BpfBoot.Proofs.Kernel.Branches
import BpfBoot.Proofs.Bootstrap.Acceptance
import BpfBoot.Proofs.Log.Routing
import BpfBoot.Proofs.Number.Whole
import BpfBoot.Proofs.Json5.Document
import BpfBoot.Proofs.Json5.Quoted
import BpfBoot.Proofs.Json5.Number
import BpfBoot.Proofs.Json5.Reading
import BpfBoot.Proofs.Settings.Merging
import BpfBoot.Proofs.Settings.Meaning
import BpfBoot.Proofs.Settings.Decoding
import BpfBoot.Proofs.Settings.Loading
import BpfBoot.Proofs.Kernel.Packing
import BpfBoot.Proofs.Object.PinName
import BpfBoot.Proofs.Program.Reporting
import BpfBoot.Proofs.Text.Trimming
import BpfBoot.Proofs.Log.Validity
import BpfBoot.Proofs.Bpf.SelfTest
import BpfBoot.Proofs.HandOff
import BpfBoot.Proofs.Text.Terminated
import BpfBoot.Proofs.Bootstrap.Refusal
import BpfBoot.Proofs.Capabilities
import BpfBoot.Proofs.Text.LetterCase
import BpfBoot.Proofs.Device
import BpfBoot.Proofs.Object.Name
import BpfBoot.Proofs.File.Extending
