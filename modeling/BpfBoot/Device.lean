import BpfBoot.Text.LetterCase
import BpfBoot.Text.Space

/-!
# Facts about a device

The build type of the system image and the processor architecture, as they are read from texts.
-/

namespace BpfBoot

/-- The kind of system image. -/
inductive BuildType where
  | unknown
  | eng
  | user
  | userDebug
  deriving DecidableEq, Repr

namespace BuildType

/-- The build type with exactly this name; another case or white space makes it unknown. -/
def parse (raw : String) : BuildType :=
  match raw with
  | "eng" => .eng
  | "user" => .user
  | "userdebug" => .userDebug
  | _ => .unknown

def label : BuildType → String
  | .unknown => "Unknown"
  | .eng => "Eng"
  | .user => "User"
  | .userDebug => "UserDebug"

def isUndefined (b : BuildType) : Bool :=
  b == .unknown

end BuildType

inductive Arch where
  | undefined
  | arm
  | aarch64
  | x86
  | x86_64
  | riscV64
  deriving DecidableEq, Repr

namespace Arch

/-- The text of an architecture with its ASCII capitals made small, as it is kept after reading. -/
def normalize (raw : String) : String :=
  Text.asciiLower raw

/-- The architecture that a text names, white space around it and the case of letters aside. -/
def parse (raw : String) : Arch :=
  match Text.trim (normalize raw) with
  | "arm" => .arm
  | "aarch64" => .aarch64
  | "x86" => .x86
  | "x86_64" => .x86_64
  | "riscv64" => .riscV64
  | _ => .undefined

def label : Arch → String
  | .undefined => "Undefined"
  | .arm => "Arm"
  | .aarch64 => "Aarch64"
  | .x86 => "X86"
  | .x86_64 => "X86_64"
  | .riscV64 => "RiscV64"

def isUndefined (a : Arch) : Bool :=
  a == .undefined

def isX86 (a : Arch) : Bool :=
  a == .x86 || a == .x86_64

/-- The width of user space on the architecture of the kernel, in words. -/
def describe (a : Arch) (userspace32 kernel64 : Bool) : String :=
  match userspace32, kernel64, a with
  | false, _, .aarch64 => "64-on-aarch64"
  | false, _, .x86_64 => "64-on-x86-64"
  | false, _, .riscV64 => "64-on-riscv64"
  | false, _, _ => "64-on-unknown"
  | true, true, .arm => "32-on-aarch64"
  | true, true, .x86 => "32-on-x86-64"
  | true, false, .arm => "32-on-arm32"
  | true, false, .x86 => "32-on-x86-32"
  | true, _, _ => "32-on-unknown"

end Arch

end BpfBoot
