import BpfBoot.File.Path

/-!
# Where things are

The directories that hold object files, the names below which their maps and programs are pinned, and
the fixed paths that the loader looks at.
-/

namespace BpfBoot

/-- A directory of object files and the directory, below the root of the BPF file system, where what
they hold is pinned. -/
structure Location where
  dir : String
  pinSubdir : String
  deriving DecidableEq, Repr

namespace Location

/-- The locations of a device, in the order in which they are loaded: objects may use maps that an
earlier location pinned. -/
def standard : List Location :=
  [⟨"/apex/com.android.tethering/etc/bpf/", "tethering/"⟩,
   ⟨"/apex/com.android.tethering/etc/bpf/netd_shared/", "netd_shared/"⟩,
   ⟨"/apex/com.android.tethering/etc/bpf/netd_readonly/", "netd_readonly/"⟩,
   ⟨"/apex/com.android.tethering/etc/bpf/net_shared/", "net_shared/"⟩,
   ⟨"/apex/com.android.tethering/etc/bpf/net_private/", "net_private/"⟩]

end Location

/-- The root of the BPF file system. -/
def bpfRoot : String := "/sys/fs/bpf"

/-- The directory for the loader's own pins. -/
def loaderPinSubdir : String := "loader"

/-- The init script of the platform's BPF loader. -/
def bpfLoaderScript : String := "/system/etc/init/bpfloader.rc"

/-- The init script of the platform's network BPF loader. -/
def netBpfLoadScript : String := "/system/etc/init/netbpfload.rc"

/-- The platform's BPF loader, which takes over on Android V. -/
def platformLoader : String := "/system/bin/bpfloader"

/-- The file that exists while a generic system image runs. -/
def gsiMarker : String := "/metadata/gsi/dsu/booted"

/-- The mount point of the package that the objects come from. -/
def tetheringMountPoint : String := "/apex/com.android.tethering"

/-- The switch that forbids BPF to unprivileged processes. -/
def unprivilegedBpfDisabled : String := "/proc/sys/kernel/unprivileged_bpf_disabled"

/-- The switch that compiles BPF programs. -/
def bpfJitEnable : String := "/proc/sys/net/core/bpf_jit_enable"

/-- The switch that shows compiled BPF programs among the kernel's symbols. -/
def bpfJitKallsyms : String := "/proc/sys/net/core/bpf_jit_kallsyms"

def buildTypeProperty : String := "ro.build.type"

def sdkVersionProperty : String := "ro.build.version.sdk"

/-- The property that says that all programs are loaded. -/
def programsLoadedProperty : String := "bpf.progs_loaded"

/-- The directory of the configuration file, unless another is given. -/
def defaultConfigDir : String := "/apex/com.android.tethering/etc/netbpfload/"

def configFileName : String := "netbpfload.json5"

def mountTable : String := "/proc/mounts"

end BpfBoot
