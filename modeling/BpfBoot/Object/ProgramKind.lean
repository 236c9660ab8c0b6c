/-!
# Kinds of programs

The name of a section says what kind of program it holds. The loader knows the names of all kinds and
loads some of them; the kernel knows a kind by the type of the program and the point that it is
attached to.
-/

namespace BpfBoot.Object

/-- Where a program for received frames is run. -/
inductive XdpPoint where
  | interface
  | cpuMap
  | deviceMap
  deriving DecidableEq, Repr

inductive ProgramKind where
  | probe
  | xdp (frags : Bool) (point : XdpPoint)
  | tracepoint
  | socketFilter
  | classifier
  | cgroupPackets (attachType : Nat)
  | cgroupSocket (attachType : Nat)
  | cgroupAddress (attachType : Nat)
  /-- A kind that is known but not loaded. -/
  | other
  deriving DecidableEq, Repr

namespace ProgramKind

/-- The attach types of the hooks that a section name may give after `cgroup/`. -/
def cgroupHooks : List (String × ProgramKind) :=
  [("skb", .cgroupPackets 0), ("sysctl", .other), ("dev", .other), ("getsockopt", .other),
   ("setsockopt", .other), ("sock", .cgroupSocket 2), ("post_bind4", .cgroupSocket 12),
   ("post_bind6", .cgroupSocket 13), ("sock_create", .cgroupSocket 2),
   ("sock_release", .cgroupSocket 34), ("bind4", .cgroupAddress 8), ("bind6", .cgroupAddress 9),
   ("connect4", .cgroupAddress 10), ("connect6", .cgroupAddress 11),
   ("getpeername4", .cgroupAddress 29), ("getpeername6", .cgroupAddress 30),
   ("getsockname4", .cgroupAddress 31), ("getsockname6", .cgroupAddress 32),
   ("sendmsg4", .cgroupAddress 14), ("sendmsg6", .cgroupAddress 15),
   ("recvmsg4", .cgroupAddress 19), ("recvmsg6", .cgroupAddress 20)]

/-- The kind that the pieces of a section name between its slashes stand for. -/
def ofPieces? : List String → Option ProgramKind
  | kind :: rest =>
      match kind with
      | "kprobe" | "kretprobe" => some .probe
      | "uprobe" | "uprobe.s" | "uretprobe" | "uretprobe.s" => some .other
      | "xdp" | "xdp.frags" =>
          let frags := kind == "xdp.frags"
          match rest.head? with
          | none => some (.xdp frags .interface)
          | some "cpumap" => some (.xdp frags .cpuMap)
          | some "devmap" => some (.xdp frags .deviceMap)
          | some _ => none
      | "tp_btf" => some .other
      | "tracepoint" | "tp" => some .tracepoint
      | "socket" => some .socketFilter
      | "sk_msg" => some .other
      | "sk_skb" =>
          match rest.head? with
          | some "stream_parser" | some "stream_verdict" => some .other
          | _ => none
      | "sockops" => some .other
      | "classifier" => some .classifier
      | "cgroup_skb" =>
          match rest.head? with
          | some "ingress" => some (.cgroupPackets 0)
          | some "egress" => some (.cgroupPackets 1)
          | _ => none
      | "cgroup" => rest.head?.bind fun hook => cgroupHooks.lookup hook
      | "lirc_mode2" | "perf_event" | "raw_tp" | "raw_tracepoint" | "lsm" | "lsm.s" | "fentry"
      | "fentry.s" | "fexit" | "fexit.s" | "freplace" | "sk_lookup" => some .other
      | _ => none
  | [] => none

/-- The kind of the programs in a section. -/
def ofSectionName? (name : String) : Option ProgramKind :=
  ofPieces? (name.splitOn "/")

/-- The flag of programs that take frames in several pieces. -/
def fragsFlag : Nat := 32

/-- The type, the attach type and the flags that the kernel knows the kind by, if it is loaded. -/
def kernelType? : ProgramKind → Option (Nat × Nat × Nat)
  | .probe => some (2, 0, 0)
  | .xdp frags point =>
      let attachType := match point with
        | .interface => 37
        | .cpuMap => 35
        | .deviceMap => 33
      some (6, attachType, if frags then fragsFlag else 0)
  | .tracepoint => some (5, 0, 0)
  | .socketFilter => some (1, 0, 0)
  | .classifier => some (3, 0, 0)
  | .cgroupPackets attachType => some (8, attachType, 0)
  | .cgroupSocket attachType => some (9, attachType, 0)
  | .cgroupAddress attachType => some (18, attachType, 0)
  | .other => none

end ProgramKind

end BpfBoot.Object
