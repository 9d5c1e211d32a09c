import DeviceSecurity.Integrity.FileTree

/-!
# Signs of a compromised device

Root access and jailbreaks leave files at known places. A scan looks for each of its paths and
reports those that exist, in the order of the list. A link that leads nowhere counts: tools that
hide root access may leave it behind.
-/

namespace DeviceSecurity

/-- What a file says about the device. -/
inductive IndicatorKind where
  /-- A `su` program on a system path. -/
  | suBinary
  /-- A program that manages root access. -/
  | rootManager
  /-- A package manager or loader of a jailbreak. -/
  | jailbreak
deriving DecidableEq, Repr

namespace IndicatorKind

/-- The written name of a kind. -/
def name : IndicatorKind → String
  | suBinary => "su_binary"
  | rootManager => "root_manager"
  | jailbreak => "jailbreak"

/-- The kind of a name. -/
def ofName? (s : String) : Option IndicatorKind :=
  [suBinary, rootManager, jailbreak].find? (·.name == s)

end IndicatorKind

/-- A path whose existence is a sign of a kind. -/
structure Indicator where
  kind : IndicatorKind
  path : String
deriving DecidableEq, Repr

/-- The paths that are always looked for. -/
def Indicator.known : List Indicator :=
  ["/system/bin/su", "/system/xbin/su", "/sbin/su", "/su/bin/su", "/system/sd/xbin/su",
    "/system/bin/failsafe/su", "/data/local/su", "/data/local/bin/su", "/data/local/xbin/su",
    "/cache/su", "/data/su", "/dev/su"].map (⟨.suBinary, ·⟩) ++
  ["/system/app/Superuser.apk", "/system/app/SuperSU.apk", "/sbin/.magisk",
    "/data/adb/magisk"].map (⟨.rootManager, ·⟩) ++
  ["/Applications/Cydia.app", "/Applications/Sileo.app",
    "/Library/MobileSubstrate/MobileSubstrate.dylib", "/usr/libexec/cydia",
    "/private/var/lib/cydia", "/var/jb"].map (⟨.jailbreak, ·⟩)

namespace Integrity

/-- The indicators that exist below the root of a tree: the known ones, then those of the host. -/
def scan (tree : FileTree) (more : List Indicator) : List Indicator :=
  (Indicator.known ++ more).filter fun i => tree.contains i.path

/-- Whether any indicator exists. -/
def atRisk (tree : FileTree) (more : List Indicator) : Bool := !(scan tree more).isEmpty

end Integrity

end DeviceSecurity
