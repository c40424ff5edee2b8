import Mathlib.Logic.Basic
import NmSidebar.Text.Bytes

/-!
# Access points

What is read of an access point of NetworkManager, and its security.
-/

namespace NmSidebar

open Text

/-- `NM80211Mode`. -/
inductive WifiMode where
  | unknown | adhoc | infra | ap | mesh
  deriving DecidableEq

/-- What is read of an `NMAccessPoint`. The flags are those of NetworkManager. -/
structure AccessPoint where
  path : Option Bytes
  ssid : Option Bytes
  bssid : Option Bytes
  frequency : UInt32
  mode : WifiMode
  flags : UInt32
  wpaFlags : UInt32
  rsnFlags : UInt32
  strength : UInt8
  deriving DecidableEq

/-- `NM_802_11_AP_FLAGS_PRIVACY`. -/
def apFlagsPrivacy : UInt32 := 0x1

/-- `NM_802_11_AP_SEC_KEY_MGMT_PSK`. -/
def apSecKeyMgmtPsk : UInt32 := 0x100

/-- `NM_802_11_AP_SEC_KEY_MGMT_SAE`. -/
def apSecKeyMgmtSae : UInt32 := 0x400

/-- `NM_802_11_AP_SEC_KEY_MGMT_OWE`. -/
def apSecKeyMgmtOwe : UInt32 := 0x800

/-- `NM_802_11_AP_SEC_KEY_MGMT_OWE_TM`. -/
def apSecKeyMgmtOweTm : UInt32 := 0x1000

namespace AccessPoint

/-- `ap_is_secure`. -/
def isSecure (ap : AccessPoint) : Bool :=
  decide (ap.flags &&& apFlagsPrivacy ≠ 0) || ap.wpaFlags ≠ 0 || ap.rsnFlags ≠ 0

/-- `ap_has_security`. -/
def hasSecurity (ap : AccessPoint) (flag : UInt32) : Bool :=
  decide ((ap.wpaFlags ||| ap.rsnFlags) &&& flag ≠ 0)

/-- `ap_supports_owe`. -/
def supportsOwe (ap : AccessPoint) : Bool :=
  ap.hasSecurity apSecKeyMgmtOwe || ap.hasSecurity apSecKeyMgmtOweTm

/-- `ap_needs_password`. -/
def needsPassword (ap : AccessPoint) : Bool :=
  ap.hasSecurity apSecKeyMgmtPsk || ap.hasSecurity apSecKeyMgmtSae

/-- `ap_has_ssid`. -/
def hasSsid (ap : AccessPoint) : Bool := ap.ssid.any (· ≠ [])

end AccessPoint

end NmSidebar
