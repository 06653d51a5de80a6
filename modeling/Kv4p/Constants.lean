import Mathlib.Data.Int.Notation
import Mathlib.Data.Nat.Notation

/-! Numeric and bit constants of the link: KISS framing, message flags, vendor envelope. -/
namespace Kv4p

def kissFend : UInt8 := 0xC0
def kissFesc : UInt8 := 0xDB
def kissTfend : UInt8 := 0xDC
def kissTfesc : UInt8 := 0xDD
def kissCmdData : UInt8 := 0x00
def kissCmdSethardware : UInt8 := 0x06

def dra818_12K5 : ℤ := 0x00
def dra818_25K : ℤ := 0x01

def hostStateRadioConfigValid : ℕ := 1 <<< 0
def hostStatePttRequested : ℕ := 1 <<< 1
def hostStateRxAudioOpen : ℕ := 1 <<< 2
def hostStateHighPower : ℕ := 1 <<< 3
def hostStateRssiEnabled : ℕ := 1 <<< 4
def hostStateFilterPre : ℕ := 1 <<< 5
def hostStateFilterHigh : ℕ := 1 <<< 6
def hostStateFilterLow : ℕ := 1 <<< 7
def hostStateTxAllowed : ℕ := 1 <<< 11
def hostStateEnableStatusReports : ℕ := 1 <<< 12

def deviceStatePhysPttDown : ℕ := 1 <<< 8
def deviceStateTxActive : ℕ := 1 <<< 9
def deviceStateSquelched : ℕ := 1 <<< 10

def kv4pProtocolVersion : UInt8 := 0x01
/-- `b"KV4P"`. -/
def kv4pVendorPrefix : List UInt8 := [0x4B, 0x56, 0x34, 0x50]
def kv4pVendorHeaderLen : ℕ := 6

def commandAudioOpus : UInt8 := 0x07
def commandAudioAdpcm : UInt8 := 0x0C
def commandHostDesiredState : UInt8 := 0x0D
def commandDebugInfo : UInt8 := 0x01
def commandDebugError : UInt8 := 0x02
def commandDebugWarn : UInt8 := 0x03
def commandDebugDebug : UInt8 := 0x04
def commandDebugTrace : UInt8 := 0x05
def commandHello : UInt8 := 0x06
def commandWindowUpdate : UInt8 := 0x09
def commandDeviceState : UInt8 := 0x0B

end Kv4p
