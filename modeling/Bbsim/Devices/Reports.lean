import Bbsim.Devices.Types

/-!
# What the OLT reports besides its indications

`GetDeviceInfo` describes the device from its configuration: for each entry of
`PonsConfig.Ranges`, the interface IDs of its range of PON IDs and the pools of ONU, Alloc and
GEM-port IDs. `InitOltStats` loads one port-statistics sample per line of `olt_stats.txt`, and
`periodicPortStats` sends one sample per tick of its timer, going round the list, until the enable
context is cancelled.

The interface-ID loop of `GetDeviceInfo` counts in `uint32`; it is given `fuel` here, and runs out
of it exactly when the Go loop does not end. The samples are of any type: neither function looks
into them.
-/

namespace Bbsim

/-! ## `GetDeviceInfo` -/

/-- A range of IDs of the configuration, `StartId` to `EndId`. -/
structure IdRange where
  startId : UInt32
  endId : UInt32
deriving DecidableEq

/-- An entry of `common.PonsConfig.Ranges`: a range of PON IDs, and the ranges of the ONU, Alloc and
GEM-port IDs of those PONs. -/
structure PonRangeConfig where
  ponRange : IdRange
  onuRange : IdRange
  allocIdRange : IdRange
  gemportRange : IdRange
deriving DecidableEq

/-- The fields of `common.Config.Olt` that `GetDeviceInfo` copies. -/
structure OltInfoConfig where
  vendor : String
  model : String
  hardwareVersion : String
  firmwareVersion : String
  deviceId : String
deriving DecidableEq

/-- The kinds of pool of `DeviceInfo_DeviceResourceRanges_Pool`. -/
inductive PoolType
  | onuId
  | allocId
  | gemportId
deriving DecidableEq

/-- A pool of IDs, its `Start` and `End` as a range; `olt.go` gives every pool the sharing
`DEDICATED_PER_INTF`. -/
structure Pool where
  type : PoolType
  range : IdRange
deriving DecidableEq

/-- A `DeviceInfo_DeviceResourceRanges`: the interface IDs of a range of PONs, their technology and
their pools. -/
structure DeviceResourceRanges where
  intfIds : List UInt32
  technology : String
  pools : List Pool
deriving DecidableEq

/-- `openolt.DeviceInfo`, with the fields `GetDeviceInfo` fills. -/
structure DeviceInfo where
  vendor : String
  model : String
  hardwareVersion : String
  firmwareVersion : String
  ponPorts : UInt32
  deviceSerialNumber : String
  deviceId : String
  previouslyConnected : Bool
  ranges : List DeviceResourceRanges
deriving DecidableEq

/-- The interface-ID loop of `GetDeviceInfo`, `for i := StartId; i <= EndId; i++`, over `uint32`,
from counter `i` with the IDs `intfIDs` appended so far, for at most `fuel` rounds; `none` when the
fuel runs out. -/
def intfIdsLoop (endId : UInt32) : Nat → UInt32 → List UInt32 → Option (List UInt32)
  | 0, _, _ => none
  | fuel + 1, i, intfIDs =>
    if i ≤ endId then intfIdsLoop endId fuel (i + 1) (intfIDs ++ [i]) else some intfIDs

/-- The entry of `devinfo.Ranges` for one entry of `PonsConfig.Ranges`, with its interface IDs. -/
def resourceRanges (resRange : PonRangeConfig) (intfIDs : List UInt32) : DeviceResourceRanges where
  intfIds := intfIDs
  technology := "ETRI-PON"
  pools := [⟨.onuId, resRange.onuRange⟩, ⟨.allocId, resRange.allocIdRange⟩,
    ⟨.gemportId, resRange.gemportRange⟩]

/-- `GetDeviceInfo`, with `fuel` for each interface-ID loop; `none` when one of them runs out.
`numPon` is `uint32(o.NumPon)`, and the serial number is the one `CreateOLT` gives the device,
`ETRI_OLT_` followed by its ID. The reply carries `PreviouslyConnected` as it was, and the handler
then sets it. -/
def getDeviceInfo (fuel : Nat) (cfg : OltInfoConfig) (ranges : List PonRangeConfig)
    (numPon : UInt32) (o : OltDevice) : Option (OltDevice × DeviceInfo) := do
  let rs ← ranges.mapM fun resRange =>
    (intfIdsLoop resRange.ponRange.endId fuel resRange.ponRange.startId []).map
      (resourceRanges resRange)
  let devinfo : DeviceInfo := {
    vendor := cfg.vendor, model := cfg.model, hardwareVersion := cfg.hardwareVersion,
    firmwareVersion := cfg.firmwareVersion, ponPorts := numPon,
    deviceSerialNumber := "ETRI_OLT_" ++ toString o.id, deviceId := cfg.deviceId,
    previouslyConnected := o.previouslyConnected, ranges := rs }
  some ({ o with previouslyConnected := true }, devinfo)

/-! ## Port statistics -/

/-- `InitOltStats`: the sample of each line of `olt_stats.txt`, in order, appended to `OltStats`.
A file that cannot be opened (`none`) and a line that does not unmarshal are `Fatal` exits; the
`continue` after the latter is never reached. -/
def initOltStats {α : Type} (unmarshal : String → Option α) (file : Option (List String))
    (oltStats : List α) : Option (List α) := do
  let lines ← file
  let samples ← lines.mapM unmarshal
  some (oltStats ++ samples)

/-- What wakes the loop of `periodicPortStats`: its timer (`time.After`), or the cancellation of
the enable context. When both are ready `select` takes either, so any sequence is a run. -/
inductive Wake
  | tick
  | done
deriving DecidableEq

/-- One tick of `periodicPortStats`: the sample `OltStats[count]` (indexing past the end panics,
`none`) and the counter after `count++`, back to zero once it reaches `len(OltStats)`. -/
def portStatsTick {α : Type} (oltStats : List α) (count : Nat) : Option (α × Nat) := do
  let sendStat ← oltStats[count]?
  let count := count + 1
  some (sendStat, if oltStats.length = count then 0 else count)

/-- The loop of `periodicPortStats` from counter `count` on the wake-ups `ws`: the samples it
sends, in order, until the context is cancelled or the wake-ups so far end; `none` when a tick
panics. `periodicPortStats` itself starts from `count := 0`. -/
def periodicPortStats {α : Type} (oltStats : List α) : Nat → List Wake → Option (List α)
  | _, [] => some []
  | _, .done :: _ => some []
  | count, .tick :: ws => do
    let (sendStat, count) ← portStatsTick oltStats count
    let sent ← periodicPortStats oltStats count ws
    some (sendStat :: sent)

end Bbsim
