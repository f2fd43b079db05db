import Bbsim.GoMap

/-!
# The device's records

The records of `olt.go` that its functions read and write: `openolt.Flow`, the OLT, its PON and
NNI ports and ONUs, the messages of the channels, and the OLT's `InternalState` machine. Fields
that no modelled function reads (the logged-only fields of a flow, the gRPC server handle, the
DHCP server, the event channel) are left out.

`olt.go` calls into `pon.go`, `onu.go` and `nni.go`, which are not among the sources. Their records
keep the fields that `olt.go` reads. The ONU and PON `InternalState` machines are given by their
transition tables, which are parameters (`Collaborators`), so that what is proved holds for every
table; the `OperState` machine of the OLT and its ports is the one §4.1 of the spec describes.
-/

namespace Bbsim

/-- Go's `int32`, as its 32 bits: Lean 4.14 has no `Int32`, and the conversions `uint32(x)` and
`int32(x)` of `olt.go` keep the bits. -/
abbrev GoInt32 := BitVec 32

/-- `uint32(x)` for an `int32` `x`. -/
def uint32 (x : GoInt32) : UInt32 := ⟨x⟩

/-- A `uint32` read as a number and converted back is itself. -/
@[simp] theorem uint32_ofNat_toNat (x : UInt32) : UInt32.ofNat x.toNat = x :=
  UInt32.toNat.inj (UInt32.toNat_ofNat_of_lt x.toNat_lt_size)

/-- `int32(x)` for a `uint32` `x`. -/
def int32 (x : UInt32) : GoInt32 := x.toBitVec

/-- `%d` of an `int32`: its signed value. -/
def fmtInt32 (x : GoInt32) : String := toString x.toInt

/-- `openolt.Classifier`. `olt.go` only logs its fields, which are left out; what matters is
whether a flow has one, since the first log line of `FlowAdd` reads them through the pointer. -/
structure Classifier where
deriving DecidableEq

/-- The fields of `openolt.Flow` that `olt.go` reads, besides those it only logs; `classifier` is
`none` for a nil `Classifier`. -/
structure Flow where
  accessIntfId : GoInt32
  onuId : GoInt32
  flowId : UInt64
  flowType : String
  allocId : GoInt32
  gemportId : GoInt32
  portNo : UInt32
  replicateFlow : Bool
  pbitToGemport : GoMap UInt32 UInt32
  classifier : Option Classifier
deriving DecidableEq

/-- `FlowKey`, the key of the device's flow table and of an ONU's flow list. -/
structure FlowKey where
  id : UInt64
deriving DecidableEq

/-- The operational state of the OLT and of a PON or NNI port, and the `types.OperState` of a
message. -/
inductive OperState
  | up
  | down
deriving DecidableEq

/-- The events of the `OperState` machines, and of the ONU and PON `InternalState` machines. -/
inductive Tx
  | enable
  | disable
deriving DecidableEq

/-- Modelled from the spec: the `OperState` machine of `getOperStateFSM` (§4.1), with `enable` from
down to up and `disable` from up to down. -/
def OperState.fire : Tx → OperState → Option OperState
  | .enable, .down => some .up
  | .disable, .up => some .down
  | _, _ => none

/-- The states of the OLT's `InternalState` machine. -/
inductive OltInternalState
  | created
  | initialized
  | enabled
  | disabled
  | deleted
deriving DecidableEq

/-- The events of the OLT's `InternalState` machine; `init` is `OltInternalTxInitialize`. -/
inductive OltInternalTx
  | init
  | enable
  | disable
  | delete
deriving DecidableEq

/-- The transitions `CreateOLT` declares for `InternalState`; `none` is an event the current state
does not allow, which the machine refuses and leaves the state as it is. -/
def OltInternalState.fire : OltInternalTx → OltInternalState → Option OltInternalState
  | .init, .created | .init, .deleted => some .initialized
  | .enable, .initialized | .enable, .disabled => some .enabled
  | .disable, .enabled => some .disabled
  | .delete, .disabled | .delete, .enabled => some .deleted
  | _, _ => none

/-- Modelled from the spec: the states of an ONU's `InternalState` machine (§4.1). -/
inductive OnuInternalState
  | created
  | enabled
  | disabled
  | ponDisabled
deriving DecidableEq

/-- Modelled from the spec: `Current()` of an ONU's `InternalState`, the state's name (§4.1). -/
def OnuInternalState.current : OnuInternalState → String
  | .created => "created"
  | .enabled => "enabled"
  | .disabled => "disabled"
  | .ponDisabled => "pon-disabled"

/-- Modelled from the spec: the states of a PON port's `InternalState` machine that `olt.go`
compares against (`"enabled"`, `"disabled"`), and the one it starts in. -/
inductive PonInternalState
  | created
  | enabled
  | disabled
deriving DecidableEq

/-- The gRPC status codes of the handlers' errors: `status.Errorf(codes.NotFound, ...)`, and
`Unknown` for an error made by `fmt.Errorf`. -/
inductive Code
  | notFound
  | unknown
deriving DecidableEq

/-- `openolt.SerialNumber`. -/
structure SerialNumber where
  vendorId : String
  vendorSpecific : List UInt8
deriving DecidableEq

/-- An error a handler returns. -/
structure RpcError where
  code : Code
  message : String
deriving DecidableEq

/-- Results are compared by value, so that the results of concrete runs can be decided. -/
instance instDecidableEqExcept {ε α : Type} [DecidableEq ε] [DecidableEq α] :
    DecidableEq (Except ε α)
  | .ok a, .ok b => decidable_of_iff (a = b) (by simp)
  | .error a, .error b => decidable_of_iff (a = b) (by simp)
  | .ok _, .error _ => isFalse nofun
  | .error _, .ok _ => isFalse nofun

/-- `fmt.Errorf(message)`. -/
def RpcError.errorf (message : String) : RpcError := ⟨.unknown, message⟩

/-- The modes of `ControlledActivation`, which decide whether `Enable` sends the PON ports'
indications itself, and
what a PON port's machine does to its ONUs. -/
inductive ActivationMode
  | default
  | onlyOnu
  | onlyPon
  | both
deriving DecidableEq

/-- What `olt.go` calls but the sources do not contain, as parameters: the transition tables of
the ONU and PON `InternalState` machines (`none` for a refused event); what the enter callbacks of
a PON port's machine (`pon.go`) do to the `InternalState` of each ONU of the port, by the OLT's
activation mode and the transition's source and destination (in `pon.go`, pon-disabled on disable
and back on enable); whether the OMCI codec and the packet classifier accept a payload; the error
of `PonPort.GetOnuById` for a PON and an ONU ID; `Onu.Sn()`; `InterfaceIDToPortNo`; the serial
number that `CreateONU` gives the ONU of an OLT, a PON and an ONU ID; whether `net.Listen` on the
OpenOLT address succeeds; the lines of `./olt_stats.txt` (`none` when it cannot be opened); and
whether `json.Unmarshal` reads a line as an `openolt.PortStatistics`. -/
structure Collaborators where
  onuTransition : Tx → OnuInternalState → Option OnuInternalState
  ponTransition : Tx → PonInternalState → Option PonInternalState
  ponEnter : ActivationMode → PonInternalState → PonInternalState → OnuInternalState →
    OnuInternalState
  parsesOmci : List UInt8 → Bool
  classifiesPacket : List UInt8 → Bool
  onuNotFound : UInt32 → UInt32 → RpcError
  onuSn : SerialNumber → String
  interfaceIdToPortNo : UInt32 → String → UInt32
  newSn : Int → UInt32 → UInt32 → SerialNumber
  listens : Bool
  oltStatsFile : Option (List String)
  unmarshalsPortStats : String → Bool

/-- The fields of `tech_profile.TrafficSchedulers` that the scheduler handlers read. -/
structure TrafficSchedulers where
  intfId : UInt32
  onuId : UInt32
  uniId : UInt32
  portNo : UInt32
deriving DecidableEq

/-- The fields of an ONU (`onu.go`) that `olt.go` reads and writes. -/
structure Onu where
  id : UInt32
  ponPortID : UInt32
  serialNumber : SerialNumber
  internalState : OnuInternalState
  flows : List FlowKey
  flowIds : List UInt64
  trafficSchedulers : Option TrafficSchedulers
deriving DecidableEq

/-- The fields of a PON port (`pon.go`) that `olt.go` reads and writes. -/
structure PonPort where
  id : UInt32
  internalState : PonInternalState
  operState : OperState
  onus : List Onu
deriving DecidableEq

/-- The fields of an NNI port (`nni.go`) that `olt.go` reads and writes. -/
structure NniPort where
  id : UInt32
  operState : OperState
deriving DecidableEq

/-- `openolt.LosIndication`, the alarm that `SetAlarm` builds: its status and the port number of
its interface. -/
structure LosIndication where
  status : String
  intfId : UInt32
deriving DecidableEq

/-- `types.Message`: a message on the OLT's or an ONU's channel, by its type and data. -/
inductive Message
  | oltIndication (operState : OperState)
  | nniIndication (operState : OperState) (nniPortID : UInt32)
  | ponIndication (operState : OperState) (ponPortID : UInt32)
  | alarmIndication (alarm : LosIndication)
  | flowAdd (ponPortID onuID : UInt32) (flow : Flow)
  | flowRemoved (flow : Flow)
  | omci (onuSN : SerialNumber) (onuID : UInt32) (pkt : List UInt8)
  | onuPacketOut (intfId onuId portNo : UInt32) (pkt : List UInt8)
deriving DecidableEq

/-- An indication written to the session's stream. -/
inductive Indication
  | olt (operState : OperState)
  | nniOper (intfId : UInt32) (operState : OperState)
  | ponIntf (intfId : UInt32) (operState : OperState)
  | ponOper (intfId : UInt32) (operState : OperState)
  | onu (ponPortID onuID : UInt32) (onuSN : SerialNumber) (operState : OperState)
  | alarm (alarm : LosIndication)
deriving DecidableEq

/-- What a handler does besides changing the device: a send on the OLT's channel, a send on the
channel of the ONU at position `onu` of the PON at position `pon`, an indication that it writes
to the stream itself, a call of `publishEvent` (which is not among the sources), or the start of
the goroutine of `periodicPortStats`. -/
inductive Effect
  | sendOlt (m : Message)
  | sendOnu (pon onu : Nat) (m : Message)
  | write (ind : Indication)
  | publish (eventType : String) (intfId onuId : GoInt32) (onuSerial : String)
  | startPortStats
deriving DecidableEq

/-- Where an effect goes: the OLT's channel, the channel of the ONU at a position, the stream, or
the events. -/
inductive Target
  | olt
  | onu (pon onu : Nat)
  | stream
  | events
deriving DecidableEq

/-- The target of an effect; the goroutine of `periodicPortStats` writes to the stream. -/
def Effect.target : Effect → Target
  | .sendOlt _ => .olt
  | .sendOnu pon onu _ => .onu pon onu
  | .write _ => .stream
  | .publish _ _ _ _ => .events
  | .startPortStats => .stream

/-- Whether the simulator still has an effect with `enablePerf` on: the option switches off the
events of `FlowAdd` and `FlowRemove` and the goroutine of `periodicPortStats`. -/
def Effect.keptByPerf : Effect → Bool
  | .sendOlt _ | .sendOnu _ _ _ | .write _ => true
  | .publish eventType _ _ _ =>
    eventType != "Flow-add-received" && eventType != "Flow-remove-received"
  | .startPortStats => false

/-- The set of flow IDs under one resource, `map[uint64]bool`. -/
abbrev FlowSet := GoMap UInt64 Bool

/-- A resource ledger, `AllocIDs` or `GemPortIDs`: PON, ONU, port number, resource ID, then the
flow IDs that reference the resource. -/
abbrev Ledger := GoMap UInt32 (GoMap UInt32 (GoMap UInt32 (GoMap GoInt32 FlowSet)))

/-- The fields of `OltDevice` that the modelled functions read and write. `channelOpen` says that
`o.channel` is open, and `enableContext` that `Enable` has set the enable context and its cancel
function. -/
structure OltDevice where
  id : Int
  internalState : OltInternalState
  operState : OperState
  channelOpen : Bool
  flows : GoMap FlowKey Flow
  pons : List PonPort
  nnis : List NniPort
  previouslyConnected : Bool
  enablePerf : Bool
  enableContext : Bool
  oltServer : Bool
  allocIDs : Ledger
  gemPortIDs : Ledger
  signature : UInt32
  controlledActivation : ActivationMode
deriving DecidableEq

/-- What a handler returns when it does not panic: the device after it, the sends and writes it
made, in order, and its result, an error or success. -/
structure Reply where
  dev : OltDevice
  effects : List Effect
  result : Except RpcError Unit
deriving DecidableEq

end Bbsim
