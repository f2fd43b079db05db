import Bbsim.Devices.Handlers
import Bbsim.Devices.Reports

/-!
# Creating, enabling and rebooting the OLT

`CreateOLT`, `InitOlt`, `Enable`, `RestartOLT` and the handling of one message by the dispatch
loop `processOltMessages`. The OLT's `InternalState` machine runs `InitOlt` when it enters
`initialized` and `clearAllResources` when it enters `deleted`; `internalEvent` is an event of the
machine together with those callbacks.

Each function here runs to its end, as one step of the device; `Bbsim.Concurrency.Channel` cuts
`Enable` and `RestartOLT` into the steps between which other goroutines may run.
-/

namespace Bbsim

/-! ## The `InternalState` machine and its callbacks -/

/-- `InitOlt`: starts the gRPC server (a `Fatal` exit when one is running, and in `newOltServer`
when `net.Listen` fails), makes a new channel, sets the first NNI port down (indexing an empty
`Nnis` panics), and makes the PON-level maps of both ledgers. -/
def initOlt (c : Collaborators) (o : OltDevice) : Option OltDevice :=
  if o.oltServer then none
  else if !c.listens then none
  else
    match o.nnis with
    | [] => none
    | nni :: nnis => some { o with
        oltServer := true, channelOpen := true, nnis := { nni with operState := .down } :: nnis,
        allocIDs := o.allocIDs.initPons o.pons.length,
        gemPortIDs := o.gemPortIDs.initPons o.pons.length }

/-- The enter callbacks `CreateOLT` registers on `InternalState`. -/
def enterInternal (c : Collaborators) (o : OltDevice) : OltInternalState → Option OltDevice
  | .initialized => initOlt c o
  | .deleted => some (clearAllResources o)
  | _ => some o

/-- `o.InternalState.Event(tx)`: `none` when the current state refuses the event, otherwise the
device after the transition and its enter callback, which may panic (`some none`). -/
def internalEvent (c : Collaborators) (o : OltDevice) (tx : OltInternalTx) :
    Option (Option OltDevice) :=
  (o.internalState.fire tx).map fun s => enterInternal c { o with internalState := s } s

/-! ## Creating the OLT -/

/-- The ONU range of a PON's configuration. -/
structure OnuRange where
  startId : UInt32
  endId : UInt32

/-- The fields of a PON's configuration that `CreateOLT` reads, besides the technology, whose
check is left out. -/
structure PonConfig where
  onuRange : OnuRange

/-- The fields of `common.GlobalConfig` that `CreateOLT` reads: `ponConfig` is
`common.GetPonConfigById` (`none` for its error) and `controlledActivation` the entry of
`ControlledActivationModes` for the configured name. -/
structure GlobalConfig where
  id : Int
  ponPorts : UInt32
  onusPonPort : UInt32
  enablePerf : Bool
  controlledActivation : Option ActivationMode
  ponConfig : UInt32 → Option PonConfig

/-- Modelled from the spec: `CreateONU` of `onu.go`, an ONU in state `created` with the ID, its
PON's ID, its serial number and no flows. -/
def createOnu (c : Collaborators) (oltId : Int) (ponId id : UInt32) : Onu :=
  ⟨id, ponId, c.newSn oltId ponId id, .created, [], [], none⟩

/-- One round of the PON loop of `CreateOLT`: the PON's configuration (a `Fatal` exit when it is
missing), the PON-level maps of both ledgers, the port, the check that the ONU range holds
`NumOnuPerPon` IDs (in `uint32`, a `Fatal` exit when it does not), and the port's ONUs, with IDs
from one. -/
def createPon (c : Collaborators) (cfg : GlobalConfig) (o : OltDevice) (i : Nat) :
    Option OltDevice := do
  let ponConf ← cfg.ponConfig (UInt32.ofNat i)
  let o := { o with allocIDs := o.allocIDs.set (UInt32.ofNat i) ∅,
                    gemPortIDs := o.gemPortIDs.set (UInt32.ofNat i) ∅ }
  if ponConf.onuRange.endId - ponConf.onuRange.startId + 1 < cfg.onusPonPort then none
  else
    let onus := (List.range cfg.onusPonPort.toNat).map fun j =>
      createOnu c o.id (UInt32.ofNat i) (UInt32.ofNat (j + 1))
    some { o with pons := o.pons ++ [⟨UInt32.ofNat i, .created, .down, onus⟩] }

/-- The device of `olt = OltDevice{...}` in `CreateOLT`, before its ports. -/
def OltDevice.create (cfg : GlobalConfig) (signature : UInt32) : OltDevice where
  id := cfg.id
  internalState := .created
  operState := .down
  channelOpen := false
  flows := ∅
  pons := []
  nnis := []
  previouslyConnected := false
  enablePerf := cfg.enablePerf
  enableContext := false
  oltServer := false
  allocIDs := ∅
  gemPortIDs := ∅
  signature := signature
  controlledActivation := cfg.controlledActivation.getD .default

/-- `CreateOLT`, for the simulator rather than a mock: the device, then the NNI port that
`CreateNNI` made (`none` for its error, a `Fatal` exit), its PON ports and ONUs, the `initialize`
event, which runs `InitOlt` (`CreateOLT` returns nil when the event fails), and `InitOltStats`,
whose samples only `periodicPortStats` reads and are not kept. -/
def createOLT (c : Collaborators) (cfg : GlobalConfig) (nni : Option NniPort)
    (signature : UInt32) : Option OltDevice := do
  let o := OltDevice.create cfg signature
  let nniPort ← nni
  let o := { o with nnis := o.nnis ++ [nniPort] }
  let o ← (List.range cfg.ponPorts.toNat).foldlM (createPon c cfg) o
  let o ← (internalEvent c o .init).getD none
  let _ ← initOltStats (fun line => if c.unmarshalsPortStats line then some () else none)
    c.oltStatsFile []
  some o

/-! ## Enabling -/

/-- The sends of `Enable` on the OLT's channel: the OLT up, every NNI port up, then, on a reboot
or reconcile, every disabled PON port up, and otherwise every PON port up when the activation mode
is `Default` or `OnlyONU`. -/
def enableSends (o : OltDevice) (rebootFlag : Bool) : List Effect :=
  .sendOlt (.oltIndication .up) :: o.nnis.map (fun nni => .sendOlt (.nniIndication .up nni.id)) ++
    if rebootFlag then
      (o.pons.filter (·.internalState = .disabled)).map fun pon => .sendOlt (.ponIndication .up pon.id)
    else if o.controlledActivation = .default ∨ o.controlledActivation = .onlyOnu then
      o.pons.map fun pon => .sendOlt (.ponIndication .up pon.id)
    else []

/-- `Enable`, up to its sends: refused while the OLT is `deleted`; a previous enable context is
cancelled and a new one made; with `enablePerf` off, the goroutine of `periodicPortStats` is
started after the sends. The ONUs' own goroutines that a reconcile restarts are not modelled. -/
def enable (o : OltDevice) : Reply :=
  if o.internalState = .deleted then
    ⟨o, [], .error (.errorf "Cannot enable OLT while it is rebooting")⟩
  else ⟨{ o with enableContext := true },
    enableSends o o.enableContext ++ (if o.enablePerf then [] else [.startPortStats]), .ok ()⟩

/-! ## The dispatch loop -/

/-- The event of an `OperState` message: `enable` for `UP`, `disable` for `DOWN`. -/
def OperState.tx : OperState → Tx
  | .up => .enable
  | .down => .disable

/-- Modelled from the spec: a PON port's `OperState` machine writes the port's indications
(`sendPonIndication`: the interface indication, then the interface oper indication) when it enters
a state (§4.1: the OperState is used to decide whether to emit indications). -/
def PonPort.fireOper (pon : PonPort) (tx : Tx) : PonPort × List Indication :=
  match pon.operState.fire tx with
  | some s => ({ pon with operState := s }, [.ponIntf pon.id s, .ponOper pon.id s])
  | none => (pon, [])

/-- The enter callbacks of a PON port's `InternalState` machine, which live in `pon.go`: on a move
from `src` to `dst` they move each ONU of the port as the `Collaborators`' `ponEnter` says, in
activation mode `mode`. -/
def PonPort.enter (c : Collaborators) (mode : ActivationMode) (src dst : PonInternalState)
    (pon : PonPort) : PonPort :=
  { pon with onus := pon.onus.map fun onu =>
      { onu with internalState := c.ponEnter mode src dst onu.internalState } }

/-- The PON port after `pon.InternalState.Event(tx)`, by the `Collaborators`' table, with what the
machine's enter callbacks do to the port's ONUs in activation mode `mode`. -/
def PonPort.fireInternal (c : Collaborators) (mode : ActivationMode) (pon : PonPort) (tx : Tx) :
    PonPort :=
  match c.ponTransition tx pon.internalState with
  | some s => { pon.enter c mode pon.internalState s with internalState := s }
  | none => pon

/-- The body of `processOltMessages` for one dequeued message: the device after it and the
indications the loop writes to the stream. An OLT message moves both OLT machines and writes the
OLT indication; an NNI message moves the NNI port's `OperState` and writes its state; a PON message
moves both machines of the port, and its ONUs by the enter callbacks; an alarm is written as it is.
Looking up an unknown NNI or PON port yields nil, which panics. -/
def processMessage (c : Collaborators) (o : OltDevice) : Message → Option (OltDevice × List Indication)
  | .oltIndication s => do
    let o ← (internalEvent c o (if s = .up then .enable else .disable)).getD (some o)
    some ({ o with operState := (o.operState.fire s.tx).getD o.operState }, [.olt s])
  | .alarmIndication alarm => some (o, [.alarm alarm])
  | .nniIndication s nniPortID => do
    let (k, nni) ← findWithIdx? (·.id == nniPortID) o.nnis
    let nni := { nni with operState := (nni.operState.fire s.tx).getD nni.operState }
    some ({ o with nnis := o.nnis.set k nni }, [.nniOper nni.id nni.operState])
  | .ponIndication s ponPortID =>
    match getPonById o ponPortID with
    | .error _ => none
    | .ok (i, pon) =>
      let (pon, inds) := pon.fireOper s.tx
      some (o.modifyPon i fun _ => pon.fireInternal c o.controlledActivation s.tx, inds)
  | _ => some (o, [])

/-! ## Rebooting -/

/-- The `disable` event for every ONU of every PON port, as both branches of `RestartOLT` do. -/
def OltDevice.disableOnus (c : Collaborators) (o : OltDevice) : OltDevice :=
  { o with pons := o.pons.map fun pon => { pon with onus := pon.onus.map (·.fire c .disable) } }

/-- `RestartOLT`, run to its end: the `delete` event (which clears the ledgers; when refused, the
reboot returns), the ONUs disabled, the server stopped, the channel closed (closing a closed
channel panics), the enable context cancelled (a nil cancel function panics), the new signature,
and the `initialize` event, which runs `InitOlt`. -/
def restartOLT (c : Collaborators) (signature : UInt32) (o : OltDevice) : Option OltDevice :=
  let o := { o with previouslyConnected := false }
  match internalEvent c o .delete with
  | none => some o
  | some none => none
  | some (some o) =>
    let o : OltDevice := { o.disableOnus c with oltServer := false }
    if !o.channelOpen then none
    else if !o.enableContext then none
    else
      let o := { o with channelOpen := false, signature := signature }
      (internalEvent c o .init).getD (some o)

end Bbsim
