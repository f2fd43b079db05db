import Bbsim.Devices.Flows

/-!
# The OpenOLT handlers

The gRPC handlers of `olt.go` other than the flow handlers, and `SetAlarm`, which the simulator's
own API calls. Each returns the device after it, the sends and stream writes it made, and its
result; `none` is a panic. Several handlers drop the error of a lookup (`pon, _ := ...`) or log it
and go on; they then call a method on a nil port or ONU, which panics.

The ONU and PON `InternalState` machines are the `Collaborators`' tables. What the ONU's own
goroutines do after a transition (`ReDiscoverOnu`, the ONU's enter callbacks) is not modelled.
-/

namespace Bbsim

/-- The ONU after `onu.InternalState.Event(tx)`: the state moves when the table allows the event,
and stays when the machine refuses it (the handlers only log the error). -/
def Onu.fire (c : Collaborators) (tx : Tx) (onu : Onu) : Onu :=
  match c.onuTransition tx onu.internalState with
  | some s => { onu with internalState := s }
  | none => onu

/-- `ActivateOnu`: the ONU's maps of both ledgers are reset, then the ONU with the serial number
has its event published, gets the ID and the `enable` event. Both lookup errors are dropped. -/
def activateOnu (c : Collaborators) (o : OltDevice) (intfId onuId : UInt32)
    (serialNumber : SerialNumber) : Option Reply := do
  let allocIDs ← o.allocIDs.resetOnu intfId onuId
  let gemPortIDs ← o.gemPortIDs.resetOnu intfId onuId
  let o := { o with allocIDs := allocIDs, gemPortIDs := gemPortIDs }
  match getPonById o intfId with
  | .error _ => none
  | .ok (i, pon) =>
    let (j, onu) ← pon.getOnuBySn serialNumber
    some ⟨o.modifyOnu i j fun onu => { onu with id := onuId }.fire c .enable,
      [.publish "ONU-activate-indication-received" (int32 intfId) (int32 onuId)
        (c.onuSn onu.serialNumber)], .ok ()⟩

/-- `DeleteOnu`: the ONU gets the `disable` event unless it is disabled. Both lookup errors are
logged, and the handler goes on with the nil port or ONU. -/
def deleteOnu (c : Collaborators) (o : OltDevice) (intfId onuId : UInt32) : Option Reply :=
  match getPonById o intfId with
  | .error _ => none
  | .ok (i, pon) =>
    match pon.getOnuById c onuId with
    | .error _ => none
    | .ok (j, onu) =>
      if onu.internalState ≠ .disabled then
        some ⟨o.modifyOnu i j (·.fire c .disable), [], .ok ()⟩
      else some ⟨o, [], .ok ()⟩

/-- `DisableOlt`: its event, then a PON indication `DOWN` for every enabled PON port and an OLT
indication `DOWN`, all on the OLT's channel. -/
def disableOlt (o : OltDevice) : Reply :=
  ⟨o, .publish "OLT-disable-received" (-1) (-1) "" ::
    ((o.pons.filter (·.internalState = .enabled)).map (fun pon =>
      .sendOlt (.ponIndication .down pon.id)) ++ [.sendOlt (.oltIndication .down)]), .ok ()⟩

/-- `ReenableOlt`: its event, then an OLT indication `UP` and a PON indication `UP` for every
disabled PON port. -/
def reenableOlt (o : OltDevice) : Reply :=
  ⟨o, .publish "OLT-reenable-received" (-1) (-1) "" :: .sendOlt (.oltIndication .up) ::
    (o.pons.filter (·.internalState = .disabled)).map (fun pon =>
      .sendOlt (.ponIndication .up pon.id)), .ok ()⟩

/-- Modelled from the spec: `onu.sendOnuIndication`, which `DisablePonIf` and `EnablePonIf` call
with the session's stream, writes the ONU's indication to that stream itself (§7: "on disable,
also emits down indications for every ONU under that PON"). -/
def sendOnuIndication (ponID : UInt32) (operState : OperState) (onu : Onu) : Effect :=
  .write (.onu ponID onu.id onu.serialNumber operState)

/-- The body shared by `DisablePonIf` and `EnablePonIf`: a PON indication on the OLT's channel,
then an ONU indication for every ONU of the port, written by the handler. The PON's lookup error is
dropped, so an unknown port panics after the send. -/
def setPonIf (o : OltDevice) (intfId : UInt32) (operState : OperState) : Option Reply :=
  match getPonById o intfId with
  | .error _ => none
  | .ok (_, pon) =>
    some ⟨o, .sendOlt (.ponIndication operState intfId) ::
      pon.onus.map (sendOnuIndication intfId operState), .ok ()⟩

/-- `DisablePonIf`. -/
def disablePonIf (o : OltDevice) (intfId : UInt32) : Option Reply := setPonIf o intfId .down

/-- `EnablePonIf`. -/
def enablePonIf (o : OltDevice) (intfId : UInt32) : Option Reply := setPonIf o intfId .up

/-- `OmciMsgOut`: both lookup errors are returned; a packet the OMCI codec rejects is an error;
the message is dropped when the ONU is disabled, and sent on the ONU's channel otherwise. -/
def omciMsgOut (c : Collaborators) (o : OltDevice) (intfId onuId : UInt32) (pkt : List UInt8) :
    Reply :=
  match getPonById o intfId with
  | .error e => ⟨o, [], .error e⟩
  | .ok (i, pon) =>
    match pon.getOnuById c onuId with
    | .error e => ⟨o, [], .error e⟩
    | .ok (j, onu) =>
      if ¬ c.parsesOmci pkt then ⟨o, [], .error (.errorf "olt-received-malformed-omci-packet")⟩
      else if onu.internalState = .disabled then ⟨o, [], .ok ()⟩
      else ⟨o, [.sendOnu i j (.omci onu.serialNumber onu.id pkt)], .ok ()⟩

/-- `OnuPacketOut`: both lookup errors are logged, and the handler goes on with the nil port or
ONU; a packet whose type or destination cannot be read is dropped. -/
def onuPacketOut (c : Collaborators) (o : OltDevice) (intfId onuId portNo : UInt32)
    (pkt : List UInt8) : Option Reply :=
  match getPonById o intfId with
  | .error _ => none
  | .ok (i, pon) =>
    match pon.getOnuById c onuId with
    | .error _ => none
    | .ok (j, _) =>
      if c.classifiesPacket pkt then
        some ⟨o, [.sendOnu i j (.onuPacketOut intfId onuId portNo pkt)], .ok ()⟩
      else some ⟨o, [], .ok ()⟩

/-- The body shared by `CreateTrafficSchedulers` and `RemoveTrafficSchedulers`: with `enablePerf`
off, both lookup errors are returned and the ONU's schedulers are set to `value`. -/
def setTrafficSchedulers (c : Collaborators) (o : OltDevice) (ts : TrafficSchedulers)
    (value : Option TrafficSchedulers) : Reply :=
  if o.enablePerf then ⟨o, [], .ok ()⟩
  else
    match getPonById o ts.intfId with
    | .error e => ⟨o, [], .error e⟩
    | .ok (i, pon) =>
      match pon.getOnuById c ts.onuId with
      | .error e => ⟨o, [], .error e⟩
      | .ok (j, _) => ⟨o.modifyOnu i j fun onu => { onu with trafficSchedulers := value }, [], .ok ()⟩

/-- `CreateTrafficSchedulers`. -/
def createTrafficSchedulers (c : Collaborators) (o : OltDevice) (ts : TrafficSchedulers) : Reply :=
  setTrafficSchedulers c o ts (some ts)

/-- `RemoveTrafficSchedulers`. -/
def removeTrafficSchedulers (c : Collaborators) (o : OltDevice) (ts : TrafficSchedulers) : Reply :=
  setTrafficSchedulers c o ts none

/-- `SetAlarm`: an NNI or PON interface must exist; the loss-of-signal alarm is sent on the OLT's
channel. -/
def setAlarm (c : Collaborators) (o : OltDevice) (interfaceId : UInt32)
    (interfaceType alarmStatus : String) : Reply :=
  if interfaceType = "nni" ∧ ¬ hasNni o interfaceId then
    ⟨o, [], .error ⟨.notFound, toString interfaceId.toNat ++ " NNI not present in olt"⟩⟩
  else if interfaceType = "pon" ∧ ¬ hasPon o interfaceId then
    ⟨o, [], .error ⟨.notFound, toString interfaceId.toNat ++ " PON not present in olt"⟩⟩
  else
    ⟨o, [.sendOlt (.alarmIndication ⟨alarmStatus, c.interfaceIdToPortNo interfaceId interfaceType⟩)],
      .ok ()⟩

/-- A request to the device: the OpenOLT handlers that change it or send, and `SetAlarm`. -/
inductive Rpc
  | activateOnu (intfId onuId : UInt32) (serialNumber : SerialNumber)
  | deleteOnu (intfId onuId : UInt32)
  | disableOlt
  | reenableOlt
  | disablePonIf (intfId : UInt32)
  | enablePonIf (intfId : UInt32)
  | flowAdd (flow : Flow)
  | flowRemove (flow : Flow)
  | omciMsgOut (intfId onuId : UInt32) (pkt : List UInt8)
  | onuPacketOut (intfId onuId portNo : UInt32) (pkt : List UInt8)
  | createTrafficSchedulers (ts : TrafficSchedulers)
  | removeTrafficSchedulers (ts : TrafficSchedulers)
  | setAlarm (interfaceId : UInt32) (interfaceType alarmStatus : String)

/-- The handler of a request, run to its end; `none` is a panic. -/
def Rpc.handle (c : Collaborators) (o : OltDevice) : Rpc → Option Reply
  | .activateOnu intfId onuId sn => Bbsim.activateOnu c o intfId onuId sn
  | .deleteOnu intfId onuId => Bbsim.deleteOnu c o intfId onuId
  | .disableOlt => some (Bbsim.disableOlt o)
  | .reenableOlt => some (Bbsim.reenableOlt o)
  | .disablePonIf intfId => Bbsim.disablePonIf o intfId
  | .enablePonIf intfId => Bbsim.enablePonIf o intfId
  | .flowAdd flow => Bbsim.flowAdd c o flow
  | .flowRemove flow => some (Bbsim.flowRemove c o flow)
  | .omciMsgOut intfId onuId pkt => some (Bbsim.omciMsgOut c o intfId onuId pkt)
  | .onuPacketOut intfId onuId portNo pkt => Bbsim.onuPacketOut c o intfId onuId portNo pkt
  | .createTrafficSchedulers ts => some (Bbsim.createTrafficSchedulers c o ts)
  | .removeTrafficSchedulers ts => some (Bbsim.removeTrafficSchedulers c o ts)
  | .setAlarm interfaceId interfaceType alarmStatus =>
    some (Bbsim.setAlarm c o interfaceId interfaceType alarmStatus)

end Bbsim
