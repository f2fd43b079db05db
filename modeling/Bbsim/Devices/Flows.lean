import Bbsim.Devices.Ledger
import Bbsim.Devices.Topology

/-!
# Adding and removing flows

`FlowAdd` and `FlowRemove` of `olt.go`. A flow of an ONU (one whose `AccessIntfId` is not `-1` and
whose type is not multicast) is checked against its ONU's state and against the ledgers, recorded
in them, and sent to its ONU's channel; a removal frees both ledgers first, whatever the request,
and then finds the stored flow's ONU. With `enablePerf` off, both also keep the device's flow table
and the ONU's flow list.

A handler returns `none` when it panics: `FlowAdd` reads the fields of a missing classifier,
dereferences the PON port that `GetPonById` did not find, and its `store` calls assign into a
missing ONU map of the ledgers. `FlowAdd` publishes an event when an ONU gets its first flow key,
and `FlowRemove` one for every stored flow it removes from its ONU.
-/

namespace Bbsim

/-- The first lines of `FlowAdd`: with `enablePerf` off, the flow is stored in the flow table
under its key, whatever follows. -/
def OltDevice.storeFlow (o : OltDevice) (flow : Flow) : OltDevice :=
  if o.enablePerf then o else { o with flows := o.flows.set ⟨flow.flowId⟩ flow }

/-- `onu.Flows = append(onu.Flows, flowKey)` for the ONU at position `j` of the port at position
`i`, with `enablePerf` off. -/
def OltDevice.appendFlowKey (o : OltDevice) (i j : Nat) (flow : Flow) : OltDevice :=
  if o.enablePerf then o
  else o.modifyOnu i j fun onu => { onu with flows := onu.flows ++ [⟨flow.flowId⟩] }

/-- The error of `FlowAdd` for an ONU that is disabled or pon-disabled. -/
def onuStateError (c : Collaborators) (onu : Onu) : RpcError :=
  .errorf ("onu-" ++ c.onuSn onu.serialNumber ++ "-is-currently-" ++ onu.internalState.current)

/-- The event `FlowAdd` publishes for the ONU `onu` once it has appended the flow's key to the
ONU's list, with `enablePerf` off: when the key is the list's first. -/
def flowAddEvent (c : Collaborators) (o : OltDevice) (onu : Onu) (flow : Flow) : List Effect :=
  if o.enablePerf then []
  else if (onu.flows ++ [(⟨flow.flowId⟩ : FlowKey)]).length = 1 then
    [.publish "Flow-add-received" (int32 onu.ponPortID) (int32 onu.id) (c.onuSn onu.serialNumber)]
  else []

/-- The end of `FlowAdd`, once the flow's ONU is found and ready and the `events` are published:
`validateFlow`, then the GEM ports and the Alloc-ID are stored, and the flow is sent on the ONU's
channel. -/
def flowAddTail (o : OltDevice) (flow : Flow) (i j : Nat) (pon : PonPort) (onu : Onu)
    (events : List Effect) : Option Reply :=
  match validateFlow o flow with
  | some e => some ⟨o, events, .error e⟩
  | none => do
    let o ← storeGemPortIdByFlow o flow
    let o ← storeAllocId o flow
    some ⟨o, events ++ [.sendOnu i j (.flowAdd pon.id onu.id flow)], .ok ()⟩

/-- `FlowAdd`. Its first log line reads the fields of the flow's `Classifier`, which panics when
there is none. -/
def flowAdd (c : Collaborators) (o : OltDevice) (flow : Flow) : Option Reply :=
  if flow.classifier = none then none else
  let o := o.storeFlow flow
  if flow.accessIntfId = -1 then some ⟨o, [], .ok ()⟩
  else if flow.flowType = "multicast" then some ⟨o, [], .ok ()⟩
  else
    match getPonById o (uint32 flow.accessIntfId) with
    | .error _ => none
    | .ok (i, pon) =>
      match pon.getOnuById c (uint32 flow.onuId) with
      | .error e => some ⟨o, [], .error e⟩
      | .ok (j, onu) =>
        if onu.internalState = .ponDisabled ∨ onu.internalState = .disabled then
          some ⟨o, [], .error (onuStateError c onu)⟩
        else
          flowAddTail (o.appendFlowKey i j flow) flow i j pon onu (flowAddEvent c o onu flow)

/-- The block of `FlowRemove` that runs when `enablePerf` is off: the stored flow is looked up by
the request's ID, removed from its ONU's flow list, with an event, and deleted from the flow table.
It returns the device and the event, or the reply of a `return` inside it. -/
def removeStoredFlow (c : Collaborators) (o : OltDevice) (flow : Flow) :
    Except Reply (OltDevice × List Effect) :=
  let flowKey : FlowKey := ⟨flow.flowId⟩
  match o.flows.lookup flowKey with
  | none => .error ⟨o, [], .error ⟨.notFound, "Flow not found"⟩⟩
  | some storedFlow =>
    if storedFlow.accessIntfId ≠ -1 then
      match getPonById o (uint32 storedFlow.accessIntfId) with
      | .error _ => .error ⟨o, [], .ok ()⟩
      | .ok (i, pon) =>
        match pon.getOnuById c (uint32 storedFlow.onuId) with
        | .error _ => .error ⟨o, [], .ok ()⟩
        | .ok (j, onu) =>
          let o := o.modifyOnu i j (·.deleteFlow flowKey)
          .ok ({ o with flows := o.flows.delete flowKey },
            [.publish "Flow-remove-received" (int32 onu.ponPortID) (int32 onu.id)
              (c.onuSn onu.serialNumber)])
    else .ok ({ o with flows := o.flows.delete flowKey }, [])

/-- The end of `FlowRemove`, once both ledgers are freed: with `enablePerf` off the stored flow is
removed, and then the removal is sent to the ONU whose `FlowIds` hold the flow's ID, unless the
request is an OLT or a multicast flow. -/
def flowRemoveTail (c : Collaborators) (o : OltDevice) (flow : Flow) : Reply :=
  match (if o.enablePerf then .ok (o, []) else removeStoredFlow c o flow) with
  | .error r => r
  | .ok (o, events) =>
    if flow.accessIntfId = -1 then ⟨o, events, .ok ()⟩
    else if flow.flowType = "multicast" then ⟨o, events, .ok ()⟩
    else
      match getOnuByFlowId o flow.flowId with
      | .error e => ⟨o, events, .error e⟩
      | .ok (i, j) => ⟨o, events ++ [.sendOnu i j (.flowRemoved flow)], .ok ()⟩

/-- `FlowRemove`: both ledgers are freed first, whatever the request. -/
def flowRemove (c : Collaborators) (o : OltDevice) (flow : Flow) : Reply :=
  flowRemoveTail c (freeAllocId (freeGemPortId o flow) flow) flow

end Bbsim
