import Bbsim.Devices.Types

/-!
# The resource ledgers

`AllocIDs` and `GemPortIDs` record, per PON, ONU, port and resource ID, the flows that use each
Alloc-ID and GEM port, so that the simulator can check that the adapter never gives one resource to
two ONUs of a PON. This module translates the functions of `olt.go` that write and read them:
`storeAllocId`, `storeGemPortId` and `storeGemPortIdByFlow`, `freeAllocId` and `freeGemPortId`,
`validateFlow` and `clearAllResources`, and the resets of `ActivateOnu` and `InitOlt`.

The two `store` functions and the two `free` functions differ only in the ledger and the resource
they use, so each pair is one definition (`storeResource`, `freeResource`) applied to the member's
values. The ledger's meaning is the set of tuples `(PON, ONU, port, resource, flow)` it records
(`Ledger.Has`) and the resource keys it holds (`Ledger.HasKey`); each function gets a lemma that
says what it does to them, and later proofs use only those lemmas.
-/

namespace Bbsim

/-! ## Reading the ledger -/

/-- The resources the ledger records under PON `p`, ONU `o` and port `n`: `L[p][o][n]`, empty when
a level is missing. -/
def Ledger.port (L : Ledger) (p o n : UInt32) : GoMap GoInt32 FlowSet :=
  ((L.get p).get o).get n

/-- The flow IDs the ledger records under PON `p`, ONU `o`, port `n` and resource `r`. -/
def Ledger.flowsAt (L : Ledger) (p o n : UInt32) (r : GoInt32) : FlowSet :=
  (L.port p o n).get r

/-- The ledger records flow `fid` under PON `p`, ONU `o`, port `n` and resource `r`. -/
def Ledger.Has (L : Ledger) (p o n : UInt32) (r : GoInt32) (fid : UInt64) : Prop :=
  fid ∈ L.flowsAt p o n r

/-- Resource `r` is a key of the ledger under PON `p`, ONU `o` and port `n`. -/
def Ledger.HasKey (L : Ledger) (p o n : UInt32) (r : GoInt32) : Prop :=
  r ∈ L.port p o n

/-- The map of ONU `o` on PON `p` exists, so that assignments into it do not panic. -/
def Ledger.HasOnu (L : Ledger) (p o : UInt32) : Prop :=
  ((L.get p).lookup o).isSome

instance (L : Ledger) (p o n : UInt32) (r : GoInt32) (fid : UInt64) : Decidable (L.Has p o n r fid) :=
  inferInstanceAs (Decidable (fid ∈ L.flowsAt p o n r))

instance (L : Ledger) (p o n : UInt32) (r : GoInt32) : Decidable (L.HasKey p o n r) :=
  inferInstanceAs (Decidable (r ∈ L.port p o n))

instance (L : Ledger) (p o : UInt32) : Decidable (L.HasOnu p o) :=
  inferInstanceAs (Decidable (_ = true))

/-! ## Storing -/

/-- The body shared by `storeAllocId` and `storeGemPortId`: records `flowId` under resource `r` of
port `portNo` of ONU `onuId` on PON `ponId`. The port's map and the resource's set are made when
missing; the ONU's map is not, and the assignment into it panics (`none`) when it is a nil map.
The check that logs `trying-to-store-...-for-unknown-onu` changes nothing. -/
def storeResource (L : Ledger) (ponId onuId portNo : UInt32) (r : GoInt32) (flowId : UInt64) :
    Option Ledger :=
  L.update? ponId fun onus => onus.update? onuId fun ports =>
    let resources := ports.get portNo
    some (ports.set portNo (resources.set r ((resources.get r).set flowId true)))

/-- `storeAllocId`. -/
def storeAllocId (o : OltDevice) (flow : Flow) : Option OltDevice :=
  (storeResource o.allocIDs (uint32 flow.accessIntfId) (uint32 flow.onuId) flow.portNo
    flow.allocId flow.flowId).map fun L => { o with allocIDs := L }

/-- `storeGemPortId`. -/
def storeGemPortId (o : OltDevice) (ponId onuId portNo : UInt32) (gemId : GoInt32)
    (flowId : UInt64) : Option OltDevice :=
  (storeResource o.gemPortIDs ponId onuId portNo gemId flowId).map fun L => { o with gemPortIDs := L }

/-- `storeGemPortIdByFlow`: one `storeGemPortId` per value of `PbitToGemport` for a replicated
flow, else one for `GemportId`. -/
def storeGemPortIdByFlow (o : OltDevice) (flow : Flow) : Option OltDevice :=
  if flow.replicateFlow then
    flow.pbitToGemport.entries.foldlM (fun o gem => storeGemPortId o (uint32 flow.accessIntfId)
      (uint32 flow.onuId) flow.portNo (int32 gem.2) flow.flowId) o
  else
    storeGemPortId o (uint32 flow.accessIntfId) (uint32 flow.onuId) flow.portNo flow.gemportId
      flow.flowId

/-- The GEM ports of a flow, as `storeGemPortIdByFlow` and `validateFlow` read them. -/
def gemPorts (flow : Flow) : List GoInt32 :=
  if flow.replicateFlow then flow.pbitToGemport.entries.map (fun gem => int32 gem.2)
  else [flow.gemportId]

/-! ## Freeing -/

/-- The body of the innermost loop of `freeAllocId` and `freeGemPortId`, visiting flow `f` of
resource `r` of a port: `flowId` is deleted from the resource's set when it is the flow visited,
and the resource is deleted when its set is then empty, both from the maps being iterated. -/
def freeVisitBody (flowId : UInt64) (r : GoInt32) (resources : GoMap GoInt32 FlowSet)
    (f : UInt64) : GoMap GoInt32 FlowSet :=
  let resources := if flowId = f then resources.modify r (·.delete flowId) else resources
  if (resources.get r).isEmpty then resources.delete r else resources

/-- The two inner loops of `freeAllocId` and `freeGemPortId`, over the resources of one port. -/
def freeInPort (resources : GoMap GoInt32 FlowSet) (flowId : UInt64) : GoMap GoInt32 FlowSet :=
  resources.entries.foldl (fun resources e =>
    e.2.entries.foldl (fun resources f => freeVisitBody flowId e.1 resources f.1) resources)
    resources

/-- The loops shared by `freeAllocId` and `freeGemPortId`, which read only the flow's ID. -/
def freeResource (L : Ledger) (flowId : UInt64) : Ledger :=
  L.rangeUpdate fun _ onus => onus.rangeUpdate fun _ ports => ports.rangeUpdate fun _ resources =>
    freeInPort resources flowId

/-- `freeAllocId`. -/
def freeAllocId (o : OltDevice) (flow : Flow) : OltDevice :=
  { o with allocIDs := freeResource o.allocIDs flow.flowId }

/-- `freeGemPortId`. -/
def freeGemPortId (o : OltDevice) (flow : Flow) : OltDevice :=
  { o with gemPortIDs := freeResource o.gemPortIDs flow.flowId }

/-- `L[p][o] = make(...)` in `ActivateOnu`: the ONU's map becomes empty; the assignment panics
when PON `p` has no map. -/
def Ledger.resetOnu (L : Ledger) (p o : UInt32) : Option Ledger :=
  L.update? p fun onus => some (onus.set o ∅)

/-- The PON-level maps that `InitOlt` makes in a ledger, one per position of a PON port (the
`range` loop over `o.Pons` gives positions, not IDs). -/
def Ledger.initPons (L : Ledger) (n : Nat) : Ledger :=
  (List.range n).foldl (fun L p => L.set (UInt32.ofNat p) ∅) L

/-- `clearAllResources`: both ledgers become empty maps. The PON ports' own pools of IDs, which
`pon.go` keeps, are not modelled. -/
def clearAllResources (o : OltDevice) : OltDevice :=
  { o with gemPortIDs := ∅, allocIDs := ∅ }

/-! ## Validating -/

/-- The GEM-port loop of `validateFlow`: the first GEM port of another ONU on the flow's PON that
the flow also uses, as an error. -/
def validateGemPorts (G : Ledger) (flow : Flow) : Option RpcError :=
  (G.get (uint32 flow.accessIntfId)).entries.findSome? fun onu =>
    if onu.1 = uint32 flow.onuId then none else
    onu.2.entries.findSome? fun uni => uni.2.entries.findSome? fun gem =>
      if flow.replicateFlow then
        flow.pbitToGemport.entries.findSome? fun flowGem =>
          if gem.1 = int32 flowGem.2 then
            some (.errorf ("gem-" ++ fmtInt32 gem.1 ++ "-already-in-use-on-uni-" ++ toString uni.1 ++
              "-onu-" ++ toString onu.1 ++ "-replicated-flow-" ++ toString flow.flowId))
          else none
      else if gem.1 = flow.gemportId then
        some (.errorf ("gem-" ++ fmtInt32 gem.1 ++ "-already-in-use-on-uni-" ++ toString uni.1 ++
          "-onu-" ++ toString onu.1 ++ "-flow-" ++ toString flow.flowId))
      else none

/-- The Alloc-ID loop of `validateFlow`. -/
def validateAllocId (A : Ledger) (flow : Flow) : Option RpcError :=
  (A.get (uint32 flow.accessIntfId)).entries.findSome? fun onu =>
    if onu.1 = uint32 flow.onuId then none else
    onu.2.entries.findSome? fun uni => uni.2.entries.findSome? fun allocId =>
      if allocId.1 = flow.allocId then
        some (.errorf ("allocId-" ++ fmtInt32 allocId.1 ++ "-already-in-use-on-uni-" ++
          toString uni.1 ++ "-onu-" ++ toString onu.1 ++ "-flow-" ++ toString flow.flowId))
      else none

/-- `validateFlow`: the GEM ports first, then the Alloc-ID; `none` is a nil error. -/
def validateFlow (o : OltDevice) (flow : Flow) : Option RpcError :=
  (validateGemPorts o.gemPortIDs flow).orElse fun _ => validateAllocId o.allocIDs flow

end Bbsim
