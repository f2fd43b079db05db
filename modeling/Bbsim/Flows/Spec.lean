import Bbsim.Ledger.Spec
import Bbsim.Devices.Flows

/-!
# What the flow handlers do

One inversion lemma for `FlowAdd` says everything a call can do; the ledgers after a call, the
frame of a rejected flow and the keys a call leaves in its ONU's flow list are read off it.

`FlowRemove` frees both ledgers by the request's flow ID before it reads anything else of the
request, and removes the stored flow by that ID too: the device it leaves depends on the ID alone.
Its result and its send depend also on whether the request is an ONU flow, which it reads from the
request rather than from the stored flow.
-/

namespace Bbsim

variable {c : Collaborators} {o : OltDevice} {flow : Flow} {r : Reply}

/-! ## The pieces of `FlowAdd` -/

section Pieces

variable (o : OltDevice) (flow : Flow) (i j : Nat)

@[simp] theorem storeFlow_allocIDs : (o.storeFlow flow).allocIDs = o.allocIDs := by
  unfold OltDevice.storeFlow; split <;> rfl

@[simp] theorem storeFlow_gemPortIDs : (o.storeFlow flow).gemPortIDs = o.gemPortIDs := by
  unfold OltDevice.storeFlow; split <;> rfl

@[simp] theorem storeFlow_pons : (o.storeFlow flow).pons = o.pons := by
  unfold OltDevice.storeFlow; split <;> rfl

@[simp] theorem storeFlow_enablePerf : (o.storeFlow flow).enablePerf = o.enablePerf := by
  unfold OltDevice.storeFlow; split <;> rfl

@[simp] theorem appendFlowKey_allocIDs : (o.appendFlowKey i j flow).allocIDs = o.allocIDs := by
  unfold OltDevice.appendFlowKey; split <;> rfl

@[simp] theorem appendFlowKey_gemPortIDs : (o.appendFlowKey i j flow).gemPortIDs = o.gemPortIDs := by
  unfold OltDevice.appendFlowKey; split <;> rfl

@[simp] theorem appendFlowKey_flows : (o.appendFlowKey i j flow).flows = o.flows := by
  unfold OltDevice.appendFlowKey; split <;> rfl

theorem getPonById_storeFlow (id : UInt32) : getPonById (o.storeFlow flow) id = getPonById o id := by
  unfold OltDevice.storeFlow; split <;> rfl

@[simp] theorem flowAddEvent_storeFlow (c : Collaborators) (onu : Onu) (flow' : Flow) :
    flowAddEvent c (o.storeFlow flow') onu flow = flowAddEvent c o onu flow := by
  simp only [flowAddEvent, storeFlow_enablePerf]

end Pieces

/-- The event of a first flow key goes to the events. -/
theorem flowAddEvent_target (c : Collaborators) (o : OltDevice) (onu : Onu) (flow : Flow) :
    ∀ e ∈ flowAddEvent c o onu flow, e.target = .events := by
  intro e he
  unfold flowAddEvent at he
  split_ifs at he <;> simp_all [Effect.target]

/-- The event of a first flow key is one that `enablePerf` switches off. -/
theorem flowAddEvent_filter_keptByPerf (c : Collaborators) (o : OltDevice) (onu : Onu)
    (flow : Flow) :
    (flowAddEvent c o onu flow).filter Effect.keptByPerf = [] := by
  unfold flowAddEvent
  split_ifs <;> simp [Effect.keptByPerf]

/-- `validateFlow` reads the ledgers only. -/
theorem validateFlow_congr {o o' : OltDevice} (hA : o'.allocIDs = o.allocIDs)
    (hG : o'.gemPortIDs = o.gemPortIDs) : validateFlow o' flow = validateFlow o flow := by
  simp only [validateFlow, hA, hG]

/-! ## Inversion -/

/-- The end of `FlowAdd` rejects the flow that `validateFlow` rejects, leaving the device as it is,
and otherwise stores it in both ledgers under its ONU's maps, which must exist. -/
theorem flowAddTail_cases {i j : Nat} {pon : PonPort} {onu : Onu} {events : List Effect}
    (h : flowAddTail o flow i j pon onu events = some r) :
    (∃ e, validateFlow o flow = some e ∧ r = ⟨o, events, .error e⟩) ∨
    (validateFlow o flow = none ∧
      o.allocIDs.HasOnu (uint32 flow.accessIntfId) (uint32 flow.onuId) ∧
      (gemPorts flow = [] ∨ o.gemPortIDs.HasOnu (uint32 flow.accessIntfId) (uint32 flow.onuId)) ∧
      r = ⟨{ o with
              gemPortIDs := flowGemsResult o.gemPortIDs flow,
              allocIDs := (storeResult o.allocIDs (uint32 flow.accessIntfId) (uint32 flow.onuId)
                flow.portNo flow.allocId flow.flowId) },
            events ++ [.sendOnu i j (.flowAdd pon.id onu.id flow)], .ok ()⟩) := by
  unfold flowAddTail at h
  split at h
  · exact .inl ⟨_, ‹_›, (Option.some.inj h).symm⟩
  · rw [storeGemPortIdByFlow_eq] at h
    split_ifs at h with hg
    · simp only [Option.bind_eq_bind, Option.some_bind, storeAllocId_eq] at h
      split_ifs at h with ha
      · exact .inr ⟨‹_›, ha, hg, (Option.some.inj h).symm⟩
      · cases h
    · cases h

/-- A call of `FlowAdd` that does not panic has a classifier, whose fields its first log line
reads. -/
theorem classifier_of_flowAdd (h : flowAdd c o flow = some r) : flow.classifier ≠ none := by
  intro hc
  simp [flowAdd, hc] at h

/-- Everything a call of `FlowAdd` that does not panic can do. An OLT or multicast flow is only
stored in the flow table. An ONU flow needs its PON port, since a missing one panics; a missing
ONU or an ONU that is disabled or pon-disabled is an error; otherwise the flow's key is appended to
the ONU's list and the end of `FlowAdd` runs. -/
theorem flowAdd_cases (h : flowAdd c o flow = some r) :
    ((flow.accessIntfId = -1 ∨ flow.flowType = "multicast") ∧ r = ⟨o.storeFlow flow, [], .ok ()⟩) ∨
    (flow.accessIntfId ≠ -1 ∧ flow.flowType ≠ "multicast" ∧
      ∃ i pon, getPonById o (uint32 flow.accessIntfId) = .ok (i, pon) ∧
        ((∃ e, pon.getOnuById c (uint32 flow.onuId) = .error e ∧
            r = ⟨o.storeFlow flow, [], .error e⟩) ∨
         ∃ j onu, pon.getOnuById c (uint32 flow.onuId) = .ok (j, onu) ∧
           (((onu.internalState = .ponDisabled ∨ onu.internalState = .disabled) ∧
               r = ⟨o.storeFlow flow, [], .error (onuStateError c onu)⟩) ∨
            (¬ (onu.internalState = .ponDisabled ∨ onu.internalState = .disabled) ∧
               flowAddTail ((o.storeFlow flow).appendFlowKey i j flow) flow i j pon onu
                 (flowAddEvent c o onu flow) = some r)))) := by
  unfold flowAdd at h
  simp only [getPonById_storeFlow, flowAddEvent_storeFlow] at h
  split_ifs at h with h0 h1 h2
  · exact .inl ⟨.inl h1, (Option.some.inj h).symm⟩
  · exact .inl ⟨.inr h2, (Option.some.inj h).symm⟩
  · refine .inr ⟨h1, h2, ?_⟩
    split at h
    · cases h
    · rename_i i pon hpon
      refine ⟨i, pon, hpon, ?_⟩
      split at h
      · exact .inl ⟨_, ‹_›, (Option.some.inj h).symm⟩
      · rename_i j onu honu
        refine .inr ⟨j, onu, honu, ?_⟩
        split_ifs at h with hs
        · exact .inl ⟨hs, (Option.some.inj h).symm⟩
        · exact .inr ⟨hs, h⟩

/-- The ledgers after `FlowAdd`: untouched, unless it accepts an ONU flow, which then passed
`validateFlow` on them and is stored under its ONU's maps, which exist. -/
theorem flowAdd_ledgers (h : flowAdd c o flow = some r) :
    (r.dev.allocIDs = o.allocIDs ∧ r.dev.gemPortIDs = o.gemPortIDs ∧
      (r.result = .ok () → flow.accessIntfId = -1 ∨ flow.flowType = "multicast")) ∨
    (r.result = .ok () ∧ flow.accessIntfId ≠ -1 ∧ flow.flowType ≠ "multicast" ∧
      validateFlow o flow = none ∧
      o.allocIDs.HasOnu (uint32 flow.accessIntfId) (uint32 flow.onuId) ∧
      r.dev.allocIDs = storeResult o.allocIDs (uint32 flow.accessIntfId) (uint32 flow.onuId)
        flow.portNo flow.allocId flow.flowId ∧
      r.dev.gemPortIDs = flowGemsResult o.gemPortIDs flow) := by
  rcases flowAdd_cases h with ⟨hk, rfl⟩ |
    ⟨h1, h2, i, pon, -, ⟨e, -, rfl⟩ | ⟨j, onu, -, ⟨-, rfl⟩ | ⟨-, ht⟩⟩⟩
  · exact .inl ⟨by simp, by simp, fun _ => hk⟩
  · exact .inl ⟨by simp, by simp, nofun⟩
  · exact .inl ⟨by simp, by simp, nofun⟩
  · rcases flowAddTail_cases ht with ⟨e, -, rfl⟩ | ⟨hv, ha, -, rfl⟩
    · exact .inl ⟨by simp, by simp, nofun⟩
    · rw [validateFlow_congr (o := o) (by simp) (by simp)] at hv
      exact .inr ⟨rfl, h1, h2, hv, by simpa using ha, by simp, by simp⟩

/-! ## A sample device

The concrete calls that show the theorems below at work run on one enabled OLT with one PON port
and one activated ONU.
-/

/-- Collaborators for the concrete calls: every ONU and PON event is taken, to `enabled` on `enable`
and to `disabled` on `disable`; a port's enter callbacks take its enabled ONUs to pon-disabled when
it is disabled, and back when it is enabled again; every payload is accepted, the server listens,
and the statistics file holds one sample. -/
def sampleCollaborators : Collaborators where
  onuTransition tx _ := some (match tx with | .enable => .enabled | .disable => .disabled)
  ponTransition tx _ := some (match tx with | .enable => .enabled | .disable => .disabled)
  parsesOmci _ := true
  classifiesPacket _ := true
  onuNotFound _ _ := ⟨.notFound, "onu-not-found"⟩
  onuSn _ := "BBSM00000001"
  interfaceIdToPortNo id _ := id
  newSn _ pon onu := ⟨"BBSM", [pon.toUInt8, onu.toUInt8]⟩
  ponEnter _ src dst s := match src, dst, s with
    | .enabled, .disabled, .enabled => .ponDisabled
    | .disabled, .enabled, .ponDisabled => .enabled
    | _, _, s => s
  listens := true
  oltStatsFile := some ["{}"]
  unmarshalsPortStats _ := true

/-- A ledger in which ONU 1 of PON 0 has its (empty) map, as `ActivateOnu` leaves it. -/
def activatedLedger : Ledger := (∅ : Ledger).set 0 ((∅ : GoMap UInt32 _).set 1 ∅)

/-- An enabled ONU, ID 1, of PON 0, with no flows. -/
def sampleOnu : Onu := ⟨1, 0, ⟨"BBSM", [0, 1]⟩, .enabled, [], [], none⟩

/-- An enabled PON port, ID 0, holding the sample ONU. -/
def samplePon : PonPort := ⟨0, .enabled, .up, [sampleOnu]⟩

/-- An enabled OLT with the sample PON port, whose ONU's maps both ledgers hold; no flows, and
`enablePerf` off. -/
def sampleOlt : OltDevice where
  id := 0
  internalState := .enabled
  operState := .up
  channelOpen := true
  flows := ∅
  pons := [samplePon]
  nnis := [⟨0, .up⟩]
  previouslyConnected := false
  enablePerf := false
  enableContext := true
  oltServer := true
  allocIDs := activatedLedger
  gemPortIDs := activatedLedger
  signature := 0
  controlledActivation := .default

/-- An ONU flow for ONU 1 of PON 0 with flow ID 7, Alloc-ID 1024 and GEM port 1025. -/
def sampleFlow : Flow := ⟨0, 1, 7, "downstream", 1024, 1025, 0, false, ∅, some ⟨⟩⟩

/-! ## A rejected flow -/

/-- With `enablePerf` off, every call of `FlowAdd` for an ONU flow whose ONU is found and is
neither disabled nor pon-disabled maps the flow's key to the flow in the flow table and appends
the key to that ONU's list, whether `validateFlow` then accepts the flow or not. -/
theorem flowAdd_appends_flow_key (hperf : o.enablePerf = false)
    (h1 : flow.accessIntfId ≠ -1) (h2 : flow.flowType ≠ "multicast") {i j : Nat} {pon : PonPort}
    {onu : Onu} (hpon : getPonById o (uint32 flow.accessIntfId) = .ok (i, pon))
    (honu : pon.getOnuById c (uint32 flow.onuId) = .ok (j, onu))
    (hready : onu.internalState ≠ .ponDisabled ∧ onu.internalState ≠ .disabled)
    (h : flowAdd c o flow = some r) :
    r.dev.flows = o.flows.set ⟨flow.flowId⟩ flow ∧
      r.dev.pons = (o.modifyOnu i j fun onu =>
        { onu with flows := onu.flows ++ [⟨flow.flowId⟩] }).pons := by
  have hstore : o.storeFlow flow = { o with flows := o.flows.set ⟨flow.flowId⟩ flow } := by
    simp [OltDevice.storeFlow, hperf]
  have happ : ((o.storeFlow flow).appendFlowKey i j flow).pons =
      (o.modifyOnu i j fun onu => { onu with flows := onu.flows ++ [⟨flow.flowId⟩] }).pons := by
    simp [OltDevice.appendFlowKey, hperf, hstore, OltDevice.modifyOnu]
  rcases flowAdd_cases h with ⟨hk, -⟩ | ⟨-, -, i', pon', hpon', hrest⟩
  · exact absurd hk (not_or.mpr ⟨h1, h2⟩)
  rw [hpon] at hpon'
  cases hpon'
  rcases hrest with ⟨e, honu', -⟩ | ⟨j', onu', honu', hst⟩ <;> rw [honu] at honu' <;> cases honu'
  rcases hst with ⟨hs, -⟩ | ⟨-, ht⟩
  · exact absurd hs (by simp [hready.1, hready.2])
  · rcases flowAddTail_cases ht with ⟨e, -, rfl⟩ | ⟨-, -, -, rfl⟩ <;>
      exact ⟨by simp [hstore], happ⟩

/-! ## `FlowRemove` -/

/-- Everything the stored-flow block of `FlowRemove` does when it does not return: the flow's key
is deleted from the flow table and, when the stored flow is an ONU's whose port and ONU are found,
from that ONU's list, with the ONU's event. -/
theorem removeStoredFlow_cases {p : OltDevice × List Effect}
    (h : removeStoredFlow c o flow = .ok p) :
    (∃ (i j : Nat) (onu : Onu), p = ({ o.modifyOnu i j (·.deleteFlow ⟨flow.flowId⟩) with
        flows := o.flows.delete ⟨flow.flowId⟩ },
      [.publish "Flow-remove-received" (int32 onu.ponPortID) (int32 onu.id)
        (c.onuSn onu.serialNumber)])) ∨
    p = ({ o with flows := o.flows.delete ⟨flow.flowId⟩ }, []) := by
  unfold removeStoredFlow at h
  dsimp only at h
  split at h
  · cases h
  · split_ifs at h
    · split at h
      · cases h
      · split at h
        · cases h
        · cases h
          exact .inl ⟨_, _, _, rfl⟩
    · cases h
      exact .inr rfl

/-- The stored-flow block of `FlowRemove` leaves the ledgers alone, and only publishes. -/
theorem removeStoredFlow_ledgers {p : OltDevice × List Effect}
    (h : removeStoredFlow c o flow = .ok p) :
    p.1.allocIDs = o.allocIDs ∧ p.1.gemPortIDs = o.gemPortIDs ∧
      ∀ e ∈ p.2, e.target = .events := by
  rcases removeStoredFlow_cases h with ⟨i, j, onu, rfl⟩ | rfl
  · exact ⟨rfl, rfl, by simp [Effect.target]⟩
  · exact ⟨rfl, rfl, by simp⟩

/-- A `return` inside the stored-flow block returns the device it was given, and sends nothing. -/
theorem removeStoredFlow_error {r : Reply} (h : removeStoredFlow c o flow = .error r) :
    r.dev = o ∧ r.effects = [] := by
  unfold removeStoredFlow at h
  dsimp only at h
  split at h
  · cases h; exact ⟨rfl, rfl⟩
  · split_ifs at h
    split at h
    · cases h; exact ⟨rfl, rfl⟩
    · split at h
      · cases h; exact ⟨rfl, rfl⟩
      · cases h

/-- The device the end of `FlowRemove` leaves is the one its stored-flow block leaves. -/
theorem flowRemoveTail_dev :
    (flowRemoveTail c o flow).dev =
      match (if o.enablePerf then .ok (o, []) else removeStoredFlow c o flow) with
      | .error r => r.dev
      | .ok p => p.1 := by
  unfold flowRemoveTail
  generalize (if o.enablePerf then .ok (o, []) else removeStoredFlow c o flow) = x
  rcases x with r | ⟨o', ev⟩
  · rfl
  · dsimp only
    split_ifs
    · rfl
    · rfl
    · split <;> rfl

/-- The end of `FlowRemove` leaves the ledgers alone. -/
theorem flowRemoveTail_ledgers :
    (flowRemoveTail c o flow).dev.allocIDs = o.allocIDs ∧
      (flowRemoveTail c o flow).dev.gemPortIDs = o.gemPortIDs := by
  rw [flowRemoveTail_dev]
  split
  · rename_i r hr
    split_ifs at hr
    rw [(removeStoredFlow_error hr).1]
    exact ⟨rfl, rfl⟩
  · rename_i p hp
    split_ifs at hp
    · cases hp; exact ⟨rfl, rfl⟩
    · exact ⟨(removeStoredFlow_ledgers hp).1, (removeStoredFlow_ledgers hp).2.1⟩

/-- `FlowRemove` frees the request's flow ID in both ledgers, whatever else it finds. -/
theorem flowRemove_ledgers :
    (flowRemove c o flow).dev.allocIDs = freeResource o.allocIDs flow.flowId ∧
      (flowRemove c o flow).dev.gemPortIDs = freeResource o.gemPortIDs flow.flowId :=
  flowRemoveTail_ledgers

/-- The stored-flow block of `FlowRemove` reads only the request's flow ID. -/
theorem removeStoredFlow_congr {r1 r2 : Flow} (hid : r1.flowId = r2.flowId) :
    removeStoredFlow c o r1 = removeStoredFlow c o r2 := by
  simp only [removeStoredFlow, hid]

/-- Two `FlowRemove` requests with the same flow ID leave the same device: the same ledgers, flow
table and ONU lists. When both or neither name an ONU flow (an `AccessIntfId` other than `-1` and
a type other than multicast), they also return the same result and send to the same ONU channel,
or to none. -/
theorem flowRemove_same_flowId {r1 r2 : Flow} (hid : r1.flowId = r2.flowId) :
    (flowRemove c o r1).dev = (flowRemove c o r2).dev ∧
      (((r1.accessIntfId = -1 ∨ r1.flowType = "multicast") ↔
          (r2.accessIntfId = -1 ∨ r2.flowType = "multicast")) →
        (flowRemove c o r1).result = (flowRemove c o r2).result ∧
          (flowRemove c o r1).effects.map Effect.target =
            (flowRemove c o r2).effects.map Effect.target) := by
  have hfree : freeAllocId (freeGemPortId o r1) r1 = freeAllocId (freeGemPortId o r2) r2 := by
    simp only [freeAllocId, freeGemPortId, hid]
  unfold flowRemove
  rw [hfree]
  refine ⟨by rw [flowRemoveTail_dev, flowRemoveTail_dev, removeStoredFlow_congr hid], fun hk => ?_⟩
  unfold flowRemoveTail
  rw [removeStoredFlow_congr hid, hid]
  generalize (if (freeAllocId (freeGemPortId o r2) r2).enablePerf then .ok (_, []) else
    removeStoredFlow c _ r2) = x
  rcases x with r | ⟨o', ev⟩
  · exact ⟨rfl, rfl⟩
  · by_cases hk2 : r2.accessIntfId = -1 ∨ r2.flowType = "multicast"
    · rcases hk.mpr hk2 with h1 | h1 <;> rcases hk2 with h2 | h2 <;> simp [h1, h2]
    · have hk1 : ¬ (r1.accessIntfId = -1 ∨ r1.flowType = "multicast") := fun h => hk2 (hk.mp h)
      simp only [not_or] at hk1 hk2
      simp only [hk1.1, hk1.2, hk2.1, hk2.2, if_false]
      cases getOnuByFlowId o' r2.flowId <;> simp [Effect.target]

/-- Removing flow 7 as an OLT flow succeeds, and removing it as an ONU flow fails, since no ONU's
`FlowIds` holds it: the result of `FlowRemove` depends on more than the flow ID. -/
theorem flowRemove_result_depends_on_kind :
    (flowRemove sampleCollaborators { sampleOlt with enablePerf := true }
      { sampleFlow with accessIntfId := -1 }).result = .ok () ∧
    (flowRemove sampleCollaborators { sampleOlt with enablePerf := true } sampleFlow).result ≠
      .ok () := by
  decide

/-- Two removals of flow 7 that differ in their ONU ID leave the same device. -/
theorem flowRemove_same_flowId_sample :
    sampleFlow.flowId = { sampleFlow with onuId := 2 }.flowId ∧
      (flowRemove sampleCollaborators sampleOlt sampleFlow).dev =
        (flowRemove sampleCollaborators sampleOlt { sampleFlow with onuId := 2 }).dev :=
  ⟨rfl, (flowRemove_same_flowId rfl).1⟩

end Bbsim
