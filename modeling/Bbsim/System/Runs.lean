import Bbsim.System.Step

/-!
# Runs from `CreateOLT`

`CreateOLT` makes the PON-level maps of both ledgers but no ONU-level map; only `ActivateOnu` makes
those. `storeGemPortId` and `storeAllocId` log an error for an ONU without a map and then assign
into the missing map, which panics; `FlowAdd` calls them for every ONU flow that passes its own
checks. So the first ONU flow for an ONU that was never activated brings the simulator down.

An ONU's flow list, on the other hand, grows by one key on every `FlowAdd` that passes the ONU's
state check, accepted or not, so adding a flow twice lists its key twice.
-/

namespace Bbsim

variable {c : Collaborators} {o : OltDevice} {flow : Flow}

/-- Once an ONU flow with a classifier has its PON port and ready ONU found and `validateFlow`
accepts it, `FlowAdd` panics exactly when a ledger lacks the map of the flow's ONU: `AllocIDs`
always, `GemPortIDs` when the flow has a GEM port. -/
theorem flowAdd_eq_none_iff (h0 : flow.classifier ≠ none) (h1 : flow.accessIntfId ≠ -1)
    (h2 : flow.flowType ≠ "multicast")
    {i j : Nat} {pon : PonPort} {onu : Onu}
    (hpon : getPonById o (uint32 flow.accessIntfId) = .ok (i, pon))
    (honu : pon.getOnuById c (uint32 flow.onuId) = .ok (j, onu))
    (hready : ¬ (onu.internalState = .ponDisabled ∨ onu.internalState = .disabled))
    (hv : validateFlow o flow = none) :
    flowAdd c o flow = none ↔
      ¬ o.allocIDs.HasOnu (uint32 flow.accessIntfId) (uint32 flow.onuId) ∨
      (gemPorts flow ≠ [] ∧ ¬ o.gemPortIDs.HasOnu (uint32 flow.accessIntfId) (uint32 flow.onuId)) := by
  have hv' : validateFlow ((o.storeFlow flow).appendFlowKey i j flow) flow = none := by
    rw [validateFlow_congr (o := o) (by simp) (by simp), hv]
  simp only [flowAdd, getPonById_storeFlow, hpon, honu, if_neg h0, if_neg h1, if_neg h2, if_neg hready,
    flowAddTail, hv', storeGemPortIdByFlow_eq, appendFlowKey_gemPortIDs, storeFlow_gemPortIDs]
  by_cases hg : gemPorts flow = [] ∨ o.gemPortIDs.HasOnu (uint32 flow.accessIntfId) (uint32 flow.onuId)
  · simp only [if_pos hg, Option.bind_eq_bind, Option.some_bind, storeAllocId_eq,
      appendFlowKey_allocIDs, storeFlow_allocIDs]
    split_ifs with ha
    · simp only [Option.some_bind, reduceCtorEq, false_iff, not_or, not_and, not_not]
      exact ⟨ha, hg.resolve_left⟩
    · exact iff_of_true rfl (.inl ha)
  · simp only [if_neg hg, Option.bind_eq_bind, Option.none_bind, true_iff]
    rw [not_or] at hg
    exact .inr hg

/-- Right after `CreateOLT`, the sample flow passes `FlowAdd`'s checks, so its `FlowAdd` panics
exactly when a ledger lacks the map of ONU 1. -/
theorem flowAdd_eq_none_iff_created :
    ∃ o, createdOlt = some o ∧
      (flowAdd sampleCollaborators o sampleFlow = none ↔
        ¬ o.allocIDs.HasOnu (uint32 sampleFlow.accessIntfId) (uint32 sampleFlow.onuId) ∨
        (gemPorts sampleFlow ≠ [] ∧
          ¬ o.gemPortIDs.HasOnu (uint32 sampleFlow.accessIntfId) (uint32 sampleFlow.onuId))) := by
  refine ⟨_, rfl, ?_⟩
  exact flowAdd_eq_none_iff (by decide) (by decide) (by decide) rfl rfl (by decide) (by decide)

/-! ## Right after `CreateOLT` -/

/-- Right after `CreateOLT`, a flow for the one ONU, which was never activated, passes every check
of `FlowAdd` (the port and the ONU exist, the ONU is in state `created`, `validateFlow` accepts it)
and then panics in `storeGemPortId`, since the ONU has no map in `GemPortIDs`. -/
theorem flowAdd_panics_for_unactivated_onu :
    ∃ o, createdOlt = some o ∧ Reachable sampleCollaborators o ∧
      getPonById o 0 = .ok (0, ⟨0, .created, .down, [createOnu sampleCollaborators 0 0 1]⟩) ∧
      (createOnu sampleCollaborators 0 0 1).internalState = .created ∧
      validateFlow o sampleFlow = none ∧ ¬ o.gemPortIDs.HasOnu 0 1 ∧
      flowAdd sampleCollaborators o sampleFlow = none :=
  ⟨_, rfl, .create (show createdOlt = some _ from rfl), rfl, rfl, by decide, by decide, rfl⟩

/-- Adding the sample flow twice to the activated ONU of the created simulator lists the flow's key
twice in the ONU's flow list. -/
theorem flowAdd_twice_repeats_flow_key :
    ∃ o, Reachable sampleCollaborators o ∧ o.enablePerf = false ∧
      o.pons.map (·.onus.map (·.flows)) = [[[⟨7⟩, ⟨7⟩]]] :=
  ⟨_, (Reachable.create (show createdOlt = some _ from rfl)).runOps
      (show runOps sampleCollaborators _ [.rpc (.activateOnu 0 1 ⟨"BBSM", [0, 1]⟩),
        .rpc (.flowAdd sampleFlow), .rpc (.flowAdd sampleFlow)] = some _ from rfl),
    by decide, by decide⟩

end Bbsim
