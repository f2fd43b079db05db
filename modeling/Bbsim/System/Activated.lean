import Bbsim.System.Settled

/-!
# The ONU maps of the ledgers

`ActivateOnu` is the only code that makes an ONU's map in `AllocIDs` and `GemPortIDs`: its
assignments `olt.AllocIDs[IntfId][OnuId] = make(...)` reset the map. `CreateOLT` and `InitOlt` make
PON-level maps only, and a reboot that deletes the OLT drops every ONU map when `clearAllResources`
and `InitOlt` rebuild the ledgers. The stores of `FlowAdd` assign into an ONU's maps, which must
exist, and the frees of `FlowRemove` delete resource entries only. So in every state reached from
`CreateOLT`, both ledgers hold a map for exactly the ONUs activated since `CreateOLT` or since the
last reboot that deleted the OLT (`reachableActivated_onuMaps`): the ONUs for which the stores of
`FlowAdd` do not panic. Right after `ActivateOnu`, in particular, `FlowAdd` for the ONU it activated
never panics, whatever the device was (`activateOnu_then_flowAdd`).
-/

namespace Bbsim

/-! ## The ONU maps of a ledger -/

/-- No ONU has a map in the ledger: only PON-level maps, as `CreateOLT` and `InitOlt` make them. -/
def Ledger.NoOnus (L : Ledger) : Prop := ∀ p q, ¬ L.HasOnu p q

section NoOnus

variable {L : Ledger}

/-- `make(map...)` has no ONU map. -/
theorem Ledger.noOnus_empty : (∅ : Ledger).NoOnus := by
  simp [Ledger.NoOnus, Ledger.HasOnu]

/-- A new empty PON-level map adds no ONU map. -/
theorem Ledger.NoOnus.set_empty (h : L.NoOnus) (p : UInt32) : Ledger.NoOnus (L.set p ∅) := by
  intro p' q
  unfold Ledger.HasOnu
  by_cases hp : p' = p
  · subst hp; simp
  · rw [GoMap.get_set_ne _ _ hp]; exact h p' q

/-- `InitOlt`'s PON-level maps add no ONU map. -/
theorem Ledger.NoOnus.initPons (h : L.NoOnus) (n : Nat) : (L.initPons n).NoOnus := by
  unfold Ledger.initPons
  induction List.range n generalizing L with
  | nil => exact h
  | cons p l ih => exact ih (h.set_empty _)

end NoOnus

/-- `ActivateOnu`'s reset makes the map of its ONU and keeps every other. -/
theorem hasOnu_resetOnu {L L' : Ledger} {p q : UInt32} (h : L.resetOnu p q = some L')
    (p' q' : UInt32) :
    L'.HasOnu p' q' ↔ L.HasOnu p' q' ∨ (p' = p ∧ q' = q) := by
  obtain ⟨v, v', hv, hv', rfl⟩ := GoMap.lookup_update? h
  cases hv'
  unfold Ledger.HasOnu
  by_cases hp : p' = p
  · subst hp
    rw [GoMap.get_set_self, GoMap.get_of_lookup hv, GoMap.lookup_set]
    by_cases hq : q' = q <;> simp [hq]
  · rw [GoMap.get_set_ne _ _ hp]
    simp [hp]

/-- `CreateOLT` makes no ONU map. -/
theorem createOLT_noOnus {c : Collaborators} {cfg : GlobalConfig} {nni : Option NniPort}
    {signature : UInt32} {o : OltDevice} (h : createOLT c cfg nni signature = some o) :
    o.allocIDs.NoOnus ∧ o.gemPortIDs.NoOnus := by
  obtain ⟨_, o₁, -, h₁, h⟩ := createOLT_cases h
  obtain ⟨hA, hG⟩ := foldlM_createPon (fun o => o.allocIDs.NoOnus ∧ o.gemPortIDs.NoOnus)
    (fun h ⟨hA, hG⟩ => by
      obtain ⟨_, -, rfl⟩ := createPon_cases h
      exact ⟨hA.set_empty _, hG.set_empty _⟩)
    _ h₁ ⟨Ledger.noOnus_empty, Ledger.noOnus_empty⟩
  obtain ⟨hA', hG'⟩ := initOlt_ledgers h
  rw [hA', hG']
  exact ⟨hA.initPons _, hG.initPons _⟩

/-! ## `FlowAdd` right after `ActivateOnu` -/

section Activate

variable {c : Collaborators} {o : OltDevice} {r : Reply} {p q : UInt32} {sn : SerialNumber}

/-- `ActivateOnu` returns only after `GetPonById` has found the PON port. -/
theorem activateOnu_hasPon (h : activateOnu c o p q sn = some r) : hasPon o p = true := by
  unfold activateOnu at h
  obtain ⟨_, -, h⟩ := Option.bind_eq_some.mp h
  obtain ⟨_, -, h⟩ := Option.bind_eq_some.mp h
  dsimp only at h
  split at h
  · cases h
  · exact hasPon_of_getPonById ‹_›

/-- `ActivateOnu` is all that `FlowAdd` needs not to panic: right after it, a flow for the activated
ONU's PON port and ID passes `GetPonById`, and both stores find the ONU's maps, whatever `FlowAdd`
then answers. -/
theorem activateOnu_then_flowAdd {flow : Flow} (h : activateOnu c o p q sn = some r)
    (hcl : flow.classifier ≠ none) (hp : uint32 flow.accessIntfId = p)
    (hq : uint32 flow.onuId = q) :
    ∃ r', flowAdd c r.dev flow = some r' := by
  obtain ⟨hA, hG⟩ := activateOnu_ledgers h
  have hA' := (hasOnu_resetOnu hA p q).mpr (.inr ⟨rfl, rfl⟩)
  have hG' := (hasOnu_resetOnu hG p q).mpr (.inr ⟨rfl, rfl⟩)
  obtain ⟨i, pon, hpon⟩ := getPonById_of_hasPon
    ((hasPon_of_ports (activateOnu_frame h).ports p).trans (activateOnu_hasPon h))
  dsimp only [flowAdd]
  rw [if_neg hcl]
  split_ifs
  · exact ⟨_, rfl⟩
  · exact ⟨_, rfl⟩
  rw [getPonById_storeFlow, hp, hpon]
  dsimp only
  split
  · exact ⟨_, rfl⟩
  split_ifs
  · exact ⟨_, rfl⟩
  unfold flowAddTail
  split
  · exact ⟨_, rfl⟩
  rw [storeGemPortIdByFlow_eq, if_pos (.inr (by simpa [hp, hq] using hG')), Option.bind_eq_bind,
    Option.some_bind, storeAllocId_eq, if_pos (by simpa [hp, hq] using hA')]
  exact ⟨_, rfl⟩

/-- ONU 1 of the sample OLT just created, activated, then the sample flow for it. -/
theorem activateOnu_then_flowAdd_created :
    ∃ o r, createdOlt = some o ∧
      activateOnu sampleCollaborators o 0 1 ⟨"BBSM", [0, 1]⟩ = some r ∧
      sampleFlow.classifier ≠ none ∧ uint32 sampleFlow.accessIntfId = 0 ∧
      uint32 sampleFlow.onuId = 1 ∧ ∃ r', flowAdd sampleCollaborators r.dev sampleFlow = some r' := by
  obtain ⟨o, r, ho, h⟩ : ∃ o r, createdOlt = some o ∧
      activateOnu sampleCollaborators o 0 1 ⟨"BBSM", [0, 1]⟩ = some r := ⟨_, _, rfl, rfl⟩
  exact ⟨o, r, ho, h, by decide, by decide, by decide,
    activateOnu_then_flowAdd h (by decide) (by decide) (by decide)⟩

end Activate

/-! ## The activated ONUs over a run -/

/-- The ONUs whose maps the ledgers hold after a step, from those before it: `ActivateOnu` makes
its ONU's maps, and a reboot that deletes the OLT drops them all. -/
def LedgerAct.activated (o : OltDevice) (act : List (UInt32 × UInt32)) :
    LedgerAct → List (UInt32 × UInt32)
  | .activate p q => (p, q) :: act
  | .reboot => if (o.internalState.fire .delete).isSome then [] else act
  | _ => act

/-- The states reached from `CreateOLT` by steps that do not panic, with the ONUs activated since
`CreateOLT` or since the last reboot that deleted the OLT. -/
inductive ReachableActivated (c : Collaborators) : OltDevice → List (UInt32 × UInt32) → Prop
  | create {cfg : GlobalConfig} {nni : Option NniPort} {signature : UInt32} {o : OltDevice} :
      createOLT c cfg nni signature = some o → ReachableActivated c o []
  | step {o : OltDevice} {act : List (UInt32 × UInt32)} {op : Op} {r : Reply} :
      ReachableActivated c o act → op.step c o = some r →
      ReachableActivated c r.dev (op.ledgerAct.activated o act)

/-- Both ledgers hold a map for exactly the ONUs of `act`. -/
def OnuMaps (o : OltDevice) (act : List (UInt32 × UInt32)) : Prop :=
  ∀ p q, (o.allocIDs.HasOnu p q ↔ (p, q) ∈ act) ∧ (o.gemPortIDs.HasOnu p q ↔ (p, q) ∈ act)

section OnuMaps

variable {c : Collaborators} {o : OltDevice} {act : List (UInt32 × UInt32)} {r : Reply}

/-- A step that is not a reboot: a reset makes its ONU's maps, a store assigns into an ONU's maps
and a free deletes only resource entries. -/
theorem LedgerEffect.onuMaps (hm : OnuMaps o act) {a : LedgerAct} (he : LedgerEffect c o r a)
    (ha : a ≠ .reboot) : OnuMaps r.dev (a.activated o act) := by
  intro p q
  cases a with
  | none => rw [he.1, he.2]; exact hm p q
  | activate p' q' =>
    rw [hasOnu_resetOnu he.1, hasOnu_resetOnu he.2, (hm p q).1, (hm p q).2]
    simp only [LedgerAct.activated, List.mem_cons, Prod.mk.injEq]
    exact ⟨or_comm, or_comm⟩
  | add flow =>
    rcases flowAdd_ledgers he with ⟨hA, hG, -⟩ | ⟨-, -, -, -, hon, hA, hG⟩
    · rw [hA, hG]; exact hm p q
    · have hgon := (hm _ _).2.mpr ((hm _ _).1.mp hon)
      rw [hA, hG, flowGemsResult, hasOnu_storeResult _ _ _ _ _ _ _ _ hon,
        hasOnu_storeGemsResult _ _ _ _ _ _ _ _ hgon]
      exact hm p q
  | remove fid =>
    rw [he.1, he.2, hasOnu_freeResource, hasOnu_freeResource]
    exact hm p q
  | reboot => exact absurd rfl ha

/-- A step keeps the ledgers' ONU maps those of the activated ONUs. -/
theorem OnuMaps.step (hm : OnuMaps o act) {op : Op} (h : op.step c o = some r) :
    OnuMaps r.dev (op.ledgerAct.activated o act) := by
  cases op with
  | restart signature =>
    obtain ⟨o', hr, rfl⟩ := Option.map_eq_some'.mp h
    rcases restartOLT_cases hr with ⟨hnone, rfl⟩ | ⟨hsome, -, -, -, -, -, -, -, -, -, hA, hG, -⟩
    · simpa [Op.ledgerAct, LedgerAct.activated, hnone] using hm
    · intro p q
      simp only [Op.ledgerAct, LedgerAct.activated, hsome, if_true, List.not_mem_nil, iff_false]
      rw [hA, hG]
      exact ⟨Ledger.noOnus_empty.initPons _ p q, Ledger.noOnus_empty.initPons _ p q⟩
  | rpc req => exact (Op.step_ledgers h).onuMaps hm (by cases req <;> simp [Op.ledgerAct])
  | enable => exact (Op.step_ledgers h).onuMaps hm (by simp [Op.ledgerAct])
  | dispatch m => exact (Op.step_ledgers h).onuMaps hm (by simp [Op.ledgerAct])

end OnuMaps

/-- In every state reached from `CreateOLT` by steps that do not panic, both ledgers hold a map for
exactly the ONUs activated since `CreateOLT` or the last reboot that deleted the OLT. -/
theorem reachableActivated_onuMaps {c : Collaborators} {o : OltDevice}
    {act : List (UInt32 × UInt32)} (h : ReachableActivated c o act) (p q : UInt32) :
    (o.allocIDs.HasOnu p q ↔ (p, q) ∈ act) ∧ (o.gemPortIDs.HasOnu p q ↔ (p, q) ∈ act) := by
  induction h generalizing p q with
  | create hc =>
    obtain ⟨hA, hG⟩ := createOLT_noOnus hc
    simp only [List.not_mem_nil, iff_false]
    exact ⟨hA p q, hG p q⟩
  | step _ hs ih => exact OnuMaps.step ih hs p q

/-- After `CreateOLT`, `ActivateOnu` of ONU 1 on PON 0 and a `FlowAdd` of the sample flow, both
ledgers hold the map of that ONU and of no other. -/
theorem reachableActivated_onuMaps_activated :
    ∃ o, activatedOlt = some o ∧ ReachableActivated sampleCollaborators o [(0, 1)] ∧
      ∀ p q, (o.allocIDs.HasOnu p q ↔ (p, q) ∈ [(0, 1)]) ∧
        (o.gemPortIDs.HasOnu p q ↔ (p, q) ∈ [(0, 1)]) := by
  have h : ReachableActivated sampleCollaborators _ [(0, 1)] :=
    ((ReachableActivated.create (show createdOlt = some _ from rfl)).step
      (show Op.step sampleCollaborators _ (.rpc (.activateOnu 0 1 ⟨"BBSM", [0, 1]⟩)) = some _
        from rfl)).step
      (show Op.step sampleCollaborators _ (.rpc (.flowAdd sampleFlow)) = some _ from rfl)
  exact ⟨_, rfl, h, reachableActivated_onuMaps h⟩

end Bbsim
