import Bbsim.System.Step

/-!
# The ledgers over whole runs

Invariants of every run of the device, each proved from `Op.step_ledgers` alone.

`Ledger.Exclusive`: no PON's map holds one resource ID under two ONUs. `FlowAdd` adds resource keys
only under the flow's ONU, and only the keys `validateFlow` has just found held by no other ONU of
the PON; every other step only removes keys.

`Abstracts`: the ledgers record exactly the tuples of the live flows, and hold no resource whose
flow set is empty. A flow is live from the `FlowAdd` of it that succeeds until a `FlowRemove` of its
flow ID, an `ActivateOnu` of its ONU, or a reboot that deletes the OLT; the run carries the live
flows as ghost state (`ReachableLive`).

`Ledger.FlowSetsNonempty`: no resource has an empty flow set. On such ledgers the loops of
`freeAllocId` and `freeGemPortId` compute the spec's `free`, so they do in every reachable state.
-/

namespace Bbsim

/-! ## No resource under two ONUs -/

/-- No resource ID is a key under two ONUs of a PON's map, whatever their ports. -/
def Ledger.Exclusive (L : Ledger) : Prop :=
  ∀ p o o' n n' r, L.HasKey p o n r → L.HasKey p o' n' r → o = o'

section Exclusive

variable {L L' : Ledger}

theorem Ledger.Exclusive.of_hasKey (h : L.Exclusive)
    (hsub : ∀ p o n r, L'.HasKey p o n r → L.HasKey p o n r) : L'.Exclusive :=
  fun p o o' n n' r h1 h2 => h p o o' n n' r (hsub _ _ _ _ h1) (hsub _ _ _ _ h2)

theorem Ledger.Clear.exclusive (h : L.Clear) : L.Exclusive :=
  fun p o _ n _ r h1 => absurd h1 (h p o n r)

/-- Storing resource `r` under ONU `o` keeps a ledger exclusive when no other ONU of the PON holds
`r`: what `validateFlow` has checked. -/
theorem Ledger.Exclusive.storeResult (h : L.Exclusive) {p o n : UInt32} {r : GoInt32}
    {fid : UInt64} (hfree : ∀ o' n', o' ≠ o → ¬ L.HasKey p o' n' r) :
    (Bbsim.storeResult L p o n r fid).Exclusive := by
  intro p₁ o₁ o₂ n₁ n₂ r₁ h1 h2
  rw [hasKey_storeResult] at h1 h2
  rcases h1 with h1 | ⟨rfl, rfl, -, rfl⟩
  · rcases h2 with h2 | ⟨rfl, rfl, -, rfl⟩
    · exact h _ _ _ _ _ _ h1 h2
    · exact by_contra fun hne => hfree o₁ n₁ hne h1
  · rcases h2 with h2 | ⟨-, rfl, -, -⟩
    · exact by_contra fun hne => hfree o₂ n₂ (Ne.symm hne) h2
    · rfl

/-- Storing GEM ports under ONU `o` keeps a ledger exclusive when no other ONU of the PON holds any
of them. -/
theorem Ledger.Exclusive.storeGemsResult (h : L.Exclusive) {p o n : UInt32} {gems : List GoInt32}
    {fid : UInt64} (hfree : ∀ o' n' g, o' ≠ o → g ∈ gems → ¬ L.HasKey p o' n' g) :
    (Bbsim.storeGemsResult L p o n gems fid).Exclusive := by
  intro p₁ o₁ o₂ n₁ n₂ r₁ h1 h2
  rw [hasKey_storeGemsResult] at h1 h2
  rcases h1 with h1 | ⟨rfl, rfl, -, hg1⟩
  · rcases h2 with h2 | ⟨rfl, rfl, -, hg2⟩
    · exact h _ _ _ _ _ _ h1 h2
    · exact by_contra fun hne => hfree o₁ n₁ r₁ hne hg2 h1
  · rcases h2 with h2 | ⟨-, rfl, -, -⟩
    · exact by_contra fun hne => hfree o₂ n₂ r₁ (Ne.symm hne) hg1 h2
    · rfl

theorem Ledger.Exclusive.resetOnu {p q : UInt32} (h : L.Exclusive)
    (hr : L.resetOnu p q = some L') : L'.Exclusive :=
  h.of_hasKey fun _ _ _ _ hk => ((hasKey_resetOnu hr _ _ _ _).mp hk).1

theorem Ledger.Exclusive.freeResource (h : L.Exclusive) (fid : UInt64) :
    (Bbsim.freeResource L fid).Exclusive :=
  h.of_hasKey fun _ _ _ _ hk => ((hasKey_freeResource _ _ _ _ _ _).mp hk).1

end Exclusive

/-- Every state reached by `CreateOLT` and steps that do not panic keeps each resource of a PON
under one ONU at most, in both ledgers. -/
theorem reachable_exclusive {c : Collaborators} {o : OltDevice} (h : Reachable c o) :
    o.allocIDs.Exclusive ∧ o.gemPortIDs.Exclusive := by
  refine h.ledgers (fun A G => A.Exclusive ∧ G.Exclusive) (fun hA hG => ⟨hA.exclusive, hG.exclusive⟩)
    (fun ih hA hG => ⟨ih.1.resetOnu hA, ih.2.resetOnu hG⟩) (fun {o f r} ih he => ?_)
    (fun fid ih => ⟨ih.1.freeResource fid, ih.2.freeResource fid⟩)
  -- `FlowAdd` stores only resources that `validateFlow` has found held by no other ONU
  rcases flowAdd_ledgers he with ⟨hA, hG, -⟩ | ⟨-, -, -, hv, -, hA, hG⟩
  · exact hA ▸ hG ▸ ih
  · obtain ⟨hvG, hvA⟩ := (validateFlow_eq_none o f).mp hv
    rw [hA, hG]
    exact ⟨ih.1.storeResult hvA, ih.2.storeGemsResult hvG⟩

/-- The flows of both ONUs of `twoOnuOlt`: the sample flow for ONU 1, and one for ONU 2 with flow
ID 9, Alloc-ID 1030 and GEM port 1031. -/
def twoOnuFlows : List Op :=
  [.rpc (.flowAdd sampleFlow),
    .rpc (.flowAdd { sampleFlow with onuId := 2, flowId := 9, allocId := 1030, gemportId := 1031 })]

/-- Once both ONUs of `twoOnuOlt` have added a flow, each holds its own Alloc-ID and GEM port, and
both ledgers are exclusive. -/
theorem reachable_exclusive_two_onus :
    ∃ o o', twoOnuOlt = some o ∧ runOps sampleCollaborators o twoOnuFlows = some o' ∧
      o'.allocIDs.HasKey 0 1 0 1024 ∧ o'.allocIDs.HasKey 0 2 0 1030 ∧
      o'.gemPortIDs.HasKey 0 1 0 1025 ∧ o'.gemPortIDs.HasKey 0 2 0 1031 ∧
      o'.allocIDs.Exclusive ∧ o'.gemPortIDs.Exclusive := by
  obtain ⟨o, o', ho, ho', hA1, hA2, hG1, hG2⟩ : ∃ o o', twoOnuOlt = some o ∧
      runOps sampleCollaborators o twoOnuFlows = some o' ∧
      o'.allocIDs.HasKey 0 1 0 1024 ∧ o'.allocIDs.HasKey 0 2 0 1030 ∧
      o'.gemPortIDs.HasKey 0 1 0 1025 ∧ o'.gemPortIDs.HasKey 0 2 0 1031 :=
    ⟨_, _, rfl, rfl, by decide, by decide, by decide, by decide⟩
  exact ⟨o, o', ho, ho', hA1, hA2, hG1, hG2,
    reachable_exclusive ((reachable_twoOnuOlt ho).runOps ho')⟩

/-! ## No empty flow set -/

section FlowSets

variable {L : Ledger}

theorem Ledger.Clear.flowSetsNonempty (h : L.Clear) : L.FlowSetsNonempty :=
  fun p o n r hk => absurd hk (h p o n r)

theorem Ledger.FlowSetsNonempty.storeResult (h : L.FlowSetsNonempty) (p o n : UInt32)
    (r : GoInt32) (fid : UInt64) : (Bbsim.storeResult L p o n r fid).FlowSetsNonempty := by
  intro p' o' n' r' hk
  rcases (hasKey_storeResult _ _ _ _ _ _ _ _ _ _).mp hk with hk | ⟨rfl, rfl, rfl, rfl⟩
  · obtain ⟨f, hf⟩ := h _ _ _ _ hk
    exact ⟨f, (has_storeResult _ _ _ _ _ _ _ _ _ _ _).mpr (.inl hf)⟩
  · exact ⟨fid, (has_storeResult _ _ _ _ _ _ _ _ _ _ _).mpr (.inr ⟨rfl, rfl, rfl, rfl, rfl⟩)⟩

theorem Ledger.FlowSetsNonempty.storeGemsResult (h : L.FlowSetsNonempty) (p o n : UInt32)
    (gems : List GoInt32) (fid : UInt64) :
    (Bbsim.storeGemsResult L p o n gems fid).FlowSetsNonempty := by
  induction gems generalizing L with
  | nil => exact h
  | cons g gems ih => exact ih (h.storeResult p o n g fid)

/-- A resource of a reset ledger had a flow, which the reset keeps. -/
theorem Ledger.FlowSetsNonempty.resetOnu {L' : Ledger} {p q : UInt32} (h : L.FlowSetsNonempty)
    (hr : L.resetOnu p q = some L') : L'.FlowSetsNonempty := by
  intro p' q' n r hk
  obtain ⟨hk, hpq⟩ := (hasKey_resetOnu hr _ _ _ _).mp hk
  obtain ⟨fid, hf⟩ := h _ _ _ _ hk
  exact ⟨fid, (has_resetOnu hr _ _ _ _ _).mpr ⟨hf, hpq⟩⟩

/-- A resource that `free` keeps has a flow other than the freed one. -/
theorem Ledger.FlowSetsNonempty.freeResource (h : L.FlowSetsNonempty) (fid : UInt64) :
    (Bbsim.freeResource L fid).FlowSetsNonempty := by
  intro p q n r hk
  obtain ⟨hk, hempty | ⟨fid', hne, hf⟩⟩ := (hasKey_freeResource _ _ _ _ _ _).mp hk
  · obtain ⟨f, hf⟩ := h _ _ _ _ hk
    exact absurd hf ((GoMap.isEmpty_iff_not_mem _).mp hempty f)
  · exact ⟨fid', (has_freeResource _ _ _ _ _ _ _).mpr ⟨hf, hne⟩⟩

end FlowSets

/-- In every state reached from `CreateOLT` by steps that do not panic, every resource of either
ledger has a flow. -/
theorem reachable_flowSetsNonempty {c : Collaborators} {o : OltDevice} (h : Reachable c o) :
    o.allocIDs.FlowSetsNonempty ∧ o.gemPortIDs.FlowSetsNonempty := by
  refine h.ledgers (fun A G => A.FlowSetsNonempty ∧ G.FlowSetsNonempty)
    (fun hA hG => ⟨hA.flowSetsNonempty, hG.flowSetsNonempty⟩)
    (fun ih hA hG => ⟨ih.1.resetOnu hA, ih.2.resetOnu hG⟩) (fun ih he => ?_)
    (fun fid ih => ⟨ih.1.freeResource fid, ih.2.freeResource fid⟩)
  rcases flowAdd_ledgers he with ⟨hA, hG, -⟩ | ⟨-, -, -, -, -, hA, hG⟩
  · exact hA ▸ hG ▸ ih
  · rw [hA, hG]
    exact ⟨ih.1.storeResult _ _ _ _ _, ih.2.storeGemsResult _ _ _ _ _⟩

/-! ## The ledgers record the live flows -/

/-- A flow holds its Alloc-ID under its PON, ONU and port, as `storeAllocId` records it. -/
def Flow.HoldsAlloc (f : Flow) (p o n : UInt32) (a : GoInt32) (fid : UInt64) : Prop :=
  uint32 f.accessIntfId = p ∧ uint32 f.onuId = o ∧ f.portNo = n ∧ f.allocId = a ∧ f.flowId = fid

/-- A flow holds each of its GEM ports under its PON, ONU and port, as `storeGemPortIdByFlow`
records them. -/
def Flow.HoldsGem (f : Flow) (p o n : UInt32) (g : GoInt32) (fid : UInt64) : Prop :=
  uint32 f.accessIntfId = p ∧ uint32 f.onuId = o ∧ f.portNo = n ∧ g ∈ gemPorts f ∧ f.flowId = fid

/-- The flows live after a step, from those live before it, by what the step asks of the ledgers:
a successful `FlowAdd` of an ONU flow makes its flow live; a `FlowRemove` ends the flows of its
flow ID, an `ActivateOnu` those of its ONU, and a reboot that deletes the OLT all of them. -/
def LedgerAct.live (o : OltDevice) (r : Reply) (live : List Flow) : LedgerAct → List Flow
  | .none => live
  | .activate p q => live.filter fun f => !(uint32 f.accessIntfId == p && uint32 f.onuId == q)
  | .add f =>
    if r.result = .ok () ∧ f.accessIntfId ≠ -1 ∧ f.flowType ≠ "multicast" then f :: live else live
  | .remove fid => live.filter fun f => f.flowId != fid
  | .reboot => if (o.internalState.fire .delete).isSome then [] else live

/-- The states reached from `CreateOLT` by steps that do not panic, with the flows live in them. -/
inductive ReachableLive (c : Collaborators) : OltDevice → List Flow → Prop
  | create {cfg : GlobalConfig} {nni : NniPort} {signature : UInt32} {o : OltDevice} :
      createOLT c cfg nni signature = some o → ReachableLive c o []
  | step {o : OltDevice} {live : List Flow} {op : Op} {r : Reply} : ReachableLive c o live →
      op.step c o = some r → ReachableLive c r.dev (op.ledgerAct.live o r live)

/-- The ledgers record exactly the tuples of the live flows, and every resource they hold has a
flow. -/
structure Abstracts (o : OltDevice) (live : List Flow) : Prop where
  alloc : ∀ p q n a fid, o.allocIDs.Has p q n a fid ↔ ∃ f ∈ live, f.HoldsAlloc p q n a fid
  gem : ∀ p q n g fid, o.gemPortIDs.Has p q n g fid ↔ ∃ f ∈ live, f.HoldsGem p q n g fid
  allocNonempty : ∀ p q n a, o.allocIDs.HasKey p q n a → ∃ fid, o.allocIDs.Has p q n a fid
  gemNonempty : ∀ p q n g, o.gemPortIDs.HasKey p q n g → ∃ fid, o.gemPortIDs.Has p q n g fid

section Abstracts

variable {o o' : OltDevice} {live : List Flow}

/-- Ledgers that record nothing abstract no flow. -/
theorem Abstracts.of_clear (hA : o.allocIDs.Clear) (hG : o.gemPortIDs.Clear) : Abstracts o [] where
  alloc p q n a fid := by simpa using Ledger.not_has_of_clear hA p q n a fid
  gem p q n g fid := by simpa using Ledger.not_has_of_clear hG p q n g fid
  allocNonempty := hA.flowSetsNonempty
  gemNonempty := hG.flowSetsNonempty

theorem Abstracts.congr (h : Abstracts o live) (hA : o'.allocIDs = o.allocIDs)
    (hG : o'.gemPortIDs = o.gemPortIDs) : Abstracts o' live := by
  obtain ⟨h1, h2, h3, h4⟩ := h
  exact ⟨hA ▸ h1, hG ▸ h2, hA ▸ h3, hG ▸ h4⟩

theorem mem_live_activate {o : OltDevice} {r : Reply} {p q : UInt32} {f : Flow} :
    f ∈ (LedgerAct.activate p q).live o r live ↔
      f ∈ live ∧ ¬ (uint32 f.accessIntfId = p ∧ uint32 f.onuId = q) := by
  simp [LedgerAct.live, imp_iff_not_or]

theorem mem_live_remove {o : OltDevice} {r : Reply} {fid : UInt64} {f : Flow} :
    f ∈ (LedgerAct.remove fid).live o r live ↔ f ∈ live ∧ f.flowId ≠ fid := by
  simp [LedgerAct.live]

theorem Abstracts.activate {r : Reply} {p q : UInt32} (h : Abstracts o live)
    (hA : o.allocIDs.resetOnu p q = some o'.allocIDs)
    (hG : o.gemPortIDs.resetOnu p q = some o'.gemPortIDs) :
    Abstracts o' ((LedgerAct.activate p q).live o r live) where
  alloc p' q' n a fid := by
    rw [has_resetOnu hA, h.alloc]
    constructor
    · rintro ⟨⟨f, hf, hp, hq, hn⟩, hpq⟩
      exact ⟨f, mem_live_activate.mpr ⟨hf, by rw [hp, hq]; exact hpq⟩, hp, hq, hn⟩
    · rintro ⟨f, hf, hp, hq, hn⟩
      obtain ⟨hf, hpq⟩ := mem_live_activate.mp hf
      exact ⟨⟨f, hf, hp, hq, hn⟩, by rw [← hp, ← hq]; exact hpq⟩
  gem p' q' n g fid := by
    rw [has_resetOnu hG, h.gem]
    constructor
    · rintro ⟨⟨f, hf, hp, hq, hn⟩, hpq⟩
      exact ⟨f, mem_live_activate.mpr ⟨hf, by rw [hp, hq]; exact hpq⟩, hp, hq, hn⟩
    · rintro ⟨f, hf, hp, hq, hn⟩
      obtain ⟨hf, hpq⟩ := mem_live_activate.mp hf
      exact ⟨⟨f, hf, hp, hq, hn⟩, by rw [← hp, ← hq]; exact hpq⟩
  allocNonempty := Ledger.FlowSetsNonempty.resetOnu h.allocNonempty hA
  gemNonempty := Ledger.FlowSetsNonempty.resetOnu h.gemNonempty hG

theorem Abstracts.remove {r : Reply} {fid : UInt64} (h : Abstracts o live)
    (hA : o'.allocIDs = freeResource o.allocIDs fid)
    (hG : o'.gemPortIDs = freeResource o.gemPortIDs fid) :
    Abstracts o' ((LedgerAct.remove fid).live o r live) where
  alloc p q n a fid' := by
    rw [hA, has_freeResource, h.alloc]
    constructor
    · rintro ⟨⟨f, hf, hp, hq, hn, ha, rfl⟩, hne⟩
      exact ⟨f, mem_live_remove.mpr ⟨hf, hne⟩, hp, hq, hn, ha, rfl⟩
    · rintro ⟨f, hf, hp, hq, hn, ha, rfl⟩
      obtain ⟨hf, hne⟩ := mem_live_remove.mp hf
      exact ⟨⟨f, hf, hp, hq, hn, ha, rfl⟩, hne⟩
  gem p q n g fid' := by
    rw [hG, has_freeResource, h.gem]
    constructor
    · rintro ⟨⟨f, hf, hp, hq, hn, hg, rfl⟩, hne⟩
      exact ⟨f, mem_live_remove.mpr ⟨hf, hne⟩, hp, hq, hn, hg, rfl⟩
    · rintro ⟨f, hf, hp, hq, hn, hg, rfl⟩
      obtain ⟨hf, hne⟩ := mem_live_remove.mp hf
      exact ⟨⟨f, hf, hp, hq, hn, hg, rfl⟩, hne⟩
  allocNonempty := hA ▸ Ledger.FlowSetsNonempty.freeResource h.allocNonempty fid
  gemNonempty := hG ▸ Ledger.FlowSetsNonempty.freeResource h.gemNonempty fid

theorem exists_mem_cons_iff {f : Flow} {P : Flow → Prop} {Q : Prop} (hQ : Q ↔ P f) :
    ((∃ g ∈ live, P g) ∨ Q) ↔ ∃ g ∈ f :: live, P g := by
  simp only [List.mem_cons, exists_eq_or_imp, hQ, or_comm]

/-- `FlowAdd` that stores flow `f` makes the ledgers abstract the live flows with `f`. -/
theorem Abstracts.add {f : Flow} (h : Abstracts o live)
    (hA : o'.allocIDs = storeResult o.allocIDs (uint32 f.accessIntfId) (uint32 f.onuId) f.portNo
      f.allocId f.flowId)
    (hG : o'.gemPortIDs = flowGemsResult o.gemPortIDs f) : Abstracts o' (f :: live) where
  alloc p q n a fid := by
    rw [hA, has_storeResult, h.alloc]
    exact exists_mem_cons_iff (by simp only [Flow.HoldsAlloc, eq_comm])
  gem p q n g fid := by
    rw [hG, flowGemsResult, has_storeGemsResult, h.gem]
    exact exists_mem_cons_iff (by simp only [Flow.HoldsGem, gemPorts, eq_comm])
  allocNonempty := hA ▸ Ledger.FlowSetsNonempty.storeResult h.allocNonempty _ _ _ _ _
  gemNonempty := hG ▸ Ledger.FlowSetsNonempty.storeGemsResult h.gemNonempty _ _ _ _ _

end Abstracts

/-- In every state reached from `CreateOLT` by steps that do not panic, `AllocIDs` records exactly
the Alloc-ID tuples of the live flows and `GemPortIDs` exactly their GEM-port tuples, and no
resource of either ledger has an empty flow set. -/
theorem reachableLive_abstracts {c : Collaborators} {o : OltDevice} {live : List Flow}
    (h : ReachableLive c o live) : Abstracts o live := by
  induction h with
  | create hc =>
    obtain ⟨hA, hG⟩ := createOLT_clear hc
    exact .of_clear hA hG
  | @step o live op r _ hs ih =>
    have he := Op.step_ledgers hs
    generalize op.ledgerAct = a at he ⊢
    cases a with
    | none => exact ih.congr he.1 he.2
    | activate p q => exact ih.activate he.1 he.2
    | add f =>
      rcases flowAdd_ledgers he with ⟨hA, hG, hok⟩ | ⟨hres, h1, h2, -, -, hA, hG⟩
      · have hnot : ¬ (r.result = .ok () ∧ f.accessIntfId ≠ -1 ∧ f.flowType ≠ "multicast") :=
          fun ⟨hr, h1, h2⟩ => (hok hr).elim h1 h2
        simp only [LedgerAct.live, if_neg hnot]
        exact ih.congr hA hG
      · simp only [LedgerAct.live, if_pos (And.intro hres (And.intro h1 h2))]
        exact ih.add hA hG
    | remove fid => exact ih.remove he.1 he.2
    | reboot =>
      rcases he with ⟨hd, hA, hG⟩ | ⟨hd, hA, hG⟩
      · simp only [LedgerAct.live, if_pos hd]
        exact .of_clear hA hG
      · simp only [LedgerAct.live, hd, Option.isSome_none, if_false]
        exact ih.congr hA hG

/-- After `ActivateOnu` of the created simulator's ONU and a `FlowAdd` of the sample flow, the
sample flow is the one live flow, and the ledgers record exactly its tuples. -/
theorem reachableLive_abstracts_sample :
    ∃ o live, ReachableLive sampleCollaborators o live ∧ live = [sampleFlow] ∧ Abstracts o live :=
  have h := ((ReachableLive.create (show createdOlt = some _ from rfl)).step
    (show Op.step sampleCollaborators _ (.rpc (.activateOnu 0 1 ⟨"BBSM", [0, 1]⟩)) = some _
      from rfl)).step
    (show Op.step sampleCollaborators _ (.rpc (.flowAdd sampleFlow)) = some _ from rfl)
  ⟨_, _, h, rfl, reachableLive_abstracts h⟩

/-! ## `free` as the spec has it -/

/-- On a ledger whose resources all have a flow, `freeAllocId` (and `freeGemPortId`, on its own
ledger) of any flow computes the spec's `free`: the flow leaves every flow set, the resources left
without a flow are deleted, and every other entry and every map of a PON, an ONU or a port stays. -/
theorem free_deletes_flow_everywhere (o : OltDevice) (flow : Flow) :
    (o.allocIDs.FlowSetsNonempty → o.allocIDs.FreedOf flow.flowId (freeAllocId o flow).allocIDs) ∧
    (o.gemPortIDs.FlowSetsNonempty →
      o.gemPortIDs.FreedOf flow.flowId (freeGemPortId o flow).gemPortIDs) :=
  ⟨fun h => h.freedOf flow.flowId, fun h => h.freedOf flow.flowId⟩

/-- The simulator after `ActivateOnu` of its ONU and a `FlowAdd` of the sample flow. -/
def activatedOlt : Option OltDevice :=
  createdOlt.bind fun o => runOps sampleCollaborators o
    [.rpc (.activateOnu 0 1 ⟨"BBSM", [0, 1]⟩), .rpc (.flowAdd sampleFlow)]

theorem reachable_activatedOlt : ∃ o, activatedOlt = some o ∧ Reachable sampleCollaborators o :=
  ⟨_, rfl, (Reachable.create (show createdOlt = some _ from rfl)).runOps
    (show runOps sampleCollaborators _ [.rpc (.activateOnu 0 1 ⟨"BBSM", [0, 1]⟩),
      .rpc (.flowAdd sampleFlow)] = some _ from rfl)⟩

/-- Once the sample flow is stored, every resource has a flow, and freeing the sample flow from
either ledger computes the spec's `free`. -/
theorem free_deletes_flow_everywhere_sample :
    ∃ o, activatedOlt = some o ∧ o.allocIDs.FlowSetsNonempty ∧ o.gemPortIDs.FlowSetsNonempty ∧
      o.allocIDs.FreedOf sampleFlow.flowId (freeAllocId o sampleFlow).allocIDs ∧
      o.gemPortIDs.FreedOf sampleFlow.flowId (freeGemPortId o sampleFlow).gemPortIDs :=
  have ⟨o, ho, h⟩ := reachable_activatedOlt
  have hn := reachable_flowSetsNonempty h
  ⟨o, ho, hn.1, hn.2, (free_deletes_flow_everywhere o sampleFlow).1 hn.1,
    (free_deletes_flow_everywhere o sampleFlow).2 hn.2⟩

/-- In every state reached from `CreateOLT` by steps that do not panic, `freeAllocId` and
`freeGemPortId` of any flow compute the spec's `free`: the loops never meet an empty flow set. -/
theorem reachable_free_exact {c : Collaborators} {o : OltDevice} (h : Reachable c o)
    (flow : Flow) :
    o.allocIDs.FreedOf flow.flowId (freeAllocId o flow).allocIDs ∧
      o.gemPortIDs.FreedOf flow.flowId (freeGemPortId o flow).gemPortIDs :=
  ⟨(reachable_flowSetsNonempty h).1.freedOf _, (reachable_flowSetsNonempty h).2.freedOf _⟩

/-- Freeing the sample flow in the simulator that stored it computes the spec's `free`. -/
theorem reachable_free_exact_activated :
    ∃ o, activatedOlt = some o ∧ Reachable sampleCollaborators o ∧
      o.allocIDs.FreedOf sampleFlow.flowId (freeAllocId o sampleFlow).allocIDs ∧
      o.gemPortIDs.FreedOf sampleFlow.flowId (freeGemPortId o sampleFlow).gemPortIDs :=
  have ⟨o, ho, h⟩ := reachable_activatedOlt
  ⟨o, ho, h, reachable_free_exact h sampleFlow⟩

end Bbsim
