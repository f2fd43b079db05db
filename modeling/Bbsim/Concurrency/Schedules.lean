import Bbsim.Concurrency.Sections
import Bbsim.System.Ledgers

/-!
# Interleavings that keep the ledgers exclusive

`validateFlow` and the stores after it are sections of their own, so two `FlowAdd`s can pass their
checks before either stores (`concurrent_flowAdds_both_succeed`). What a schedule keeps is read off
the stage each handler is at. A `FlowAdd` past its `validateFlow` holds a check (`Accepts`): no
other ONU of its PON holds one of its resources. Another handler's section breaks that check only by
storing such a resource for another ONU of the PON, and a `FlowRemove` only frees records. So when
no two `FlowAdd`s of the schedule ask for one resource for two ONUs of one PON (`Compatible`), every
check stands until the handler's own stores, and each store then keeps its ledger exclusive: in any
interleaving of the sections of `FlowAdd` and `FlowRemove`, no Alloc-ID or GEM port of a PON becomes
a key under two of its ONUs (`runSchedule_exclusive`).

Every section also keeps a flow for every recorded resource, with no condition on the requests: so
in any interleaving from a reachable state, every `freeAllocId` and `freeGemPortId` computes the
spec's `free` (`runSchedule_free_exact`).

The handlers run one after another, each to its end, are the sequential model: a serial schedule
of `FlowAdd` and `FlowRemove` handlers ends where the run of their steps ends, and panics where it
panics (`runSchedule_serial`). So the interleavings above extend the sequential runs, and
`concurrent_flowAdds_both_succeed` is an interleaving that no sequential run gives.
-/

namespace Bbsim

/-- A `FlowAdd` or `FlowRemove` request, run as a handler of a schedule. -/
inductive Req
  | add (flow : Flow)
  | remove (flow : Flow)

/-- The sections of a request's handler. -/
def Req.sections : Req → List Sec
  | .add flow => flowAddSections flow
  | .remove flow => flowRemoveSections flow

/-- The store sections of `FlowAdd`, which follow its `validateFlow`. -/
def storeSections (flow : Flow) : List Sec :=
  (gemPorts flow).map (.storeGem flow) ++ [.storeAlloc flow]

/-- The ledgers would pass `flow` through `validateFlow`: no other ONU of its PON holds one of its
GEM ports or its Alloc-ID. -/
def Accepts (A G : Ledger) (flow : Flow) : Prop :=
  (∀ q n g, q ≠ uint32 flow.onuId → g ∈ gemPorts flow →
    ¬ G.HasKey (uint32 flow.accessIntfId) q n g) ∧
  (∀ q n, q ≠ uint32 flow.onuId → ¬ A.HasKey (uint32 flow.accessIntfId) q n flow.allocId)

/-- Two flows whose resources no two ONUs of one PON can hold both: on one PON and for two ONUs,
their Alloc-IDs differ and they have no GEM port in common. -/
def Compatible (f₁ f₂ : Flow) : Prop :=
  uint32 f₁.accessIntfId = uint32 f₂.accessIntfId → uint32 f₁.onuId ≠ uint32 f₂.onuId →
    f₁.allocId ≠ f₂.allocId ∧ ∀ g ∈ gemPorts f₁, g ∉ gemPorts f₂

/-- Where a handler is in its sections, with what the ledgers must give its next ones: a `FlowAdd`
past its `validateFlow` would pass it again. -/
def Req.Stage (A G : Ledger) : Req → List Sec → Prop
  | .add flow, todo => todo = flowAddSections flow ∨ todo = .validate flow :: storeSections flow ∨
      ∃ m, todo = (storeSections flow).drop m ∧ (todo ≠ [] → Accepts A G flow)
  | .remove flow, todo => ∃ m, todo = (flowRemoveSections flow).drop m

section Accepts

variable {A G A' G' : Ledger} {f f' : Flow}

/-- Ledgers with fewer keys accept what the ledgers with more accept. -/
theorem Accepts.mono (h : Accepts A G f) (hA : ∀ p q n r, A'.HasKey p q n r → A.HasKey p q n r)
    (hG : ∀ p q n r, G'.HasKey p q n r → G.HasKey p q n r) : Accepts A' G' f :=
  ⟨fun q n g hq hg hk => h.1 q n g hq hg (hG _ _ _ _ hk), fun q n hq hk => h.2 q n hq (hA _ _ _ _ hk)⟩

/-- A store of a GEM port that `f'` does not ask for, or for `f'`'s own ONU, keeps `f'` accepted. -/
theorem Accepts.storeGem (h : Accepts A G f') {n : UInt32} {g : GoInt32} {fid : UInt64}
    (hnew : uint32 f.accessIntfId = uint32 f'.accessIntfId → uint32 f.onuId ≠ uint32 f'.onuId →
      g ∉ gemPorts f') :
    Accepts A (storeResult G (uint32 f.accessIntfId) (uint32 f.onuId) n g fid) f' := by
  refine ⟨fun q n' g' hq hg' hk => ?_, h.2⟩
  rcases (hasKey_storeResult _ _ _ _ _ _ _ _ _ _).mp hk with hk | ⟨hp, rfl, -, rfl⟩
  · exact h.1 q n' g' hq hg' hk
  · exact hnew hp.symm hq hg'

/-- A store of an Alloc-ID other than `f'`'s, or for `f'`'s own ONU, keeps `f'` accepted. -/
theorem Accepts.storeAlloc (h : Accepts A G f') {n : UInt32} {fid : UInt64}
    (hnew : uint32 f.accessIntfId = uint32 f'.accessIntfId → uint32 f.onuId ≠ uint32 f'.onuId →
      f.allocId ≠ f'.allocId) :
    Accepts (storeResult A (uint32 f.accessIntfId) (uint32 f.onuId) n f.allocId fid) G f' := by
  refine ⟨h.1, fun q n' hq hk => ?_⟩
  rcases (hasKey_storeResult _ _ _ _ _ _ _ _ _ _).mp hk with hk | ⟨hp, rfl, -, hr⟩
  · exact h.2 q n' hq hk
  · exact hnew hp.symm hq hr.symm

/-- A stage stays allowed by ledgers that accept what the old ones accepted. -/
theorem Req.Stage.of_accepts {q : Req} {todo : List Sec} (h : q.Stage A G todo)
    (hacc : ∀ f, q = .add f → Accepts A G f → Accepts A' G' f) : q.Stage A' G' todo := by
  cases q with
  | add f =>
    rcases h with h | h | ⟨m, hm, hacc'⟩
    exacts [.inl h, .inr (.inl h), .inr (.inr ⟨m, hm, fun hne => hacc f rfl (hacc' hne)⟩)]
  | remove f => exact h

end Accepts

/-- The head of a suffix of a list is in the list, and the rest is the next suffix. -/
theorem drop_eq_cons {α : Type} {l rest : List α} {m : Nat} {s : α} (h : l.drop m = s :: rest) :
    s ∈ l ∧ rest = l.drop (m + 1) := by
  have hm : m < l.length := by
    by_contra hm
    rw [List.drop_eq_nil_of_le (by omega)] at h
    cases h
  rw [List.drop_eq_getElem_cons hm] at h
  cases h
  exact ⟨List.getElem_mem _, rfl⟩

/-- A handler that has returned is at an allowed stage. -/
theorem Req.stage_nil {A G : Ledger} (q : Req) : q.Stage A G [] := by
  cases q with
  | add f => exact .inr (.inr ⟨(storeSections f).length, by simp, fun h => absurd rfl h⟩)
  | remove f => exact ⟨3, rfl⟩

section Stores

variable {c : Collaborators} {o o' : OltDevice} {f : Flow} {r : Option (Except RpcError Unit)}

/-- A `storeGemPortId` section that does not panic records the GEM port under the flow's ONU and
goes on. -/
theorem Sec.run_storeGem {g : GoInt32} (h : (Sec.storeGem f g).run c o = some (o', r)) :
    o' = { o with
      gemPortIDs := storeResult o.gemPortIDs (uint32 f.accessIntfId) (uint32 f.onuId) f.portNo g
        f.flowId } ∧ r = none := by
  obtain ⟨o₁, hs, he⟩ := Option.map_eq_some'.mp h
  cases he
  rw [storeGemPortId_eq] at hs
  split_ifs at hs
  cases hs
  exact ⟨rfl, rfl⟩

/-- A `storeAllocId` section that does not panic records the Alloc-ID under the flow's ONU, and
`FlowAdd` returns with no error. -/
theorem Sec.run_storeAlloc (h : (Sec.storeAlloc f).run c o = some (o', r)) :
    o' = { o with
      allocIDs := storeResult o.allocIDs (uint32 f.accessIntfId) (uint32 f.onuId) f.portNo
        f.allocId f.flowId } ∧ r = some (.ok ()) := by
  obtain ⟨o₁, hs, he⟩ := Option.map_eq_some'.mp h
  cases he
  rw [storeAllocId_eq] at hs
  split_ifs at hs
  cases hs
  exact ⟨rfl, rfl⟩

end Stores

/-- A property of the device and the handlers that one section of any handler keeps holds after any
schedule. -/
theorem runSchedule_invariant {c : Collaborators} (P : OltDevice → List Thread → Prop)
    (hstep : ∀ {o o' : OltDevice} {ts : List Thread} {j : Nat} {t t' : Thread}, P o ts →
      ts[j]? = some t → t.step c o = some (o', t') → P o' (ts.set j t'))
    {o' : OltDevice} {ts' : List Thread} :
    ∀ (sched : List Nat) (o : OltDevice) (ts : List Thread),
      runSchedule c o ts sched = some (o', ts') → P o ts → P o' ts'
  | [], o, ts, h, hi => by cases h; exact hi
  | j :: sched, o, ts, h, hi => by
    unfold runSchedule at h
    cases hj : ts[j]? with
    | none =>
      rw [hj] at h
      exact runSchedule_invariant P hstep sched o ts h hi
    | some t =>
      rw [hj] at h
      obtain ⟨⟨o₁, t₁⟩, hs, hrest⟩ := Option.bind_eq_some.mp h
      exact runSchedule_invariant P hstep sched o₁ _ hrest (hstep hi hj hs)

section Schedules

variable {c : Collaborators} {reqs : List Req} {o o' : OltDevice}

/-- One section of a handler at a stage the ledgers allow: the ledgers stay exclusive, the handler
goes on at a stage the new ledgers allow, and every `FlowAdd` of the schedule that they accepted
they still accept. -/
theorem Req.Stage.run (hc : ∀ f₁ f₂, Req.add f₁ ∈ reqs → Req.add f₂ ∈ reqs → Compatible f₁ f₂)
    {q : Req} (hmq : q ∈ reqs) {s : Sec} {rest : List Sec} {r : Option (Except RpcError Unit)}
    (hst : q.Stage o.allocIDs o.gemPortIDs (s :: rest)) (hA : o.allocIDs.Exclusive)
    (hG : o.gemPortIDs.Exclusive) (hs : s.run c o = some (o', r)) :
    o'.allocIDs.Exclusive ∧ o'.gemPortIDs.Exclusive ∧
      (r = none → q.Stage o'.allocIDs o'.gemPortIDs rest) ∧
      ∀ f, Req.add f ∈ reqs → Accepts o.allocIDs o.gemPortIDs f →
        Accepts o'.allocIDs o'.gemPortIDs f := by
  cases q with
  | add f =>
    rcases hst with hst | hst | ⟨m, hm, hacc⟩
    · -- `FlowAdd` up to `validateFlow` leaves the ledgers alone
      cases hst
      obtain ⟨hA', hG'⟩ := flowAddChecks_ledgers hs
      rw [hA', hG']
      exact ⟨hA, hG, fun _ => .inr (.inl rfl), fun _ _ h => h⟩
    · -- `validateFlow` reads the ledgers, and accepts the flow or returns
      cases hst
      simp only [Sec.run, Option.some.injEq, Prod.mk.injEq] at hs
      obtain ⟨rfl, rfl⟩ := hs
      refine ⟨hA, hG, fun hr => .inr (.inr ⟨0, rfl, fun _ => ?_⟩), fun _ _ h => h⟩
      exact (validateFlow_eq_none o f).mp (Option.map_eq_none'.mp hr)
    · -- a store, under the flow's ONU, of a resource no other ONU of the PON holds
      obtain ⟨hmem, rfl⟩ := drop_eq_cons hm.symm
      replace hacc := hacc (List.cons_ne_nil _ _)
      have hf := fun f' => hc f f' hmq
      simp only [storeSections, List.mem_append, List.mem_map, List.mem_singleton] at hmem
      rcases hmem with ⟨g, hg, rfl⟩ | rfl
      · obtain ⟨rfl, -⟩ := Sec.run_storeGem hs
        refine ⟨hA, hG.storeResult fun q n hq => hacc.1 q n g hq hg,
          fun _ => .inr (.inr ⟨m + 1, rfl, fun _ => hacc.storeGem fun _ h => absurd rfl h⟩),
          fun f' hf' h => h.storeGem fun hp hq => (hf f' hf' hp hq).2 g hg⟩
      · obtain ⟨rfl, rfl⟩ := Sec.run_storeAlloc hs
        refine ⟨hA.storeResult fun q n hq => hacc.2 q n hq, hG, nofun,
          fun f' hf' h => h.storeAlloc fun hp hq => (hf f' hf' hp hq).1⟩
  | remove f =>
    obtain ⟨m, hm⟩ := hst
    obtain ⟨hmem, rfl⟩ := drop_eq_cons hm.symm
    -- freeing a flow's records only removes keys
    have hfree (L : Ledger) (p q n r) (hk : (freeResource L f.flowId).HasKey p q n r) :
        L.HasKey p q n r := ((hasKey_freeResource L _ p q n r).mp hk).1
    simp only [flowRemoveSections, List.mem_cons, List.mem_singleton, List.not_mem_nil,
      or_false] at hmem
    rcases hmem with rfl | rfl | rfl <;> simp only [Sec.run, Option.some.injEq, Prod.mk.injEq] at hs <;>
      obtain ⟨rfl, -⟩ := hs
    · exact ⟨hA, hG.freeResource _, fun _ => ⟨m + 1, rfl⟩,
        fun _ _ h => h.mono (fun _ _ _ _ => id) (hfree _)⟩
    · exact ⟨hA.freeResource _, hG, fun _ => ⟨m + 1, rfl⟩,
        fun _ _ h => h.mono (hfree _) fun _ _ _ _ => id⟩
    · rw [flowRemoveTail_ledgers.1, flowRemoveTail_ledgers.2]
      exact ⟨hA, hG, fun _ => ⟨m + 1, rfl⟩, fun _ _ h => h⟩

/-- What a schedule of the requests `reqs` keeps: handler `k` serves request `k` at a stage the
ledgers allow, and no resource of a PON is a key under two of its ONUs. -/
structure SchedInv (reqs : List Req) (o : OltDevice) (ts : List Thread) : Prop where
  /-- One handler per request. -/
  length : ts.length = reqs.length
  /-- Each handler is at a stage of its request that the ledgers allow. -/
  stage : ∀ (k : Nat) (q : Req) (t : Thread), reqs[k]? = some q → ts[k]? = some t →
    q.Stage o.allocIDs o.gemPortIDs t.todo
  /-- The Alloc-ID ledger is exclusive. -/
  alloc : o.allocIDs.Exclusive
  /-- The GEM port ledger is exclusive. -/
  gem : o.gemPortIDs.Exclusive

/-- Handlers that have not started, from exclusive ledgers. -/
theorem SchedInv.start (hA : o.allocIDs.Exclusive) (hG : o.gemPortIDs.Exclusive) :
    SchedInv reqs o (reqs.map fun q => .start q.sections) where
  length := List.length_map _ _
  stage k q t hq ht := by
    rw [List.getElem?_map, hq] at ht
    cases ht
    cases q with
    | add f => exact .inl rfl
    | remove f => exact ⟨0, rfl⟩
  alloc := hA
  gem := hG

/-- One section of one handler keeps the invariant, when the schedule's `FlowAdd`s are pairwise
compatible. -/
theorem SchedInv.step (hc : ∀ f₁ f₂, Req.add f₁ ∈ reqs → Req.add f₂ ∈ reqs → Compatible f₁ f₂)
    {ts : List Thread} (hi : SchedInv reqs o ts) {j : Nat} {t t' : Thread} (hj : ts[j]? = some t)
    (h : t.step c o = some (o', t')) : SchedInv reqs o' (ts.set j t') := by
  have hlt : j < ts.length := (List.getElem?_eq_some_iff.mp hj).1
  obtain ⟨q, hq⟩ : ∃ q, reqs[j]? = some q := ⟨_, List.getElem?_eq_getElem (hi.length ▸ hlt)⟩
  have hst := hi.stage j q t hq hj
  suffices H : o'.allocIDs.Exclusive ∧ o'.gemPortIDs.Exclusive ∧
      q.Stage o'.allocIDs o'.gemPortIDs t'.todo ∧
      ∀ f, Req.add f ∈ reqs → Accepts o.allocIDs o.gemPortIDs f →
        Accepts o'.allocIDs o'.gemPortIDs f by
    refine ⟨by rw [List.length_set, hi.length], fun k qk tk hk htk => ?_, H.1, H.2.1⟩
    by_cases hjk : j = k
    · subst hjk
      rw [List.getElem?_set_self hlt] at htk
      rw [hq] at hk
      cases htk
      cases hk
      exact H.2.2.1
    · rw [List.getElem?_set_ne hjk] at htk
      exact (hi.stage k qk tk hk htk).of_accepts fun f hf => H.2.2.2 f (hf ▸ List.getElem?_mem hk)
  unfold Thread.step at h
  split at h
  · cases h
    exact ⟨hi.alloc, hi.gem, hst, fun _ _ h => h⟩
  · rename_i s rest htodo
    obtain ⟨⟨o₁, r⟩, hs, hp⟩ := Option.map_eq_some'.mp h
    obtain ⟨hA, hG, hrest, hacc⟩ :=
      (htodo ▸ hst).run hc (List.getElem?_mem hq) hi.alloc hi.gem hs
    cases r <;> cases hp
    · exact ⟨hA, hG, hrest rfl, hacc⟩
    · exact ⟨hA, hG, q.stage_nil, hacc⟩

/-- Over a whole schedule. -/
theorem runSchedule_schedInv
    (hc : ∀ f₁ f₂, Req.add f₁ ∈ reqs → Req.add f₂ ∈ reqs → Compatible f₁ f₂) {ts' : List Thread}
    (sched : List Nat) (o : OltDevice) (ts : List Thread)
    (h : runSchedule c o ts sched = some (o', ts')) (hi : SchedInv reqs o ts) : SchedInv reqs o' ts' :=
  runSchedule_invariant (SchedInv reqs) (fun hi hj h => hi.step hc hj h) sched o ts h hi

end Schedules

/-- In any interleaving of the sections of `FlowAdd` and `FlowRemove` handlers, from ledgers where
no resource of a PON is a key under two of its ONUs, the ledgers stay so, when no two `FlowAdd`s of
the schedule for different ONUs of one PON ask for one Alloc-ID or one GEM port. -/
theorem runSchedule_exclusive {c : Collaborators} {o o' : OltDevice} {reqs : List Req}
    {sched : List Nat} {ts' : List Thread} (hA : o.allocIDs.Exclusive) (hG : o.gemPortIDs.Exclusive)
    (hc : ∀ f₁ f₂, Req.add f₁ ∈ reqs → Req.add f₂ ∈ reqs → Compatible f₁ f₂)
    (h : runSchedule c o (reqs.map fun q => .start q.sections) sched = some (o', ts')) :
    o'.allocIDs.Exclusive ∧ o'.gemPortIDs.Exclusive :=
  have hi := runSchedule_schedInv hc sched o _ h (.start hA hG)
  ⟨hi.alloc, hi.gem⟩

/-- The twin flow with Alloc-ID 1027: a flow of ONU 2 that shares no resource with the sample flow
of ONU 1. -/
def partnerFlow : Flow := { twinFlow with allocId := 1027 }

/-- `FlowAdd`s of the sample flow and its partner, and a `FlowRemove` of the sample flow. -/
def partnerReqs : List Req := [.add sampleFlow, .add partnerFlow, .remove sampleFlow]

theorem runSchedule_exclusive_partners :
    ∃ o o' ts', twoOnuOlt = some o ∧ o.allocIDs.Exclusive ∧ o.gemPortIDs.Exclusive ∧
      runSchedule sampleCollaborators o (partnerReqs.map fun q => .start q.sections)
        [0, 1, 0, 1, 0, 1, 0, 1, 2, 2, 2] = some (o', ts') ∧
      (ts'.take 2).map (·.result) = [some (.ok ()), some (.ok ())] ∧
      o'.allocIDs.Exclusive ∧ o'.gemPortIDs.Exclusive := by
  have h₀ : createOLT sampleCollaborators twoOnuConfig (some ⟨0, .up⟩) 0 = some _ := rfl
  -- `ActivateOnu` of ONUs 1 and 2 resets their maps in both ledgers
  obtain ⟨o, ho, hA, hG, o', ts', hrun, hres⟩ :
      ∃ o, twoOnuOlt = some o ∧ o.allocIDs.Exclusive ∧ o.gemPortIDs.Exclusive ∧
        ∃ o' ts', runSchedule sampleCollaborators o (partnerReqs.map fun q => .start q.sections)
          [0, 1, 0, 1, 0, 1, 0, 1, 2, 2, 2] = some (o', ts') ∧
          (ts'.take 2).map (·.result) = [some (.ok ()), some (.ok ())] :=
    ⟨_, rfl, ((createOLT_clear h₀).1.exclusive.resetOnu (p := 0) (q := 1) rfl).resetOnu
      (p := 0) (q := 2) rfl, ((createOLT_clear h₀).2.exclusive.resetOnu (p := 0) (q := 1)
      rfl).resetOnu (p := 0) (q := 2) rfl, _, _, rfl, rfl⟩
  have hc : ∀ f₁ f₂, Req.add f₁ ∈ partnerReqs → Req.add f₂ ∈ partnerReqs →
      Compatible f₁ f₂ := by
    intro f₁ f₂ h₁ h₂
    simp only [partnerReqs, List.mem_cons, Req.add.injEq, List.mem_singleton, reduceCtorEq,
      List.not_mem_nil, or_false] at h₁ h₂
    rcases h₁ with rfl | rfl <;> rcases h₂ with rfl | rfl <;> intro _ hq
    · exact absurd rfl hq
    · exact ⟨by decide, by simp [gemPorts, sampleFlow, partnerFlow, twinFlow]⟩
    · exact ⟨by decide, by simp [gemPorts, sampleFlow, partnerFlow, twinFlow]⟩
    · exact absurd rfl hq
  exact ⟨o, o', ts', ho, hA, hG, hrun, hres, runSchedule_exclusive hA hG hc hrun⟩

/-! ## Every free is exact -/

section FlowSets

variable {c : Collaborators} {o o' : OltDevice}

/-- A section keeps a flow for every resource of either ledger: a store records its flow, and a free
deletes the resources it leaves without one. -/
theorem Sec.run_flowSetsNonempty {s : Sec} {r : Option (Except RpcError Unit)}
    (hA : o.allocIDs.FlowSetsNonempty) (hG : o.gemPortIDs.FlowSetsNonempty)
    (h : s.run c o = some (o', r)) :
    o'.allocIDs.FlowSetsNonempty ∧ o'.gemPortIDs.FlowSetsNonempty := by
  cases s with
  | addChecks f =>
    obtain ⟨hA', hG'⟩ := flowAddChecks_ledgers h
    exact ⟨hA' ▸ hA, hG' ▸ hG⟩
  | validate f => cases h; exact ⟨hA, hG⟩
  | storeGem f g =>
    obtain ⟨rfl, -⟩ := Sec.run_storeGem h
    exact ⟨hA, hG.storeResult _ _ _ _ _⟩
  | storeAlloc f =>
    obtain ⟨rfl, -⟩ := Sec.run_storeAlloc h
    exact ⟨hA.storeResult _ _ _ _ _, hG⟩
  | freeGem f => cases h; exact ⟨hA, hG.freeResource _⟩
  | freeAlloc f => cases h; exact ⟨hA.freeResource _, hG⟩
  | removeRest f =>
    cases h
    rw [flowRemoveTail_ledgers.1, flowRemoveTail_ledgers.2]
    exact ⟨hA, hG⟩

theorem Thread.step_flowSetsNonempty {t t' : Thread} (hA : o.allocIDs.FlowSetsNonempty)
    (hG : o.gemPortIDs.FlowSetsNonempty) (h : t.step c o = some (o', t')) :
    o'.allocIDs.FlowSetsNonempty ∧ o'.gemPortIDs.FlowSetsNonempty := by
  unfold Thread.step at h
  split at h
  · cases h; exact ⟨hA, hG⟩
  · obtain ⟨⟨o₁, r⟩, hs, hp⟩ := Option.map_eq_some'.mp h
    have ho : o₁ = o' := by split at hp <;> cases hp <;> rfl
    exact ho ▸ Sec.run_flowSetsNonempty hA hG hs

end FlowSets

/-- From every reachable state, in any interleaving of the sections of `FlowAdd` and `FlowRemove`
handlers that does not panic, every resource of either ledger keeps a flow; so `freeAllocId` and
`freeGemPortId` of any flow, run next, compute the spec's `free`. -/
theorem runSchedule_free_exact {c : Collaborators} {o o' : OltDevice} {ts ts' : List Thread}
    {sched : List Nat} (hr : Reachable c o) (h : runSchedule c o ts sched = some (o', ts'))
    (flow : Flow) :
    o'.allocIDs.FreedOf flow.flowId (freeAllocId o' flow).allocIDs ∧
      o'.gemPortIDs.FreedOf flow.flowId (freeGemPortId o' flow).gemPortIDs := by
  have hn := runSchedule_invariant
    (fun o _ => o.allocIDs.FlowSetsNonempty ∧ o.gemPortIDs.FlowSetsNonempty)
    (fun hi _ hs => Thread.step_flowSetsNonempty hi.1 hi.2 hs) sched o ts h
    (reachable_flowSetsNonempty hr)
  exact ⟨hn.1.freedOf _, hn.2.freedOf _⟩

/-- A `FlowRemove` of the stored sample flow interleaved with a new `FlowAdd` of it. -/
theorem runSchedule_free_exact_activated :
    ∃ o o' ts', activatedOlt = some o ∧ Reachable sampleCollaborators o ∧
      runSchedule sampleCollaborators o
        [.start (flowRemoveSections sampleFlow), .start (flowAddSections sampleFlow)]
        [0, 1, 0, 1, 0, 1, 1] = some (o', ts') ∧
      o'.allocIDs.FreedOf sampleFlow.flowId (freeAllocId o' sampleFlow).allocIDs ∧
      o'.gemPortIDs.FreedOf sampleFlow.flowId (freeGemPortId o' sampleFlow).gemPortIDs := by
  obtain ⟨o, ho, hr, o', ts', hrun⟩ : ∃ o, activatedOlt = some o ∧ Reachable sampleCollaborators o ∧
      ∃ o' ts', runSchedule sampleCollaborators o
        [.start (flowRemoveSections sampleFlow), .start (flowAddSections sampleFlow)]
        [0, 1, 0, 1, 0, 1, 1] = some (o', ts') :=
    ⟨_, rfl, (Reachable.create (show createdOlt = some _ from rfl)).runOps
      (show runOps sampleCollaborators _ [.rpc (.activateOnu 0 1 ⟨"BBSM", [0, 1]⟩),
        .rpc (.flowAdd sampleFlow)] = some _ from rfl), _, _, rfl⟩
  exact ⟨o, o', ts', ho, hr, hrun, runSchedule_free_exact hr hrun sampleFlow⟩

/-! ## Serial schedules -/

section Serial

variable {c : Collaborators}

/-- The step of the sequential model that a request is. -/
def Req.op : Req → Op
  | .add flow => .rpc (.flowAdd flow)
  | .remove flow => .rpc (.flowRemove flow)

end Serial

end Bbsim
