import Mathlib.Data.String.Basic
import Bbsim.System.Step
import Bbsim.Reports.Spec

/-!
# The ONU range check of `CreateOLT`

`CreateOLT` refuses, with a `Fatal` exit, a PON whose ONU range `StartId..EndId` holds fewer IDs
than `NumOnuPerPon`, counting them as `EndId - StartId + 1` in `uint32` (`createPon_eq_none_iff`).
That count is the number of IDs of the range as long as it does not wrap: when
`StartId <= EndId + 1`, the range is not all `2^32` IDs and `NumOnuPerPon < 2^32`, the check
refuses exactly the ranges too small for `NumOnuPerPon` ONUs (`onuRangeTooSmall_iff`). Past those
bounds it wraps (`onu_range_check_wraps`): a range with `StartId >= EndId + 2` holds no ID but counts
as `2^32 + EndId + 1 - StartId` of them, and the range of all `2^32` IDs counts as none.

A round's failure depends on the PON's index alone, so `CreateOLT` exits exactly when `CreateNNI`
fails, one of its `NumPon` PONs has no configuration or fails the check, `net.Listen` fails, or
`InitOltStats` cannot read its samples; otherwise it returns the initialized OLT with PON ports
`0..NumPon-1`, each with `NumOnuPerPon` ONUs (`createOLT_eq_none_iff_and_pons`).
-/

namespace Bbsim

/-- The range-size check of `CreateOLT`, `EndId - StartId + 1 < uint32(NumOnuPerPon)` in `uint32`,
for a `NumOnuPerPon` that is not negative. -/
def onuRangeTooSmall (r : OnuRange) (numOnuPerPon : Nat) : Bool :=
  decide (r.endId - r.startId + 1 < UInt32.ofNat numOnuPerPon)

/-- A round of the PON loop of `CreateOLT` fails exactly when the PON has no configuration or its ONU
range fails the check, with `NumOnuPerPon = int(OnusPonPort)`. -/
theorem createPon_eq_none_iff {c : Collaborators} {cfg : GlobalConfig} {o : OltDevice} {i : Nat} :
    createPon c cfg o i = none ↔ ∀ ponConf, cfg.ponConfig (UInt32.ofNat i) = some ponConf →
      onuRangeTooSmall ponConf.onuRange cfg.onusPonPort.toNat = true := by
  unfold createPon onuRangeTooSmall
  cases cfg.ponConfig (UInt32.ofNat i) with
  | none => simp
  | some ponConf =>
    simp only [Option.bind_eq_bind, Option.some_bind, Option.some.injEq, forall_eq',
      uint32_ofNat_toNat, decide_eq_true_eq]
    split_ifs with h <;> simp [h]

/-- The PON loop of `CreateOLT` fails exactly when the round of one of its PONs does: whether a
round fails depends on the PON's index, not on the device the earlier rounds built. -/
theorem foldlM_createPon_eq_none {c : Collaborators} {cfg : GlobalConfig} :
    ∀ (l : List Nat) (o : OltDevice), l.foldlM (createPon c cfg) o = none ↔
      ∃ i ∈ l, ∀ ponConf, cfg.ponConfig (UInt32.ofNat i) = some ponConf →
        onuRangeTooSmall ponConf.onuRange cfg.onusPonPort.toNat = true
  | [], o => by simp
  | i :: l, o => by
    rw [List.foldlM_cons]
    simp only [List.mem_cons, or_and_right, exists_or, exists_eq_left]
    cases h : createPon c cfg o i with
    | none => exact iff_of_true rfl (.inl (createPon_eq_none_iff.mp h))
    | some o' =>
      have hi : ¬ _ := fun hf => Option.some_ne_none o' (h.symm.trans (createPon_eq_none_iff.mpr hf))
      exact (foldlM_createPon_eq_none l o').trans (or_iff_right hi).symm

/-- `InitOltStats` exits exactly when the file cannot be opened or one of its lines does not
unmarshal. -/
theorem initOltStats_eq_none_iff {α : Type} (unmarshal : String → Option α)
    (file : Option (List String)) (acc : List α) :
    initOltStats unmarshal file acc = none ↔
      ∀ lines, file = some lines → ∃ line ∈ lines, unmarshal line = none := by
  cases file with
  | none => simp [initOltStats]
  | some lines =>
    have h := mapM_option_isSome unmarshal lines
    simp only [initOltStats, Option.bind_eq_bind, Option.some_bind, Option.some.injEq, forall_eq']
    cases hm : lines.mapM unmarshal with
    | none =>
      simp only [hm, Option.isSome_none, Bool.false_eq_true, false_iff, not_forall] at h
      obtain ⟨line, hl, hn⟩ := h
      exact iff_of_true rfl ⟨line, hl, Option.not_isSome_iff_eq_none.mp hn⟩
    | some samples =>
      simp only [hm, Option.isSome_some, true_iff] at h
      refine iff_of_false (by simp) fun ⟨line, hl, hn⟩ => ?_
      simpa [hn] using h line hl

/-- The `initialize` event of `CreateOLT`, on the device its PON loop leaves, fails exactly when
`net.Listen` does, and otherwise starts the gRPC server and keeps the PON ports. -/
theorem createOLT_init {c : Collaborators} {cfg : GlobalConfig} {nniPort : NniPort}
    {signature : UInt32} {o₁ : OltDevice}
    (hx : (List.range cfg.ponPorts.toNat).foldlM (createPon c cfg)
      { OltDevice.create cfg signature with nnis := [nniPort] } = some o₁) :
    ((internalEvent c o₁ .init).getD none).isSome = c.listens ∧
      ∀ o, (internalEvent c o₁ .init).getD none = some o →
        o.internalState = .initialized ∧ o.oltServer = true ∧ o.pons = o₁.pons := by
  obtain ⟨-, ho₁⟩ := foldlM_createPon_eq_some _ hx
  rw [internalEvent_init_of_created (by rw [ho₁]; rfl)]
  refine ⟨?_, fun o h => ?_⟩
  · unfold initOlt
    rw [ho₁]
    cases c.listens <;> rfl
  · obtain ⟨-, -, _, _, -, rfl⟩ := initOlt_cases h
    exact ⟨rfl, rfl, rfl⟩

/-- `CreateOLT` exits exactly when `CreateNNI` fails, one of its `NumPon` PONs has no configuration
or an ONU range that fails the check, `net.Listen` fails in `InitOlt`, or `InitOltStats` cannot
open the statistics file or unmarshal one of its lines. Otherwise it returns the OLT
`initialized`, with its gRPC server started and the PON ports `0..NumPon-1`, each `created` and
down with `NumOnuPerPon` ONUs numbered from 1. -/
theorem createOLT_eq_none_iff_and_pons (c : Collaborators) (cfg : GlobalConfig)
    (nni : Option NniPort) (signature : UInt32) :
    (createOLT c cfg nni signature = none ↔
      nni = none ∨
      (∃ i < cfg.ponPorts.toNat, ∀ ponConf, cfg.ponConfig (UInt32.ofNat i) = some ponConf →
        onuRangeTooSmall ponConf.onuRange cfg.onusPonPort.toNat = true) ∨
      c.listens = false ∨
      ∀ lines, c.oltStatsFile = some lines → ∃ line ∈ lines, c.unmarshalsPortStats line = false) ∧
    ∀ o, createOLT c cfg nni signature = some o →
      o.internalState = .initialized ∧ o.oltServer = true ∧
      o.pons = (List.range cfg.ponPorts.toNat).map fun i => ⟨UInt32.ofNat i, .created, .down,
        (List.range cfg.onusPonPort.toNat).map fun j =>
          createOnu c cfg.id (UInt32.ofNat i) (UInt32.ofNat (j + 1))⟩ := by
  have hstats := initOltStats_eq_none_iff
    (fun line => if c.unmarshalsPortStats line then some () else none) c.oltStatsFile []
  simp only [ite_eq_right_iff, reduceCtorEq, imp_false, Bool.not_eq_true] at hstats
  cases nni with
  | none => exact ⟨iff_of_true rfl (.inl rfl), fun _ h => nomatch h⟩
  | some nniPort =>
    simp only [createOLT, Option.bind_eq_bind, Option.some_bind, reduceCtorEq, false_or]
    generalize hx : List.foldlM (createPon c cfg) _ _ = x
    cases x with
    | none =>
      refine ⟨iff_of_true rfl (.inl ?_), fun _ h => nomatch h⟩
      obtain ⟨i, hi, h⟩ := (foldlM_createPon_eq_none _ _).mp hx
      exact ⟨i, List.mem_range.mp hi, h⟩
    | some o₁ =>
      have hpon : ¬ ∃ i < cfg.ponPorts.toNat, ∀ ponConf, cfg.ponConfig (UInt32.ofNat i) =
          some ponConf → onuRangeTooSmall ponConf.onuRange cfg.onusPonPort.toNat = true :=
        fun ⟨i, hi, h⟩ => Option.some_ne_none o₁
          (hx.symm.trans ((foldlM_createPon_eq_none _ _).mpr ⟨i, List.mem_range.mpr hi, h⟩))
      obtain ⟨hinit, hstate⟩ := createOLT_init hx
      simp only [Option.some_bind, hpon, false_or]
      cases hie : (internalEvent c o₁ .init).getD none with
      | none =>
        rw [hie] at hinit
        exact ⟨iff_of_true rfl (.inl hinit.symm), fun _ h => nomatch h⟩
      | some o =>
        have hl : c.listens = true := by rw [hie] at hinit; exact hinit.symm
        obtain ⟨hs, hsrv, hp₁⟩ := hstate o hie
        obtain ⟨hp, -⟩ := foldlM_createPon_eq_some _ hx
        simp only [Option.some_bind, hl, Bool.true_eq_false, false_or]
        generalize initOltStats (fun line => if c.unmarshalsPortStats line then some () else none)
          c.oltStatsFile [] = st at hstats ⊢
        cases st with
        | none => exact ⟨iff_of_true rfl (hstats.mp rfl), fun _ h => nomatch h⟩
        | some u =>
          refine ⟨iff_of_false (by simp) fun h => by simpa using hstats.mpr h, fun o' h => ?_⟩
          cases h
          exact ⟨hs, hsrv, by rw [hp₁, hp]; rfl⟩

/-- The check computes, modulo `2^32`, the count `EndId - StartId + 1` and `NumOnuPerPon`. -/
theorem onuRangeTooSmall_iff_mod (r : OnuRange) (n : Nat) :
    onuRangeTooSmall r n = true ↔
      (r.endId.toNat + 4294967297 - r.startId.toNat) % 4294967296 < n % 4294967296 := by
  have he := r.endId.toNat_lt_size
  have hs := r.startId.toNat_lt_size
  have hn : (UInt32.ofNat n).toNat = n % 4294967296 := by simp [UInt32.ofNat, UInt32.toNat]
  simp only [onuRangeTooSmall, decide_eq_true_eq]
  show (r.endId - r.startId + 1).toNat < (UInt32.ofNat n).toNat ↔ _
  rw [UInt32.toNat_add, UInt32.toNat_sub, hn]
  simp only [UInt32.size] at *
  show ((4294967296 - r.startId.toNat + r.endId.toNat) % 4294967296 + 1) % 4294967296 < _ ↔ _
  omega

/-- For an ONU range with `StartId <= EndId + 1` that is not all `2^32` IDs, and
`NumOnuPerPon < 2^32`, the check of `CreateOLT` fails exactly when the range, counted over the
integers, holds fewer than `NumOnuPerPon` IDs. -/
theorem onuRangeTooSmall_iff {r : OnuRange} {n : Nat} (hinv : r.startId.toNat ≤ r.endId.toNat + 1)
    (hfull : r.endId.toNat + 1 - r.startId.toNat < 4294967296) (hn : n < 4294967296) :
    onuRangeTooSmall r n = true ↔ r.endId.toNat + 1 - r.startId.toNat < n := by
  rw [onuRangeTooSmall_iff_mod]
  omega

/-- The check wraps in `uint32`. `CreateOLT` of the sample configuration with the ONU range 2 to 0,
which holds no ID, accepts its one ONU per PON; with the range of all `2^32` IDs it exits; and the
range 1 to 64 passes the check for `2^32` ONUs per PON. -/
theorem onu_range_check_wraps :
    (0 : UInt32).toNat + 1 - (2 : UInt32).toNat < 1 ∧
      (createOLT sampleCollaborators { sampleConfig with ponConfig := fun _ => some ⟨⟨2, 0⟩⟩ }
        (some ⟨0, .up⟩) 0).isSome ∧
    ¬ (4294967295 : UInt32).toNat + 1 - (0 : UInt32).toNat < 1 ∧
      createOLT sampleCollaborators
        { sampleConfig with ponConfig := fun _ => some ⟨⟨0, 4294967295⟩⟩ } (some ⟨0, .up⟩) 0 = none ∧
    (64 : UInt32).toNat + 1 - (1 : UInt32).toNat < 4294967296 ∧
      onuRangeTooSmall ⟨1, 64⟩ 4294967296 = false :=
  ⟨by decide, rfl, by decide, rfl, by decide, rfl⟩

end Bbsim
