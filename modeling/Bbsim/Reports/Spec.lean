import Mathlib.Data.String.Basic
import Bbsim.Devices.Reports

/-!
# What the reports' loops compute

`periodicPortStats` keeps its counter inside `OltStats` from one tick to the next when `OltStats`
has a sample, so its `k`-th tick sends `OltStats[k mod len]` (`periodicPortStats_cycles`); with
no sample, its first tick indexes past the end and panics.

The interface-ID loop of `GetDeviceInfo` counts in `uint32`. For `EndId < 2^32 - 1` it ends, with
the IDs `StartId` to `EndId` (`intfIdsLoop_terminates`); for `EndId = 2^32 - 1` the test
`i <= EndId` holds of every counter, which wraps to zero, and no fuel is enough
(`intfIdsLoop_full_range_never_ends`). `GetDeviceInfo` so returns exactly when no PON range of the configuration ends
at `2^32 - 1`, and then lists each range's PON IDs (`getDeviceInfo_returns_iff`).
-/

namespace Bbsim

/-! ## Port statistics -/

section Stats

variable {α : Type} {oltStats : List α}

/-- A tick from a counter inside `OltStats` sends the sample there and moves the counter one place
round the list. -/
theorem portStatsTick_of_lt {count : Nat} (h : count < oltStats.length) :
    portStatsTick oltStats count = some (oltStats[count], (count + 1) % oltStats.length) := by
  simp only [portStatsTick, List.getElem?_eq_getElem h, Option.bind_eq_bind, Option.some_bind]
  split_ifs with he
  · rw [he, Nat.mod_self]
  · rw [Nat.mod_eq_of_lt (by omega)]

/-- `n` ticks from a counter inside `OltStats` send the samples at the next `n` places round the
list, and the loop goes on from the place after them. -/
theorem periodicPortStats_ticks :
    ∀ (n : Nat) {count : Nat}, count < oltStats.length → ∀ ws, ∃ sent, sent.length = n ∧
      (∀ k < n, sent[k]? = oltStats[(count + k) % oltStats.length]?) ∧
      periodicPortStats oltStats count (List.replicate n .tick ++ ws) =
        (periodicPortStats oltStats ((count + n) % oltStats.length) ws).map (sent ++ ·)
  | 0, count, h, ws => ⟨[], rfl, fun _ hk => absurd hk (Nat.not_lt_zero _), by
      simp [Nat.mod_eq_of_lt h]⟩
  | n + 1, count, h, ws => by
    obtain ⟨sent, hlen, hsent, hrun⟩ :=
      periodicPortStats_ticks n (Nat.mod_lt (count + 1) (by omega)) ws
    refine ⟨oltStats[count] :: sent, by simp [hlen], fun k hk => ?_, ?_⟩
    · cases k with
      | zero => simp [Nat.mod_eq_of_lt h]
      | succ k =>
        rw [List.getElem?_cons_succ, hsent k (by omega), Nat.mod_add_mod]
        congr 2
        omega
    · rw [List.replicate_succ, List.cons_append, periodicPortStats, portStatsTick_of_lt h]
      simp only [Option.bind_eq_bind, Option.some_bind]
      rw [hrun, Nat.mod_add_mod, show count + 1 + n = count + (n + 1) by omega]
      cases periodicPortStats oltStats ((count + (n + 1)) % oltStats.length) ws <;> rfl

/-- On a non-empty `OltStats`, every run of `periodicPortStats` with `n` ticks before the
cancellation sends `n` samples, the `k`-th of them `OltStats[k mod len]`: every index it uses is
inside `OltStats`. -/
theorem periodicPortStats_cycles (h : oltStats ≠ []) (n : Nat) (ws : List Wake) :
    ∃ sent, periodicPortStats oltStats 0 (List.replicate n .tick ++ .done :: ws) = some sent ∧
      sent.length = n ∧
      ∀ k < n, ∃ s, oltStats[k % oltStats.length]? = some s ∧ sent[k]? = some s := by
  have hpos : 0 < oltStats.length := List.length_pos.mpr h
  obtain ⟨sent, hlen, hsent, hrun⟩ := periodicPortStats_ticks n hpos (.done :: ws)
  refine ⟨sent, by simpa [periodicPortStats] using hrun, hlen, fun k hk => ?_⟩
  rw [hsent k hk, Nat.zero_add, List.getElem?_eq_getElem (Nat.mod_lt k hpos)]
  exact ⟨_, rfl, rfl⟩

end Stats

/-- Five ticks over three samples go round the list once and a half. -/
theorem periodicPortStats_cycles_three :
    [10, 20, 30] ≠ ([] : List Nat) ∧
      ∃ sent, periodicPortStats [10, 20, 30] 0 (List.replicate 5 .tick ++ [.done]) = some sent ∧
        sent.length = 5 ∧
        ∀ k < 5, ∃ s, [10, 20, 30][k % 3]? = some s ∧ sent[k]? = some s :=
  ⟨by decide, periodicPortStats_cycles (by decide) 5 []⟩

/-- An empty `olt_stats.txt` leaves `OltStats` empty, and the first tick then indexes
`OltStats[0]`, which panics. -/
theorem periodicPortStats_empty_panics :
    initOltStats String.toNat? (some []) [] = some [] ∧
      periodicPortStats ([] : List Nat) 0 [.tick, .done] = none :=
  ⟨rfl, rfl⟩

/-! ## The interface IDs of `GetDeviceInfo` -/

section IntfIds

variable {i endId : UInt32}

theorem toNat_succ_of_le (hi : i ≤ endId) (he : endId < 4294967295) :
    (i + 1).toNat = i.toNat + 1 := by
  have hi' : i.toNat ≤ endId.toNat := hi
  have he' : endId.toNat < 4294967295 := he
  rw [UInt32.toNat_add]
  show (i.toNat + 1) % 4294967296 = _
  omega

/-- One round of the loop takes the first of the IDs `i` to `EndId`. -/
theorem range'_intfIds_succ (hi : i ≤ endId) (he : endId < 4294967295) :
    i :: (List.range' (i + 1).toNat (endId.toNat + 1 - (i + 1).toNat)).map UInt32.ofNat =
      (List.range' i.toNat (endId.toNat + 1 - i.toNat)).map UInt32.ofNat := by
  have hi' : i.toNat ≤ endId.toNat := hi
  rw [toNat_succ_of_le hi he,
    show endId.toNat + 1 - i.toNat = endId.toNat + 1 - (i.toNat + 1) + 1 by omega, List.range'_succ]
  simp

theorem intfIds_count_eq_zero (hi : ¬ i ≤ endId) : endId.toNat + 1 - i.toNat = 0 := by
  have hi' : ¬ i.toNat ≤ endId.toNat := hi
  omega

theorem eq_max_of_not_lt (he : ¬ endId < 4294967295) : endId = 4294967295 := by
  have he' : ¬ endId.toNat < 4294967295 := he
  have := endId.toNat_lt_size
  exact UInt32.toNat.inj (by simp only [UInt32.size] at this; show endId.toNat = 4294967295; omega)

end IntfIds

/-- From a counter `i`, a loop with more fuel than the IDs left appends the IDs `i` to `EndId`,
when `EndId < 2^32 - 1`. -/
theorem intfIdsLoop_eq {endId : UInt32} (he : endId < 4294967295) :
    ∀ (fuel : Nat) (i : UInt32) (acc : List UInt32), endId.toNat + 1 - i.toNat < fuel →
      intfIdsLoop endId fuel i acc =
        some (acc ++ (List.range' i.toNat (endId.toNat + 1 - i.toNat)).map UInt32.ofNat)
  | 0, _, _, h => absurd h (Nat.not_lt_zero _)
  | fuel + 1, i, acc, h => by
    rw [intfIdsLoop]
    split_ifs with hi
    · have : i.toNat ≤ endId.toNat := hi
      have := toNat_succ_of_le hi he
      rw [intfIdsLoop_eq he fuel (i + 1) _ (by omega), List.append_assoc, List.singleton_append,
        range'_intfIds_succ hi he]
    · simp [intfIds_count_eq_zero hi]

/-- For `EndId = 2^32 - 1` no fuel is enough: every counter passes `i <= EndId`. -/
theorem intfIdsLoop_max :
    ∀ (fuel : Nat) (i : UInt32) (acc : List UInt32), intfIdsLoop 4294967295 fuel i acc = none
  | 0, _, _ => rfl
  | fuel + 1, i, acc => by
    have hi : i ≤ 4294967295 := Nat.le_of_lt_succ i.toNat_lt
    rw [intfIdsLoop, if_pos hi]
    exact intfIdsLoop_max fuel _ _

/-- The PON range `0` to `2^32 - 1`: the interface-ID loop never ends. -/
theorem intfIdsLoop_full_range_never_ends :
    ¬ ∃ fuel, (intfIdsLoop 4294967295 fuel 0 []).isSome :=
  fun ⟨fuel, h⟩ => by rw [intfIdsLoop_max] at h; cases h

/-- Whatever its fuel, a loop that ends has appended the IDs `i` to `EndId`. -/
theorem intfIdsLoop_eq_some {endId : UInt32} :
    ∀ {fuel : Nat} {i : UInt32} {acc l : List UInt32}, intfIdsLoop endId fuel i acc = some l →
      l = acc ++ (List.range' i.toNat (endId.toNat + 1 - i.toNat)).map UInt32.ofNat
  | 0, _, _, _, h => by cases h
  | fuel + 1, i, acc, l, h => by
    rw [intfIdsLoop] at h
    split_ifs at h with hi
    · by_cases he : endId < 4294967295
      · rw [intfIdsLoop_eq_some h, List.append_assoc, List.singleton_append,
          range'_intfIds_succ hi he]
      · rw [eq_max_of_not_lt he, intfIdsLoop_max] at h
        cases h
    · cases h
      simp [intfIds_count_eq_zero hi]

/-- For every PON range with `EndId < 2^32 - 1`, the interface-ID loop of `GetDeviceInfo` ends,
and yields the IDs `StartId`, `StartId + 1`, ..., `EndId`, none when `StartId > EndId`. -/
theorem intfIdsLoop_terminates {startId endId : UInt32} (he : endId < 4294967295) :
    ∃ n, ∀ fuel, n ≤ fuel → intfIdsLoop endId fuel startId [] =
      some ((List.range' startId.toNat (endId.toNat + 1 - startId.toNat)).map UInt32.ofNat) :=
  ⟨endId.toNat + 1 - startId.toNat + 1, fun fuel hfuel => intfIdsLoop_eq he fuel startId [] hfuel⟩

/-! ## `GetDeviceInfo` -/

theorem mapM_option_isSome {β γ : Type} (f : β → Option γ) :
    ∀ l : List β, (l.mapM f).isSome ↔ ∀ x ∈ l, (f x).isSome
  | [] => ⟨fun _ _ h => absurd h (List.not_mem_nil _), fun _ => rfl⟩
  | x :: l => by
    rw [List.mapM_cons, List.forall_mem_cons, ← mapM_option_isSome f l]
    cases f x <;> cases l.mapM f <;> simp

/-- The interface IDs of the ranges, when every loop of `GetDeviceInfo` has ended. -/
theorem mapM_intfIdsLoop {fuel : Nat} :
    ∀ {ranges : List PonRangeConfig} {rs : List DeviceResourceRanges},
      ranges.mapM (fun resRange => (intfIdsLoop resRange.ponRange.endId fuel
        resRange.ponRange.startId []).map (resourceRanges resRange)) = some rs →
      rs = ranges.map fun r => resourceRanges r ((List.range' r.ponRange.startId.toNat
        (r.ponRange.endId.toNat + 1 - r.ponRange.startId.toNat)).map UInt32.ofNat)
  | [], _, h => by cases h; rfl
  | r :: ranges, rs, h => by
    simp only [List.mapM_cons, Option.bind_eq_bind, Option.bind_eq_some, Option.map_eq_some',
      pure, Option.some.injEq] at h
    obtain ⟨_, ⟨l, hl, rfl⟩, rs', hrs, rfl⟩ := h
    rw [intfIdsLoop_eq_some hl, mapM_intfIdsLoop hrs, List.nil_append, List.map_cons]

/-- `GetDeviceInfo` returns, given enough fuel, exactly when no PON range of the configuration ends
at `2^32 - 1`. Whenever it returns, the interface IDs of each range are its PON IDs `StartId` to
`EndId`, with the range's pools; the reply carries `PreviouslyConnected` as it was, and the device
has it set. -/
theorem getDeviceInfo_returns_iff (cfg : OltInfoConfig) (ranges : List PonRangeConfig)
    (numPon : UInt32) (o : OltDevice) :
    ((∃ fuel, (getDeviceInfo fuel cfg ranges numPon o).isSome) ↔
      ∀ r ∈ ranges, r.ponRange.endId < 4294967295) ∧
    ∀ fuel o' info, getDeviceInfo fuel cfg ranges numPon o = some (o', info) →
      o' = { o with previouslyConnected := true } ∧
      info.previouslyConnected = o.previouslyConnected ∧
      info.ranges = ranges.map fun r => resourceRanges r ((List.range' r.ponRange.startId.toNat
        (r.ponRange.endId.toNat + 1 - r.ponRange.startId.toNat)).map UInt32.ofNat) := by
  have hsome : ∀ fuel, (getDeviceInfo fuel cfg ranges numPon o).isSome ↔
      ∀ r ∈ ranges, (intfIdsLoop r.ponRange.endId fuel r.ponRange.startId []).isSome := by
    intro fuel
    have hb : ∀ (x : Option (List DeviceResourceRanges))
        (g : List DeviceResourceRanges → OltDevice × DeviceInfo),
        (x.bind fun a => some (g a)).isSome = x.isSome := fun x g => by cases x <;> rfl
    simp only [getDeviceInfo, Option.bind_eq_bind, hb, mapM_option_isSome, Option.isSome_map']
  refine ⟨⟨fun ⟨fuel, h⟩ r hr => ?_, fun h => ⟨4294967297, (hsome _).mpr fun r hr => ?_⟩⟩, ?_⟩
  · by_contra he
    have := (hsome fuel).mp h r hr
    rw [eq_max_of_not_lt he, intfIdsLoop_max] at this
    cases this
  · have := r.ponRange.endId.toNat_lt_size
    simp only [UInt32.size] at this
    rw [intfIdsLoop_eq (h r hr) _ _ _ (by omega)]
    rfl
  · intro fuel o' info h
    simp only [getDeviceInfo, Option.bind_eq_bind, Option.bind_eq_some, Option.some.injEq,
      Prod.mk.injEq] at h
    obtain ⟨rs, hrs, rfl, rfl⟩ := h
    exact ⟨rfl, rfl, mapM_intfIdsLoop hrs⟩

end Bbsim
