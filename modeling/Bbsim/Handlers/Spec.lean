import Bbsim.Flows.Spec
import Bbsim.Devices.Handlers

/-!
# Requests for a PON port or an ONU the OLT does not have

`OmciMsgOut` and, with `enablePerf` off, the two scheduler handlers return the error of the lookup
that fails, before they touch anything. `FlowAdd` does so for an ONU that its port does not hold,
after storing the flow in the flow table (`misaddressed_requests_are_refused`). The other handlers
that address a port or an ONU drop or only log the lookup's error and go on with the nil port or
ONU, which panics (`misaddressed_requests_panic`); `DisablePonIf` and `EnablePonIf` have sent
their PON indication on the OLT's channel by then.
-/

namespace Bbsim

variable {c : Collaborators} {o : OltDevice}

/-- A request of `OmciMsgOut`, `CreateTrafficSchedulers` or `RemoveTrafficSchedulers` (with
`enablePerf` off) whose PON ID names no port of the OLT, or whose ONU ID names no ONU of the port,
returns the error of the failing lookup, sends nothing and leaves the device as it was. A `FlowAdd`
of an ONU flow whose port exists but holds no such ONU returns the port's error and sends nothing;
it changes the device only by the flow stored in the flow table. -/
theorem misaddressed_requests_are_refused {p q : UInt32} {e : RpcError}
    (hmiss : getPonById o p = .error e ∨
      ∃ i pon, getPonById o p = .ok (i, pon) ∧ pon.getOnuById c q = .error e) :
    (∀ pkt, (Rpc.omciMsgOut p q pkt).handle c o = some ⟨o, [], .error e⟩) ∧
    (o.enablePerf = false → ∀ ts : TrafficSchedulers, ts.intfId = p → ts.onuId = q →
      (Rpc.createTrafficSchedulers ts).handle c o = some ⟨o, [], .error e⟩ ∧
      (Rpc.removeTrafficSchedulers ts).handle c o = some ⟨o, [], .error e⟩) ∧
    (∀ f : Flow, uint32 f.accessIntfId = p → uint32 f.onuId = q → f.classifier ≠ none →
      f.accessIntfId ≠ -1 → f.flowType ≠ "multicast" → hasPon o p →
      (Rpc.flowAdd f).handle c o = some ⟨o.storeFlow f, [], .error e⟩) := by
  refine ⟨fun pkt => ?_, fun hperf ts hp hq => ?_, fun f hp hq h0 h1 h2 hpon => ?_⟩
  · rcases hmiss with hmiss | ⟨i, pon, hpon, honu⟩ <;>
      simp [Rpc.handle, omciMsgOut, *]
  · rcases hmiss with hmiss | ⟨i, pon, hpon, honu⟩ <;>
      simp [Rpc.handle, createTrafficSchedulers, removeTrafficSchedulers, setTrafficSchedulers,
        hperf, hp, hq, *]
  · rcases hmiss with hmiss | ⟨i, pon, hpon', honu⟩
    · obtain ⟨i, pon, hpon'⟩ := getPonById_of_hasPon hpon
      rw [hpon'] at hmiss
      cases hmiss
    · simp only [Rpc.handle, flowAdd, if_neg h0, if_neg h1, if_neg h2, getPonById_storeFlow, hp, hq,
        hpon', honu]

/-- The lookups of the handlers that address a port or an ONU, against `OmciMsgOut`'s path.
`OmciMsgOut` returns the error of a failing lookup and leaves the device as it was. `DeleteOnu` and
`OnuPacketOut` log that error, go on with the nil port or ONU and panic; so do `DisablePonIf`,
`EnablePonIf` and the `FlowAdd` of an ONU flow for a port the OLT does not have. A `FlowAdd` of a
flow without a `Classifier` panics at its first log line, before any lookup. -/
theorem misaddressed_requests_panic {p q : UInt32} {e : RpcError}
    (hmiss : getPonById o p = .error e ∨
      ∃ i pon, getPonById o p = .ok (i, pon) ∧ pon.getOnuById c q = .error e) :
    (∀ pkt, (Rpc.omciMsgOut p q pkt).handle c o = some ⟨o, [], .error e⟩) ∧
    (Rpc.deleteOnu p q).handle c o = none ∧
    (∀ n pkt, (Rpc.onuPacketOut p q n pkt).handle c o = none) ∧
    (∀ f : Flow, f.classifier = none → (Rpc.flowAdd f).handle c o = none) ∧
    (getPonById o p = .error e →
      (Rpc.disablePonIf p).handle c o = none ∧ (Rpc.enablePonIf p).handle c o = none ∧
      ∀ f : Flow, uint32 f.accessIntfId = p → f.accessIntfId ≠ -1 → f.flowType ≠ "multicast" →
        (Rpc.flowAdd f).handle c o = none) := by
  refine ⟨(misaddressed_requests_are_refused hmiss).1, ?_, fun n pkt => ?_,
    fun f hf => by simp [Rpc.handle, flowAdd, hf], fun hp => ?_⟩
  · rcases hmiss with hmiss | ⟨i, pon, hpon, honu⟩ <;> simp [Rpc.handle, deleteOnu, *]
  · rcases hmiss with hmiss | ⟨i, pon, hpon, honu⟩ <;> simp [Rpc.handle, onuPacketOut, *]
  · refine ⟨by simp [Rpc.handle, disablePonIf, setPonIf, hp],
      by simp [Rpc.handle, enablePonIf, setPonIf, hp], fun f hf h1 h2 => ?_⟩
    by_cases h0 : f.classifier = none
    · simp [Rpc.handle, flowAdd, h0]
    · simp only [Rpc.handle, flowAdd, if_neg h0, if_neg h1, if_neg h2, getPonById_storeFlow, hf, hp]

/-- For PON 5, which the sample OLT does not have, `OmciMsgOut` returns the lookup's error and
leaves the device as it was, while `DeleteOnu` logs the same error, goes on with the nil port and
panics. -/
theorem misaddressed_requests_panic_pon_five :
    ∃ e, getPonById sampleOlt 5 = .error e ∧
      (∀ pkt, (Rpc.omciMsgOut 5 1 pkt).handle sampleCollaborators sampleOlt =
        some ⟨sampleOlt, [], .error e⟩) ∧
      (Rpc.deleteOnu 5 1).handle sampleCollaborators sampleOlt = none := by
  obtain ⟨e, he⟩ : ∃ e, getPonById sampleOlt 5 = .error e := ⟨_, rfl⟩
  have h := misaddressed_requests_panic (c := sampleCollaborators) (q := 1) (.inl he)
  exact ⟨e, he, h.1, h.2.1⟩

end Bbsim
