/-
  Properties/CodecRoundTrip.lean --- every record that is written is read back.

  The nine record types of the wire and persistence format, each with any bytes behind it
  and under any limit that admits it.  Doubles are their 64-bit patterns, so a NaN comes
  back with its payload.  Enumerators that are not declared come back as well.
-/
import CollectiveScheduler.Foundation.Binary64
import CollectiveScheduler.Protocol.Payload
import CollectiveScheduler.System.Scenario

set_option autoImplicit false

namespace CollectiveScheduler

open Foundation Reader

/-- What `serialize` wrote of a record is read back by `deserialize` with every field equal,
and the reader is left at what follows it. -/
theorem codec_round_trip {D : Type} [Double D] [Double.BitCast D] :
    (∀ r : CollectiveRequest D, r.SizesFit → Decodes deserializeRequest (serializeRequest r) r) ∧
    (∀ f : FairnessAccount D, Decodes deserializeFairness (serializeFairness f) f) ∧
    (∀ g : CollectiveGrant, g.participants.length < 2 ^ 64 → g.participantGens.length < 2 ^ 64 →
      Decodes deserializeGrant (serializeGrant g) g) ∧
    (∀ p : Participant, Decodes deserializeParticipant (serializeParticipant p) p) ∧
    (∀ pl : CommunicationPlan D, pl.SizesFit → Decodes deserializePlan (serializePlan pl) pl) ∧
    (∀ c : CongestionState D, c.bottlenecks.length < 2 ^ 64 →
      Decodes deserializeCongestion (serializeCongestion c) c) ∧
    (∀ res : Reservation D, res.resources.length < 2 ^ 64 → res.links.length < 2 ^ 64 →
      Decodes deserializeReservation (serializeReservation res) res) ∧
    (∀ d : DependencyState, Decodes deserializeDependencyState (serializeDependencyState d) d) ∧
    ∀ c : CapacityState D, Decodes deserializeCapacity (serializeCapacity c) c := by
  refine ⟨fun r h => ?_, fun f => ?_, fun g h h' => decodes_grant h h', decodes_participant,
    fun pl h => decodes_plan h, fun c h => decodes_congestion h,
    fun res h h' => decodes_reservation h h', decodes_dependencyState, decodes_capacity⟩
  · have hread := decodes_request h
    rwa [r.recoded_eq] at hread
  · have hread := decodes_fairness f
    rwa [f.recoded_eq] at hread

/-- A request with an exclusion class, a reservation and a claim of NaN units, and a plan with
links, with three bytes behind each. -/
theorem codec_round_trip_nan_units :
    let r : CollectiveRequest Binary64 :=
      { Scenario.request (D := Binary64) 1 [1, 2] 1 with
        resourceClaims := [{ resource := ⟨7⟩, gen := ⟨1⟩, units := ⟨0x7ff8000000000001⟩ }]
        exclusionClasses := Sized.ofList [Sized.ofList [0x61, 0x62]]
        priority := { value := -3, gen := ⟨1⟩ }
        reservationGen := some ⟨4⟩ }
    let pl : CommunicationPlan Binary64 := { Scenario.plan 1 1 [1, 2] with links := [⟨5⟩, ⟨6⟩] }
    deserializeRequest 1000 (serializeRequest r ++ [9, 9, 9]) = .ok (r, [9, 9, 9]) ∧
      deserializePlan 1000 (serializePlan pl ++ [9, 9, 9]) = .ok (pl, [9, 9, 9]) := by
  intro r pl
  have hall := codec_round_trip (D := Binary64)
  refine ⟨hall.1 r ⟨?_, ?_, ?_, ?_, ?_⟩ 1000 [9, 9, 9] ?_,
    hall.2.2.2.2.1 pl ⟨?_, ?_, ?_, ?_, ?_⟩ 1000 [9, 9, 9] ?_⟩
  all_goals decide +kernel

end CollectiveScheduler
