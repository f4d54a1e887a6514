import TaModel.Contracts.RiskCheck

/-!
# Payloads that determine their values

A digest covers a value only as far as the payload under it does. `LawfulPayload` collects the
types whose payload determines the value, and `CollisionFree` is the assumption on the digest:
among finitely many payloads that occur in a run, equal digests come from equal payloads.
-/

set_option autoImplicit false

namespace TaModel.Contracts

/-- The payload determines the value, and is never the `null` of an absent value. -/
class LawfulPayload (α : Type) [ToPayload α] : Prop where
  toPayload_injective : ∀ a b : α, toPayload a = toPayload b → a = b
  toPayload_ne_null : ∀ a : α, toPayload a ≠ .null

export LawfulPayload (toPayload_injective)

/-! ## Leaves and containers -/

section Leaves

instance : LawfulPayload Bool where
  toPayload_injective _ _ h := Payload.bool.inj h
  toPayload_ne_null _ h := by cases h

instance : LawfulPayload Nat where
  toPayload_injective _ _ h := Int.ofNat.inj (Payload.int.inj h)
  toPayload_ne_null _ h := by cases h

instance : LawfulPayload Decimal where
  toPayload_injective _ _ h := Payload.decimal.inj h
  toPayload_ne_null _ h := by cases h

instance : LawfulPayload String where
  toPayload_injective _ _ h := Payload.text.inj h
  toPayload_ne_null _ h := by cases h

instance : LawfulPayload AwareDatetime where
  toPayload_injective _ _ h := Payload.instant.inj h
  toPayload_ne_null _ h := by cases h

instance {p : Decimal → Prop} : LawfulPayload {q : Decimal // p q} where
  toPayload_injective _ _ h := Subtype.ext (Payload.decimal.inj h)
  toPayload_ne_null _ h := by cases h

end Leaves

section Containers

variable {α : Type} [ToPayload α] [LawfulPayload α]

theorem map_toPayload_injective {xs ys : List α} (h : xs.map toPayload = ys.map toPayload) :
    xs = ys :=
  List.map_injective_iff.mpr (fun a b hab => toPayload_injective a b hab) h

instance : LawfulPayload (List α) where
  toPayload_injective _ _ h := map_toPayload_injective (Payload.list.inj h)
  toPayload_ne_null _ h := by cases h

/-- An optional value is determined as well, although its payload can be `null`. -/
theorem toPayload_option_injective {a b : Option α} (h : toPayload a = toPayload b) : a = b := by
  cases a with
  | none =>
      cases b with
      | none => rfl
      | some b => exact absurd h.symm (LawfulPayload.toPayload_ne_null b)
  | some a =>
      cases b with
      | none => exact absurd h (LawfulPayload.toPayload_ne_null a)
      | some b => rw [toPayload_injective a b h]

end Containers

/-! ## Enumerations -/

/-- An enumeration whose texts differ. -/
theorem LawfulPayload.ofValue {α : Type} [ToPayload α] {value : α → String}
    (hpayload : ∀ a : α, toPayload a = .text (value a))
    (hvalue : ∀ a b, value a = value b → a = b) : LawfulPayload α where
  toPayload_injective a b h := by
    rw [hpayload, hpayload] at h
    exact hvalue a b (Payload.text.inj h)
  toPayload_ne_null a h := by
    rw [hpayload] at h
    cases h

instance : LawfulPayload OrderSide :=
  .ofValue (fun _ => rfl) (by intro a b; cases a <;> cases b <;> simp [OrderSide.value])

instance : LawfulPayload OrderType :=
  .ofValue (fun _ => rfl) (by intro a b; cases a <;> cases b <;> simp [OrderType.value])

instance : LawfulPayload VenueStatus :=
  .ofValue (fun _ => rfl) (by intro a b; cases a <;> cases b <;> simp [VenueStatus.value])

instance : LawfulPayload RiskDecisionStatus :=
  .ofValue (fun _ => rfl) (by intro a b; cases a <;> cases b <;> simp [RiskDecisionStatus.value])

instance : LawfulPayload OrderIdempotencyState :=
  .ofValue (fun _ => rfl)
    (by intro a b; cases a <;> cases b <;> simp [OrderIdempotencyState.value])

instance : LawfulPayload OrderThrottleScopeType :=
  .ofValue (fun _ => rfl)
    (by intro a b; cases a <;> cases b <;> simp [OrderThrottleScopeType.value])

instance : LawfulPayload KillSwitchState :=
  .ofValue (fun _ => rfl) (by intro a b; cases a <;> cases b <;> simp [KillSwitchState.value])

/-! ## Records

Every field of these records is in the payload. -/

instance : LawfulPayload OrderIntent where
  toPayload_injective a b h := by
    cases a
    cases b
    have hfields := Payload.record.inj h
    simp only [List.cons.injEq, Prod.mk.injEq, true_and, and_true] at hfields
    obtain ⟨hClient, hInstrument, hLimit, hType, hQuantity, hSide, hDecision, hSubmitted, hTrace,
      hVenue⟩ := hfields
    cases toPayload_injective _ _ hClient
    cases toPayload_injective _ _ hInstrument
    cases toPayload_option_injective hLimit
    cases toPayload_injective _ _ hType
    cases toPayload_injective _ _ hQuantity
    cases toPayload_injective _ _ hSide
    cases toPayload_injective _ _ hDecision
    cases toPayload_injective _ _ hSubmitted
    cases toPayload_injective _ _ hTrace
    cases toPayload_injective _ _ hVenue
    rfl
  toPayload_ne_null _ h := by cases h

instance : LawfulPayload OrderIdempotencyRecord where
  toPayload_injective a b h := by
    cases a
    cases b
    have hfields := Payload.record.inj h
    simp only [List.cons.injEq, Prod.mk.injEq, true_and, and_true] at hfields
    obtain ⟨hClient, hFirstSeen, hKey, hHash, hOwner, hRecord, hRequirements, hState, hTrace,
      hUpdated⟩ := hfields
    cases toPayload_injective _ _ hClient
    cases toPayload_injective _ _ hFirstSeen
    cases toPayload_injective _ _ hKey
    cases toPayload_injective _ _ hHash
    cases toPayload_injective _ _ hOwner
    cases toPayload_injective _ _ hRecord
    cases toPayload_injective _ _ hRequirements
    cases toPayload_injective _ _ hState
    cases toPayload_injective _ _ hTrace
    cases toPayload_injective _ _ hUpdated
    rfl
  toPayload_ne_null _ h := by cases h

instance : LawfulPayload OrderThrottleWindow where
  toPayload_injective a b h := by
    cases a
    cases b
    have hfields := Payload.record.inj h
    simp only [List.cons.injEq, Prod.mk.injEq, true_and, and_true] at hfields
    obtain ⟨hHard, hObserved, hOwner, hRequirements, hScopeId, hScopeType, hSoft, hSeconds,
      hStarted⟩ := hfields
    cases toPayload_injective _ _ hHard
    cases toPayload_injective _ _ hObserved
    cases toPayload_injective _ _ hOwner
    cases toPayload_injective _ _ hRequirements
    cases toPayload_injective _ _ hScopeId
    cases toPayload_injective _ _ hScopeType
    cases toPayload_injective _ _ hSoft
    cases toPayload_injective _ _ hSeconds
    cases toPayload_injective _ _ hStarted
    rfl
  toPayload_ne_null _ h := by cases h

instance : LawfulPayload ExecutionRejectBurstWindow where
  toPayload_injective a b h := by
    cases a
    cases b
    have hfields := Payload.record.inj h
    simp only [List.cons.injEq, Prod.mk.injEq, true_and, and_true] at hfields
    obtain ⟨hHard, hObserved, hOwner, hRequirements, hScopeId, hSoft, hUnknown, hSeconds,
      hStarted⟩ := hfields
    cases toPayload_injective _ _ hHard
    cases toPayload_injective _ _ hObserved
    cases toPayload_injective _ _ hOwner
    cases toPayload_injective _ _ hRequirements
    cases toPayload_injective _ _ hScopeId
    cases toPayload_injective _ _ hSoft
    cases toPayload_injective _ _ hUnknown
    cases toPayload_injective _ _ hSeconds
    cases toPayload_injective _ _ hStarted
    rfl
  toPayload_ne_null _ h := by cases h

instance : LawfulPayload PriceRiskTelemetry where
  toPayload_injective a b h := by
    cases a
    cases b
    have hfields := Payload.record.inj h
    simp only [List.cons.injEq, Prod.mk.injEq, true_and, and_true] at hfields
    obtain ⟨hDeviation, hAvailable⟩ := hfields
    cases toPayload_injective _ _ hDeviation
    cases toPayload_injective _ _ hAvailable
    rfl
  toPayload_ne_null _ h := by cases h

instance : LawfulPayload LossRiskTelemetry where
  toPayload_injective a b h := by
    cases a
    cases b
    have hfields := Payload.record.inj h
    simp only [List.cons.injEq, Prod.mk.injEq, true_and, and_true] at hfields
    obtain ⟨hAccount, hStrategy, hDrawdown⟩ := hfields
    cases toPayload_injective _ _ hAccount
    cases toPayload_injective _ _ hStrategy
    cases toPayload_injective _ _ hDrawdown
    rfl
  toPayload_ne_null _ h := by cases h

instance : LawfulPayload LiquidityRiskTelemetry where
  toPayload_injective a b h := by
    cases a
    cases b
    have hfields := Payload.record.inj h
    simp only [List.cons.injEq, Prod.mk.injEq, true_and, and_true] at hfields
    obtain ⟨hSpread, hRequired, hVolume, hEnvelope, hDepth⟩ := hfields
    cases toPayload_option_injective hSpread
    cases toPayload_injective _ _ hRequired
    cases toPayload_option_injective hVolume
    cases toPayload_option_injective hEnvelope
    cases toPayload_option_injective hDepth
    rfl
  toPayload_ne_null _ h := by cases h

instance : LawfulPayload MarketRiskTelemetry where
  toPayload_injective a b h := by
    cases a
    cases b
    have hfields := Payload.record.inj h
    simp only [List.cons.injEq, Prod.mk.injEq, true_and, and_true] at hfields
    obtain ⟨hAvailable, hMultiplier, hShock⟩ := hfields
    cases toPayload_injective _ _ hAvailable
    cases toPayload_option_injective hMultiplier
    cases toPayload_injective _ _ hShock
    rfl
  toPayload_ne_null _ h := by cases h

instance : LawfulPayload EngineLatencyTelemetry where
  toPayload_injective a b h := by
    cases a
    cases b
    have hfields := Payload.record.inj h
    simp only [List.cons.injEq, Prod.mk.injEq, true_and, and_true] at hfields
    obtain ⟨hProven, hBudget, hLatency⟩ := hfields
    cases toPayload_injective _ _ hProven
    cases toPayload_injective _ _ hBudget
    cases toPayload_injective _ _ hLatency
    rfl
  toPayload_ne_null _ h := by cases h

instance : LawfulPayload ModelRiskTelemetry where
  toPayload_injective a b h := by
    cases a
    cases b
    have hfields := Payload.record.inj h
    simp only [List.cons.injEq, Prod.mk.injEq, true_and, and_true] at hfields
    obtain ⟨hCalibrated, hAnomaly, hDrift⟩ := hfields
    cases toPayload_injective _ _ hCalibrated
    cases toPayload_injective _ _ hAnomaly
    cases toPayload_injective _ _ hDrift
    rfl
  toPayload_ne_null _ h := by cases h

instance : LawfulPayload TcaRiskTelemetry where
  toPayload_injective a b h := by
    cases a
    cases b
    have hfields := Payload.record.inj h
    simp only [List.cons.injEq, Prod.mk.injEq, true_and, and_true] at hfields
    obtain ⟨hMultiplier, hQuality, hAvailable⟩ := hfields
    cases toPayload_option_injective hMultiplier
    cases toPayload_injective _ _ hQuality
    cases toPayload_injective _ _ hAvailable
    rfl
  toPayload_ne_null _ h := by cases h

/-! ## Digests without collisions -/

/-- Among the payloads, equal digests come from equal payloads. -/
def CollisionFree [Sha256] (payloads : List Payload) : Prop :=
  ∀ a ∈ payloads, ∀ b ∈ payloads, hash a = hash b → a = b

/-- Two records without a collision: equal digests come from equal fields. -/
theorem CollisionFree.fields_eq [Sha256] {fields fields' : List (String × Payload)}
    (h : CollisionFree [.record fields, .record fields'])
    (hhash : hash (.record fields) = hash (.record fields')) : fields = fields' := by
  have hleft : Payload.record fields ∈ [Payload.record fields, .record fields'] :=
    List.mem_cons_self ..
  have hright : Payload.record fields' ∈ [Payload.record fields, .record fields'] :=
    List.mem_cons_of_mem _ (List.mem_cons_self ..)
  exact Payload.record.inj (h _ hleft _ hright hhash)

/-- One payload does not collide with itself. -/
theorem collisionFree_pair_self [Sha256] (a : Payload) : CollisionFree [a, a] := by
  intro b hb c hc _
  have hall : ∀ x ∈ [a, a], x = a := by
    intro x hx
    rcases List.mem_cons.mp hx with rfl | hx
    · rfl
    · exact List.mem_singleton.mp hx
  rw [hall b hb, hall c hc]

end TaModel.Contracts
