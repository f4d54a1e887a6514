import TaModel.Execution.PaperTca

/-!
# Logs and rows of valid gateway events

Every builder of `execution/paper.py` succeeds on the events it is meant for: order logs on valid
events, rejection logs on valid events without a fill, fill logs and rows on valid filled events
with a positive arrival price. `ValidFill` is what the validators of a filled event promise.
-/

set_option autoImplicit false

namespace TaModel.Execution

open Contracts

variable [Sha256] {report : ExecutionGatewayReport} {e : ExecutionGatewayLifecycleEvent}

/-! ## What the validators of an event promise -/

/-- A valid filled event with the attribution that the builders read from it. -/
structure ValidFill (e : ExecutionGatewayLifecycleEvent) (fill : FillAttribution) : Prop where
  gatewayOrderId : e.gatewayOrderId = some fill.gatewayOrderId
  replayOrderResultId : e.replayOrderResultId = some fill.replayOrderResultId
  fillPrice : e.fillPrice = some fill.fillPrice
  fillEventOpenTs : e.fillEventOpenTs = some fill.fillEventOpenTs
  fillEventCloseTs : e.fillEventCloseTs = some fill.fillEventCloseTs
  fillEventSourceTs : e.fillEventSourceTs = some fill.fillEventSourceTs
  fillRawPayloadId : e.fillRawPayloadId = some fill.fillRawPayloadId
  arrivalReferencePrice : e.arrivalReferencePrice = some fill.arrivalReferencePrice
  effectiveFillPrice : e.effectiveFillPrice = some fill.effectiveFillPrice
  effective_eq : fill.effectiveFillPrice = fill.fillPrice
  price_pos : 0 < fill.fillPrice
  quantity_pos : 0 < e.filledQuantity
  reference_eq : e.referenceNotional = fill.arrivalReferencePrice * e.filledQuantity
  effective_notional_eq : e.effectiveNotional = fill.effectiveFillPrice * e.filledQuantity

/-- What a valid event with placement evidence carries. -/
theorem replayBacked_of_valid (hvalid : e.validate = .ok ()) (hstatus : e.status ≠ .blocked) :
    e.validateReplayBacked = .ok () := by
  obtain ⟨hfields, -⟩ := (ExecutionGatewayLifecycleEvent.stamping.validate_eq_ok_iff e).mp hvalid
  obtain ⟨-, -, -, -, -, -, -, hcheck⟩ :=
    (ExecutionGatewayLifecycleEvent.validateFields_eq_ok_iff e).mp hfields
  simp only [ExecutionGatewayLifecycleEvent.validateStatus, if_neg hstatus,
    check_bind_eq_ok_iff] at hcheck
  exact hcheck.2

theorem blocked_of_valid (hvalid : e.validate = .ok ()) (hstatus : e.status = .blocked) :
    e.validateBlocked = .ok () := by
  obtain ⟨hfields, -⟩ := (ExecutionGatewayLifecycleEvent.stamping.validate_eq_ok_iff e).mp hvalid
  obtain ⟨-, -, -, -, -, -, -, hcheck⟩ :=
    (ExecutionGatewayLifecycleEvent.validateFields_eq_ok_iff e).mp hfields
  simp only [ExecutionGatewayLifecycleEvent.validateStatus, if_pos hstatus,
    check_bind_eq_ok_iff] at hcheck
  exact hcheck.2

omit [Sha256] in
theorem not_blocked_of_isFilled (h : e.status.isFilled = true) : e.status ≠ .blocked := by
  intro hblocked
  rw [hblocked] at h
  cases h

/-- The attribution of a valid filled event is complete. -/
theorem validFill_of_valid (hvalid : e.validate = .ok ()) (hfilled : e.status.isFilled = true) :
    ∃ fill, fillAttribution e = .ok fill ∧ ValidFill e fill := by
  have hbacked := replayBacked_of_valid hvalid (not_blocked_of_isFilled hfilled)
  simp only [ExecutionGatewayLifecycleEvent.validateReplayBacked, check_bind_eq_ok_iff,
    require_eq_ok_iff, if_pos hfilled] at hbacked
  obtain ⟨horder, -, ⟨hresult, -⟩, -, hfill⟩ := hbacked
  simp only [ExecutionGatewayLifecycleEvent.validateFilled, check_bind_eq_ok_iff,
    require_eq_ok_iff] at hfill
  obtain ⟨-, ⟨price, hprice, hpositive⟩, hwhole, hpart, ⟨hopen, hclose, hsource, hraw⟩,
    hattribution⟩ := hfill
  have hquantity : 0 < e.filledQuantity := by
    by_cases hstatus : e.status = .filled
    · rw [hwhole hstatus]
      exact e.gatewayQuantity.property
    · exact (hpart hstatus).1
  obtain ⟨orderId, horder⟩ := Option.ne_none_iff_exists'.mp horder
  obtain ⟨resultId, hresult⟩ := Option.ne_none_iff_exists'.mp hresult
  obtain ⟨openTs, hopen⟩ := Option.ne_none_iff_exists'.mp hopen
  obtain ⟨closeTs, hclose⟩ := Option.ne_none_iff_exists'.mp hclose
  obtain ⟨sourceTs, hsource⟩ := Option.ne_none_iff_exists'.mp hsource
  obtain ⟨raw, hraw⟩ := Option.ne_none_iff_exists'.mp hraw
  cases harrival : e.arrivalReferencePrice with
  | none =>
      rw [harrival] at hattribution
      cases hattribution
  | some arrival =>
      cases heffective : e.effectiveFillPrice with
      | none =>
          rw [harrival, heffective] at hattribution
          cases hattribution
      | some effective =>
          rw [harrival, heffective] at hattribution
          simp only [check_bind_eq_ok_iff, require_eq_ok_iff] at hattribution
          obtain ⟨hsame, hreference, hnotional⟩ := hattribution
          have hprice' : e.fillPrice = some price := hprice
          rw [hprice'] at hsame
          exact ⟨⟨orderId, resultId, price, openTs, closeTs, sourceTs, raw, arrival, effective⟩,
            by simp only [fillAttribution, horder, hresult, hprice', hopen, hclose, hsource, hraw,
              harrival, heffective],
            ⟨horder, hresult, hprice', hopen, hclose, hsource, hraw, harrival, heffective,
              Option.some.inj hsame, hpositive, hquantity, hreference, hnotional⟩⟩

/-! ## Order and rejection logs -/

theorem makeOrderLifecycleLogEntry_ok (hvalid : e.validate = .ok ()) :
    makeOrderLifecycleLogEntry report e =
      .ok (PaperOrderLifecycleLogEntry.stamping.sealed (orderLogDraft report e)) := by
  apply (PaperOrderLifecycleLogEntry.stamping.construct_eq_ok_iff _ _).mpr
  refine ⟨?_, rfl⟩
  obtain ⟨hfields, -⟩ := (ExecutionGatewayLifecycleEvent.stamping.validate_eq_ok_iff e).mp hvalid
  obtain ⟨-, hrun, -⟩ := (ExecutionGatewayLifecycleEvent.validateFields_eq_ok_iff e).mp hfields
  apply (PaperOrderLifecycleLogEntry.validateFields_eq_ok_iff _).mpr
  refine ⟨hrun, ?_, ?_⟩
  · intro hstatus
    have hblocked := blocked_of_valid hvalid hstatus
    simp only [ExecutionGatewayLifecycleEvent.validateBlocked, check_bind_eq_ok_iff,
      require_eq_ok_iff] at hblocked
    exact ⟨hblocked.1, hblocked.2.1.2⟩
  · intro hstatus
    have hbacked := replayBacked_of_valid hvalid hstatus
    simp only [ExecutionGatewayLifecycleEvent.validateReplayBacked, check_bind_eq_ok_iff,
      require_eq_ok_iff] at hbacked
    exact ⟨hbacked.1, hbacked.2.2.1.2⟩

theorem makeRejectionLogEntry_ok (hvalid : e.validate = .ok ())
    (hfilled : e.status.isFilled = false) :
    makeRejectionLogEntry report e =
      .ok (PaperRejectionLogEntry.stamping.sealed (rejectionLogDraft report e)) := by
  simp only [makeRejectionLogEntry]
  rw [require_of hfilled, ok_bind]
  apply (PaperRejectionLogEntry.stamping.construct_eq_ok_iff _ _).mpr
  refine ⟨?_, rfl⟩
  obtain ⟨hfields, -⟩ := (ExecutionGatewayLifecycleEvent.stamping.validate_eq_ok_iff e).mp hvalid
  obtain ⟨hbounds, hrun, -⟩ :=
    (ExecutionGatewayLifecycleEvent.validateFields_eq_ok_iff e).mp hfields
  have hsource : (rejectionLogDraft report e).rejectionSource = .risk ↔ e.status = .blocked := by
    simp only [rejectionLogDraft, rejectionSource]
    split_ifs with hstatus
    · exact ⟨fun _ => hstatus, fun _ => rfl⟩
    · apply iff_of_false ?_ hstatus
      intro hrisk
      cases hrisk
  apply (PaperRejectionLogEntry.validateFields_eq_ok_iff _).mpr
  refine ⟨hrun, hbounds.2.2.1, hfilled, ?_, ?_⟩
  · intro hrisk
    have hstatus := hsource.mp hrisk
    have hblocked := blocked_of_valid hvalid hstatus
    simp only [ExecutionGatewayLifecycleEvent.validateBlocked, check_bind_eq_ok_iff,
      require_eq_ok_iff] at hblocked
    exact ⟨hstatus, hblocked.2.2.1⟩
  · intro hgateway
    have hstatus : e.status ≠ .blocked := by
      intro hblocked
      rw [hsource.mpr hblocked] at hgateway
      cases hgateway
    have hbacked := replayBacked_of_valid hvalid hstatus
    simp only [ExecutionGatewayLifecycleEvent.validateReplayBacked, check_bind_eq_ok_iff,
      require_eq_ok_iff, hfilled, Bool.false_eq_true, if_false] at hbacked
    obtain ⟨-, -, -, -, hunfilled⟩ := hbacked
    simp only [ExecutionGatewayLifecycleEvent.validateUnfilledOrRejected, check_bind_eq_ok_iff,
      require_eq_ok_iff] at hunfilled
    exact ⟨hstatus, hunfilled.1⟩

/-! ## Fill logs and rows -/

section Fills

variable {fill : FillAttribution}

/-- The bounds and costs of a valid event. -/
structure ValidCosts (e : ExecutionGatewayLifecycleEvent) : Prop where
  runId : isCanonicalId e.runId = true
  bounds : e.FieldsInBounds
  model : e.costModelId = none ↔ e.costModelHash = none
  total : e.totalCost = e.feeCost + e.spreadCost + e.slippageCost

theorem validCosts_of_valid (hvalid : e.validate = .ok ()) : ValidCosts e := by
  obtain ⟨hfields, -⟩ := (ExecutionGatewayLifecycleEvent.stamping.validate_eq_ok_iff e).mp hvalid
  obtain ⟨hbounds, hrun, -, hmodel, htotal, -⟩ :=
    (ExecutionGatewayLifecycleEvent.validateFields_eq_ok_iff e).mp hfields
  exact ⟨hrun, hbounds, hmodel, htotal⟩

theorem makeFillLogEntry_ok (hvalid : e.validate = .ok ()) (hfilled : e.status.isFilled = true)
    (hattribution : fillAttribution e = .ok fill) (hfill : ValidFill e fill)
    (harrival : 0 < fill.arrivalReferencePrice) :
    makeFillLogEntry report e =
      .ok (PaperFillLogEntry.stamping.sealed (fillLogDraft report e fill)) := by
  have hcosts := validCosts_of_valid hvalid
  obtain ⟨-, -, hremaining, -, -, hreference, hnotional, hfee, hspread, hslippage, htotal⟩ :=
    hcosts.bounds
  have heffective : 0 < fill.effectiveFillPrice := by
    rw [hfill.effective_eq]
    exact hfill.price_pos
  simp only [makeFillLogEntry]
  rw [require_of hfilled, ok_bind, hattribution, ok_bind]
  apply (PaperFillLogEntry.stamping.construct_eq_ok_iff _ _).mpr
  refine ⟨(PaperFillLogEntry.validateFields_eq_ok_iff _).mpr ?_, rfl⟩
  exact ⟨hcosts.runId, ⟨hfill.price_pos, hfill.quantity_pos, hremaining, harrival, heffective,
    hreference, hnotional, hfee, hspread, hslippage, htotal⟩, hfilled, hcosts.model,
    hfill.effective_eq, hfill.reference_eq, hfill.effective_notional_eq, hcosts.total⟩

/-- The part of the attribution that a row needs. -/
def FillAttribution.forRow (fill : FillAttribution) : RowAttribution where
  gatewayOrderId := fill.gatewayOrderId
  fillPrice := fill.fillPrice
  fillEventOpenTs := fill.fillEventOpenTs
  fillEventCloseTs := fill.fillEventCloseTs
  fillEventSourceTs := fill.fillEventSourceTs
  arrivalReferencePrice := fill.arrivalReferencePrice

omit [Sha256] in
theorem rowAttribution_of_validFill (hfill : ValidFill e fill) :
    rowAttribution e = .ok fill.forRow := by
  simp only [rowAttribution, hfill.gatewayOrderId, hfill.fillPrice, hfill.fillEventOpenTs,
    hfill.fillEventCloseTs, hfill.fillEventSourceTs, hfill.arrivalReferencePrice,
    FillAttribution.forRow]

/-! ## The amounts of a row -/

section Amounts

variable {a : Arithmetic}

/-- The amounts of a row where no operation overflows. -/
def roundedAmounts (a : Arithmetic) (e : ExecutionGatewayLifecycleEvent)
    (quote : Option QuoteEvent) (arrival fillPrice : Decimal) : RowAmounts :=
  let arrivalMid := quote.map fun q => a.round (a.round (q.bestBid.value + q.bestAsk.value) / 2)
  let realized := a.round
    (a.round (adverseMove e.side (arrivalMid.getD arrival) fillPrice) * e.filledQuantity)
  let predicted := a.round (e.spreadCost + e.slippageCost)
  let predictedTotal := a.round (e.feeCost + predicted)
  let realizedTotal := a.round (e.feeCost + realized)
  { arrivalMid := arrivalMid, realizedSpreadSlippageCost := realized,
    predictedSpreadSlippageCost := predicted, predictedTotalCost := predictedTotal,
    realizedTotalCost := realizedTotal,
    spreadSlippagePredictionError := a.round (realized - predicted),
    totalCostPredictionError := a.round (realizedTotal - predictedTotal) }

omit [Sha256] in
theorem quoteMid_ok {quote : QuoteEvent} {mid : Decimal} (h : quoteMid a quote = .ok mid) :
    mid = a.round (a.round (quote.bestBid.value + quote.bestAsk.value) / 2) := by
  obtain ⟨both, hboth, hmid⟩ := (bind_eq_ok_iff _ _ _).mp h
  obtain ⟨-, rfl⟩ := Arithmetic.finalize_eq_ok_iff.mp hboth
  exact (Arithmetic.finalize_eq_ok_iff.mp hmid).2

omit [Sha256] in
theorem adverseCost_ok {side : OrderSide} {reference fillPrice quantity cost : Decimal}
    (h : adverseCost a side reference fillPrice quantity = .ok cost) :
    cost = a.round (a.round (adverseMove side reference fillPrice) * quantity) := by
  obtain ⟨move, hmove, hcost⟩ := (bind_eq_ok_iff _ _ _).mp h
  obtain ⟨-, rfl⟩ := Arithmetic.finalize_eq_ok_iff.mp hmove
  exact (Arithmetic.finalize_eq_ok_iff.mp hcost).2

omit [Sha256] in
theorem arrivalMid_ok {quote : Option QuoteEvent} {mid : Option Decimal}
    (h : quote.mapM (quoteMid a) = .ok mid) :
    mid = quote.map fun q => a.round (a.round (q.bestBid.value + q.bestAsk.value) / 2) := by
  cases quote with
  | none =>
      cases h
      rfl
  | some q =>
      rw [Option.mapM_some] at h
      cases hmid : quoteMid a q with
      | error message =>
          rw [hmid] at h
          cases h
      | ok value =>
          rw [hmid] at h
          cases h
          rw [quoteMid_ok hmid]
          rfl

omit [Sha256] in
/-- The amounts that are computed are the rounded ones. -/
theorem rowAmounts_ok {quote : Option QuoteEvent} {arrival fillPrice : Decimal}
    {amounts : RowAmounts} (h : rowAmounts a e quote arrival fillPrice = .ok amounts) :
    amounts = roundedAmounts a e quote arrival fillPrice := by
  simp only [rowAmounts, bind_eq_ok_iff, Arithmetic.finalize_eq_ok_iff] at h
  obtain ⟨mid, hmid, realized, hrealized, predicted, ⟨-, rfl⟩, predictedTotal, ⟨-, rfl⟩,
    realizedTotal, ⟨-, rfl⟩, spreadError, ⟨-, rfl⟩, totalError, ⟨-, rfl⟩, hamounts⟩ := h
  cases hamounts
  obtain rfl := arrivalMid_ok hmid
  obtain rfl := adverseCost_ok hrealized
  rfl

/-- A row over a positive reference price passes its validators. -/
theorem tcaRowDraft_validateFields (quote : Option QuoteEvent) {row : RowAttribution}
    (hvalid : e.validate = .ok ()) (hfilled : e.status.isFilled = true)
    (hquantity : 0 < e.filledQuantity) (hprice : 0 < row.fillPrice)
    (harrival : 0 < row.arrivalReferencePrice) :
    (tcaRowDraft report e quote row (roundedAmounts a e quote row.arrivalReferencePrice
      row.fillPrice)).validateFields a = .ok () := by
  have hcosts := validCosts_of_valid hvalid
  obtain ⟨-, -, -, -, -, -, -, hfee, hspread, hslippage, -⟩ := hcosts.bounds
  have hmid : ∀ p ∈ quote.map fun q =>
      a.round (a.round (q.bestBid.value + q.bestAsk.value) / 2), 0 ≤ p := by
    intro p hp
    obtain ⟨q, -, rfl⟩ := Option.map_eq_some_iff.mp hp
    apply Arithmetic.round_nonneg
    apply div_nonneg _ (by norm_num)
    exact Arithmetic.round_nonneg (add_nonneg q.bestBid.property q.bestAsk.property)
  have hpredicted : 0 ≤ a.round (e.spreadCost + e.slippageCost) :=
    Arithmetic.round_nonneg (add_nonneg hspread hslippage)
  apply (PaperTcaRow.validateFields_eq_ok_iff a _).mpr
  refine ⟨hcosts.runId, ⟨hmid, harrival, hprice, hquantity, hfee, hspread, hslippage, hpredicted,
    Arithmetic.round_nonneg (add_nonneg hfee hpredicted)⟩, hfilled, ?_, ?_, rfl, rfl, rfl, rfl,
    rfl⟩
  · intro hsource
    cases quote with
    | none => cases hsource
    | some q => exact ⟨nofun, nofun, nofun, nofun, nofun, nofun⟩
  · intro hsource
    cases quote with
    | none => exact ⟨rfl, rfl, rfl, rfl, rfl, rfl, rfl⟩
    | some q => exact absurd rfl hsource

/-- The row that the builder makes of an event at the attributed prices. -/
def rowOver (a : Arithmetic) (report : ExecutionGatewayReport)
    (e : ExecutionGatewayLifecycleEvent) (quote : Option QuoteEvent) (fill : FillAttribution) :
    PaperTcaRow :=
  (PaperTcaRow.stampingIn a).sealed (tcaRowDraft report e quote fill.forRow
    (roundedAmounts a e quote fill.arrivalReferencePrice fill.fillPrice))

/-- A row is made of a valid filled event when its amounts are computed without a signal. -/
theorem makeTcaRow_ok {quote : Option QuoteEvent} (hvalid : e.validate = .ok ())
    (hfilled : e.status.isFilled = true) (hfill : ValidFill e fill)
    (harrival : 0 < fill.arrivalReferencePrice) {amounts : RowAmounts}
    (hamounts : rowAmounts a e quote fill.arrivalReferencePrice fill.fillPrice = .ok amounts) :
    makeTcaRow a report e quote = .ok (rowOver a report e quote fill) := by
  simp only [makeTcaRow]
  rw [require_of hfilled, ok_bind, rowAttribution_of_validFill hfill, ok_bind]
  rw [show rowAmounts a e quote fill.forRow.arrivalReferencePrice fill.forRow.fillPrice =
    .ok amounts from hamounts, ok_bind, rowAmounts_ok hamounts]
  apply ((PaperTcaRow.stampingIn a).construct_eq_ok_iff _ _).mpr
  exact ⟨tcaRowDraft_validateFields quote hvalid hfilled hfill.quantity_pos hfill.price_pos
    harrival, rfl⟩

end Amounts

end Fills

/-! ## Issues -/

theorem makeTcaIssue_ok {quote : Option QuoteEvent} {code : PaperTcaIssueCode} {message : String}
    (hvalid : e.validate = .ok ()) (hissue : issueOf quote e.status = some (code, message)) :
    makeTcaIssue report e code message =
      .ok (PaperTcaIssue.stamping.sealed (tcaIssueDraft report e code message)) := by
  have hmessages : isNonEmptyString ("no arrival quote at or before submitted_at; " ++
        "using replay arrival_reference_price fallback") = true ∧
      isNonEmptyString "risk-blocked/no-trade gateway event has no fill for TCA" = true ∧
      isNonEmptyString "gateway replay rejected the approved paper order; no fill for TCA" =
        true ∧
      isNonEmptyString ("gateway replay left the approved paper order unfilled; " ++
        "no fill for TCA") = true := by decide
  obtain ⟨hquote, hblocked, hrejected, hunfilled⟩ := hmessages
  have hrun := (validCosts_of_valid hvalid).runId
  apply (PaperTcaIssue.stamping.construct_eq_ok_iff _ _).mpr
  refine ⟨?_, rfl⟩
  -- each code is the one of the status, with a message of its own
  have hcases : isNonEmptyString message = true ∧
      (code = .missingArrivalQuote → e.status.isFilled = true) ∧
      (code = .riskBlocked → e.status = .blocked) ∧
      (code = .gatewayRejected → e.status = .rejected) ∧
      (code = .gatewayUnfilled → e.status = .unfilled) := by
    cases hstatus : e.status with
    | filled =>
        rw [hstatus] at hissue
        simp only [issueOf] at hissue
        split_ifs at hissue
        cases hissue
        exact ⟨hquote, fun _ => rfl, nofun, nofun, nofun⟩
    | partiallyFilled =>
        rw [hstatus] at hissue
        simp only [issueOf] at hissue
        split_ifs at hissue
        cases hissue
        exact ⟨hquote, fun _ => rfl, nofun, nofun, nofun⟩
    | blocked =>
        rw [hstatus] at hissue
        cases hissue
        exact ⟨hblocked, nofun, fun _ => rfl, nofun, nofun⟩
    | rejected =>
        rw [hstatus] at hissue
        cases hissue
        exact ⟨hrejected, nofun, nofun, fun _ => rfl, nofun⟩
    | unfilled =>
        rw [hstatus] at hissue
        cases hissue
        exact ⟨hunfilled, nofun, nofun, nofun, fun _ => rfl⟩
  exact (PaperTcaIssue.validateFields_eq_ok_iff _).mpr ⟨hrun, hcases⟩

end TaModel.Execution
