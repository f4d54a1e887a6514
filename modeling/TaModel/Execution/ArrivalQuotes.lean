import TaModel.Execution.PaperPartition
import TaModel.Library.FirstMax
import TaModel.Library.StateFold
import TaModel.Library.View
import Mathlib.Data.Int.ConditionallyCompleteOrder
import Mathlib.Data.Prod.Lex
import Mathlib.Data.String.Basic

/-!
# Which quotes a TCA report reads

The arrival quote of an event is the first greatest quote of its market at or before its submission.
Quotes that are never greatest can be added anywhere, and the order of the quotes matters only where
greatest quotes of one event differ in something that a row reads.
-/

set_option autoImplicit false

namespace TaModel.Execution

open Contracts Library Risk

/-! ## Candidates -/

/-- The quotes of the event's market at or before its submission. -/
def arrivalCandidates (event : ExecutionGatewayLifecycleEvent) (quotes : List QuoteEvent) :
    List QuoteEvent :=
  quotes.filter fun quote => quote.instrumentId == event.instrumentId &&
    quote.venueId == event.venueId && decide (quote.eventTs ≤ event.submittedAt)

/-- The key `(quote.event_ts, quote.quote_id)`. -/
def quoteKey (quote : QuoteEvent) : ℤ ×ₗ String := toLex (quote.eventTs.utc, quote.quoteId)

theorem mem_arrivalCandidates {event : ExecutionGatewayLifecycleEvent} {quotes : List QuoteEvent}
    {quote : QuoteEvent} :
    quote ∈ arrivalCandidates event quotes ↔ quote ∈ quotes ∧
      quote.instrumentId = event.instrumentId ∧ quote.venueId = event.venueId ∧
      quote.eventTs ≤ event.submittedAt := by
  simp [arrivalCandidates, and_assoc]

theorem quoteBefore_eq_true_iff (a b : QuoteEvent) :
    quoteBefore a b = true ↔ quoteKey a < quoteKey b := by
  simp [quoteBefore, quoteKey, Prod.Lex.toLex_lt_toLex, AwareDatetime.sameInstant,
    AwareDatetime.lt_def]

/-- An earlier quote has the smaller key. -/
theorem quoteKey_lt_of_lt {a b : QuoteEvent} (h : a.eventTs < b.eventTs) :
    quoteKey a < quoteKey b :=
  Prod.Lex.toLex_lt_toLex.mpr (.inl h)

theorem eventTs_le_of_quoteKey_le {a b : QuoteEvent} (h : quoteKey a ≤ quoteKey b) :
    a.eventTs ≤ b.eventTs :=
  (AwareDatetime.not_lt_iff _ _).mp fun hlt => (quoteKey_lt_of_lt hlt).not_ge h

/-- The arrival quote is the first greatest candidate. -/
theorem arrivalQuoteForEvent_eq_argmax (event : ExecutionGatewayLifecycleEvent)
    (quotes : List QuoteEvent) :
    arrivalQuoteForEvent event quotes = (arrivalCandidates event quotes).argmax quoteKey := by
  have hscan : ∀ best q : QuoteEvent, (if quoteBefore best q = true then q else best) =
      if quoteKey best < quoteKey q then q else best :=
    fun best q => if_congr (quoteBefore_eq_true_iff best q) rfl rfl
  rw [arrivalQuoteForEvent, arrivalCandidates]
  cases quotes.filter _ with
  | nil => rfl
  | cons first rest =>
      rw [argmax_cons_eq_foldl]
      simp only [hscan]

/-- The arrival quote is a quote of the market, the latest at or before the submission. -/
theorem arrivalQuoteForEvent_latest {event : ExecutionGatewayLifecycleEvent}
    {quotes : List QuoteEvent} {quote : QuoteEvent}
    (h : arrivalQuoteForEvent event quotes = some quote) :
    quote ∈ arrivalCandidates event quotes ∧
      ∀ other ∈ arrivalCandidates event quotes, other.eventTs ≤ quote.eventTs := by
  rw [arrivalQuoteForEvent_eq_argmax] at h
  obtain ⟨hmem, htop⟩ := isTop_of_argmax h
  exact ⟨hmem, fun other hother => eventTs_le_of_quoteKey_le (htop other hother)⟩

/-! ## What a row reads -/

/-- The parts of a quote that a row stores, its prices and its instants as written. -/
structure ArrivalView where
  quoteId : String
  eventTs : AwareDatetime
  sourceTs : Option AwareDatetime
  ingestTs : AwareDatetime
  bestBid : WrittenPrice
  bestAsk : WrittenPrice

def arrivalView (quote : QuoteEvent) : ArrivalView where
  quoteId := quote.quoteId
  eventTs := quote.eventTs
  sourceTs := quote.sourceTs
  ingestTs := quote.ingestTs
  bestBid := quote.bestBid
  bestAsk := quote.bestAsk

/-- The amounts of a row and what it stores depend on its arrival quote only through the view. -/
theorem row_congr (report : ExecutionGatewayReport) (event : ExecutionGatewayLifecycleEvent)
    {quote quote' : Option QuoteEvent} (row : RowAttribution)
    (h : quote.map arrivalView = quote'.map arrivalView) :
    rowAmounts .context event quote row.arrivalReferencePrice row.fillPrice =
        rowAmounts .context event quote' row.arrivalReferencePrice row.fillPrice ∧
      ∀ amounts, tcaRowDraft report event quote row amounts =
        tcaRowDraft report event quote' row amounts := by
  cases quote with
  | none =>
      cases quote' with
      | none => exact ⟨rfl, fun _ => rfl⟩
      | some b => cases h
  | some a =>
      cases quote' with
      | none => cases h
      | some b =>
          obtain ⟨hid, hevent, hsource, hingest, hbid, hask⟩ :=
            ArrivalView.mk.inj (Option.some.inj h)
          constructor
          · simp only [rowAmounts, Option.mapM_some, quoteMid, hbid, hask]
          · intro amounts
            simp [tcaRowDraft, hid, hevent, hsource, hingest, hbid, hask]

theorem issueOf_congr {quote quote' : Option QuoteEvent} (status : ExecutionGatewayOrderStatus)
    (h : quote.map arrivalView = quote'.map arrivalView) :
    issueOf quote status = issueOf quote' status := by
  have hsome := isSome_of_view h
  cases status with
  | filled => simp only [issueOf, hsome]
  | partiallyFilled => simp only [issueOf, hsome]
  | blocked => rfl
  | rejected => rfl
  | unfilled => rfl

/-- Functions that agree on a list have the same traversal of it. -/
theorem mapM_congr_of_mem {α β : Type} {f g : α → Raises β} {as : List α}
    (h : ∀ a ∈ as, f a = g a) : as.mapM f = as.mapM g := by
  induction as with
  | nil => rfl
  | cons a as ih =>
      rw [List.mapM_cons, List.mapM_cons, h a List.mem_cons_self,
        ih fun b hb => h b (List.mem_cons_of_mem _ hb)]

section Report

variable [Sha256] {report : ExecutionGatewayReport}

/-- Arrival quotes that look the same give the same row and the same issue. -/
theorem tcaEntries_congr {quotes quotes' : List QuoteEvent} {e : ExecutionGatewayLifecycleEvent}
    (h : e.status.isFilled = true → (arrivalQuoteForEvent e quotes').map arrivalView =
      (arrivalQuoteForEvent e quotes).map arrivalView) :
    tcaEntries report quotes' e = tcaEntries report quotes e := by
  rw [tcaEntries, tcaEntries]
  cases hfilled : e.status.isFilled with
  | false =>
      have hissue : issueOf (arrivalQuoteForEvent e quotes') e.status =
          issueOf (arrivalQuoteForEvent e quotes) e.status := by
        cases hstatus : e.status with
        | filled => rw [hstatus] at hfilled; cases hfilled
        | partiallyFilled => rw [hstatus] at hfilled; cases hfilled
        | blocked => rfl
        | rejected => rfl
        | unfilled => rfl
      simp only [hissue, Bool.false_eq_true, if_false]
  | true =>
      have hrow : makeTcaRow .context report e (arrivalQuoteForEvent e quotes') =
          makeTcaRow .context report e (arrivalQuoteForEvent e quotes) := by
        have hsame := fun row => row_congr report e row (h hfilled)
        rw [makeTcaRow, makeTcaRow]
        simp only [(hsame _).1, (hsame _).2]
      simp only [issueOf_congr e.status (h hfilled), hrow]

/-- Quote lists whose arrival quotes look the same give the same report. -/
theorem makePaperTcaReport_congr {quotes quotes' : List QuoteEvent}
    (h : ∀ e ∈ report.events, e.status.isFilled = true →
      (arrivalQuoteForEvent e quotes').map arrivalView =
        (arrivalQuoteForEvent e quotes).map arrivalView) :
    makePaperTcaReport report quotes' = makePaperTcaReport report quotes := by
  have hmapM := mapM_congr_of_mem fun e he => @tcaEntries_congr _ report _ _ e (h e he)
  simp only [makePaperTcaReport, hmapM]

/-- The rows of a report are those of its filled events, in order. -/
theorem rows_of_makePaperTcaReport {quotes : List QuoteEvent} {tca : PaperTcaReport}
    (h : makePaperTcaReport report quotes = .ok tca) :
    List.Forall₂ (MakesRow report quotes) (filledEvents report) tca.rows := by
  simp only [makePaperTcaReport, bind_eq_ok_iff, Stamping.construct_eq_ok_iff] at h
  obtain ⟨-, -, entries, hentries, -, -, -, rfl⟩ := h
  exact rows_of_entries hentries

/-- What a row stores of its event and its arrival quote. -/
theorem makeTcaRow_reads {e : ExecutionGatewayLifecycleEvent} {quote : Option QuoteEvent}
    {row : PaperTcaRow} (h : makeTcaRow .context report e quote = .ok row) :
    row.instrumentId = e.instrumentId ∧ row.venueId = e.venueId ∧
      row.submittedAt = e.submittedAt ∧ row.quoteId = quote.map QuoteEvent.quoteId ∧
      row.quoteEventTs = quote.map QuoteEvent.eventTs ∧
      row.quoteSourceTs = quote.bind QuoteEvent.sourceTs ∧
      row.quoteIngestTs = quote.map QuoteEvent.ingestTs ∧
      row.arrivalBid = quote.map QuoteEvent.bestBid ∧
      row.arrivalAsk = quote.map QuoteEvent.bestAsk := by
  simp only [makeTcaRow, bind_eq_ok_iff, Stamping.construct_eq_ok_iff] at h
  obtain ⟨-, -, attribution, -, amounts, -, -, rfl⟩ := h
  exact ⟨rfl, rfl, rfl, rfl, rfl, rfl, rfl, rfl, rfl⟩

end Report

/-! ## Quotes that no event uses -/

/-- A filled event of the quote's market. -/
def FilledInMarket (report : ExecutionGatewayReport) (quote : QuoteEvent)
    (e : ExecutionGatewayLifecycleEvent) : Prop :=
  e ∈ report.events ∧ e.status.isFilled = true ∧ quote.instrumentId = e.instrumentId ∧
    quote.venueId = e.venueId

/-- Quotes without a say: of a market without filled events, after all filled events of their
market, or before a quote of their market that precedes all its filled events. -/
inductive Irrelevant (report : ExecutionGatewayReport) (quotes : List QuoteEvent)
    (quote : QuoteEvent) : Prop
  | otherMarket (h : ∀ e, ¬ FilledInMarket report quote e)
  | afterAll (h : ∀ e, FilledInMarket report quote e → e.submittedAt < quote.eventTs)
  | superseded (later : QuoteEvent) (hmem : later ∈ quotes)
      (hmarket : later.instrumentId = quote.instrumentId ∧ later.venueId = quote.venueId)
      (hearlier : quote.eventTs < later.eventTs)
      (hbefore : ∀ e, FilledInMarket report quote e → later.eventTs ≤ e.submittedAt)

/-- A candidate without a say is below another candidate. -/
theorem Irrelevant.exceeded {report : ExecutionGatewayReport} {quotes : List QuoteEvent}
    {quote : QuoteEvent} (h : Irrelevant report quotes quote) {e : ExecutionGatewayLifecycleEvent}
    (he : e ∈ report.events) (hfilled : e.status.isFilled = true)
    (hmarket : quote.instrumentId = e.instrumentId ∧ quote.venueId = e.venueId)
    (hbefore : quote.eventTs ≤ e.submittedAt) :
    ∃ later ∈ arrivalCandidates e quotes, quoteKey quote < quoteKey later := by
  have hin : FilledInMarket report quote e := ⟨he, hfilled, hmarket⟩
  cases h with
  | otherMarket h => exact absurd hin (h e)
  | afterAll h => exact absurd hbefore ((AwareDatetime.not_le_iff _ _).mpr (h e hin))
  | superseded later hmem hsame hearlier hprecedes =>
      refine ⟨later, mem_arrivalCandidates.mpr ⟨hmem, hsame.1.trans hmarket.1,
        hsame.2.trans hmarket.2, hprecedes e hin⟩, quoteKey_lt_of_lt hearlier⟩

/-- Adding quotes without a say, in any order, leaves the greatest candidates. -/
theorem isTop_of_irrelevant {report : ExecutionGatewayReport}
    {quotes added quotes' : List QuoteEvent} (hadded : ∀ q ∈ added, Irrelevant report quotes q)
    (hperm : quotes'.Perm (quotes ++ added)) {e : ExecutionGatewayLifecycleEvent}
    (he : e ∈ report.events) (hfilled : e.status.isFilled = true) (quote : QuoteEvent) :
    IsTop quoteKey (arrivalCandidates e quotes') quote ↔
      IsTop quoteKey (arrivalCandidates e quotes) quote := by
  have hcandidate : ∀ q, q ∈ arrivalCandidates e quotes' ↔ q ∈ arrivalCandidates e quotes ∨
      (q ∈ added ∧ q.instrumentId = e.instrumentId ∧ q.venueId = e.venueId ∧
        q.eventTs ≤ e.submittedAt) := by
    intro q
    rw [mem_arrivalCandidates, mem_arrivalCandidates, hperm.mem_iff, List.mem_append, or_and_right]
  -- an added candidate lies below one that was there before
  have hbelow : ∀ q ∈ arrivalCandidates e quotes', q ∈ arrivalCandidates e quotes ∨
      ∃ later ∈ arrivalCandidates e quotes, quoteKey q < quoteKey later := by
    intro q hq
    rcases (hcandidate q).mp hq with hold | ⟨hnew, hinstrument, hvenue, hts⟩
    · exact .inl hold
    · exact .inr ((hadded q hnew).exceeded he hfilled ⟨hinstrument, hvenue⟩ hts)
  constructor
  · rintro ⟨hmem, htop⟩
    rcases hbelow quote hmem with hold | ⟨later, hlater, hlt⟩
    · exact ⟨hold, fun q hq => htop q ((hcandidate q).mpr (.inl hq))⟩
    · exact absurd (htop later ((hcandidate later).mpr (.inl hlater))) hlt.not_ge
  · rintro ⟨hmem, htop⟩
    refine ⟨(hcandidate quote).mpr (.inl hmem), fun q hq => ?_⟩
    rcases hbelow q hq with hold | ⟨later, hlater, hlt⟩
    · exact htop q hold
    · exact hlt.le.trans (htop later hlater)

/-! ## The report -/

/-- Greatest candidates of one filled event look the same to a row. -/
def NoAmbiguousTies (report : ExecutionGatewayReport) (quotes : List QuoteEvent) : Prop :=
  ∀ e ∈ report.events, e.status.isFilled = true → ∀ a b,
    IsTop quoteKey (arrivalCandidates e quotes) a → IsTop quoteKey (arrivalCandidates e quotes) b →
      arrivalView a = arrivalView b

/-- A row with an arrival quote stores a quote of its market, the latest at or before the
submission. -/
def UsesLatestQuote (quotes : List QuoteEvent) (row : PaperTcaRow) : Prop :=
  ∀ id, row.quoteId = some id → ∃ quote ∈ quotes, quote.instrumentId = row.instrumentId ∧
    quote.venueId = row.venueId ∧ quote.eventTs ≤ row.submittedAt ∧
    (∀ other ∈ quotes, other.instrumentId = row.instrumentId → other.venueId = row.venueId →
      other.eventTs ≤ row.submittedAt → other.eventTs ≤ quote.eventTs) ∧
    quote.quoteId = id ∧ row.quoteEventTs = some quote.eventTs ∧
    row.arrivalBid = some quote.bestBid ∧ row.arrivalAsk = some quote.bestAsk

section Report

variable [Sha256] {report : ExecutionGatewayReport}

theorem usesLatestQuote_of_makePaperTcaReport {quotes : List QuoteEvent} {tca : PaperTcaReport}
    (h : makePaperTcaReport report quotes = .ok tca) :
    ∀ row ∈ tca.rows, UsesLatestQuote quotes row := by
  intro row hrow id hid
  obtain ⟨e, -, hmade⟩ := exists_of_mem_right (rows_of_makePaperTcaReport h) hrow
  obtain ⟨hinstrument, hvenue, hsubmitted, hquoteId, hts, -, -, hbid, hask⟩ :=
    makeTcaRow_reads hmade
  rw [hid] at hquoteId
  obtain ⟨quote, hquote, hsame⟩ := Option.map_eq_some_iff.mp hquoteId.symm
  obtain ⟨hcandidate, hlatest⟩ := arrivalQuoteForEvent_latest hquote
  obtain ⟨hmem, hmarket, hmarketVenue, hbefore⟩ := mem_arrivalCandidates.mp hcandidate
  rw [hquote] at hts hbid hask
  rw [hinstrument, hvenue, hsubmitted]
  refine ⟨quote, hmem, hmarket, hmarketVenue, hbefore, ?_, hsame, hts, hbid, hask⟩
  intro other hother hotherInstrument hotherVenue hotherTs
  exact hlatest other
    (mem_arrivalCandidates.mpr ⟨hother, hotherInstrument, hotherVenue, hotherTs⟩)

/-- Two reports that agree show the same arrival view in the row of every filled event. -/
theorem arrivalView_eq_of_same_report {quotes quotes' : List QuoteEvent} {tca : PaperTcaReport}
    (h : makePaperTcaReport report quotes = .ok tca)
    (h' : makePaperTcaReport report quotes' = .ok tca) {e : ExecutionGatewayLifecycleEvent}
    (he : e ∈ report.events) (hfilled : e.status.isFilled = true) {a b : QuoteEvent}
    (ha : arrivalQuoteForEvent e quotes = some a) (hb : arrivalQuoteForEvent e quotes' = some b) :
    arrivalView a = arrivalView b := by
  -- both runs make the row at the position of the event
  obtain ⟨row, hrow, hrow'⟩ : ∃ row, MakesRow report quotes e row ∧
      MakesRow report quotes' e row := by
    have hrows := rows_of_makePaperTcaReport h
    have hrows' := rows_of_makePaperTcaReport h'
    have hmem : e ∈ filledEvents report := List.mem_filter.mpr ⟨he, hfilled⟩
    generalize filledEvents report = filled at hrows hrows' hmem
    generalize tca.rows = rows at hrows hrows'
    induction hrows with
    | nil => cases hmem
    | @cons first row filled rows hfirst _ ih =>
        cases hrows' with
        | cons hfirst' hrest' =>
            rcases List.mem_cons.mp hmem with rfl | htail
            · exact ⟨row, hfirst, hfirst'⟩
            · exact ih htail hrest'
  rw [MakesRow, ha] at hrow
  rw [MakesRow, hb] at hrow'
  obtain ⟨-, -, -, hid, hts, hsource, hingest, hbid, hask⟩ := makeTcaRow_reads hrow
  obtain ⟨-, -, -, hid', hts', hsource', hingest', hbid', hask'⟩ := makeTcaRow_reads hrow'
  simp only [arrivalView, ArrivalView.mk.injEq]
  exact ⟨Option.some.inj (hid.symm.trans hid'), Option.some.inj (hts.symm.trans hts'),
    hsource.symm.trans hsource', Option.some.inj (hingest.symm.trans hingest'),
    Option.some.inj (hbid.symm.trans hbid'), Option.some.inj (hask.symm.trans hask')⟩

/-- The report does not depend on the order of the quotes or on quotes without a say. -/
def QuoteIndependent (report : ExecutionGatewayReport) (quotes : List QuoteEvent) : Prop :=
  ∀ added quotes' : List QuoteEvent, (∀ q ∈ added, Irrelevant report quotes q) →
    quotes'.Perm (quotes ++ added) →
      makePaperTcaReport report quotes' = makePaperTcaReport report quotes

omit [Sha256] in
/-- Bringing a greatest candidate to the front makes it the arrival quote. -/
theorem exists_perm_arrivalQuote {e : ExecutionGatewayLifecycleEvent} {quotes : List QuoteEvent}
    {a : QuoteEvent} (h : IsTop quoteKey (arrivalCandidates e quotes) a) :
    ∃ quotes', quotes'.Perm (quotes ++ []) ∧ arrivalQuoteForEvent e quotes' = some a := by
  obtain ⟨hmem, hmarket⟩ := mem_arrivalCandidates.mp h.1
  obtain ⟨before, after, rfl⟩ := List.append_of_mem hmem
  have hperm : (a :: (before ++ after)).Perm (before ++ a :: after) := List.perm_middle.symm
  have hfront : arrivalCandidates e (a :: (before ++ after)) =
      a :: arrivalCandidates e (before ++ after) := by
    rw [arrivalCandidates, List.filter_cons, if_pos]
    · rfl
    · simp [hmarket]
  refine ⟨a :: (before ++ after), by rwa [List.append_nil], ?_⟩
  rw [arrivalQuoteForEvent_eq_argmax, hfront]
  apply argmax_cons_of_isTop
  rw [← hfront]
  refine ⟨mem_arrivalCandidates.mpr ⟨List.mem_cons_self, hmarket⟩, fun q hq => ?_⟩
  obtain ⟨hqmem, hqmarket⟩ := mem_arrivalCandidates.mp hq
  exact h.2 q (mem_arrivalCandidates.mpr ⟨hperm.mem_iff.mp hqmem, hqmarket⟩)

/-- A TCA report uses the latest quotes, and does not depend on the order of the quotes or on quotes
without a say, exactly where greatest candidates of one event look the same to a row. -/
theorem tca_quote_selection_iff {quotes : List QuoteEvent} {tca : PaperTcaReport}
    (h : makePaperTcaReport report quotes = .ok tca) :
    (QuoteIndependent report quotes ∧ ∀ row ∈ tca.rows, UsesLatestQuote quotes row) ↔
      NoAmbiguousTies report quotes := by
  constructor
  · rintro ⟨hindependent, -⟩ e he hfilled a b ha hb
    have hnone : ∀ q ∈ ([] : List QuoteEvent), Irrelevant report quotes q :=
      fun _ hq => absurd hq List.not_mem_nil
    obtain ⟨quotesA, hpermA, harrivalA⟩ := exists_perm_arrivalQuote ha
    obtain ⟨quotesB, hpermB, harrivalB⟩ := exists_perm_arrivalQuote hb
    have hreportA := (hindependent [] quotesA hnone hpermA).trans h
    have hreportB := (hindependent [] quotesB hnone hpermB).trans h
    exact arrivalView_eq_of_same_report hreportA hreportB he hfilled harrivalA harrivalB
  · intro hties
    refine ⟨fun added quotes' hadded hperm => ?_, usesLatestQuote_of_makePaperTcaReport h⟩
    apply makePaperTcaReport_congr
    intro e he hfilled
    rw [arrivalQuoteForEvent_eq_argmax, arrivalQuoteForEvent_eq_argmax]
    exact argmax_map_eq (isTop_of_irrelevant hadded hperm he hfilled) (hties e he hfilled)

end Report

/-! ## Quotes of one market -/

/-- Quotes with one view for each key are never ambiguous. -/
theorem noAmbiguousTies_of_key {report : ExecutionGatewayReport} {quotes : List QuoteEvent}
    (h : ∀ a ∈ quotes, ∀ b ∈ quotes, quoteKey a = quoteKey b → arrivalView a = arrivalView b) :
    NoAmbiguousTies report quotes := by
  rintro e - - a b ⟨ha, htopA⟩ ⟨hb, htopB⟩
  apply h a (mem_arrivalCandidates.mp ha).1 b (mem_arrivalCandidates.mp hb).1
  exact le_antisymm (htopB a ha) (htopA b hb)

theorem marketQuotes_unambiguous (report : ExecutionGatewayReport)
    (e : ExecutionGatewayLifecycleEvent) : NoAmbiguousTies report (marketQuotes e) := by
  apply noAmbiguousTies_of_key
  intro a ha b hb hkey
  have hid : a.quoteId = b.quoteId := congrArg (fun key => (ofLex key).2) hkey
  simp only [marketQuotes, List.mem_cons, List.not_mem_nil, or_false] at ha hb
  rcases ha with rfl | rfl | rfl | rfl | rfl <;>
    rcases hb with rfl | rfl | rfl | rfl | rfl <;>
    first
      | rfl
      | simp [quoteAt] at hid

/-- The run on the other account has a filled event, and a TCA report for moderate quotes. -/
theorem exists_filled_paperReport : ∃ event report,
    @runPaperGatewayReplay hashlibSha256 (buyInputs otherSnapshot otherCash) [event] =
      .ok report ∧
    (∃ e ∈ report.events, e.status.isFilled = true) ∧
    ∀ quotes, (∀ q ∈ quotes, ModerateQuote q) →
      ∃ tca, @makePaperTcaReport hashlibSha256 report quotes = .ok tca := by
  obtain ⟨event, -, hvalid, hdecision, hintent⟩ := marketBuyRequest_event
  have hforwarded := marketBuy_forwarded hdecision hintent
  obtain ⟨report, hreport⟩ := buyInputs_returns otherSnapshot otherCash hvalid hforwarded
  refine ⟨event, report, hreport, exists_filled_of_otherCash hvalid hforwarded hreport, ?_⟩
  intro quotes hquotes
  apply @tca_of_paperReport hashlibSha256 report (@paperReport_of_run hashlibSha256 _ _ _ hreport)
    _ quotes hquotes
  apply @moderateFills_of_run hashlibSha256 _ _ _ _ hreport rfl
  · intro bar hbar
    rw [List.mem_singleton.mp hbar]
    exact abs_le_of_le (k := 2) (by norm_num [Simulation.flatBar]) (by decide)
  · intro intent hmem
    rw [List.filterMap_cons_some hforwarded, List.filterMap_nil] at hmem
    rw [List.mem_singleton.mp hmem]
    exact moderate_of_abs_le_ten (by norm_num [marketBuy, Simulation.marketOrder])

/-- Five quotes around the submission of a filled event, in any order: one report. -/
theorem tca_quote_selection_of_market : ∃ event report e tca,
    @runPaperGatewayReplay hashlibSha256 (buyInputs otherSnapshot otherCash) [event] =
      .ok report ∧ e ∈ report.events ∧ e.status.isFilled = true ∧
    @makePaperTcaReport hashlibSha256 report (marketQuotes e) = .ok tca ∧
    @QuoteIndependent hashlibSha256 report (marketQuotes e) ∧
    ∀ row ∈ tca.rows, UsesLatestQuote (marketQuotes e) row := by
  obtain ⟨event, report, hreport, ⟨e, he, hfilled⟩, htcas⟩ := exists_filled_paperReport
  obtain ⟨tca, htca⟩ := htcas (marketQuotes e) (moderateQuote_of_market e)
  exact ⟨event, report, e, tca, hreport, he, hfilled, htca,
    (@tca_quote_selection_iff hashlibSha256 report _ tca htca).mpr
      (marketQuotes_unambiguous report e)⟩

/-- Two quotes of one id and instant and different asks: the report of a run depends on which of
them comes first. -/
theorem tca_depends_on_quote_order : ∃ event report a b,
    @runPaperGatewayReplay hashlibSha256 (buyInputs otherSnapshot otherCash) [event] =
      .ok report ∧
    @makePaperTcaReport hashlibSha256 report [a, b] ≠
      @makePaperTcaReport hashlibSha256 report [b, a] := by
  obtain ⟨event, report, hreport, ⟨e, he, hfilled⟩, htcas⟩ := exists_filled_paperReport
  have hfirst : ∀ p q, arrivalQuoteForEvent e [quoteAt e "QUOTE" 0 p, quoteAt e "QUOTE" 0 q] =
      some (quoteAt e "QUOTE" 0 p) := by
    intro p q
    have hcandidates : arrivalCandidates e [quoteAt e "QUOTE" 0 p, quoteAt e "QUOTE" 0 q] =
        [quoteAt e "QUOTE" 0 p, quoteAt e "QUOTE" 0 q] := by
      simp [arrivalCandidates, quoteAt, AwareDatetime.le_def]
    rw [arrivalQuoteForEvent_eq_argmax, hcandidates]
    apply argmax_cons_of_isTop
    refine ⟨List.mem_cons_self, fun quote hquote => ?_⟩
    rcases List.mem_cons.mp hquote with rfl | hquote
    · exact le_refl _
    · rw [List.mem_singleton.mp hquote]
      exact le_refl _
  refine ⟨event, report, quoteAt e "QUOTE" 0 1, quoteAt e "QUOTE" 0 2, hreport, fun hsame => ?_⟩
  obtain ⟨tca, htca⟩ : ∃ tca, @makePaperTcaReport hashlibSha256 report
      [quoteAt e "QUOTE" 0 1, quoteAt e "QUOTE" 0 2] = .ok tca := by
    apply htcas
    intro quote hquote
    rcases List.mem_cons.mp hquote with rfl | hquote
    · exact moderateQuote_at e _ _ (by norm_num)
    · rw [List.mem_singleton.mp hquote]
      exact moderateQuote_at e _ _ (by norm_num)
  have hview := @arrivalView_eq_of_same_report hashlibSha256 report _ _ tca htca
    (hsame.symm.trans htca) e he hfilled _ _ (hfirst _ _) (hfirst _ _)
  -- the asks in the two rows are 1 and 2
  have hask : 1 = 2 := congrArg (fun view => view.bestAsk.val.digits) hview
  exact absurd hask (by decide)

end TaModel.Execution
