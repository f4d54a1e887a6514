import TaModel.Contracts.Canonical
import Mathlib.Data.Nat.Cast.Order.Ring

/-!
# Market-data contracts

The OHLCTV bar of `contracts/market_data.py` and the quote event of `contracts/streaming.py`. A
bar's `ingest_ts` is left out: replay ignores it and no digest contains it. The prices of a quote
keep their written form, since a TCA row stores them as they came and hashes their text.
-/

set_option autoImplicit false

namespace TaModel.Contracts

inductive QualityFlag where
  | missing | late | estimated | duplicate | outlier | repaired
deriving DecidableEq

def QualityFlag.value : QualityFlag → String
  | .missing => "missing"
  | .late => "late"
  | .estimated => "estimated"
  | .duplicate => "duplicate"
  | .outlier => "outlier"
  | .repaired => "repaired"

instance : ToPayload QualityFlag := ⟨fun x => .text x.value⟩

/-- Canonical OHLCTV bar; the proof fields are the validator `ohlc_invariants_hold`. -/
structure OHLCTVBar where
  instrumentId : String
  venueId : String
  timeframe : String
  openTs : AwareDatetime
  closeTs : AwareDatetime
  openPrice : NonNegativeDecimal
  high : NonNegativeDecimal
  low : NonNegativeDecimal
  close : NonNegativeDecimal
  baseVolume : NonNegativeDecimal
  quoteVolume : Option NonNegativeDecimal
  tradeCount : Option Nat
  vwap : Option NonNegativeDecimal
  sourceTs : AwareDatetime
  qualityFlags : List QualityFlag
  rawPayloadId : String
  open_before_close : openTs < closeTs
  high_is_max : openPrice.val ≤ high.val ∧ low.val ≤ high.val ∧ close.val ≤ high.val
  low_is_min : low.val ≤ openPrice.val ∧ low.val ≤ high.val ∧ low.val ≤ close.val
  vwap_in_range : ∀ v ∈ vwap, low.val ≤ v.val ∧ v.val ≤ high.val

/-- The `(instrument_id, venue_id, timeframe)` stream of a bar. -/
def OHLCTVBar.streamKey (bar : OHLCTVBar) : String × String × String :=
  (bar.instrumentId, bar.venueId, bar.timeframe)

/-- The entry of one bar in `_market_data_hash`. -/
def OHLCTVBar.payload (bar : OHLCTVBar) : Payload :=
  .record
    [ ("base_volume", toPayload bar.baseVolume), ("close", toPayload bar.close),
      ("close_ts", toPayload bar.closeTs), ("high", toPayload bar.high),
      ("instrument_id", toPayload bar.instrumentId), ("low", toPayload bar.low),
      ("open", toPayload bar.openPrice), ("open_ts", toPayload bar.openTs),
      ("quality_flags", toPayload bar.qualityFlags), ("quote_volume", toPayload bar.quoteVolume),
      ("raw_payload_id", toPayload bar.rawPayloadId), ("source_ts", toPayload bar.sourceTs),
      ("timeframe", toPayload bar.timeframe), ("trade_count", toPayload bar.tradeCount),
      ("venue_id", toPayload bar.venueId), ("vwap", toPayload bar.vwap) ]

inductive StreamQualityFlag where
  | gap | stale | duplicate | crossed | repaired | late | estimated
deriving DecidableEq

/-! ## Decimals as written -/

/-- `Decimal.as_tuple()`: `100.0` and `100.00` have one value and two written forms. -/
structure WrittenDecimal where
  sign : Bool
  digits : Nat
  exponent : Int
deriving DecidableEq

namespace WrittenDecimal

def value (d : WrittenDecimal) : Decimal :=
  (if d.sign then -1 else 1) * d.digits * 10 ^ d.exponent

def signText (d : WrittenDecimal) : String := if d.sign then "-" else ""

/-- `count` zeros. -/
def zeros (count : Int) : List Char := List.replicate count.toNat '0'

/-- `Decimal.__str__`: scientific notation for a positive exponent and for six leading zeros. -/
def text (d : WrittenDecimal) : String :=
  let coefficient := (toString d.digits).toList
  let length : Int := coefficient.length
  let leftDigits := d.exponent + length
  -- the number of digits before the decimal point
  let dotPlace := if d.exponent ≤ 0 ∧ -6 < leftDigits then leftDigits else 1
  let mantissa :=
    if dotPlace ≤ 0 then '0' :: '.' :: (zeros (-dotPlace) ++ coefficient)
    else if length ≤ dotPlace then coefficient ++ zeros (dotPlace - length)
    else coefficient.take dotPlace.toNat ++ '.' :: coefficient.drop dotPlace.toNat
  let power := leftDigits - dotPlace
  let exponentText :=
    if power = 0 then "" else "E" ++ (if 0 < power then "+" else "") ++ toString power
  d.signText ++ String.ofList mantissa ++ exponentText

/-- A number of whole units. -/
def ofNat (n : Nat) : WrittenDecimal := ⟨false, n, 0⟩

theorem value_ofNat (n : Nat) : (ofNat n).value = n := by
  simp [value, ofNat]

end WrittenDecimal

/-- A decimal that is not negative, as written. -/
abbrev WrittenPrice := {d : WrittenDecimal // 0 ≤ d.value}

def WrittenPrice.value (p : WrittenPrice) : Decimal := p.val.value

/-- A price of whole units. -/
def WrittenPrice.ofNat (n : Nat) : WrittenPrice :=
  ⟨.ofNat n, (WrittenDecimal.value_ofNat n).symm ▸ Nat.cast_nonneg n⟩

theorem WrittenPrice.value_ofNat (n : Nat) : (WrittenPrice.ofNat n).value = n :=
  WrittenDecimal.value_ofNat n

instance : ToPayload WrittenPrice := ⟨fun p => .text p.val.text⟩

/-! ## Quotes -/

/-- Best bid and ask quote event; the proof field is `reject_crossed_quote_without_flag`. -/
structure QuoteEvent where
  quoteId : String
  venueId : String
  instrumentId : String
  bestBid : WrittenPrice
  bestAsk : WrittenPrice
  eventTs : AwareDatetime
  sourceTs : Option AwareDatetime
  ingestTs : AwareDatetime
  rawPayloadId : String
  qualityFlags : List StreamQualityFlag
  crossed_is_flagged : bestAsk.value < bestBid.value → .crossed ∈ qualityFlags

end TaModel.Contracts
