import TaModel.Contracts.Canonical
import TaModel.Library.FixedWidth
import Mathlib.Data.String.Basic
import Mathlib.Tactic.Ring

/-!
# The order of `isoformat` texts

`datetime.isoformat` prints the wall-clock reading, from the year down to the microsecond, and then
the UTC offset. Two texts therefore compare by the wall-clock reading first and by the text of the
offset when the readings are equal; the instant plays no part. The proof goes through the calendar:
the civil date of a day count grows with the day count.
-/

set_option autoImplicit false

namespace TaModel.Contracts.AwareDatetime

open TaModel.Library

/-! ## The calendar -/

/-- Year, counted from March, of a day within an era of four hundred years. -/
def yearOfEra (doe : Int) : Int := (doe - doe / 1460 + doe / 36524 - doe / 146096) / 365

/-- A day of an era splits into centuries, four-year cycles, years and the day of the year. -/
structure EraDay (doe k c t s : Int) : Prop where
  century : 0 ≤ k ∧ k ≤ 3
  cycle : 0 ≤ c ∧ c ≤ 24
  year : 0 ≤ t ∧ t ≤ 3
  day : 0 ≤ s ∧ (s < 365 ∨ (s = 365 ∧ t = 3 ∧ (c < 24 ∨ k = 3)))
  sum : doe = 36524 * k + 1461 * c + 365 * t + s
  yearOfEra_eq : yearOfEra doe = 100 * k + 4 * c + t

theorem exists_eraDay (doe : Int) (hnonneg : 0 ≤ doe) (hlt : doe < 146097) :
    ∃ k c t s, EraDay doe k c t s := by
  by_cases hlast : doe = 146096
  · subst hlast
    exact ⟨3, 24, 3, 365, by omega, by omega, by omega, by omega, by omega, by decide⟩
  · obtain ⟨k, hk⟩ : ∃ k, k = doe / 36524 := ⟨_, rfl⟩
    obtain ⟨c, hc⟩ : ∃ c, c = (doe - 36524 * k) / 1461 := ⟨_, rfl⟩
    obtain ⟨u, hu⟩ : ∃ u, u = doe - 36524 * k - 1461 * c := ⟨_, rfl⟩
    obtain ⟨e, he⟩ : ∃ e, e = (24 * k + c + u) / 1460 := ⟨_, rfl⟩
    have hk3 : 0 ≤ k ∧ k ≤ 3 := by omega
    have hc24 : 0 ≤ c ∧ c ≤ 24 := by omega
    have hu1460 : 0 ≤ u ∧ u ≤ 1460 := by omega
    -- the correction `doe / 1460` is one too large only late in the last year of a cycle
    have hcorrection : (e = 0 ∧ u < 1460) ∨ (e = 1 ∧ 1364 ≤ u) := by omega
    have hcycles : doe / 1460 = 25 * k + c + e := by omega
    have hera : doe / 146096 = 0 := by omega
    have hyear : yearOfEra doe = 100 * k + 4 * c + (u - e) / 365 := by
      have hdoe : doe = 36524 * k + 1461 * c + u := by omega
      unfold yearOfEra
      rw [hcycles, ← hk, hera, hdoe]
      have hregroup : 36524 * k + 1461 * c + u - (25 * k + c + e) + k - 0 =
          (u - e) + 365 * (100 * k + 4 * c) := by ring
      rw [hregroup, Int.add_mul_ediv_left _ _ (by decide)]
      ring
    exact ⟨k, c, (u - e) / 365, u - 365 * ((u - e) / 365), hk3, hc24, by omega, by omega, by omega,
      hyear⟩

/-- The date of a day count: `year` is counted from March and `day` within that year. -/
structure CivilDay (days year day : Int) : Prop where
  day_bounds : 0 ≤ day ∧ day ≤ 365
  months : 12 * (civilFromDays days).1 + (civilFromDays days).2.1 =
    12 * year + (5 * day + 2) / 153 + 3
  month_bounds : 1 ≤ (civilFromDays days).2.1 ∧ (civilFromDays days).2.1 ≤ 12
  day_eq : (civilFromDays days).2.2 = day - (153 * ((5 * day + 2) / 153) + 2) / 5 + 1

/-- The date of a day count, from the split of its era. -/
theorem civilDay_of_eraDay {days era k c t s : Int} (hera : era = (days + 719468) / 146097)
    (h : EraDay ((days + 719468) % 146097) k c t s) :
    CivilDay days (400 * era + 100 * k + 4 * c + t) s := by
  obtain ⟨hk, hc, ht, hs, hsum, hyear⟩ := h
  have hday : 0 ≤ s ∧ s ≤ 365 := by omega
  have hcivil : civilFromDays days =
      (let mp := (5 * s + 2) / 153
       let month := if mp < 10 then mp + 3 else mp - 9
       (100 * k + 4 * c + t + era * 400 + (if month ≤ 2 then 1 else 0), month,
         s - (153 * mp + 2) / 5 + 1)) := by
    have hdoy : (days + 719468) % 146097 - (365 * (100 * k + 4 * c + t) +
        (100 * k + 4 * c + t) / 4 - (100 * k + 4 * c + t) / 100) = s := by
      have hleap : (100 * k + 4 * c + t) / 4 = 25 * k + c := by omega
      have hcentury : (100 * k + 4 * c + t) / 100 = k := by omega
      rw [hsum, hleap, hcentury]
      ring
    unfold yearOfEra at hyear
    unfold civilFromDays
    dsimp only
    rw [hyear, hdoy, ← hera]
  have hmonth : 0 ≤ (5 * s + 2) / 153 ∧ (5 * s + 2) / 153 ≤ 11 := by omega
  refine ⟨hday, ?_, ?_, ?_⟩
  · rw [hcivil]
    dsimp only
    split <;> split <;> omega
  · rw [hcivil]
    dsimp only
    split <;> omega
  · rw [hcivil]

/-- Later days have later dates. -/
theorem civilFromDays_lt {a b : Int} (h : a < b) :
    12 * (civilFromDays a).1 + (civilFromDays a).2.1 <
        12 * (civilFromDays b).1 + (civilFromDays b).2.1 ∨
      (12 * (civilFromDays a).1 + (civilFromDays a).2.1 =
          12 * (civilFromDays b).1 + (civilFromDays b).2.1 ∧
        (civilFromDays a).2.2 < (civilFromDays b).2.2) := by
  obtain ⟨k, c, t, s, ha⟩ := exists_eraDay ((a + 719468) % 146097) (by omega) (by omega)
  obtain ⟨k', c', t', s', hb⟩ := exists_eraDay ((b + 719468) % 146097) (by omega) (by omega)
  obtain ⟨hday, hmonths, -, hday_eq⟩ := civilDay_of_eraDay rfl ha
  obtain ⟨hday', hmonths', -, hday_eq'⟩ := civilDay_of_eraDay rfl hb
  obtain ⟨era, hera⟩ : ∃ era, era = (a + 719468) / 146097 := ⟨_, rfl⟩
  obtain ⟨era', hera'⟩ : ∃ era, era = (b + 719468) / 146097 := ⟨_, rfl⟩
  rw [← hera] at hmonths
  rw [← hera'] at hmonths'
  -- the splits of the two days compare from the era down to the day of the year
  have hsplit : 400 * era + 100 * k + 4 * c + t < 400 * era' + 100 * k' + 4 * c' + t' ∨
      (400 * era + 100 * k + 4 * c + t = 400 * era' + 100 * k' + 4 * c' + t' ∧ s < s') := by
    obtain ⟨hk, hc, ht, hs, hsum, -⟩ := ha
    obtain ⟨hk', hc', ht', hs', hsum', -⟩ := hb
    have hab : 146097 * era + (36524 * k + 1461 * c + 365 * t + s) <
        146097 * era' + (36524 * k' + 1461 * c' + 365 * t' + s') := by omega
    clear hmonths hmonths' hday_eq hday_eq' hera hera' hsum hsum' h
    rcases lt_trichotomy era era' with hlt | rfl | hgt
    · omega
    · rcases lt_trichotomy k k' with hlt | rfl | hgt
      · omega
      · rcases lt_trichotomy c c' with hlt | rfl | hgt
        · omega
        · omega
        · omega
      · omega
    · omega
  rw [hmonths, hmonths', hday_eq, hday_eq']
  generalize 400 * era + 100 * k + 4 * c + t = year at hsplit
  generalize 400 * era' + 100 * k' + 4 * c' + t' = year' at hsplit
  omega

/-! ## The text -/

/-- The wall-clock reading in microseconds. -/
def localMicros (t : AwareDatetime) : Int := t.utc + t.offset * 1000000

/-- What a `datetime` can hold: a reading in the years 1 to 9999 and an offset below one day. -/
def Representable (t : AwareDatetime) : Prop :=
  -62135596800000000 ≤ localMicros t ∧ localMicros t < 253402300800000000 ∧
    -86400 < t.offset ∧ t.offset < 86400

instance (t : AwareDatetime) : Decidable (Representable t) := by
  unfold Representable
  infer_instance

theorem toList_padded {width n : Nat} (hwidth : 0 < width) (hn : n < 10 ^ width) :
    (padded width n).toList = fixedDigits width n := by
  rw [← replicate_append_toDigits hwidth hn]
  unfold padded
  dsimp only
  rw [String.toList_append, String.toList_ofList, Nat.toString_eq_ofList_toDigits,
    String.length_ofList, String.toList_ofList]

/-- The years, months and days of representable readings fit their fields. -/
theorem civil_bounds {days : Int} (hlow : -719162 ≤ days) (hhigh : days ≤ 2932896) :
    (1 ≤ (civilFromDays days).1 ∧ (civilFromDays days).1 ≤ 9999) ∧
      (1 ≤ (civilFromDays days).2.1 ∧ (civilFromDays days).2.1 ≤ 12) ∧
      1 ≤ (civilFromDays days).2.2 ∧ (civilFromDays days).2.2 ≤ 31 := by
  obtain ⟨k, c, t, s, h⟩ := exists_eraDay ((days + 719468) % 146097) (by omega) (by omega)
  obtain ⟨hday, -, hmonth, hday_eq⟩ := civilDay_of_eraDay rfl h
  have hfirst : civilFromDays (-719162) = (1, 1, 1) := by decide
  have hlast : civilFromDays 2932896 = (9999, 12, 31) := by decide
  have hyear : 1 ≤ (civilFromDays days).1 := by
    rcases eq_or_lt_of_le hlow with rfl | hlt
    · rw [hfirst]
    · have hlater := civilFromDays_lt hlt
      rw [hfirst] at hlater
      dsimp only at hlater
      omega
  have hyear' : (civilFromDays days).1 ≤ 9999 := by
    rcases eq_or_lt_of_le hhigh with rfl | hlt
    · rw [hlast]
    · have hearlier := civilFromDays_lt hlt
      rw [hlast] at hearlier
      dsimp only at hearlier
      omega
  exact ⟨⟨hyear, hyear'⟩, hmonth, by omega, by omega⟩

/-- The microseconds and the offset, as they end the text. -/
def tailText (micros : Nat) (offset : Int) : List Char :=
  (if micros = 0 then [] else '.' :: fixedDigits 6 micros) ++ (offsetText offset).toList

/-- The text of a representable time, field by field. -/
theorem toList_isoformat {t : AwareDatetime} (h : Representable t) :
    t.isoformat.toList =
      fixedDigits 4 (civilFromDays (localMicros t / 86400000000)).1.toNat ++ '-' ::
      (fixedDigits 2 (civilFromDays (localMicros t / 86400000000)).2.1.toNat ++ '-' ::
      (fixedDigits 2 (civilFromDays (localMicros t / 86400000000)).2.2.toNat ++ 'T' ::
      (fixedDigits 2 ((localMicros t % 86400000000).toNat / 1000000 / 3600) ++ ':' ::
      (fixedDigits 2 ((localMicros t % 86400000000).toNat / 1000000 / 60 % 60) ++ ':' ::
      (fixedDigits 2 ((localMicros t % 86400000000).toNat / 1000000 % 60) ++
        tailText ((localMicros t % 86400000000).toNat % 1000000) t.offset))))) := by
  obtain ⟨hlow, hhigh, -, -⟩ := h
  obtain ⟨hyear, hmonth, hday⟩ :=
    @civil_bounds (localMicros t / 86400000000) (by omega) (by omega)
  have hfraction : (if (localMicros t % 86400000000).toNat % 1000000 = 0 then ""
      else "." ++ padded 6 ((localMicros t % 86400000000).toNat % 1000000)).toList =
      if (localMicros t % 86400000000).toNat % 1000000 = 0 then []
      else '.' :: fixedDigits 6 ((localMicros t % 86400000000).toNat % 1000000) := by
    split
    · rfl
    · rw [String.toList_append, toList_padded (by decide) (by omega)]
      rfl
  have hunfold : t.isoformat =
      padded 4 (civilFromDays (localMicros t / 86400000000)).1.toNat ++ "-" ++
      padded 2 (civilFromDays (localMicros t / 86400000000)).2.1.toNat ++ "-" ++
      padded 2 (civilFromDays (localMicros t / 86400000000)).2.2.toNat ++ "T" ++
      padded 2 ((localMicros t % 86400000000).toNat / 1000000 / 3600) ++ ":" ++
      padded 2 ((localMicros t % 86400000000).toNat / 1000000 / 60 % 60) ++ ":" ++
      padded 2 ((localMicros t % 86400000000).toNat / 1000000 % 60) ++
      (if (localMicros t % 86400000000).toNat % 1000000 = 0 then ""
        else "." ++ padded 6 ((localMicros t % 86400000000).toNat % 1000000)) ++
      offsetText t.offset := rfl
  have hdash : "-".toList = ['-'] := rfl
  have hcolon : ":".toList = [':'] := rfl
  have hmark : "T".toList = ['T'] := rfl
  rw [hunfold]
  simp only [String.toList_append, hfraction, hdash, hcolon, hmark, tailText]
  rw [toList_padded (by decide) (by omega), toList_padded (by decide) (by omega),
    toList_padded (by decide) (by omega), toList_padded (by decide) (by omega),
    toList_padded (by decide) (by omega), toList_padded (by decide) (by omega)]
  simp only [List.append_assoc, List.cons_append, List.nil_append]

/-! ## The order -/

/-- The text of an offset starts with its sign. -/
theorem toList_offsetText (offset : Int) :
    ∃ sign rest, (sign = '+' ∨ sign = '-') ∧ (offsetText offset).toList = sign :: rest := by
  unfold offsetText
  dsimp only
  simp only [String.append_assoc]
  generalize padded 2 (offset.natAbs / 3600) ++ _ = rest
  refine ⟨if offset < 0 then '-' else '+', rest.toList, ?_, ?_⟩
  · split
    · exact Or.inr rfl
    · exact Or.inl rfl
  · rw [String.toList_append]
    split <;> rfl

/-- A sign sorts before the point of a fraction. -/
theorem sign_lt_point {sign : Char} (h : sign = '+' ∨ sign = '-') : sign < '.' := by
  rcases h with rfl | rfl <;> decide

/-- The ends of two texts compare by the microseconds first. -/
theorem tailText_lt_iff {m n : Nat} (hm : m < 10 ^ 6) (hn : n < 10 ^ 6) (o p : Int) :
    tailText m o < tailText n p ↔ m < n ∨ (m = n ∧ offsetText o < offsetText p) := by
  obtain ⟨sign, rest, hsign, ho⟩ := toList_offsetText o
  obtain ⟨sign', rest', hsign', hp⟩ := toList_offsetText p
  have hpoint := sign_lt_point hsign
  have hpoint' := sign_lt_point hsign'
  unfold tailText
  rw [String.lt_iff]
  by_cases hm0 : m = 0
  · by_cases hn0 : n = 0
    · rw [if_pos hm0, if_pos hn0, List.nil_append, List.nil_append, hm0, hn0]
      simp
    · rw [if_pos hm0, if_neg hn0, List.nil_append, ho, List.cons_append, List.cons_lt_cons_iff]
      exact iff_of_true (Or.inl hpoint) (Or.inl (by omega))
  · by_cases hn0 : n = 0
    · rw [if_neg hm0, if_pos hn0, List.nil_append, hp, List.cons_append, List.cons_lt_cons_iff]
      refine iff_of_false ?_ (by omega)
      rintro (hlt | ⟨heq, -⟩)
      · exact lt_asymm hlt hpoint'
      · rw [← heq] at hpoint'
        exact lt_irrefl _ hpoint'
    · rw [if_neg hm0, if_neg hn0, List.cons_append, List.cons_append, cons_lt_cons_same,
        fixedDigits_append_lt_iff hm hn]

/-- Two dates compare field by field the way the day counts do. -/
theorem civil_fields_lt_iff {a b : Int} (ha : -719162 ≤ a ∧ a ≤ 2932896)
    (hb : -719162 ≤ b ∧ b ≤ 2932896) (rest : Prop) :
    ((civilFromDays a).1.toNat < (civilFromDays b).1.toNat ∨
      ((civilFromDays a).1.toNat = (civilFromDays b).1.toNat ∧
        ((civilFromDays a).2.1.toNat < (civilFromDays b).2.1.toNat ∨
          ((civilFromDays a).2.1.toNat = (civilFromDays b).2.1.toNat ∧
            ((civilFromDays a).2.2.toNat < (civilFromDays b).2.2.toNat ∨
              ((civilFromDays a).2.2.toNat = (civilFromDays b).2.2.toNat ∧ rest)))))) ↔
      a < b ∨ (a = b ∧ rest) := by
  obtain ⟨hyear, hmonth, hday⟩ := civil_bounds ha.1 ha.2
  obtain ⟨hyear', hmonth', hday'⟩ := civil_bounds hb.1 hb.2
  rcases lt_trichotomy a b with hlt | rfl | hgt
  · have hlater := civilFromDays_lt hlt
    refine iff_of_true ?_ (Or.inl hlt)
    omega
  · simp
  · have hearlier := civilFromDays_lt hgt
    refine iff_of_false ?_ ?_
    · omega
    · omega

/-- Day and time of the day compare the way the readings do. -/
theorem dayTime_lt_iff (a b : Int) (rest : Prop) :
    (a / 86400000000 < b / 86400000000 ∨ (a / 86400000000 = b / 86400000000 ∧
      ((a % 86400000000).toNat < (b % 86400000000).toNat ∨
        ((a % 86400000000).toNat = (b % 86400000000).toNat ∧ rest)))) ↔
      a < b ∨ (a = b ∧ rest) := by
  rcases lt_trichotomy a b with hlt | rfl | hgt
  · exact iff_of_true (by omega) (Or.inl hlt)
  · simp
  · exact iff_of_false (by omega) (by omega)

/-- The text order of representable times: by the wall-clock reading, then by the offset text. -/
theorem isoformat_lt_iff {a b : AwareDatetime} (ha : Representable a) (hb : Representable b) :
    a.isoformat < b.isoformat ↔ localMicros a < localMicros b ∨
      (localMicros a = localMicros b ∧ offsetText a.offset < offsetText b.offset) := by
  rw [String.lt_iff, toList_isoformat ha, toList_isoformat hb]
  obtain ⟨hlow, hhigh, -, -⟩ := ha
  obtain ⟨hlow', hhigh', -, -⟩ := hb
  obtain ⟨hyear, hmonth, hday⟩ :=
    @civil_bounds (localMicros a / 86400000000) (by omega) (by omega)
  obtain ⟨hyear', hmonth', hday'⟩ :=
    @civil_bounds (localMicros b / 86400000000) (by omega) (by omega)
  rw [fixedDigits_append_lt_iff (by omega) (by omega), cons_lt_cons_same,
    fixedDigits_append_lt_iff (by omega) (by omega), cons_lt_cons_same,
    fixedDigits_append_lt_iff (by omega) (by omega), cons_lt_cons_same,
    civil_fields_lt_iff ⟨by omega, by omega⟩ ⟨by omega, by omega⟩,
    fixedDigits_append_lt_iff (by omega) (by omega), cons_lt_cons_same,
    fixedDigits_append_lt_iff (by omega) (by omega), cons_lt_cons_same,
    fixedDigits_append_lt_iff (by omega) (by omega),
    tailText_lt_iff (by omega) (by omega)]
  have hhours : ∀ secs : Nat, secs / 3600 = secs / 60 / 60 := by
    intro secs
    rw [Nat.div_div_eq_div_mul]
  rw [hhours, hhours, divMod_lt_iff, divMod_lt_iff, divMod_lt_iff]
  exact dayTime_lt_iff _ _ _

/-- Equal texts have equal wall-clock readings and equal offset texts. -/
theorem isoformat_eq_iff {a b : AwareDatetime} (ha : Representable a) (hb : Representable b) :
    a.isoformat = b.isoformat ↔
      localMicros a = localMicros b ∧ offsetText a.offset = offsetText b.offset := by
  have hab := isoformat_lt_iff ha hb
  have hba := isoformat_lt_iff hb ha
  constructor
  · intro h
    rw [h] at hab hba
    have hnot := lt_irrefl b.isoformat
    have hreading : localMicros a = localMicros b := by
      by_contra hne
      rcases lt_or_gt_of_ne hne with hlt | hgt
      · exact hnot (hab.mpr (Or.inl hlt))
      · exact hnot (hba.mpr (Or.inl hgt))
    refine ⟨hreading, ?_⟩
    rcases lt_trichotomy (offsetText a.offset) (offsetText b.offset) with hlt | heq | hgt
    · exact absurd (hab.mpr (Or.inr ⟨hreading, hlt⟩)) hnot
    · exact heq
    · exact absurd (hba.mpr (Or.inr ⟨hreading.symm, hgt⟩)) hnot
  · rintro ⟨hreading, hoffset⟩
    refine le_antisymm (not_lt.mp ?_) (not_lt.mp ?_)
    · rw [hba, hreading, hoffset]
      simp
    · rw [hab, hreading, hoffset]
      simp

/-- Offsets below one day have different texts. -/
theorem offsetText_inj {o p : Int} (ho : -86400 < o ∧ o < 86400) (hp : -86400 < p ∧ p < 86400)
    (h : offsetText o = offsetText p) : o = p := by
  have htext : ∀ offset : Int, -86400 < offset ∧ offset < 86400 → (offsetText offset).toList =
      (if offset < 0 then '-' else '+') :: (fixedDigits 2 (offset.natAbs / 3600) ++ ':' ::
        (fixedDigits 2 (offset.natAbs / 60 % 60) ++
          (if offset.natAbs % 60 = 0 then [] else ':' :: fixedDigits 2 (offset.natAbs % 60)))) := by
    intro offset hbound
    have hcolon : ":".toList = [':'] := rfl
    unfold offsetText
    dsimp only
    simp only [String.toList_append, hcolon]
    rw [toList_padded (by decide) (by omega), toList_padded (by decide) (by omega)]
    have hsign : (if offset < 0 then "-" else "+" : String).toList =
        [if offset < 0 then '-' else '+'] := by
      split <;> rfl
    have hseconds : (if offset.natAbs % 60 = 0 then ""
        else ":" ++ padded 2 (offset.natAbs % 60)).toList =
        if offset.natAbs % 60 = 0 then [] else ':' :: fixedDigits 2 (offset.natAbs % 60) := by
      split
      · rfl
      · rw [String.toList_append, toList_padded (by decide) (by omega)]
        rfl
    rw [hsign, hseconds]
    simp only [List.append_assoc, List.cons_append, List.nil_append]
  have hlist := congrArg String.toList h
  rw [htext o ho, htext p hp, List.cons.injEq, fixedDigits_append_inj (by omega) (by omega),
    List.cons.injEq, fixedDigits_append_inj (by omega) (by omega)] at hlist
  obtain ⟨hsign, hhours, -, hminutes, hseconds⟩ := hlist
  have hneg : o < 0 ↔ p < 0 := by
    by_cases ho' : o < 0
    · by_cases hp' : p < 0
      · exact iff_of_true ho' hp'
      · rw [if_pos ho', if_neg hp'] at hsign
        cases hsign
    · by_cases hp' : p < 0
      · rw [if_neg ho', if_pos hp'] at hsign
        cases hsign
      · exact iff_of_false ho' hp'
  have hrest : o.natAbs % 60 = p.natAbs % 60 := by
    split at hseconds
    · split at hseconds
      · omega
      · cases hseconds
    · split at hseconds
      · cases hseconds
      · exact (fixedDigits_inj (by omega) (by omega)).mp (List.cons.inj hseconds).2
  omega

end TaModel.Contracts.AwareDatetime
