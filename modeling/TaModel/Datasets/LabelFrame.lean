import TaModel.Contracts.CanonicalJson
import TaModel.Datasets.BuilderRows

/-!
# What one label observation reaches

Two runs of the dataset builder whose observations differ in the value of one of them. The lookup by
key finds the same observation in both, or the changed one in both; only the rows labelled at its
instant can differ.
-/

set_option autoImplicit false

namespace TaModel.Datasets

open Contracts Library

section Runs

variable [Sha256]

/-- The same observation, or `o` before and after its value changed. -/
def Relabelled (o : LabelObservation) (value : Decimal) (a b : LabelObservation) : Prop :=
  a = b ∨ (a = o ∧ b = o.withValue value)

theorem Relabelled.key_eq {o a b : LabelObservation} {value : Decimal}
    (h : Relabelled o value a b) : observationKey a = observationKey b ∧ a.eventTs = b.eventTs := by
  rcases h with rfl | ⟨rfl, rfl⟩
  · exact ⟨rfl, rfl⟩
  · exact ⟨rfl, rfl⟩

theorem forall₂_relabelled (before after : List LabelObservation) (o : LabelObservation)
    (value : Decimal) :
    List.Forall₂ (Relabelled o value) (before ++ o :: after)
      (before ++ o.withValue value :: after) := by
  induction before with
  | nil => exact .cons (.inr ⟨rfl, rfl⟩) (List.forall₂_same.mpr fun _ _ => .inl rfl)
  | cons first before ih => exact .cons (.inl rfl) ih

section Lookup

variable {o : LabelObservation} {value : Decimal} {as bs : List LabelObservation}

/-- The checks read keys and instants, not values. -/
theorem validateObservations_congr (h : List.Forall₂ (Relabelled o value) as bs) :
    validateObservations as = validateObservations bs := by
  have hloop : ∀ (seen : List (String × String × Int)) (previous : Option AwareDatetime),
      validateObservationsFrom seen previous as = validateObservationsFrom seen previous bs := by
    induction h with
    | nil => exact fun _ _ => rfl
    | cons hab _ ih =>
        intro seen previous
        obtain ⟨hkey, hts⟩ := hab.key_eq
        rw [validateObservationsFrom, validateObservationsFrom, hkey, hts, ih]
  have hnil : as = [] ↔ bs = [] := by
    cases h with
    | nil => exact Iff.rfl
    | cons _ _ => exact iff_of_false (List.cons_ne_nil _ _) (List.cons_ne_nil _ _)
  simp only [validateObservations, ne_eq, hnil, hloop]

/-- The lookup finds related observations in both lists. -/
theorem observationByKey_relabelled (h : List.Forall₂ (Relabelled o value) as bs)
    {key : String × String × Int} {a : LabelObservation}
    (ha : observationByKey as key = some a) :
    ∃ b, observationByKey bs key = some b ∧ Relabelled o value a b := by
  have hfind : ∀ {xs ys : List LabelObservation}, List.Forall₂ (Relabelled o value) xs ys →
      (xs.find? fun observation => decide (observationKey observation = key)) = some a →
      ∃ b, (ys.find? fun observation => decide (observationKey observation = key)) = some b ∧
        Relabelled o value a b := by
    intro xs ys hxy hfound
    induction hxy with
    | nil => cases hfound
    | @cons x y xs ys hab _ ih =>
        rw [List.find?_cons] at hfound ⊢
        rw [← hab.key_eq.1]
        by_cases hkey : observationKey x = key
        · simp only [hkey, decide_true] at hfound ⊢
          cases hfound
          exact ⟨y, rfl, hab⟩
        · simp only [hkey, decide_false] at hfound ⊢
          exact ih hfound
  exact hfind (List.forall₂_reverse_iff.mpr h) ha

end Lookup

/-! ## Two runs -/

/-- Two rows of one vector: the same features and the same split, and the same row altogether when
the label is not observed at `t`. -/
structure AgreesUnlessAt (t : AwareDatetime) (row row' : DatasetRow) : Prop where
  featureVectorId : row'.featureVectorId = row.featureVectorId
  instrument : row'.instrumentId = row.instrumentId
  venue : row'.venueId = row.venueId
  featureTs : row'.featureTs = row.featureTs
  version : row'.featureVersion = row.featureVersion
  values : row'.featureValues = row.featureValues
  snapshot : row'.featureInputSnapshotId = row.featureInputSnapshotId
  split : row'.split = row.split
  elsewhere : row.labelTs.utc ≠ t.utc → row' = row

/-- The rows of one vector in the two runs. -/
theorem agreesUnlessAt_of_buildRow {as bs : List LabelObservation} {o : LabelObservation}
    {value : Decimal} (h : List.Forall₂ (Relabelled o value) as bs)
    {windows : List ChronologicalSplitWindow} {rule : LabelRule} {sources : List CanonicalId}
    {vector : FeatureVector} {row row' : DatasetRow}
    (hrow : buildRow as windows rule sources vector = .ok row)
    (hrow' : buildRow bs windows rule sources vector = .ok row') :
    AgreesUnlessAt o.eventTs row row' := by
  obtain ⟨split, a, label, hsplit, hfound, -, hlabel, hmade⟩ :=
    (buildRow_eq_ok_iff _ _ _ _ _ _).mp hrow
  obtain ⟨split', b, label', hsplit', hfound', -, hlabel', hmade'⟩ :=
    (buildRow_eq_ok_iff _ _ _ _ _ _).mp hrow'
  obtain ⟨c, hc, hrelabelled⟩ := observationByKey_relabelled h hfound
  cases hfound'.symm.trans hc
  cases hsplit.symm.trans hsplit'
  obtain ⟨hfeatures, hrowSplit, -, hlabelTs, -⟩ := rowFromFeatureVector_eq_ok hmade
  obtain ⟨hfeatures', hrowSplit', -⟩ := rowFromFeatureVector_eq_ok hmade'
  refine ⟨hfeatures'.featureVectorId.trans hfeatures.featureVectorId.symm,
    hfeatures'.instrument.trans hfeatures.instrument.symm,
    hfeatures'.venue.trans hfeatures.venue.symm,
    hfeatures'.featureTs.trans hfeatures.featureTs.symm,
    hfeatures'.version.trans hfeatures.version.symm,
    hfeatures'.values.trans hfeatures.values.symm,
    hfeatures'.snapshot.trans hfeatures.snapshot.symm, hrowSplit'.trans hrowSplit.symm, ?_⟩
  intro hne
  rcases hrelabelled with rfl | ⟨rfl, -⟩
  · cases hlabel.symm.trans hlabel'
    exact Except.ok.inj (hmade'.symm.trans hmade)
  · exact absurd (congrArg _ hlabelTs) hne

variable [StrLower]

/-- Another value of an observation leaves the checks passed. -/
theorem InputsPass.relabel {vectors : List FeatureVector} {as bs : List LabelObservation}
    {windows : List ChronologicalSplitWindow} {rule : LabelRule} {o : LabelObservation}
    {value : Decimal} (h : InputsPass vectors as windows rule)
    (hrelabelled : List.Forall₂ (Relabelled o value) as bs) : InputsPass vectors bs windows rule where
  vectors_valid := h.vectors_valid
  observations_valid := (validateObservations_congr hrelabelled).symm.trans h.observations_valid
  windows_valid := h.windows_valid
  no_leakage := h.no_leakage
  in_windows := h.in_windows
  closes := h.closes
  texts_in_form := h.texts_in_form
  labels_present := by
    intro vector hvector
    obtain ⟨a, ha, hkey⟩ := h.labels_present vector hvector
    obtain ⟨b, hb, hab⟩ := exists_of_mem_right
      (List.Forall₂.flip (R := fun b a => Relabelled o value a b) hrelabelled) ha
    exact ⟨b, hb, hab.key_eq.1.symm.trans hkey⟩

/-- The builder is correct on inputs that pass its checks and have their labels. It returns a
snapshot exactly when the returns stay in the exponent range; the snapshot has the row of every vector
in order; and another value of one observation changes only rows labelled at its instant, and of those
only the label. -/
theorem dataset_builder_correct {vectors : List FeatureVector}
    {observations : List LabelObservation} {windows : List ChronologicalSplitWindow}
    {rule : LabelRule} (h : InputsPass vectors observations windows rule)
    (sources : List CanonicalId) :
    ((∃ snapshot, buildChronologicalDatasetSnapshot vectors observations windows rule sources =
        .ok snapshot) ↔ ReturnsInRange vectors observations rule) ∧
      ∀ snapshot,
        buildChronologicalDatasetSnapshot vectors observations windows rule sources =
          .ok snapshot →
        List.Forall₂ (RowOf observations windows rule) vectors snapshot.rows ∧
        ∀ (before after : List LabelObservation) (o : LabelObservation) (value : Decimal),
          observations = before ++ o :: after →
          ((∃ snapshot', buildChronologicalDatasetSnapshot vectors
              (before ++ o.withValue value :: after) windows rule sources = .ok snapshot') ↔
            ReturnsInRange vectors (before ++ o.withValue value :: after) rule) ∧
          ∀ snapshot', buildChronologicalDatasetSnapshot vectors
              (before ++ o.withValue value :: after) windows rule sources = .ok snapshot' →
            List.Forall₂ (AgreesUnlessAt o.eventTs) snapshot.rows snapshot'.rows := by
  refine ⟨h.exists_snapshot_iff sources, fun snapshot hbuild => ?_⟩
  obtain ⟨rows, hrows, rfl⟩ := (h.build_eq_ok_iff sources snapshot).mp hbuild
  refine ⟨hrows.imp fun vector row hrow => rowOf_of_buildRow h.inOrder hrow, ?_⟩
  rintro before after o value rfl
  have hrelabelled := forall₂_relabelled before after o value
  have h' := h.relabel hrelabelled
  refine ⟨h'.exists_snapshot_iff sources, fun snapshot' hbuild' => ?_⟩
  obtain ⟨rows', hrows', rfl⟩ := (h'.build_eq_ok_iff sources snapshot').mp hbuild'
  exact forall₂_of_common hrows hrows' fun vector _ row row' hrow hrow' =>
    agreesUnlessAt_of_buildRow hrelabelled hrow hrow'

section Sample

omit [Sha256] [StrLower] in
def closeValues (close : Decimal) : StringDict FeatureValue :=
  ⟨[("close", some close)], List.nodup_singleton _⟩

/-- The vector of a market at the given second. -/
def closeVector (seconds : Nat) (close : Decimal) : FeatureVector where
  featureVectorId := buildFeatureVectorId "BTC-USD" "COINBASE" ⟨seconds * 1000000, 0⟩ "v1" "1m"
    (closeValues close) "INPUT" []
  instrumentId := "BTC-USD"
  venueId := "COINBASE"
  featureTs := ⟨seconds * 1000000, 0⟩
  featureVersion := "v1"
  lookbackWindow := "1m"
  values := closeValues close
  inputSnapshotId := "INPUT"
  qualityFlags := []
  values_nonempty := List.cons_ne_nil _ _
  id_is_deterministic := rfl

/-- The price at the given second. -/
def closeObservation (seconds : Nat) (value : Decimal) : LabelObservation where
  observationId := buildLabelObservationId "BTC-USD" "COINBASE" ⟨seconds * 1000000, 0⟩ value
    "LINEAGE"
  instrumentId := "BTC-USD"
  venueId := "COINBASE"
  eventTs := ⟨seconds * 1000000, 0⟩
  value := value
  sourceLineageId := "LINEAGE"
  id_is_deterministic := rfl

def returnRule : LabelRule where
  labelRuleId := buildLabelRuleId "return" 1 .futureReturn
  name := "return"
  horizonSeconds := 1
  method := .futureReturn
  horizon_pos := Nat.one_pos
  id_is_deterministic := rfl

omit [Sha256] [StrLower] in
/-- Train, validation and test windows of ten seconds each. -/
def tenSecondWindows : List ChronologicalSplitWindow :=
  [⟨.train, ⟨0, 0⟩, ⟨10000000, 0⟩, by decide⟩,
    ⟨.validation, ⟨10000000, 0⟩, ⟨20000000, 0⟩, by decide⟩,
    ⟨.test, ⟨20000000, 0⟩, ⟨30000000, 0⟩, by decide⟩]

/-- A train vector and a validation vector. -/
def closeVectors (first second : Decimal) : List FeatureVector :=
  [closeVector 0 first, closeVector 10 second]

/-- Their labels, and an observation that labels neither. -/
def closeObservations (first second : Decimal) : List LabelObservation :=
  [closeObservation 1 first, closeObservation 5 9, closeObservation 11 second]

omit [Sha256] [StrLower] in
theorem v1_nonempty : isNonEmptyString "v1" = true := by decide

omit [StrLower] in
theorem closeVector_textsInForm (seconds : Nat) (close : Decimal) :
    (closeVector seconds close).TextsInForm := by
  have hids : isCanonicalId "BTC-USD" = true ∧ isCanonicalId "COINBASE" = true ∧
      isCanonicalId "INPUT" = true := by decide
  exact ⟨hids.1, hids.2.1, hids.2.2, v1_nonempty⟩

/-- These inputs pass the checks. -/
theorem inputsPass_close (close close' value value' : Decimal) (hclose : close ≠ 0) (hclose' : close' ≠ 0)
    (hids : (closeVector 10 close').featureVectorId ≠ (closeVector 0 close).featureVectorId)
    (hlower : StrLower.lower "close" ∉
      ["label", StrLower.lower "return", "label_" ++ StrLower.lower "return"]) :
    InputsPass (closeVectors close close') (closeObservations value value') tenSecondWindows
      returnRule where
  vectors_valid := by
    simp only [validateVectors, closeVectors, validateVectorsFrom, check_bind_eq_ok_iff,
      require_eq_ok_iff]
    refine ⟨require_of (List.cons_ne_nil _ _) _, List.not_mem_nil, ?_, ?_, ?_, trivial⟩
    · intro _ hnone
      cases hnone
    · rwa [List.mem_singleton]
    · rintro t ⟨⟩
      simp [AwareDatetime.lt_def, closeVector]
  observations_valid := rfl
  windows_valid := rfl
  no_leakage := by
    refine (forM_eq_ok_iff _ _).mpr fun vector hvector => require_of (fun entry hentry => ?_) _
    have hentries : vector.values.entries.map Prod.fst = ["close"] := by
      rcases List.mem_cons.mp hvector with rfl | hvector
      · rfl
      · rw [List.mem_singleton.mp hvector]
        rfl
    have hname : entry.1 ∈ vector.values.entries.map Prod.fst := List.mem_map_of_mem hentry
    rw [hentries, List.mem_singleton] at hname
    rw [hname]
    exact hlower
  in_windows := by
    intro vector hvector
    rcases List.mem_cons.mp hvector with rfl | hvector
    · exact ⟨.train, rfl⟩
    · rw [List.mem_singleton.mp hvector]
      exact ⟨.validation, rfl⟩
  closes := by
    intro _ vector hvector
    rcases List.mem_cons.mp hvector with rfl | hvector
    · exact ⟨close, rfl, hclose⟩
    · rw [List.mem_singleton.mp hvector]
      exact ⟨close', rfl, hclose'⟩
  texts_in_form := by
    intro vector hvector
    rcases List.mem_cons.mp hvector with rfl | hvector
    · exact closeVector_textsInForm 0 close
    · rw [List.mem_singleton.mp hvector]
      exact closeVector_textsInForm 10 close'
  labels_present := by
    intro vector hvector
    rcases List.mem_cons.mp hvector with rfl | hvector
    · refine ⟨closeObservation 1 value, List.mem_cons_self, ?_⟩
      simp [observationKey, labelKey, LabelRule.labelTs, closeObservation, closeVector, returnRule]
    · rw [List.mem_singleton.mp hvector]
      refine ⟨closeObservation 11 value', by simp [closeObservations], ?_⟩
      simp [observationKey, labelKey, LabelRule.labelTs, closeObservation, closeVector, returnRule]

omit [StrLower] in
/-- Small differences over closes from one on stay in range. -/
theorem returnInRange_of_small {seconds : Nat} {close : Decimal} (hclose : 1 ≤ close)
    {o : LabelObservation} (hsmall : |o.value - close| ≤ 10 ^ (1 : ℤ)) :
    ReturnInRange returnRule (closeVector seconds close) o := by
  rintro - found hfound
  cases hfound
  have hten : (10 : ℚ) ^ (1 : ℤ) ≤ 10 ^ maxExponent := ten_zpow_le (by decide)
  refine ⟨inRange_of_abs_le (hsmall.trans hten), inRange_of_abs_le (le_trans ?_ hten)⟩
  rw [abs_div, abs_of_pos (lt_of_lt_of_le one_pos hclose)]
  exact (div_le_self (abs_nonneg _) hclose).trans (abs_contextRounded_le (by decide) hsmall)

omit [StrLower] in
theorem returnsInRange_close (close close' value value' : Decimal) (hclose : 1 ≤ close)
    (hclose' : 1 ≤ close') (hsmall : ∀ o ∈ closeObservations value value',
      |o.value - close| ≤ 10 ^ (1 : ℤ) ∧ |o.value - close'| ≤ 10 ^ (1 : ℤ)) :
    ReturnsInRange (closeVectors close close') (closeObservations value value') returnRule := by
  rintro vector hvector o ho -
  rcases List.mem_cons.mp hvector with rfl | hvector
  · exact returnInRange_of_small hclose (hsmall o ho).1
  · rw [List.mem_singleton.mp hvector]
    exact returnInRange_of_small hclose' (hsmall o ho).2

/-- The builder on the sample inputs. -/
def buildCloses (close close' value value' : Decimal) : Raises DatasetSnapshot :=
  buildChronologicalDatasetSnapshot (closeVectors close close') (closeObservations value value')
    tenSecondWindows returnRule []

end Sample

end Runs

/-- Two vectors and three observations, and the run after the second label has changed. -/
theorem dataset_builder_correct_on_close : ∃ snapshot changed,
    @buildCloses hashlibSha256 ⟨String.toLower⟩ 2 4 3 5 = .ok snapshot ∧
    @buildCloses hashlibSha256 ⟨String.toLower⟩ 2 4 3 6 = .ok changed ∧
    List.Forall₂ (@RowOf hashlibSha256 (@closeObservations hashlibSha256 3 5) tenSecondWindows
      (@returnRule hashlibSha256)) (@closeVectors hashlibSha256 2 4)
      (@DatasetSnapshot.rows hashlibSha256 snapshot) ∧
    List.Forall₂ (@AgreesUnlessAt hashlibSha256 ⟨11000000, 0⟩)
      (@DatasetSnapshot.rows hashlibSha256 snapshot)
      (@DatasetSnapshot.rows hashlibSha256 changed) := by
  let _ := hashlibSha256
  let _ : StrLower := ⟨String.toLower⟩
  have hpass := inputsPass_close 2 4 3 5 two_ne_zero four_ne_zero (by decide +kernel)
    (by decide +kernel)
  obtain ⟨hreturns, hcorrect⟩ := dataset_builder_correct hpass []
  obtain ⟨snapshot, hbuild⟩ := hreturns.mpr (returnsInRange_close 2 4 3 5 (by norm_num) (by norm_num)
    (by norm_num [closeObservations, closeObservation]))
  obtain ⟨hrows, hchanged⟩ := hcorrect snapshot hbuild
  obtain ⟨hreturns', hagrees⟩ :=
    hchanged [closeObservation 1 3, closeObservation 5 9] [] (closeObservation 11 5) 6 rfl
  obtain ⟨changed, hbuild'⟩ := hreturns'.mpr (returnsInRange_close 2 4 3 6 (by norm_num)
    (by norm_num) (by norm_num [closeObservations, closeObservation]))
  exact ⟨snapshot, changed, hbuild, hbuild', hrows, hagrees changed hbuild'⟩

/-! ## A return out of range -/

/-- The largest power of ten of the context. -/
def hugeValue : Decimal := 10 ^ maxExponent

/-- `1E-10`. -/
def tinyClose : Decimal := 1 / 10000000000

theorem return_overflows : ¬ InRange (contextRounded (hugeValue - tinyClose) / tinyClose) := by
  have hpower : hugeValue = 10 * 10 ^ (maxExponent - 1) := by
    rw [hugeValue, ← zpow_one_add₀ (by norm_num)]
    congr 1
  have hone : (1 : ℚ) ≤ 10 ^ (maxExponent - 1) := by
    rw [← zpow_zero (10 : ℚ)]
    exact ten_zpow_le (by decide)
  have hlow : (10 : ℚ) ^ (maxExponent - 1) ≤ contextRounded (hugeValue - tinyClose) := by
    rw [← contextRounded_zpow (k := maxExponent - 1) (by decide)]
    apply contextRounded_mono
    rw [hpower, tinyClose]
    linarith
  apply not_inRange_of_le (k := maxExponent - 1 + 10) (by decide)
  calc (10 : ℚ) ^ (maxExponent - 1 + 10) = 10 ^ (maxExponent - 1) / tinyClose := by
        rw [zpow_add₀ (by norm_num), tinyClose, div_div_eq_mul_div, div_one]
        norm_num
    _ ≤ contextRounded (hugeValue - tinyClose) / tinyClose :=
        div_le_div_of_nonneg_right hlow (by norm_num [tinyClose])

/-- Inputs that pass every check and have every label, and no snapshot: the first return
overflows. -/
theorem dataset_builder_overflows :
    @InputsPass hashlibSha256 ⟨String.toLower⟩ (@closeVectors hashlibSha256 tinyClose 4)
        (@closeObservations hashlibSha256 hugeValue 5) tenSecondWindows
        (@returnRule hashlibSha256) ∧
      ¬ ∃ snapshot,
        @buildCloses hashlibSha256 ⟨String.toLower⟩ tinyClose 4 hugeValue 5 = .ok snapshot := by
  let _ := hashlibSha256
  let _ : StrLower := ⟨String.toLower⟩
  have hpass := inputsPass_close tinyClose 4 hugeValue 5 (by norm_num [tinyClose]) four_ne_zero
    (by decide +kernel) (by decide +kernel)
  refine ⟨hpass, fun hbuild => ?_⟩
  have hrange := (hpass.exists_snapshot_iff []).mp hbuild
  have hlabel := hrange (closeVector 0 tinyClose) List.mem_cons_self
    (closeObservation 1 hugeValue) List.mem_cons_self
    (by simp [observationKey, labelKey, LabelRule.labelTs, closeObservation, closeVector,
      returnRule])
  exact return_overflows (hlabel rfl tinyClose rfl).2

end TaModel.Datasets
