import TaModel.Datasets.Snapshots
import TaModel.Contracts.CanonicalJson
import TaModel.Library.StateFold

/-!
# What the dataset builder returns

On inputs that pass its own checks and have every label, the builder returns a snapshot exactly when
the returns stay in the exponent range of the decimal context. The contract accepts that snapshot, and
it has one row for every vector. A row takes its features from the vector, its split from the one
window around `feature_ts` and its label from the observation one horizon later; so another value of
one observation reaches only the rows labelled by it.
-/

set_option autoImplicit false

namespace TaModel.Datasets

open Contracts Library

/-! ## Windows -/

/-- Windows in time order, none before the end of an earlier one. -/
def InOrder (windows : List ChronologicalSplitWindow) : Prop :=
  windows.Pairwise fun window later => window.endTs ≤ later.startTs

theorem validateWindowsFrom_eq_ok_iff (previous : Option AwareDatetime)
    (windows : List ChronologicalSplitWindow) :
    validateWindowsFrom previous windows = .ok () ↔
      InOrder windows ∧ ∀ t ∈ previous, ∀ window ∈ windows, t ≤ window.startTs := by
  induction windows generalizing previous with
  | nil => simp [validateWindowsFrom, InOrder]
  | cons window windows ih =>
      rw [validateWindowsFrom, check_bind_eq_ok_iff, require_eq_ok_iff, ih]
      constructor
      · rintro ⟨hprevious, horder, hlater⟩
        refine ⟨List.pairwise_cons.mpr ⟨hlater _ rfl, horder⟩, fun t ht => ?_⟩
        refine List.forall_mem_cons.mpr ⟨hprevious t ht, fun later hmem => ?_⟩
        exact le_trans (hprevious t ht) (le_trans window.forward.le (hlater _ rfl later hmem))
      · rintro ⟨horder, hprevious⟩
        obtain ⟨hlater, hrest⟩ := List.pairwise_cons.mp horder
        refine ⟨fun t ht => hprevious t ht window List.mem_cons_self, hrest, ?_⟩
        rintro t ⟨⟩ later hmem
        exact hlater later hmem

/-- The first window around an instant is the only one. -/
theorem matchingWindows_eq_toList {windows : List ChronologicalSplitWindow} (h : InOrder windows)
    (t : AwareDatetime) :
    DatasetSnapshot.matchingWindows windows t =
      (windows.find? fun window => window.contains t).toList := by
  induction windows with
  | nil => rfl
  | cons window windows ih =>
      obtain ⟨hlater, hrest⟩ := List.pairwise_cons.mp h
      by_cases hin : window.contains t = true
      · have hnone : windows.filter (fun later => later.contains t) = [] := by
          rw [List.filter_eq_nil_iff]
          intro later hmem hcontains
          simp only [ChronologicalSplitWindow.contains, Bool.and_eq_true, decide_eq_true_eq]
            at hin hcontains
          exact absurd (lt_of_lt_of_le hin.2 (hlater later hmem))
            ((AwareDatetime.not_lt_iff _ _).mpr hcontains.1)
        rw [DatasetSnapshot.matchingWindows, List.filter_cons, if_pos hin, hnone, List.find?_cons,
          hin]
        rfl
      · rw [DatasetSnapshot.matchingWindows, List.filter_cons, if_neg hin, List.find?_cons,
          Bool.eq_false_iff.mpr hin]
        exact ih hrest

section Rows

variable [Sha256]

/-! ## One row -/

/-- The row of a vector: what `buildRow` computes, stage by stage. -/
theorem buildRow_eq_ok_iff (observations : List LabelObservation)
    (windows : List ChronologicalSplitWindow) (rule : LabelRule) (sources : List CanonicalId)
    (vector : FeatureVector) (row : DatasetRow) :
    buildRow observations windows rule sources vector = .ok row ↔
      ∃ split o value, splitForFeatureTs vector windows = .ok split ∧
        observationByKey observations (vector.instrumentId, vector.venueId,
          (rule.labelTs vector.featureTs).utc) = some o ∧
        vector.featureTs < o.eventTs ∧ computeLabelValue vector o rule = .ok value ∧
        rowFromFeatureVector vector split rule value o.eventTs o.observationId sources =
          .ok row := by
  rw [buildRow, bind_eq_ok_iff]
  constructor
  · rintro ⟨split, hsplit, h⟩
    cases hfound : observationByKey observations (vector.instrumentId, vector.venueId,
        (rule.labelTs vector.featureTs).utc) with
    | none =>
        simp only [hfound] at h
        cases h
    | some o =>
        simp only [hfound] at h
        obtain ⟨hafter, h⟩ := (check_bind_eq_ok_iff _ _ _).mp h
        obtain ⟨value, hvalue, h⟩ := (bind_eq_ok_iff _ _ _).mp h
        rw [require_eq_ok_iff] at hafter
        exact ⟨split, o, value, hsplit, rfl, hafter, hvalue, h⟩
  · rintro ⟨split, o, value, hsplit, hfound, hafter, hvalue, hrow⟩
    refine ⟨split, hsplit, ?_⟩
    simp only [hfound]
    rw [require_of hafter, ok_bind, hvalue, ok_bind, hrow]

/-- The label of a vector and its observation. -/
def LabelOf (rule : LabelRule) (vector : FeatureVector) (o : LabelObservation) (value : Decimal) :
    Prop :=
  match rule.method with
  | .futureValue => value = o.value
  | .futureReturn => ∃ close, vector.values.get "close" = some (some close) ∧ close ≠ 0 ∧
      InRange (o.value - close) ∧ InRange (contextRounded (o.value - close) / close) ∧
      value = contextRounded (contextRounded (o.value - close) / close)

theorem computeLabelValue_eq_ok_iff (vector : FeatureVector) (o : LabelObservation)
    (rule : LabelRule) (value : Decimal) :
    computeLabelValue vector o rule = .ok value ↔ LabelOf rule vector o value := by
  cases hmethod : rule.method with
  | futureValue => simp only [computeLabelValue, LabelOf, hmethod, Except.ok.injEq, eq_comm]
  | futureReturn =>
      simp only [computeLabelValue, LabelOf, hmethod]
      cases hclose : vector.values.get "close" with
      | none => simp
      | some entry =>
          cases entry with
          | none => simp
          | some close =>
              by_cases hzero : close = 0
              · simp [hzero]
              · simp [hzero, bind_eq_ok_iff, finalized_eq_ok_iff]

/-- A row keeps the features of its vector. -/
structure KeepsFeatures (vector : FeatureVector) (row : DatasetRow) : Prop where
  featureVectorId : row.featureVectorId = vector.featureVectorId
  instrument : row.instrumentId = vector.instrumentId
  venue : row.venueId = vector.venueId
  featureTs : row.featureTs = vector.featureTs
  version : row.featureVersion = vector.featureVersion
  values : row.featureValues = vector.values
  snapshot : row.featureInputSnapshotId = vector.inputSnapshotId

/-- The row that belongs to a vector: its features, the split of the only window around
`feature_ts` and the label observed one horizon later. -/
structure RowOf (observations : List LabelObservation) (windows : List ChronologicalSplitWindow)
    (rule : LabelRule) (vector : FeatureVector) (row : DatasetRow) : Prop where
  features : KeepsFeatures vector row
  window : ∃ window ∈ windows, window.split = row.split ∧
    ∀ other ∈ windows, other.contains vector.featureTs = true ↔ other = window
  label : ∃ o ∈ observations, o.instrumentId = vector.instrumentId ∧ o.venueId = vector.venueId ∧
    o.eventTs.utc = vector.featureTs.utc + rule.horizonSeconds * 1000000 ∧
    row.labelTs = o.eventTs ∧ row.labelObservationId = o.observationId ∧
    LabelOf rule vector o row.labelValue

theorem rowFromFeatureVector_eq_ok {vector : FeatureVector} {split : DatasetSplit}
    {rule : LabelRule} {value : Decimal} {labelTs : AwareDatetime} {observationId : String}
    {sources : List CanonicalId} {row : DatasetRow}
    (h : rowFromFeatureVector vector split rule value labelTs observationId sources = .ok row) :
    KeepsFeatures vector row ∧ row.split = split ∧ row.labelValue = value ∧
      row.labelTs = labelTs ∧ row.labelObservationId = observationId := by
  rw [rowFromFeatureVector] at h
  split_ifs at h
  cases h
  exact ⟨⟨rfl, rfl, rfl, rfl, rfl, rfl, rfl⟩, rfl, rfl, rfl, rfl⟩

theorem observationByKey_eq_some {observations : List LabelObservation}
    {key : String × String × Int} {o : LabelObservation}
    (h : observationByKey observations key = some o) : o ∈ observations ∧ observationKey o = key := by
  refine ⟨?_, ?_⟩
  · exact List.mem_reverse.mp (List.mem_of_find?_eq_some h)
  · have hfound := List.find?_some h
    simpa using hfound

theorem splitForFeatureTs_eq_ok {vector : FeatureVector}
    {windows : List ChronologicalSplitWindow} {split : DatasetSplit} (horder : InOrder windows)
    (h : splitForFeatureTs vector windows = .ok split) :
    ∃ window, DatasetSnapshot.matchingWindows windows vector.featureTs = [window] ∧
      window.split = split := by
  rw [matchingWindows_eq_toList horder]
  rw [splitForFeatureTs] at h
  cases hfound : windows.find? fun window => window.contains vector.featureTs with
  | none =>
      simp only [hfound] at h
      cases h
  | some window =>
      simp only [hfound] at h
      exact ⟨window, rfl, Except.ok.inj h⟩

/-- The rows the builder makes are the rows that belong to their vectors. -/
theorem rowOf_of_buildRow {observations : List LabelObservation}
    {windows : List ChronologicalSplitWindow} {rule : LabelRule} {sources : List CanonicalId}
    {vector : FeatureVector} {row : DatasetRow} (horder : InOrder windows)
    (h : buildRow observations windows rule sources vector = .ok row) :
    RowOf observations windows rule vector row := by
  obtain ⟨split, o, value, hsplit, hfound, -, hvalue, hrow⟩ :=
    (buildRow_eq_ok_iff _ _ _ _ _ _).mp h
  obtain ⟨hfeatures, rfl, rfl, hlabelTs, hobservation⟩ := rowFromFeatureVector_eq_ok hrow
  obtain ⟨hmem, hkey⟩ := observationByKey_eq_some hfound
  obtain ⟨window, hmatching, hwindow⟩ := splitForFeatureTs_eq_ok horder hsplit
  simp only [observationKey, Prod.mk.injEq] at hkey
  refine ⟨hfeatures, ?_, o, hmem, hkey.1, hkey.2.1, hkey.2.2, hlabelTs, hobservation,
    (computeLabelValue_eq_ok_iff _ _ _ _).mp hvalue⟩
  have hwindows : ∀ other, (other ∈ windows ∧ other.contains vector.featureTs = true) ↔
      other = window := by
    intro other
    rw [← List.mem_filter (p := fun window : ChronologicalSplitWindow => window.contains vector.featureTs)]
    exact (Eq.to_iff (congrArg (other ∈ ·) hmatching)).trans List.mem_singleton
  refine ⟨window, ((hwindows window).mpr rfl).1, hwindow, fun other hother => ?_⟩
  exact ⟨fun hcontains => (hwindows other).mp ⟨hother, hcontains⟩,
    fun heq => ((hwindows other).mpr heq).2⟩

/-! ## The snapshot -/

/-- The contract accepts the snapshot of rows that have the split of their window. -/
theorem validate_snapshotOfRows {rows : List DatasetRow} {windows : List ChronologicalSplitWindow}
    (rule : LabelRule) (sources : List CanonicalId)
    (hrows : ∀ row ∈ rows, ∃ window,
      DatasetSnapshot.matchingWindows windows row.featureTs = [window] ∧
        row.split = window.split) :
    (snapshotOfRows rows windows rule sources).validate = .ok () := by
  have hloop : rows.forM (DatasetSnapshot.validateRow windows) = .ok () := by
    rw [forM_eq_ok_iff]
    intro row hrow
    obtain ⟨window, hmatching, hsplit⟩ := hrows row hrow
    simp only [DatasetSnapshot.validateRow, hmatching]
    exact require_of hsplit _
  have hdigest : isHexDigest (snapshotOfRows rows windows rule sources).datasetHash = true :=
    isHexDigest_hash _
  simp only [DatasetSnapshot.validate, check_bind_eq_ok_iff, require_eq_ok_iff]
  exact ⟨hdigest, rfl, rfl, rfl, hloop, fun _ _ => rfl, rfl, rfl⟩

/-! ## Inputs that pass -/

/-- Accepted observations come one after the other. -/
theorem pairwise_of_validateObservations {observations : List LabelObservation}
    (h : validateObservations observations = .ok ()) :
    observations.Pairwise fun o later => o.eventTs < later.eventTs := by
  obtain ⟨-, hloop⟩ := (check_bind_eq_ok_iff _ _ _).mp h
  have hfrom : ∀ (rest : List LabelObservation) (seen : List (String × String × Int))
      (previous : Option AwareDatetime), validateObservationsFrom seen previous rest = .ok () →
      rest.Pairwise (fun o later => o.eventTs < later.eventTs) ∧
        ∀ t ∈ previous, ∀ o ∈ rest, t < o.eventTs := by
    intro rest
    induction rest with
    | nil => exact fun _ _ _ => ⟨.nil, fun _ _ _ ho => absurd ho List.not_mem_nil⟩
    | cons o rest ih =>
        intro seen previous hrun
        simp only [validateObservationsFrom, check_bind_eq_ok_iff, require_eq_ok_iff] at hrun
        obtain ⟨-, hprevious, hrest⟩ := hrun
        obtain ⟨hordered, hlater⟩ := ih _ _ hrest
        refine ⟨List.pairwise_cons.mpr ⟨hlater _ rfl, hordered⟩, fun t ht => ?_⟩
        refine List.forall_mem_cons.mpr ⟨hprevious t ht, fun later hmem => ?_⟩
        exact lt_trans (hprevious t ht) (hlater _ rfl later hmem)
  exact (hfrom _ _ _ hloop).1

/-- So an instant has one observation. -/
theorem observation_unique {observations : List LabelObservation}
    (h : validateObservations observations = .ok ()) {a b : LabelObservation}
    (ha : a ∈ observations) (hb : b ∈ observations) (hutc : a.eventTs.utc = b.eventTs.utc) :
    a = b := by
  have hnodup : (observations.map fun o => o.eventTs.utc).Nodup :=
    List.pairwise_map.mpr ((pairwise_of_validateObservations h).imp fun hlt =>
      ne_of_lt ((AwareDatetime.lt_def _ _).mp hlt))
  exact List.inj_on_of_nodup_map hnodup ha hb hutc

variable [StrLower]

/-- The key under which the label of a vector is observed. -/
def labelKey (rule : LabelRule) (vector : FeatureVector) : String × String × Int :=
  (vector.instrumentId, vector.venueId, (rule.labelTs vector.featureTs).utc)

/-- The inputs pass the builder's own checks, the texts of the vectors have the form of their
contract, and every vector has its label. -/
structure InputsPass (vectors : List FeatureVector) (observations : List LabelObservation)
    (windows : List ChronologicalSplitWindow) (rule : LabelRule) : Prop where
  vectors_valid : validateVectors vectors = .ok ()
  observations_valid : validateObservations observations = .ok ()
  windows_valid : validateSplitWindows windows = .ok ()
  no_leakage : validateNoLabelAsFeatureLeakage vectors rule = .ok ()
  in_windows : ∀ vector ∈ vectors, ∃ split, splitForFeatureTs vector windows = .ok split
  closes : rule.method = .futureReturn → ∀ vector ∈ vectors, ∃ close,
    vector.values.get "close" = some (some close) ∧ close ≠ 0
  texts_in_form : ∀ vector ∈ vectors, vector.TextsInForm
  labels_present : ∀ vector ∈ vectors, ∃ o ∈ observations,
    observationKey o = labelKey rule vector

/-- Both operations of `(value - close) / close` stay in the exponent range. -/
def ReturnInRange (rule : LabelRule) (vector : FeatureVector) (o : LabelObservation) : Prop :=
  rule.method = .futureReturn → ∀ close, vector.values.get "close" = some (some close) →
    InRange (o.value - close) ∧ InRange (contextRounded (o.value - close) / close)

/-- They do for every vector and the observation of its label. -/
def ReturnsInRange (vectors : List FeatureVector) (observations : List LabelObservation)
    (rule : LabelRule) : Prop :=
  ∀ vector ∈ vectors, ∀ o ∈ observations, observationKey o = labelKey rule vector →
    ReturnInRange rule vector o

omit [StrLower] in
/-- A vector with a usable close has a label where its return is in range. -/
theorem exists_label_iff {rule : LabelRule} {vector : FeatureVector} {o : LabelObservation}
    (hclose : rule.method = .futureReturn → ∃ close,
      vector.values.get "close" = some (some close) ∧ close ≠ 0) :
    (∃ value, computeLabelValue vector o rule = .ok value) ↔ ReturnInRange rule vector o := by
  simp only [computeLabelValue_eq_ok_iff, LabelOf, ReturnInRange]
  cases hmethod : rule.method with
  | futureValue => simp
  | futureReturn =>
      obtain ⟨close, hget, hzero⟩ := hclose hmethod
      simp only [hget]
      constructor
      · rintro ⟨value, found, hfound, -, hdifference, hquotient, -⟩ - other hother
        cases hfound
        cases hother
        exact ⟨hdifference, hquotient⟩
      · intro hrange
        obtain ⟨hdifference, hquotient⟩ := hrange trivial close rfl
        exact ⟨_, close, rfl, hzero, hdifference, hquotient, rfl⟩

namespace InputsPass

variable {vectors : List FeatureVector} {observations : List LabelObservation}
variable {windows : List ChronologicalSplitWindow} {rule : LabelRule}

theorem inOrder (h : InputsPass vectors observations windows rule) : InOrder windows := by
  obtain ⟨-, hwindows⟩ := (check_bind_eq_ok_iff _ _ _).mp h.windows_valid
  exact ((validateWindowsFrom_eq_ok_iff _ _).mp hwindows).1

/-- The lookup finds the observation of the key. -/
theorem observationByKey_eq (h : InputsPass vectors observations windows rule)
    {o : LabelObservation} (ho : o ∈ observations) :
    observationByKey observations (observationKey o) = some o := by
  obtain ⟨found, hfound⟩ : ∃ found,
      observationByKey observations (observationKey o) = some found := by
    rw [← Option.isSome_iff_exists, observationByKey, List.find?_isSome]
    exact ⟨o, List.mem_reverse.mpr ho, by simp⟩
  obtain ⟨hmem, hkey⟩ := observationByKey_eq_some hfound
  have hsame : found = o := observation_unique h.observations_valid hmem ho
    (congrArg (fun key => key.2.2) hkey)
  rw [hfound, hsame]

/-- Every vector gets its row, if its return is in range. -/
theorem exists_row_iff (h : InputsPass vectors observations windows rule)
    (sources : List CanonicalId) {vector : FeatureVector} (hvector : vector ∈ vectors) :
    (∃ row, buildRow observations windows rule sources vector = .ok row) ↔
      ∀ o ∈ observations, observationKey o = labelKey rule vector →
        ReturnInRange rule vector o := by
  have hclose := fun hmethod => h.closes hmethod vector hvector
  constructor
  · rintro ⟨row, hrow⟩ o ho hkey
    obtain ⟨-, found, value, -, hfound, -, hvalue, -⟩ := (buildRow_eq_ok_iff _ _ _ _ _ _).mp hrow
    have hlookup := h.observationByKey_eq ho
    rw [hkey] at hlookup
    cases hlookup.symm.trans hfound
    exact (exists_label_iff hclose).mp ⟨value, hvalue⟩
  · intro hrange
    obtain ⟨split, hsplit⟩ := h.in_windows vector hvector
    obtain ⟨o, ho, hkey⟩ := h.labels_present vector hvector
    have hfound := h.observationByKey_eq ho
    rw [hkey] at hfound
    obtain ⟨value, hvalue⟩ := (exists_label_iff hclose).mpr (hrange o ho hkey)
    have hafter : vector.featureTs < o.eventTs := by
      have hutc : o.eventTs.utc = vector.featureTs.utc + rule.horizonSeconds * 1000000 :=
        congrArg (fun key => key.2.2) hkey
      have hpos := rule.horizon_pos
      rw [AwareDatetime.lt_def, hutc]
      omega
    obtain ⟨hinstrument, hvenue, hinput, hversion⟩ := h.texts_in_form vector hvector
    have hids : ∀ id ∈ [vector.featureVectorId, vector.instrumentId, vector.venueId,
        vector.inputSnapshotId, rule.labelRuleId, o.observationId],
        isCanonicalId id = true := by
      simp only [List.forall_mem_cons, List.not_mem_nil, false_implies, implies_true, and_true]
      exact ⟨vector.id_canonical, hinstrument, hvenue, hinput, rule.id_canonical, o.id_canonical⟩
    obtain ⟨row, hrow⟩ : ∃ row, rowFromFeatureVector vector split rule value o.eventTs
        o.observationId sources = .ok row := by
      rw [rowFromFeatureVector, dif_pos hids, dif_pos hversion, dif_pos hafter]
      exact ⟨_, rfl⟩
    exact ⟨row, (buildRow_eq_ok_iff _ _ _ _ _ _).mpr
      ⟨split, o, value, hsplit, hfound, hafter, hvalue, hrow⟩⟩

/-- The builder returns the rows of the vectors where all of them can be built. -/
theorem build_eq_ok_iff (h : InputsPass vectors observations windows rule)
    (sources : List CanonicalId) (snapshot : DatasetSnapshot) :
    buildChronologicalDatasetSnapshot vectors observations windows rule sources = .ok snapshot ↔
      ∃ rows, List.Forall₂ (fun vector row =>
          buildRow observations windows rule sources vector = .ok row) vectors rows ∧
        snapshot = snapshotOfRows rows windows rule sources := by
  rw [buildChronologicalDatasetSnapshot, h.vectors_valid, ok_bind, h.observations_valid, ok_bind,
    h.windows_valid, ok_bind, h.no_leakage, ok_bind, bind_eq_ok_iff]
  constructor
  · rintro ⟨rows, hrows, hreturn⟩
    obtain ⟨-, hsnapshot⟩ := (check_bind_eq_ok_iff _ _ _).mp hreturn
    cases hsnapshot
    exact ⟨rows, (mapM_eq_ok_iff _ _ _).mp hrows, rfl⟩
  · rintro ⟨rows, hrows, rfl⟩
    -- the contract accepts the rows that were built
    have hvalid : (snapshotOfRows rows windows rule sources).validate = .ok () := by
      refine validate_snapshotOfRows rule sources fun row hrow => ?_
      obtain ⟨vector, -, hbuild⟩ := exists_of_mem_right hrows hrow
      obtain ⟨split, o, value, hsplit, -, -, -, hmade⟩ :=
        (buildRow_eq_ok_iff _ _ _ _ _ _).mp hbuild
      obtain ⟨hfeatures, hrowSplit, -⟩ := rowFromFeatureVector_eq_ok hmade
      obtain ⟨window, hmatching, hwindow⟩ := splitForFeatureTs_eq_ok h.inOrder hsplit
      rw [hfeatures.featureTs, hrowSplit]
      exact ⟨window, hmatching, hwindow.symm⟩
    exact ⟨rows, (mapM_eq_ok_iff _ _ _).mpr hrows, (check_bind_eq_ok_iff _ _ _).mpr ⟨hvalid, rfl⟩⟩

/-- The builder returns a snapshot exactly when the returns are in range. -/
theorem exists_snapshot_iff (h : InputsPass vectors observations windows rule)
    (sources : List CanonicalId) :
    (∃ snapshot, buildChronologicalDatasetSnapshot vectors observations windows rule sources =
      .ok snapshot) ↔ ReturnsInRange vectors observations rule := by
  simp only [h.build_eq_ok_iff sources]
  constructor
  · rintro ⟨snapshot, rows, hrows, -⟩ vector hvector
    obtain ⟨row, -, hrow⟩ := exists_of_mem_left hrows hvector
    exact (h.exists_row_iff sources hvector).mp ⟨row, hrow⟩
  · intro hrange
    obtain ⟨rows, hrows⟩ := exists_forall₂ fun vector hvector =>
      (h.exists_row_iff sources hvector).mpr (hrange vector hvector)
    exact ⟨_, rows, hrows, rfl⟩

end InputsPass

end Rows

end TaModel.Datasets
