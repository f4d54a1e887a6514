import TaModel.Evaluation.SplitScores
import TaModel.Library.Grouping
import Mathlib.Data.List.TakeWhile

/-!
# The baseline gate

`validate_s5_baseline_gate` collects blockers from the evidence files and from the scores, and
passes when it finds none. `gate_passes_iff` says what that takes of any scorecard,
`baseline_gate_of_runs` what it takes of the dataset and of the baselines that were run on it.
-/

set_option autoImplicit false

namespace TaModel.Evaluation

open Contracts Library

/-! ## Requirements -/

/-- `REQUIRED_BASELINES`. -/
def requiredBaselines : List BaselineKind :=
  [.cash, .buyAndHold, .equalWeightBasket, .taHeuristic, .simpleMl]

/-- `REQUIRED_METRIC_FIELDS`, with the field itself. -/
def requiredMetricFields : List (String × String × (BaselineSplitScore → EvaluationMetric)) :=
  [ ("net return", "net_return", BaselineSplitScore.netReturn),
    ("Sharpe", "sharpe", BaselineSplitScore.sharpe),
    ("Sortino", "sortino", BaselineSplitScore.sortino),
    ("Calmar", "calmar", BaselineSplitScore.calmar),
    ("max drawdown", "max_drawdown", BaselineSplitScore.maxDrawdown),
    ("CVaR", "cvar", BaselineSplitScore.cvar),
    ("turnover", "turnover_sum", BaselineSplitScore.turnoverSum),
    ("exposure", "average_exposure", BaselineSplitScore.averageExposure),
    ("costs", "cost_return_sum", BaselineSplitScore.costReturnSum),
    ("benchmark-relative net return", "benchmark_relative_net_return",
      BaselineSplitScore.benchmarkRelativeNetReturn) ]

/-- `REQUIRED_EVIDENCE_MARKERS`. -/
def requiredEvidenceMarkers : List String := ["S5-001", "S5-002", "S5-003"]

/-- `_ACCEPTABLE_UNDEFINED_FIELDS`. -/
def acceptableUndefinedFields : List String := ["sharpe", "sortino", "calmar"]

/-- The default caveats of a decision. -/
def defaultCaveats : List String :=
  [ "S5 costs are proxy baseline-row costs only, not S6 slippage/TCA completeness.",
    "Simple ML train-split metrics are in-sample; validation/test use fixed train parameters." ]

/-! ## Evidence -/

/-- The blockers and the contents of the evidence paths. -/
def readEvidence (files : EvidenceFiles) :
    List String → Raises (List String × List (String × String))
  | [] => .ok ([], [])
  | path :: paths =>
      match files path with
      | none => do
          let rest ← readEvidence files paths
          .ok (("evidence path does not exist: " ++ path) :: rest.1, rest.2)
      | some text => do
          let content ← text
          let rest ← readEvidence files paths
          .ok (rest.1, (path, content) :: rest.2)

section Gate

variable [Sha256]

/-- `_check_required_evidence`. -/
def checkRequiredEvidence (files : EvidenceFiles) (scorecard : EvaluationScorecard)
    (evidencePaths : List String) : Raises (List String) := do
  let evidence ← readEvidence files evidencePaths
  let contents := evidence.2.filter fun entry => occursIn "S5-003" entry.1
  .ok (evidence.1 ++
    (requiredEvidenceMarkers.filter fun marker =>
      !evidence.2.any fun entry => occursIn marker entry.1).map
        ("missing required evidence report " ++ ·) ++
    (if contents.any fun entry => occursIn scorecard.scorecardId entry.2 then []
      else ["S5-003 evidence does not match scorecard_id"]) ++
    (if contents.any fun entry => occursIn scorecard.scorecardHash entry.2 then []
      else ["S5-003 evidence does not match scorecard_hash"]))

/-! ## Scores -/

/-- `_scores_by_kind`. -/
def scoresByKind (scores : List BaselineSplitScore) :
    List (BaselineKind × List BaselineSplitScore) :=
  grouped (scores.map fun score => (score.baselineKind, score))

/-- `_check_required_baselines`. -/
def checkRequiredBaselines (groups : List (BaselineKind × List BaselineSplitScore)) : List String :=
  (requiredBaselines.filter fun kind => (groups.lookup kind).isNone).map fun kind =>
    "missing required baseline " ++ kind.value

/-- The blockers of one kind and split, by how many scores it has. -/
def splitCountBlockers (kind : BaselineKind) (split : DatasetSplit) (count : Nat) : List String :=
  if count = 0 then ["missing required baseline split " ++ kind.value ++ "/" ++ split.value]
  else if 1 < count then ["duplicate baseline split " ++ kind.value ++ "/" ++ split.value]
  else []

/-- `_check_required_baseline_splits`. -/
def checkRequiredBaselineSplits (groups : List (BaselineKind × List BaselineSplitScore)) :
    List String :=
  requiredBaselines.flatMap fun kind =>
    let scores := (groups.lookup kind).getD []
    allSplits.flatMap fun split =>
      splitCountBlockers kind split (scores.countP fun score => decide (score.split = split))

/-- `_check_metric`. -/
def checkMetric (score : BaselineSplitScore) (family fieldName : String)
    (metric : EvaluationMetric) : List String :=
  let label := score.baselineName ++ "/" ++ score.split.value ++ " " ++ family
  match metric.status with
  | .blocked => [label ++ " is blocked: " ++ metric.reason.getD "None"]
  | .notApplicable =>
      if fieldName ∉ acceptableUndefinedFields then
        [label ++ " is missing: " ++ metric.reason.getD "None"]
      else if metric.reason = none then [label ++ " is undefined without an explicit reason"]
      else []
  | .available => if metric.value = none then [label ++ " is available without a value"] else []

/-- The blockers of one score. -/
def checkScore (score : BaselineSplitScore) : List String :=
  (if score.observationCount = 0 then
    [score.baselineName ++ "/" ++ score.split.value ++ " has no observations"]
  else []) ++
  requiredMetricFields.flatMap fun field => checkMetric score field.1 field.2.1 (field.2.2 score)

/-- `_check_required_metrics`. -/
def checkRequiredMetrics (scores : List BaselineSplitScore) : List String :=
  scores.flatMap checkScore

/-! ## The decision -/

/-- `tuple[NonEmptyString, ...]`. -/
def nonEmptyTexts (texts : List String) : Raises (List String) := do
  require (∀ text ∈ texts, strip text ≠ "") "String should have at least 1 character"
  .ok (texts.map strip)

/-- The decision that states the blockers. -/
def decisionOf (scorecard : EvaluationScorecard) (evidencePaths blockers caveats : List String) :
    BaselineGateDecision where
  status := if blockers = [] then .pass else .blocked
  scorecardId := scorecard.scorecardId
  scorecardHash := scorecard.scorecardHash
  requiredBaselines := requiredBaselines.map BaselineKind.value
  requiredMetricFamilies := requiredMetricFields.map Prod.fst
  evidencePaths := evidencePaths
  blockers := blockers
  caveats := caveats
  no_blockers_of_pass := by
    intro hpass
    by_contra hne
    rw [if_neg hne] at hpass
    cases hpass
  blockers_of_not_pass := by
    intro hpass hnil
    exact hpass (if_pos hnil)

/-- `validate_s5_baseline_gate`. -/
def validateS5BaselineGate (files : EvidenceFiles) (scorecard : EvaluationScorecard)
    (evidencePaths caveats : List String) : Raises BaselineGateDecision := do
  let evidenceBlockers ← checkRequiredEvidence files scorecard evidencePaths
  let groups := scoresByKind scorecard.scores
  let paths ← nonEmptyTexts evidencePaths
  let blockers ← nonEmptyTexts (evidenceBlockers ++ checkRequiredBaselines groups ++
    checkRequiredBaselineSplits groups ++ checkRequiredMetrics scorecard.scores)
  let caveats ← nonEmptyTexts caveats
  .ok (decisionOf scorecard paths blockers caveats)

/-! ## Complete evidence -/

/-- Every path is a file, every report is among them, and an S5-003 report names the scorecard. -/
structure EvidenceComplete (files : EvidenceFiles) (scorecard : EvaluationScorecard)
    (evidencePaths : List String) : Prop where
  exist : ∀ path ∈ evidencePaths, files path ≠ none
  reports : ∀ marker ∈ requiredEvidenceMarkers, ∃ path ∈ evidencePaths, occursIn marker path = true
  scorecardId : ∃ path ∈ evidencePaths, occursIn "S5-003" path = true ∧
    ∃ content, files path = some (.ok content) ∧ occursIn scorecard.scorecardId content = true
  scorecardHash : ∃ path ∈ evidencePaths, occursIn "S5-003" path = true ∧
    ∃ content, files path = some (.ok content) ∧ occursIn scorecard.scorecardHash content = true

omit [Sha256] in
/-- Evidence is read when every file among the paths decodes. -/
theorem readEvidence_succeeds_iff (files : EvidenceFiles) (paths : List String) :
    (∃ out, readEvidence files paths = .ok out) ↔
      ∀ path ∈ paths, ∀ text, files path = some text → ∃ content, text = .ok content := by
  induction paths with
  | nil => simp [readEvidence]
  | cons head paths ih =>
      rw [List.forall_mem_cons, ← ih, readEvidence]
      constructor
      · rintro ⟨out, h⟩
        cases hfile : files head with
        | none =>
            rw [hfile] at h
            obtain ⟨rest, hrest, -⟩ := (bind_eq_ok_iff _ _ _).mp h
            refine ⟨?_, rest, hrest⟩
            intro text htext
            cases htext
        | some text =>
            rw [hfile] at h
            obtain ⟨content, hcontent, h⟩ := (bind_eq_ok_iff _ _ _).mp h
            obtain ⟨rest, hrest, -⟩ := (bind_eq_ok_iff _ _ _).mp h
            refine ⟨?_, rest, hrest⟩
            intro text' htext
            cases htext
            exact ⟨content, hcontent⟩
      · rintro ⟨hhead, rest, hrest⟩
        cases hfile : files head with
        | none =>
            dsimp only
            rw [hrest]
            exact ⟨_, rfl⟩
        | some text =>
            obtain ⟨content, rfl⟩ := hhead text hfile
            dsimp only
            rw [ok_bind, hrest]
            exact ⟨_, rfl⟩

omit [Sha256] in
theorem readEvidence_eq_ok {files : EvidenceFiles} {paths : List String}
    {out : List String × List (String × String)} (h : readEvidence files paths = .ok out) :
    (out.1 = [] ↔ ∀ path ∈ paths, files path ≠ none) ∧
      ∀ path content, (path, content) ∈ out.2 ↔
        path ∈ paths ∧ files path = some (.ok content) := by
  induction paths generalizing out with
  | nil =>
      cases h
      simp
  | cons head paths ih =>
      rw [readEvidence] at h
      split at h
      · rename_i hfile
        obtain ⟨rest, hrest, h⟩ := (bind_eq_ok_iff _ _ _).mp h
        cases h
        obtain ⟨-, hcontents⟩ := ih hrest
        refine ⟨by simp [hfile], fun path content => ?_⟩
        rw [hcontents, List.mem_cons]
        constructor
        · rintro ⟨hpath, hcontent⟩
          exact ⟨.inr hpath, hcontent⟩
        · rintro ⟨rfl | hpath, hcontent⟩
          · -- the path is no file
            rw [hfile] at hcontent
            cases hcontent
          · exact ⟨hpath, hcontent⟩
      · rename_i text hfile
        obtain ⟨content, rfl, hread⟩ := (bind_eq_ok_iff _ _ _).mp h
        obtain ⟨rest, hrest, hout⟩ := (bind_eq_ok_iff _ _ _).mp hread
        cases hout
        obtain ⟨hmissing, hcontents⟩ := ih hrest
        refine ⟨by simp [hmissing, hfile], fun path content' => ?_⟩
        rw [List.mem_cons, List.mem_cons, hcontents]
        constructor
        · rintro (hhead | ⟨hpath, hcontent⟩)
          · cases hhead
            exact ⟨.inl rfl, hfile⟩
          · exact ⟨.inr hpath, hcontent⟩
        · rintro ⟨rfl | hpath, hcontent⟩
          · rw [hfile] at hcontent
            cases hcontent
            exact .inl rfl
          · exact .inr ⟨hpath, hcontent⟩

theorem checkRequiredEvidence_eq_ok {files : EvidenceFiles} {scorecard : EvaluationScorecard}
    {paths blockers : List String}
    (h : checkRequiredEvidence files scorecard paths = .ok blockers) :
    blockers = [] ↔ EvidenceComplete files scorecard paths := by
  obtain ⟨evidence, hevidence, h⟩ := (bind_eq_ok_iff _ _ _).mp h
  cases h
  obtain ⟨hmissing, hcontents⟩ := readEvidence_eq_ok hevidence
  have hnamed : ∀ needle : String,
      ((evidence.2.filter fun entry => occursIn "S5-003" entry.1).any fun entry =>
          occursIn needle entry.2) = true ↔
        ∃ path ∈ paths, occursIn "S5-003" path = true ∧
          ∃ content, files path = some (.ok content) ∧ occursIn needle content = true := by
    intro needle
    simp only [List.any_eq_true, List.mem_filter, Prod.exists, hcontents]
    constructor
    · rintro ⟨path, content, ⟨⟨hpath, hfile⟩, hmarker⟩, hneedle⟩
      exact ⟨path, hpath, hmarker, content, hfile, hneedle⟩
    · rintro ⟨path, hpath, hmarker, content, hfile, hneedle⟩
      exact ⟨path, content, ⟨⟨hpath, hfile⟩, hmarker⟩, hneedle⟩
  have hmarkers : (∀ path ∈ paths, files path ≠ none) → ∀ marker : String,
      ((evidence.2.any fun entry => occursIn marker entry.1) = true ↔
        ∃ path ∈ paths, occursIn marker path = true) := by
    intro hexist marker
    simp only [List.any_eq_true, Prod.exists, hcontents]
    constructor
    · rintro ⟨path, content, ⟨hpath, -⟩, hmarker⟩
      exact ⟨path, hpath, hmarker⟩
    · rintro ⟨path, hpath, hmarker⟩
      cases hfile : files path with
      | none => exact absurd hfile (hexist path hpath)
      | some text =>
          obtain ⟨content, rfl⟩ :=
            (readEvidence_succeeds_iff files paths).mp ⟨evidence, hevidence⟩ path hpath text hfile
          exact ⟨path, content, ⟨hpath, hfile⟩, hmarker⟩
  constructor
  · intro hnil
    simp only [List.append_eq_nil_iff, List.map_eq_nil_iff, List.filter_eq_nil_iff,
      ite_eq_left_iff, List.cons_ne_nil, imp_false, Bool.not_eq_true', Bool.not_eq_false,
      not_not] at hnil
    obtain ⟨⟨⟨hexist, hreports⟩, hid⟩, hhash⟩ := hnil
    exact
      { exist := hmissing.mp hexist,
        reports := fun marker hmarker =>
          (hmarkers (hmissing.mp hexist) marker).mp (hreports marker hmarker),
        scorecardId := (hnamed _).mp hid, scorecardHash := (hnamed _).mp hhash }
  · intro hcomplete
    simp only [List.append_eq_nil_iff, List.map_eq_nil_iff, List.filter_eq_nil_iff,
      ite_eq_left_iff, List.cons_ne_nil, imp_false, Bool.not_eq_true', Bool.not_eq_false,
      not_not]
    exact ⟨⟨⟨hmissing.mpr hcomplete.exist, fun marker hmarker =>
        (hmarkers hcomplete.exist marker).mpr (hcomplete.reports marker hmarker)⟩,
      (hnamed _).mpr hcomplete.scorecardId⟩, (hnamed _).mpr hcomplete.scorecardHash⟩

/-! ## Accepted scores -/

/-- How many scores there are of a kind on a split. -/
def scoreCount (scores : List BaselineSplitScore) (kind : BaselineKind) (split : DatasetSplit) : Nat :=
  scores.countP fun score => decide (score.baselineKind = kind ∧ score.split = split)

/-- A metric the gate takes: available, or undefined in a field that may be. -/
def MetricAccepted (fieldName : String) (metric : EvaluationMetric) : Prop :=
  metric.status = .available ∨
    metric.status = .notApplicable ∧ fieldName ∈ acceptableUndefinedFields

/-- A score the gate takes. -/
structure ScoreAccepted (score : BaselineSplitScore) : Prop where
  observed : score.observationCount ≠ 0
  metrics : ∀ field ∈ requiredMetricFields, MetricAccepted field.2.1 (field.2.2 score)

omit [Sha256] in
/-- A metric always has its value or its reason, so two of the five blockers never appear. -/
theorem checkMetric_eq_nil_iff (score : BaselineSplitScore) (family fieldName : String)
    (metric : EvaluationMetric) :
    checkMetric score family fieldName metric = [] ↔ MetricAccepted fieldName metric := by
  have hvalue := metric.value_of_available
  have hreason := metric.reason_of_undefined
  cases hstatus : metric.status with
  | available => simp [checkMetric, MetricAccepted, hstatus, hvalue hstatus]
  | blocked => simp [checkMetric, MetricAccepted, hstatus]
  | notApplicable =>
      have hsome := hreason (by rw [hstatus]; exact MetricStatus.noConfusion)
      simp [checkMetric, MetricAccepted, hstatus, hsome]

omit [Sha256] in
theorem checkScore_eq_nil_iff (score : BaselineSplitScore) :
    checkScore score = [] ↔ ScoreAccepted score := by
  have hmetrics : (requiredMetricFields.flatMap fun field =>
      checkMetric score field.1 field.2.1 (field.2.2 score)) = [] ↔
      ∀ field ∈ requiredMetricFields, MetricAccepted field.2.1 (field.2.2 score) := by
    simp only [List.flatMap_eq_nil_iff, checkMetric_eq_nil_iff]
  rw [checkScore, List.append_eq_nil_iff, hmetrics]
  constructor
  · rintro ⟨hobserved, h⟩
    exact ⟨by simpa using hobserved, h⟩
  · rintro ⟨hobserved, h⟩
    exact ⟨if_neg hobserved, h⟩

omit [Sha256] in
theorem splitCountBlockers_eq_nil_iff (kind : BaselineKind) (split : DatasetSplit) (count : Nat) :
    splitCountBlockers kind split count = [] ↔ count = 1 := by
  unfold splitCountBlockers
  split_ifs with hzero hmany
  · simp [hzero]
  · simp
    omega
  · simp
    omega

omit [Sha256] in
theorem getD_lookup_scoresByKind (scores : List BaselineSplitScore) (kind : BaselineKind) :
    ((scoresByKind scores).lookup kind).getD [] =
      scores.filter fun score => decide (score.baselineKind = kind) := by
  have hvalues : valuesOf kind (scores.map fun score => (score.baselineKind, score)) =
      scores.filter fun score => decide (score.baselineKind = kind) := by
    rw [valuesOf, List.filter_map, List.map_map]
    exact List.map_id' _
  rw [scoresByKind, lookup_grouped, hvalues]
  split_ifs with hnil
  · exact hnil.symm
  · rfl

omit [Sha256] in
theorem checkRequiredBaselineSplits_eq_nil_iff (scores : List BaselineSplitScore) :
    checkRequiredBaselineSplits (scoresByKind scores) = [] ↔
      ∀ kind split, scoreCount scores kind split = 1 := by
  have hkinds : ∀ kind : BaselineKind, kind ∈ requiredBaselines := by
    intro kind
    cases kind <;> simp [requiredBaselines]
  have hsplits : ∀ split : DatasetSplit, split ∈ allSplits := by
    intro split
    cases split <;> simp [allSplits]
  have hcount : ∀ kind split, ((scores.filter fun score => decide (score.baselineKind = kind)).countP
      fun score => decide (score.split = split)) = scoreCount scores kind split := by
    intro kind split
    rw [List.countP_filter, scoreCount]
    apply List.countP_congr
    intro score _
    simp [and_comm]
  simp only [checkRequiredBaselineSplits, List.flatMap_eq_nil_iff, splitCountBlockers_eq_nil_iff,
    getD_lookup_scoresByKind, hcount]
  exact ⟨fun h kind split => h kind (hkinds kind) split (hsplits split),
    fun h kind _ split _ => h kind split⟩

omit [Sha256] in
/-- A kind with its splits is not missing. -/
theorem checkRequiredBaselines_eq_nil {scores : List BaselineSplitScore}
    (h : ∀ kind split, scoreCount scores kind split = 1) :
    checkRequiredBaselines (scoresByKind scores) = [] := by
  simp only [checkRequiredBaselines, List.map_eq_nil_iff, List.filter_eq_nil_iff]
  intro kind _ hnone
  have hempty := getD_lookup_scoresByKind scores kind
  rw [Option.isNone_iff_eq_none.mp hnone, Option.getD_none] at hempty
  have hone : 0 < scoreCount scores kind .train := by rw [h]; exact one_pos
  obtain ⟨score, hscore, hkind⟩ := List.countP_pos_iff.mp hone
  have hmem : score ∈ scores.filter fun score => decide (score.baselineKind = kind) :=
    List.mem_filter.mpr ⟨hscore, decide_eq_true (of_decide_eq_true hkind).1⟩
  rw [← hempty] at hmem
  cases hmem

/-! ## Every blocker has text -/

/-- A string that `strip` does not empty. -/
def HasText (s : String) : Prop := ∃ c ∈ s.toList, isPySpace c = false

omit [Sha256] in
theorem HasText.strip_ne {s : String} (h : HasText s) : strip s ≠ "" := by
  obtain ⟨c, hc, hspace⟩ := h
  -- neither end of the string drops `c`
  have hkept : ∀ {cs : List Char}, c ∈ cs → c ∈ cs.dropWhile isPySpace := by
    intro cs hcs
    rw [← @List.takeWhile_append_dropWhile _ isPySpace cs, List.mem_append] at hcs
    rcases hcs with htake | hdrop
    · rw [List.mem_takeWhile_imp htake] at hspace
      cases hspace
    · exact hdrop
  have hmem := hkept (List.mem_reverse.mpr (hkept hc))
  intro hstrip
  have hnil : ((s.toList.dropWhile isPySpace).reverse.dropWhile isPySpace).reverse = [] := by
    simpa [strip] using hstrip
  rw [List.reverse_eq_nil_iff.mp hnil] at hmem
  cases hmem

omit [Sha256] in
theorem HasText.append_left {s : String} (h : HasText s) (t : String) : HasText (s ++ t) := by
  obtain ⟨c, hc, hspace⟩ := h
  exact ⟨c, by rw [String.toList_append]; exact List.mem_append_left _ hc, hspace⟩

omit [Sha256] in
theorem HasText.append_right {t : String} (h : HasText t) (s : String) : HasText (s ++ t) := by
  obtain ⟨c, hc, hspace⟩ := h
  exact ⟨c, by rw [String.toList_append]; exact List.mem_append_right _ hc, hspace⟩

omit [Sha256] in
theorem hasText_of_mem {c : Char} {s : String} (hc : c ∈ s.toList) (hspace : isPySpace c = false) :
    HasText s := ⟨c, hc, hspace⟩

omit [Sha256] in
theorem mem_of_mem_ite {blocker : String} {p : Prop} [Decidable p] {xs ys : List String}
    (h : blocker ∈ if p then xs else ys) : blocker ∈ xs ∨ blocker ∈ ys := by
  split_ifs at h
  · exact .inl h
  · exact .inr h

omit [Sha256] in
theorem hasText_checkMetric (score : BaselineSplitScore) (family fieldName : String)
    (metric : EvaluationMetric) :
    ∀ blocker ∈ checkMetric score family fieldName metric, HasText blocker := by
  have hlabel : HasText (score.baselineName ++ "/" ++ score.split.value ++ " " ++ family) := by
    refine ((HasText.append_left ?_ _).append_left _).append_left _
    exact HasText.append_right (hasText_of_mem (c := '/') (by decide) (by decide)) _
  intro blocker hblocker
  unfold checkMetric at hblocker
  generalize score.baselineName ++ "/" ++ score.split.value ++ " " ++ family = label
    at hlabel hblocker
  cases hstatus : metric.status with
  | blocked =>
      rw [hstatus] at hblocker
      rw [List.mem_singleton.mp hblocker]
      exact (hlabel.append_left _).append_left _
  | available =>
      rw [hstatus] at hblocker
      rcases mem_of_mem_ite hblocker with hvalue | hnil
      · rw [List.mem_singleton.mp hvalue]
        exact hlabel.append_left _
      · cases hnil
  | notApplicable =>
      rw [hstatus] at hblocker
      rcases mem_of_mem_ite hblocker with hmissing | hreason
      · rw [List.mem_singleton.mp hmissing]
        exact (hlabel.append_left _).append_left _
      · rcases mem_of_mem_ite hreason with hreason | hnil
        · rw [List.mem_singleton.mp hreason]
          exact hlabel.append_left _
        · cases hnil

omit [Sha256] in
theorem hasText_checkScore (score : BaselineSplitScore) :
    ∀ blocker ∈ checkScore score, HasText blocker := by
  intro blocker hblocker
  rcases List.mem_append.mp hblocker with hempty | hmetric
  · rcases mem_of_mem_ite hempty with hempty | hnil
    · rw [List.mem_singleton.mp hempty]
      exact HasText.append_right (hasText_of_mem (c := 'h') (by decide) (by decide)) _
    · cases hnil
  · obtain ⟨field, -, hfield⟩ := List.mem_flatMap.mp hmetric
    exact hasText_checkMetric _ _ _ _ _ hfield

omit [Sha256] in
theorem hasText_checkRequiredBaselines (groups : List (BaselineKind × List BaselineSplitScore)) :
    ∀ blocker ∈ checkRequiredBaselines groups, HasText blocker := by
  intro blocker hblocker
  obtain ⟨kind, -, rfl⟩ := List.mem_map.mp hblocker
  exact HasText.append_left (hasText_of_mem (c := 'm') (by decide) (by decide)) _

omit [Sha256] in
theorem hasText_checkRequiredBaselineSplits
    (groups : List (BaselineKind × List BaselineSplitScore)) :
    ∀ blocker ∈ checkRequiredBaselineSplits groups, HasText blocker := by
  intro blocker hblocker
  obtain ⟨kind, -, hkind⟩ := List.mem_flatMap.mp hblocker
  obtain ⟨split, -, hsplit⟩ := List.mem_flatMap.mp hkind
  unfold splitCountBlockers at hsplit
  split_ifs at hsplit
  · rw [List.mem_singleton.mp hsplit]
    refine ((HasText.append_left ?_ _).append_left _).append_left _
    exact hasText_of_mem (c := 'm') (by decide) (by decide)
  · rw [List.mem_singleton.mp hsplit]
    refine ((HasText.append_left ?_ _).append_left _).append_left _
    exact hasText_of_mem (c := 'd') (by decide) (by decide)
  · cases hsplit

omit [Sha256] in
theorem hasText_readEvidence {files : EvidenceFiles} {paths : List String}
    {out : List String × List (String × String)} (h : readEvidence files paths = .ok out) :
    ∀ blocker ∈ out.1, HasText blocker := by
  induction paths generalizing out with
  | nil =>
      cases h
      exact List.forall_mem_nil _
  | cons path paths ih =>
      rw [readEvidence] at h
      split at h
      · obtain ⟨rest, hrest, hout⟩ := (bind_eq_ok_iff _ _ _).mp h
        cases hout
        refine List.forall_mem_cons.mpr ⟨?_, ih hrest⟩
        exact HasText.append_left (hasText_of_mem (c := 'e') (by decide) (by decide)) _
      · obtain ⟨content, -, hread⟩ := (bind_eq_ok_iff _ _ _).mp h
        obtain ⟨rest, hrest, hout⟩ := (bind_eq_ok_iff _ _ _).mp hread
        cases hout
        have hblockers := ih hrest
        exact hblockers

theorem hasText_checkRequiredEvidence {files : EvidenceFiles} {scorecard : EvaluationScorecard}
    {paths blockers : List String}
    (h : checkRequiredEvidence files scorecard paths = .ok blockers) :
    ∀ blocker ∈ blockers, HasText blocker := by
  obtain ⟨evidence, hevidence, h⟩ := (bind_eq_ok_iff _ _ _).mp h
  cases h
  intro blocker hblocker
  rcases List.mem_append.mp hblocker with hblocker | hhash
  · rcases List.mem_append.mp hblocker with hblocker | hid
    · rcases List.mem_append.mp hblocker with hpath | hmarker
      · exact hasText_readEvidence hevidence blocker hpath
      · obtain ⟨marker, -, rfl⟩ := List.mem_map.mp hmarker
        exact HasText.append_left (hasText_of_mem (c := 'm') (by decide) (by decide)) _
    · split_ifs at hid
      · cases hid
      · rw [List.mem_singleton.mp hid]
        exact hasText_of_mem (c := 'S') (by decide) (by decide)
  · split_ifs at hhash
    · cases hhash
    · rw [List.mem_singleton.mp hhash]
      exact hasText_of_mem (c := 'S') (by decide) (by decide)

/-! ## Decisions -/

/-- The gate decides whenever the files decode and the texts it is given are not blank: no blocker
of its own makes the decision invalid. -/
theorem gate_decides {files : EvidenceFiles} {paths caveats : List String}
    (hreadable : ∀ path ∈ paths, ∀ text, files path = some text → ∃ content, text = .ok content)
    (hpaths : ∀ path ∈ paths, strip path ≠ "") (hcaveats : ∀ caveat ∈ caveats, strip caveat ≠ "")
    (scorecard : EvaluationScorecard) :
    ∃ decision, validateS5BaselineGate files scorecard paths caveats = .ok decision := by
  obtain ⟨evidence, hevidence⟩ := (readEvidence_succeeds_iff files paths).mpr hreadable
  obtain ⟨blockers, hblockers⟩ :
      ∃ blockers, checkRequiredEvidence files scorecard paths = .ok blockers := by
    rw [checkRequiredEvidence, hevidence, ok_bind]
    exact ⟨_, rfl⟩
  have htexts : ∀ blocker ∈ blockers ++ checkRequiredBaselines (scoresByKind scorecard.scores) ++
      checkRequiredBaselineSplits (scoresByKind scorecard.scores) ++
      checkRequiredMetrics scorecard.scores, strip blocker ≠ "" := by
    intro blocker hblocker
    apply HasText.strip_ne
    rcases List.mem_append.mp hblocker with hblocker | hmetrics
    · rcases List.mem_append.mp hblocker with hblocker | hsplits
      · rcases List.mem_append.mp hblocker with hevidence | hkinds
        · exact hasText_checkRequiredEvidence hblockers blocker hevidence
        · exact hasText_checkRequiredBaselines _ blocker hkinds
      · exact hasText_checkRequiredBaselineSplits _ blocker hsplits
    · obtain ⟨score, -, hscore⟩ := List.mem_flatMap.mp hmetrics
      exact hasText_checkScore score blocker hscore
  rw [validateS5BaselineGate, hblockers, ok_bind]
  dsimp only
  rw [nonEmptyTexts, require_of hpaths, ok_bind, ok_bind, nonEmptyTexts, require_of htexts, ok_bind,
    ok_bind, nonEmptyTexts, require_of hcaveats, ok_bind, ok_bind]
  exact ⟨_, rfl⟩

omit [Sha256] in
theorem nonEmptyTexts_eq_ok {texts stripped : List String} (h : nonEmptyTexts texts = .ok stripped) :
    stripped = [] ↔ texts = [] := by
  obtain ⟨-, h⟩ := (check_bind_eq_ok_iff _ _ _).mp h
  cases h
  exact List.map_eq_nil_iff

/-- The gate passes when the evidence is complete, each of the five kinds has one score on each
split, and every score has observations and no metric is missing, a ratio that is undefined apart. -/
theorem gate_passes_iff {files : EvidenceFiles} {scorecard : EvaluationScorecard}
    {paths caveats : List String} {decision : BaselineGateDecision}
    (h : validateS5BaselineGate files scorecard paths caveats = .ok decision) :
    decision.status = .pass ↔
      EvidenceComplete files scorecard paths ∧
        (∀ kind split, scoreCount scorecard.scores kind split = 1) ∧
        ∀ score ∈ scorecard.scores, ScoreAccepted score := by
  obtain ⟨evidenceBlockers, hevidence, h⟩ := (bind_eq_ok_iff _ _ _).mp h
  obtain ⟨stripped, -, h⟩ := (bind_eq_ok_iff _ _ _).mp h
  obtain ⟨blockers, hblockers, h⟩ := (bind_eq_ok_iff _ _ _).mp h
  obtain ⟨texts, -, h⟩ := (bind_eq_ok_iff _ _ _).mp h
  cases h
  have hstatus : (decisionOf scorecard stripped blockers texts).status = .pass ↔ blockers = [] := by
    by_cases hnil : blockers = [] <;> simp [decisionOf, hnil]
  rw [hstatus, nonEmptyTexts_eq_ok hblockers, List.append_eq_nil_iff, List.append_eq_nil_iff,
    List.append_eq_nil_iff, checkRequiredEvidence_eq_ok hevidence,
    checkRequiredBaselineSplits_eq_nil_iff, checkRequiredMetrics, List.flatMap_eq_nil_iff]
  simp only [checkScore_eq_nil_iff]
  constructor
  · rintro ⟨⟨⟨hcomplete, -⟩, hcounts⟩, hscores⟩
    exact ⟨hcomplete, hcounts, hscores⟩
  · rintro ⟨hcomplete, hcounts, hscores⟩
    exact ⟨⟨⟨hcomplete, checkRequiredBaselines_eq_nil hcounts⟩, hcounts⟩, hscores⟩

/-! ## From the dataset to the gate -/

/-- The gate takes a score of a baseline run exactly when its split has rows. -/
theorem scoreAccepted_iff {snapshot : DatasetSnapshot} {report : BaselineReport}
    {split : DatasetSplit} {score : BaselineSplitScore} (h : ScoreOf snapshot report split score) :
    ScoreAccepted score ↔ datasetSplit snapshot split ≠ [] := by
  constructor
  · intro haccepted hnil
    apply haccepted.observed
    rw [h.count, hnil, List.length_nil]
  · intro hne
    have hcore := h.core hne
    obtain ⟨hsharpe, hsortino, hcalmar⟩ := h.ratios
    refine ⟨?_, ?_⟩
    · rw [h.count]
      exact fun hlength => hne (List.length_eq_zero_iff.mp hlength)
    · have hratio : ∀ {name : String} {metric : EvaluationMetric}, metric.status ≠ .blocked →
          name ∈ acceptableUndefinedFields → MetricAccepted name metric := by
        intro name metric hstatus hname
        cases hmetric : metric.status with
        | available => exact .inl hmetric
        | notApplicable => exact .inr ⟨hmetric, hname⟩
        | blocked => exact absurd hmetric hstatus
      simp only [requiredMetricFields, List.forall_mem_cons]
      exact ⟨.inl hcore.netReturn, hratio hsharpe (by simp [acceptableUndefinedFields]),
        hratio hsortino (by simp [acceptableUndefinedFields]),
        hratio hcalmar (by simp [acceptableUndefinedFields]), .inl hcore.maxDrawdown,
        .inl hcore.cvar, .inl hcore.turnoverSum, .inl hcore.averageExposure,
        .inl hcore.costReturnSum, .inl (h.relative hne), List.forall_mem_nil _⟩

/-- A report of a kind has one score of that kind on each split. -/
theorem scoreCount_of_report {snapshot : DatasetSnapshot} {report : BaselineReport}
    {scores : List BaselineSplitScore}
    (h : List.Forall₂ (ScoreOf snapshot report) allSplits scores) (kind : BaselineKind)
    (split : DatasetSplit) :
    scoreCount scores kind split = if report.baselineConfig.kind = kind then 1 else 0 := by
  obtain - | ⟨htrain, hrest⟩ := h
  obtain - | ⟨hvalidation, hrest⟩ := hrest
  obtain - | ⟨htest, hrest⟩ := hrest
  cases hrest
  by_cases hkind : report.baselineConfig.kind = kind
  · cases split <;>
      simp [scoreCount, htrain.kind, htrain.inSplit, hvalidation.kind, hvalidation.inSplit,
        htest.kind, htest.inSplit, hkind]
  · simp [scoreCount, htrain.kind, hvalidation.kind, htest.kind, hkind]

theorem scoreCount_of_reports {snapshot : DatasetSnapshot} {reports : List BaselineReport}
    {scored : List (List BaselineSplitScore)}
    (h : List.Forall₂ (fun report scores => List.Forall₂ (ScoreOf snapshot report) allSplits scores)
      reports scored) (kind : BaselineKind) (split : DatasetSplit) :
    scoreCount scored.flatten kind split =
      reports.countP fun report => decide (report.baselineConfig.kind = kind) := by
  induction h with
  | nil => rfl
  | @cons report scores reports scored hhead _ ih =>
      rw [List.flatten_cons, scoreCount, List.countP_append, ← scoreCount, ← scoreCount, ih,
        scoreCount_of_report hhead, List.countP_cons, Nat.add_comm]
      simp

/-- What baselines run on one dataset pass the gate: the evidence is complete, each of the five
kinds was run exactly once, and no split of the dataset is empty. -/
theorem baseline_gate_of_runs {snapshot : DatasetSnapshot} {configs : List BaselineConfig}
    {reports : List BaselineReport} {benchmark : BaselineConfig} {benchmarkReport : BaselineReport}
    (hne : reports ≠ [])
    (hruns : List.Forall₂ (fun config report => Baselines.runBaseline snapshot config = .ok report)
      configs reports)
    (hbenchmark : Baselines.runBaseline snapshot benchmark = .ok benchmarkReport)
    (assumptions : Option MetricAssumptions) {files : EvidenceFiles} {paths caveats : List String}
    (hreadable : ∀ path ∈ paths, ∀ text, files path = some text → ∃ content, text = .ok content)
    (hpaths : ∀ path ∈ paths, strip path ≠ "")
    (hcaveats : ∀ caveat ∈ caveats, strip caveat ≠ "") :
    ∃ card decision,
      buildEvaluationScorecard reports benchmarkReport assumptions = .ok card ∧
      validateS5BaselineGate files card paths caveats = .ok decision ∧
      (decision.status = .pass ↔
        EvidenceComplete files card paths ∧
          (∀ kind, configs.countP (fun config => decide (config.kind = kind)) = 1) ∧
          ∀ split, datasetSplit snapshot split ≠ []) := by
  have hrunsOf : List.Forall₂ (RunOf snapshot) configs reports :=
    hruns.imp fun _ _ => runOf_runBaseline
  obtain ⟨card, scored, hcard, hscores, hforall⟩ :=
    scorecard_of_runs hne hrunsOf (runOf_runBaseline hbenchmark) assumptions
  obtain ⟨decision, hdecision⟩ := gate_decides hreadable hpaths hcaveats card
  refine ⟨card, decision, hcard, hdecision, ?_⟩
  have hcount : ∀ kind split, scoreCount card.scores kind split =
      configs.countP fun config => decide (config.kind = kind) := by
    intro kind split
    rw [hscores, scoreCount_of_reports hforall]
    have hkinds : configs.map BaselineConfig.kind =
        reports.map fun report => report.baselineConfig.kind :=
      map_eq_of_forall₂ hrunsOf fun config report hrun => by rw [hrun.config]
    have hmapped := congrArg (List.countP fun k => decide (k = kind)) hkinds
    rw [List.countP_map, List.countP_map] at hmapped
    exact hmapped.symm
  have haccepted : (∀ score ∈ card.scores, ScoreAccepted score) ↔
      ∀ split, datasetSplit snapshot split ≠ [] := by
    rw [hscores]
    constructor
    · intro hall split
      -- any report has a score on the split
      obtain ⟨report, hreport⟩ := List.exists_mem_of_ne_nil _ hne
      obtain ⟨scores, hmem, hof⟩ := exists_of_mem_left hforall hreport
      have hsplit : split ∈ allSplits := by cases split <;> simp [allSplits]
      obtain ⟨score, hscore, hscoreOf⟩ := exists_of_mem_left hof hsplit
      exact (scoreAccepted_iff hscoreOf).mp (hall score (List.mem_flatten_of_mem hmem hscore))
    · intro hsplits score hscore
      obtain ⟨scores, hmem, hscore⟩ := List.mem_flatten.mp hscore
      obtain ⟨report, -, hof⟩ := exists_of_mem_right hforall hmem
      obtain ⟨split, -, hscoreOf⟩ := exists_of_mem_right hof hscore
      exact (scoreAccepted_iff hscoreOf).mpr (hsplits split)
  rw [gate_passes_iff hdecision, haccepted]
  simp only [hcount]
  constructor
  · rintro ⟨hcomplete, hkinds, hsplits⟩
    exact ⟨hcomplete, fun kind => hkinds kind .train, hsplits⟩
  · rintro ⟨hcomplete, hkinds, hsplits⟩
    exact ⟨hcomplete, fun kind _ => hkinds kind, hsplits⟩

end Gate

/-- A text occurs between what stands before and after it. -/
theorem occursIn_append (before needle after : String) :
    occursIn needle (before ++ needle ++ after) = true := by
  rw [occursIn, List.any_eq_true]
  refine ⟨needle.toList ++ after.toList, ?_, ?_⟩
  · rw [List.mem_tails, String.toList_append, String.toList_append, List.append_assoc]
    exact List.suffix_append _ _
  · exact List.isPrefixOf_iff_prefix.mpr (List.prefix_append _ _)

def samplePaths : List String := ["S5-001.md", "S5-002.md", "S5-003.md"]

/-- Reports that name the scorecard. -/
def sampleEvidence [Sha256] (card : EvaluationScorecard) : EvidenceFiles := fun path =>
  if path ∈ samplePaths then some (.ok (card.scorecardId ++ " " ++ card.scorecardHash)) else none

theorem sampleEvidence_complete [Sha256] (card : EvaluationScorecard) :
    EvidenceComplete (sampleEvidence card) card samplePaths := by
  have hfile : ∀ path ∈ samplePaths, sampleEvidence card path =
      some (.ok (card.scorecardId ++ " " ++ card.scorecardHash)) := fun path hpath => if_pos hpath
  have hthird : "S5-003.md" ∈ samplePaths := by decide
  have hmarker : occursIn "S5-003" "S5-003.md" = true := by decide
  constructor
  · intro path hpath
    rw [hfile path hpath]
    exact Option.some_ne_none _
  · decide
  · refine ⟨_, hthird, hmarker, _, hfile _ hthird, ?_⟩
    have hoccurs := occursIn_append "" card.scorecardId (" " ++ card.scorecardHash)
    rwa [String.empty_append, ← String.append_assoc] at hoccurs
  · refine ⟨_, hthird, hmarker, _, hfile _ hthird, ?_⟩
    have hoccurs := occursIn_append (card.scorecardId ++ " ") card.scorecardHash ""
    rwa [String.append_empty] at hoccurs

/-- All five baselines on the sample, with evidence: the gate passes. -/
theorem baseline_gate_five_runs :
    ∃ (reports : List (@BaselineReport hashlibSha256)) (benchmark : @BaselineReport hashlibSha256)
      (card : @EvaluationScorecard hashlibSha256) (decision : BaselineGateDecision),
      List.Forall₂ (fun kind report => @Baselines.runBaseline hashlibSha256
        (@Baselines.sampleSnapshot hashlibSha256) (@Baselines.sampleConfig hashlibSha256 kind) =
          .ok report) requiredBaselines reports ∧
      @buildEvaluationScorecard hashlibSha256 reports benchmark none = .ok card ∧
      @validateS5BaselineGate hashlibSha256 (@sampleEvidence hashlibSha256 card) card samplePaths
        defaultCaveats = .ok decision ∧
      decision.status = .pass := by
  let _ := hashlibSha256
  have hkinds : ∀ kind ∈ requiredBaselines, ∃ report,
      Baselines.runBaseline Baselines.sampleSnapshot (Baselines.sampleConfig kind) = .ok report :=
    fun kind _ => Baselines.sampleConfig_runs kind
  obtain ⟨reports, hreports⟩ := exists_forall₂ hkinds
  obtain ⟨benchmark, hbenchmark⟩ := Baselines.sampleConfig_runs .buyAndHold
  have hruns : List.Forall₂ (fun config report =>
      Baselines.runBaseline Baselines.sampleSnapshot config = .ok report)
      (requiredBaselines.map Baselines.sampleConfig) reports :=
    List.forall₂_map_left_iff.mpr hreports
  have hne : reports ≠ [] := by
    rintro rfl
    cases hreports
  -- the evidence names the scorecard, so the scorecard comes first
  obtain ⟨card, -, hcard, -⟩ := scorecard_of_runs hne (hruns.imp fun _ _ => runOf_runBaseline)
    (runOf_runBaseline hbenchmark) none
  have hreadable : ∀ path ∈ samplePaths, ∀ text, sampleEvidence card path = some text →
      ∃ content, text = .ok content :=
    fun path hpath text htext => ⟨_, Option.some.inj (htext.symm.trans (if_pos hpath))⟩
  have hpaths : ∀ path ∈ samplePaths, strip path ≠ "" := by decide
  have hcaveats : ∀ caveat ∈ defaultCaveats, strip caveat ≠ "" := by decide
  obtain ⟨card', decision, hcard', hdecision, hiff⟩ :=
    baseline_gate_of_runs hne hruns hbenchmark none hreadable hpaths hcaveats
  cases hcard.symm.trans hcard'
  refine ⟨reports, benchmark, card, decision, hreports, hcard, hdecision, hiff.mpr ⟨?_, ?_, ?_⟩⟩
  · exact sampleEvidence_complete card
  · intro kind
    cases kind with
    | cash => rfl
    | buyAndHold => rfl
    | equalWeightBasket => rfl
    | taHeuristic => rfl
    | simpleMl => rfl
  · intro split
    cases split with
    | train => exact List.cons_ne_nil _ _
    | validation => exact List.cons_ne_nil _ _
    | test => exact List.cons_ne_nil _ _

end TaModel.Evaluation
