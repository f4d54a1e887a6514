import TaModel.Contracts.CanonicalJson
import TaModel.Contracts.ModelRegistry

/-!
# Trails of registry transitions

The transitions of one record, each from the state the one before led to, are its audit trail. Which
states a trail can visit is decided by `CanMove` alone (`trail_states_iff`); the archive and the
rejected state are never left for a promotion, and every promotion was approved by two persons
(`trail_safe`).
-/

set_option autoImplicit false

namespace TaModel.Contracts

section Trails

variable [Sha256]

/-- Valid transitions of one model version, in a row. -/
inductive Trail (recordId versionId : String) :
    ModelRegistryState → List ModelRegistryTransition → ModelRegistryState → Prop
  | nil (state : ModelRegistryState) : Trail recordId versionId state [] state
  | cons {t : ModelRegistryTransition} {ts : List ModelRegistryTransition}
      {final : ModelRegistryState} :
      ModelRegistryTransition.stamping.validate t = .ok () → t.registryRecordId = recordId →
      t.modelVersionId = versionId → Trail recordId versionId t.toState ts final →
      Trail recordId versionId t.fromState (t :: ts) final

/-! ## The lifecycle -/

omit [Sha256] in
/-- A terminal state is left for another terminal state only. -/
theorem CanMove.isTerminal {source target : ModelRegistryState} (h : CanMove source target)
    (hsource : source.isTerminal) : target.isTerminal := by
  have hreturn := h.no_return hsource
  cases target with
  | candidate => exact absurd rfl h.not_candidate
  | champion => exact absurd (.inl rfl) hreturn
  | shadow => exact absurd (.inr rfl) hreturn
  | archive => exact .inl rfl
  | rejected => exact .inr rfl

omit [Sha256] in
theorem not_isTerminal_of_isPromotion {state : ModelRegistryState} (h : state.isPromotion) :
    ¬ state.isTerminal := by
  rcases h with rfl | rfl
  · decide
  · decide

theorem Trail.isTerminal {recordId versionId : String} {start final : ModelRegistryState}
    {ts : List ModelRegistryTransition} (h : Trail recordId versionId start ts final)
    (hstart : start.isTerminal) : final.isTerminal := by
  induction h with
  | nil state => exact hstart
  | @cons t ts final hvalid _ _ _ ih =>
      obtain ⟨⟨hmove, -⟩, -⟩ := (ModelRegistryTransition.validate_eq_ok_iff t).mp hvalid
      exact ih (hmove.isTerminal hstart)

/-! ## Every allowed sequence of states has a trail -/

/-- Metadata that governs any state: one person reviews and another approves. -/
def governedTransition (recordId versionId : String) (source target : ModelRegistryState) :
    ModelRegistryTransition :=
  ModelRegistryTransition.stamping.sealed
    { transitionId := "", transitionHash := "", registryRecordId := recordId,
      modelVersionId := versionId, fromState := source, toState := target, actor := "operator",
      occurredAt := ⟨0, 0⟩, reason := "reason",
      rollbackPointer := some (buildRollbackPointer versionId recordId source "rollback"),
      review := some ⟨"reviewer", ⟨0, 0⟩, if target = .rejected then .rejected else .approved,
        "reviewed", none⟩,
      approval := if target.isPromotion then some ⟨"approver", ⟨0, 0⟩, "approved", "APPROVAL"⟩
        else none }

omit [Sha256] in
theorem reviewer_ne_approver : "reviewer" ≠ "approver" := by decide

theorem governedTransition_valid (recordId versionId : String) {source target : ModelRegistryState}
    (h : CanMove source target) :
    ModelRegistryTransition.stamping.validate
      (governedTransition recordId versionId source target) = .ok () := by
  rw [ModelRegistryTransition.validate_eq_ok_iff]
  refine ⟨⟨h, ?_, ?_, ?_⟩, rfl, rfl⟩
  · intro hpromotion
    have hpromotion : target.isPromotion := hpromotion
    have hnot : target ≠ .rejected := by
      rintro rfl
      exact absurd hpromotion (by decide)
    refine ⟨⟨_, rfl⟩, _, _, rfl, if_pos hpromotion, if_neg hnot, ?_, ?_⟩
    · exact reviewer_ne_approver
    · exact le_refl (⟨0, 0⟩ : AwareDatetime)
  · intro hrejected
    have hrejected : target = .rejected := hrejected
    subst hrejected
    exact ⟨rfl, rfl⟩
  · intro hcandidate
    exact absurd hcandidate h.not_candidate

/-- The states a trail can visit are those reached by allowed steps, whatever the record. -/
theorem trail_states_iff (recordId versionId : String) (start : ModelRegistryState)
    (states : List ModelRegistryState) :
    (∃ ts final, Trail recordId versionId start ts final ∧
        ts.map ModelRegistryTransition.toState = states) ↔
      (start :: states).IsChain CanMove := by
  constructor
  · rintro ⟨ts, final, htrail, rfl⟩
    induction htrail with
    | nil state => exact .singleton _
    | @cons t ts final hvalid _ _ _ ih =>
        obtain ⟨⟨hmove, -⟩, -⟩ := (ModelRegistryTransition.validate_eq_ok_iff t).mp hvalid
        exact .cons_cons hmove ih
  · intro hchain
    induction states generalizing start with
    | nil => exact ⟨[], start, .nil start, rfl⟩
    | cons target states ih =>
        obtain ⟨hmove, hrest⟩ := List.isChain_cons_cons.mp hchain
        obtain ⟨ts, final, htrail, hstates⟩ := ih target hrest
        refine ⟨governedTransition recordId versionId start target :: ts, final, ?_, ?_⟩
        · exact Trail.cons (governedTransition_valid recordId versionId hmove) rfl rfl htrail
        · rw [List.map_cons, hstates]
          rfl

/-- Whatever happened to a model version: a state that is not the first is never the candidate
state, each came with the metadata it needs, and a version that is promoted was neither archived nor
rejected before. -/
theorem trail_safe {recordId versionId : String} {start final : ModelRegistryState}
    {ts : List ModelRegistryTransition} (h : Trail recordId versionId start ts final) :
    (∀ t ∈ ts, t.toState ≠ .candidate ∧
      Governed t.toState t.rollbackPointer t.review t.approval) ∧
    (final.isPromotion → ¬ start.isTerminal ∧ ∀ t ∈ ts, ¬ t.toState.isTerminal) ∧
    (start.isTerminal → ∀ t ∈ ts, t.toState.isTerminal) := by
  induction h with
  | nil state =>
      exact ⟨List.forall_mem_nil _,
        fun hfinal => ⟨not_isTerminal_of_isPromotion hfinal, List.forall_mem_nil _⟩,
        fun _ => List.forall_mem_nil _⟩
  | @cons t ts final hvalid _ _ hrest ih =>
      obtain ⟨hsteps, hpromoted, hterminal⟩ := ih
      obtain ⟨⟨hmove, hgoverned⟩, -⟩ := (ModelRegistryTransition.validate_eq_ok_iff t).mp hvalid
      refine ⟨List.forall_mem_cons.mpr ⟨⟨hmove.not_candidate, hgoverned⟩, hsteps⟩, ?_, ?_⟩
      · intro hfinal
        obtain ⟨htarget, hlater⟩ := hpromoted hfinal
        -- had the source been terminal, the target would be
        exact ⟨fun hsource => htarget (hmove.isTerminal hsource),
          List.forall_mem_cons.mpr ⟨htarget, hlater⟩⟩
      · intro hsource
        have htarget := hmove.isTerminal hsource
        exact List.forall_mem_cons.mpr ⟨htarget, hterminal htarget⟩

end Trails

/-- A candidate that is a shadow before it is the champion. -/
theorem trail_safe_through_shadow :
    ∃ ts, @Trail hashlibSha256 "RECORD" "VERSION" .candidate ts .champion ∧ ts.length = 2 ∧
      ∀ t ∈ ts, ¬ (@ModelRegistryTransition.toState hashlibSha256 t).isTerminal := by
  let _ := hashlibSha256
  have hfirst : CanMove .candidate .shadow :=
    ⟨by decide, by decide, fun h => absurd h (by decide)⟩
  have hsecond : CanMove .shadow .champion :=
    ⟨by decide, by decide, fun h => absurd h (by decide)⟩
  have htrail : Trail "RECORD" "VERSION" .candidate
      [governedTransition "RECORD" "VERSION" .candidate .shadow,
        governedTransition "RECORD" "VERSION" .shadow .champion] .champion :=
    Trail.cons (governedTransition_valid _ _ hfirst) rfl rfl
      (Trail.cons (governedTransition_valid _ _ hsecond) rfl rfl (.nil _))
  exact ⟨_, htrail, rfl, ((trail_safe htrail).2.1 (.inl rfl)).2⟩

end TaModel.Contracts
