import Sandboard.Store.Shaping
import Sandboard.Supervisor.Verdict

/-!
# What settling a run edits

The settling of a run asks, proposes, records a pull request, reports or bounces, and nothing else:
it respects every relation that allows these edits of the card, whatever the verdict files say.
-/

namespace Sandboard

namespace Supervisor

open Board

/-- The edits that the settling of a run makes are among `E`. -/
structure SettlesIn (E : ItemId → (WorkItem → WorkItem) → Prop) (id : ItemId) : Prop where
  ask : ∀ question options recommended now,
    E id (WorkItem.asking question options recommended now)
  propose : ∀ proposal, E id (WorkItem.withProposal proposal)
  record : ∀ needle pr, E id (WorkItem.withReportedPr needle pr)
  list : ∀ prs, E id (WorkItem.withPullRequests prs)
  report : ∀ added removed gates, E id (WorkItem.reported added removed gates)
  bounce : ∀ reason, E id (WorkItem.bounced reason)

section Settle

variable {ε α : Type} {E : ItemId → (WorkItem → WorkItem) → Prop}
  {R : BoardState → BoardState → Prop} {id : ItemId} {agentId branch : String} {w : Answers}
  {file : VerdictFile} (hS : Shapes E (fun _ _ _ => True) R) (hE : SettlesIn E id)

lemma within_parsed {what : String} (r : Except String α) : Within R (parsed what r) := by
  cases r with
  | ok a => exact within_pure a
  | error e => exact within_fail _

include hS

lemma shaped_cardIs (p : WorkItem → Bool) : Within R (cardIs id p) :=
  within_bind (within_get hS.toLax id) fun _ => within_pure _

include hE

lemma shaped_recordPr (pr : PullRequest) : Within R (recordPr id pr) :=
  within_bind (within_mapErr (within_reportPullRequest hS.toLax fun s needle pr =>
    hS.edit s (hE.record needle pr))) fun _ => within_pure ()

lemma shaped_releaseWithReason {agentId : String} (reason : Option String) :
    Within R (releaseWithReason id agentId reason) :=
  within_releaseWithReason hS.toLax fun s now =>
    shaped_releaseSection hS trivial hE.bounce now s

variable [UnicodeTables]

lemma shaped_ask {what question : String} {options : List EscalationOption} :
    Within R (ask id agentId what question options) :=
  within_bind (within_mapErr (shaped_escalate hS trivial (hE.ask _ _ _))) fun _ => within_pure ()

lemma shaped_reportRun {added removed : UInt32} {gates : List String} :
    Within R (reportRun id agentId added removed gates) :=
  within_bind (within_mapErr (shaped_report hS trivial (hE.report _ _ _))) fun _ =>
    within_pure ()

lemma shaped_escalateMissing (detail : String) :
    Within R (escalateMissing id agentId detail) :=
  within_bind (shaped_ask hS hE) fun _ => within_pure true

lemma shaped_applyInitialPlanSidecar :
    Within R (applyInitialPlanSidecar w id agentId) := by
  unfold applyInitialPlanSidecar
  split
  · exact shaped_escalateMissing hS hE _
  · exact shaped_escalateMissing hS hE _
  · exact shaped_escalateMissing hS hE _
  · split
    · exact shaped_escalateMissing hS hE _
    · refine within_bind (within_attempt (shaped_setProposal hS (hE.propose _))) fun r => ?_
      cases r with
      | ok item => exact within_pure false
      | error e => exact shaped_escalateMissing hS hE _

lemma shaped_settleEscalate : Within R (settleEscalate id agentId file) :=
  within_bind (within_parsed _) fun _ =>
    within_bind (within_mapErr (shaped_escalate hS trivial (hE.ask _ _ _))) fun _ =>
      within_pure true

lemma shaped_settleSplit : Within R (settleSplit w id agentId file) := by
  refine within_bind (shaped_cardIs hS _) fun initial => ?_
  split
  · exact within_bind (shaped_ask hS hE) fun _ => within_pure true
  · refine within_bind (within_parsed _) fun split =>
      within_bind (within_get hS.toLax id) fun card =>
        within_bind (within_onSome fun url => within_setPrUrl hS.toLax fun s prs =>
          hS.edit s (hE.list prs)) fun _ =>
          within_bind (within_attempt (shaped_proposeSplit hS (fun _ => trivial) hE.propose
            hE.ask)) fun r => ?_
    cases r with
    | ok item => exact within_pure true
    | error e =>
      exact within_bind (shaped_cardIs hS _) fun asked =>
        within_bind (within_when fun _ => shaped_ask hS hE) fun _ => within_pure true

/-- The plan is stored, and reported unless a human is asked. -/
lemma shaped_planned {added removed : UInt32} {gates : List String} :
    Within R (applyInitialPlanSidecar w id agentId >>= fun asked =>
      if asked then pure true
      else reportRun id agentId added removed gates >>= fun _ => pure true) := by
  refine within_bind (shaped_applyInitialPlanSidecar hS hE) fun asked => ?_
  split
  · exact within_pure true
  · exact within_bind (shaped_reportRun hS hE) fun _ => within_pure true

lemma shaped_settlePlan : Within R (settlePlan w id agentId) := by
  refine within_bind (shaped_cardIs hS _) fun initial => ?_
  split
  · exact shaped_planned hS hE
  · exact within_bind (shaped_ask hS hE) fun _ => within_pure true

lemma shaped_publishReport (rep : ReportFile) :
    Within R (publishReport w id agentId branch rep) := by
  refine within_bind (within_get hS.toLax id) fun card => within_bind (within_ret _) fun pr =>
    within_bind (shaped_recordPr hS hE pr) fun _ => ?_
  dsimp only
  split
  · exact within_bind (within_mapErr (shaped_releaseWithReason hS hE _)) fun _ => within_pure true
  · exact within_bind (shaped_reportRun hS hE) fun _ => within_pure true

lemma shaped_settleReport : Within R (settleReport w id agentId branch file) := by
  refine within_bind (within_parsed _) fun rep => within_bind (within_onSome fun pr =>
    within_bind (within_attempt (within_reportPullRequest hS.toLax fun s needle pr =>
      hS.edit s (hE.record needle pr))) fun _ => within_pure ()) fun _ =>
      within_bind (shaped_cardIs hS _) fun initial => ?_
  split
  · exact shaped_planned hS hE
  · refine within_bind (shaped_cardIs hS _) fun proposed => ?_
    split
    · exact within_bind (shaped_ask hS hE) fun _ => within_pure true
    · exact shaped_publishReport hS hE rep

lemma shaped_processVerdict : Within R (processVerdict w id agentId branch) := by
  unfold processVerdict
  split
  · exact within_pure false
  · refine within_bind (within_ret _) fun _ => within_bind (within_ret _) fun file => ?_
    split
    · exact shaped_settleEscalate hS hE
    · split
      · exact shaped_settleSplit hS hE
      · split
        · exact shaped_settlePlan hS hE
        · split
          · exact shaped_settleReport hS hE
          · exact within_pure false

lemma shaped_publishRun (run : Output) : Within R (publishRun w id agentId branch run) := by
  unfold publishRun
  split
  · exact within_fail _
  · refine within_bind (within_ret _) fun out => ?_
    split
    · exact within_fail _
    · split
      · exact within_fail _
      · refine within_bind (shaped_recordPr hS hE _) fun _ => ?_
        split
        · exact within_bind (within_mapErr (shaped_releaseWithReason hS hE _)) fun _ =>
            within_pure ()
        · exact shaped_reportRun hS hE

/-- The sections of the settling of a run respect every relation that allows its edits. -/
theorem shaped_finish (run : Output) : Within R (finish w id agentId branch run) := by
  refine within_bind (shaped_processVerdict hS hE) fun settled => ?_
  split
  · exact within_pure ()
  · refine within_bind (shaped_cardIs hS _) fun initial => ?_
    split
    · exact shaped_ask hS hE
    · exact shaped_publishRun hS hE run

end Settle

end Supervisor

end Sandboard
