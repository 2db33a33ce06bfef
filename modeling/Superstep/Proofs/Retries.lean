import Superstep.Proofs.Digest
import Superstep.Proofs.Merge
import Superstep.Proofs.Sequential

/-! # Retries

A node that fails is called again in the next step, until it succeeds or has
used up its attempts. Siblings cannot interfere: each completion is routed from
the state that it alone has made, attempts are counted node by node, and nobody
else gives the node an output.
-/

namespace Superstep

/-- A call of a run that has ended, and the step in which it was made. -/
structure Execution where
  step : Step
  ending : Ending

def Step.executions (step : Step) (id : String) : List Execution :=
  ((endings step.happenings).filter (·.call.nodeId == id)).map (⟨step, ·⟩)

namespace History

def executions (h : History) (id : String) : List Execution :=
  h.steps.flatMap (·.executions id)

/-- Whether the execution of a node after so many others was a success, if there is
    one. -/
def success? (h : History) (id : String) (others : Nat) : Option Bool :=
  (h.executions id)[others]?.map (·.ending.answer.toBool)

/-- There is such an execution, and it failed. -/
def Fails (h : History) (id : String) (others : Nat) : Prop :=
  h.success? id others = some false

def Succeeds (h : History) (id : String) (others : Nat) : Prop :=
  h.success? id others = some true

def FirstActive (h : History) (id : String) (number : Nat) : Prop :=
  (h.steps.find? fun step => decide (id ∈ step.active)).map Step.number = some number

instance (h : History) (id : String) (others : Nat) : Decidable (h.Fails id others) :=
  inferInstanceAs (Decidable (_ = _))

instance (h : History) (id : String) (others : Nat) : Decidable (h.Succeeds id others) :=
  inferInstanceAs (Decidable (_ = _))

instance (h : History) (id : String) (number : Nat) : Decidable (h.FirstActive id number) :=
  inferInstanceAs (Decidable (_ = _))

@[simp] theorem executions_after (h : History) (step : Step) (id : String) :
    (h.after step).executions id = step.executions id ++ h.executions id :=
  List.flatMap_cons

end History

namespace Workflow

/-- What the node itself sees of an execution: the state at the start of the step
    with this completion alone. -/
def ownView (w : Workflow) (n : Node) (x : Execution) : State :=
  x.step.before.apply (w.completion x.step n x.ending).patch

/-- What an execution of a node does after a number of failures, in a run in which
    the node is first active in a given step. -/
structure Obeys (w : Workflow) (n : Node) (first failures : Nat) (x : Execution) : Prop where
  number : x.step.number = first + failures
  active : n.id ∈ x.step.active
  called : x.ending.call.attempt = failures + 1
  counted : (w.completion x.step n x.ending).patch.attempt = failures + 1
  success : x.ending.answer.toBool = true →
    (w.completion x.step n x.ending).patch.error = none ∧
      (w.completion x.step n x.ending).targets = w.openTargets n.id (w.ownView n x)
  retry : ∀ cause, x.ending.answer = .error cause → failures + 1 < n.maxAttempts →
    (w.completion x.step n x.ending).patch.error =
        some ("Node " ++ n.id ++ " failed (attempt " ++ toString (failures + 1) ++ " of " ++
          toString n.maxAttempts ++ "): " ++ cause.message) ∧
      (w.completion x.step n x.ending).targets = [n.id]
  exhausted : ∀ cause, x.ending.answer = .error cause → failures + 1 = n.maxAttempts →
    (w.completion x.step n x.ending).patch.error =
        some ("Node " ++ n.id ++ " failed after " ++ toString n.maxAttempts ++ " attempts: " ++
          cause.message) ∧
      ∀ router, w.routeOf n = .dynamic router →
        (w.completion x.step n x.ending).targets = w.fallbackTarget n.id (w.ownView n x)

end Workflow

namespace Visit

variable {w : Workflow} {v : Visit} {runId : String} {s : State}

def execution (v : Visit) (runId : String) (step : Step) : Execution :=
  ⟨step, v.ending runId step.before⟩

theorem attemptsOf_ownView (v : Visit) (runId : String) (s : State) :
    (s.apply (v.patch runId s)).attemptsOf v.node.id = s.attemptsOf v.node.id + 1 := by
  rw [State.attemptsOf_apply, if_pos (patch_nodeId ..).symm, patch_attempt]

theorem silent_ownView {cause : Failure} (answered : v.answer = .error cause)
    (silent : s.outputs.contains v.node.id = false) :
    (s.apply (v.patch runId s)).outputs.contains v.node.id = false := by
  have failed : (v.patch runId s).succeeded = false := by
    unfold patch Node.complete Patch.succeeded
    rw [answered]
    rfl
  rw [State.contains_apply, failed, Bool.and_false, silent, Bool.false_or]

theorem obeys {step : Step} {first failures : Nat} (number : step.number = first + failures)
    (active : v.node.id ∈ step.active) (counted : step.before.attemptsOf v.node.id = failures)
    (silent : step.before.outputs.contains v.node.id = false) :
    w.Obeys v.node first failures (v.execution runId step) := by
  have own := v.attemptsOf_ownView runId step.before
  rw [counted] at own
  have called : (v.node.callIn runId step.before).attempt = failures + 1 := by
    rw [← counted]
    rfl
  have failed {cause : Failure} (answered : v.answer = .error cause) :
      (step.before.apply (v.patch runId step.before)).error.isSome = true := by
    rw [State.error_apply, error_patch_error answered]
    rfl
  constructor
  case number => exact number
  case active => exact active
  case called => exact called
  case counted => exact (v.patch_attempt runId step.before).trans called
  case success =>
    intro succeeded
    cases answered : v.answer with
    | error cause => simp [execution, ending, answered, Except.toBool] at succeeded
    | ok output =>
        have clear : (v.patch runId step.before).error = none := error_patch_ok answered
        exact ⟨clear, Workflow.routeOf_next_success clear⟩
  -- The route reads the state at the start of the step with this completion alone, so
  -- nothing that siblings do in the step can stop the retry.
  case retry =>
    intro cause answered left
    have text : (v.node.callIn runId step.before).errorText cause =
        "Node " ++ v.node.id ++ " failed (attempt " ++ toString (failures + 1) ++ " of " ++
          toString v.node.maxAttempts ++ "): " ++ cause.message := by
      rw [Call.errorText, called]
      exact if_pos left
    refine ⟨(error_patch_error answered).trans (congrArg some text), ?_⟩
    apply Workflow.routeOf_next_retry (failed answered) (silent_ownView answered silent)
    · omega
    · omega
  case exhausted =>
    intro cause answered used
    have text : (v.node.callIn runId step.before).errorText cause =
        "Node " ++ v.node.id ++ " failed after " ++ toString v.node.maxAttempts ++
          " attempts: " ++ cause.message := by
      rw [Call.errorText, called, used]
      exact if_neg (Nat.lt_irrefl _)
    refine ⟨(error_patch_error answered).trans (congrArg some text), ?_⟩
    intro router route
    apply Workflow.routeOf_next_exhausted route (failed answered)
    omega

end Visit

/-- A node that is active after a number of failures and has no output. -/
structure Node.Retrying (n : Node) (failures : Nat) (active : List String) (s : State) : Prop where
  awake : n.id ∈ active
  counted : s.attemptsOf n.id = failures
  silent : s.outputs.contains n.id = false

/-- A failure that leaves attempts over leads back to its node and nowhere else. -/
theorem Visit.targets_of_failure {w : Workflow} {runId : String} {active : List String}
    {s : State} {failures : Nat} (v : Visit) (state : v.node.Retrying failures active s)
    (failed : v.answer.toBool = false) (left : failures + 1 < v.node.maxAttempts) :
    v.targets w runId s = [v.node.id] := by
  obtain ⟨cause, answered⟩ := exists_error failed
  have obeys : w.Obeys v.node 0 failures (v.execution runId ⟨0 + failures, active, s, []⟩) :=
    Visit.obeys rfl state.awake state.counted state.silent
  exact (obeys.retry cause answered left).2

namespace Round

variable {w : Workflow} {b : Behaviour} {runId : String} {active unended : List String}
  {s : State} {visits : List Visit} {number : Nat} {happenings : List Happening}

theorem executions_eq (told : endings happenings = visits.map (·.ending runId s)) (id : String) :
    Step.executions ⟨number, active, s, happenings⟩ id =
      (visits.filter (·.node.id == id)).map
        (·.execution runId ⟨number, active, s, happenings⟩) := by
  unfold Step.executions
  rw [told, List.filter_map, List.map_map]
  rfl

theorem executions_visited (round : Round w b runId active s visits unended)
    (told : endings happenings = visits.map (·.ending runId s)) {v : Visit} (among : v ∈ visits) :
    Step.executions ⟨number, active, s, happenings⟩ v.node.id =
      [v.execution runId ⟨number, active, s, happenings⟩] := by
  have once : visits.filter (·.node.id == v.node.id) = [v] := by
    have distinct := round.ids_nodup
    clear round told
    induction visits with
    | nil => cases among
    | cons u rest ih =>
        rw [List.map_cons, List.nodup_cons] at distinct
        obtain ⟨fresh, distinct⟩ := distinct
        rcases List.mem_cons.1 among with rfl | later
        · have others : rest.filter (·.node.id == v.node.id) = [] := by
            rw [List.filter_eq_nil_iff]
            intro u member same
            exact fresh (List.mem_map.2 ⟨u, member, eq_of_beq same⟩)
          rw [List.filter_cons, if_pos (beq_self_eq_true _), others]
        · have differ : ¬ (u.node.id == v.node.id) = true := fun same =>
            fresh (List.mem_map.2 ⟨v, later, (eq_of_beq same).symm⟩)
          rw [List.filter_cons, if_neg differ]
          exact ih later distinct
  rw [executions_eq told, once]
  rfl

theorem executions_idle (told : endings happenings = visits.map (·.ending runId s)) {id : String}
    (idle : ∀ v ∈ visits, v.node.id ≠ id) :
    Step.executions ⟨number, active, s, happenings⟩ id = [] := by
  rw [executions_eq told, List.map_eq_nil_iff, List.filter_eq_nil_iff]
  intro v among same
  exact idle v among (eq_of_beq same)

theorem retrying (round : Round w b runId active s visits unended) {v : Visit}
    (among : v ∈ visits) {failures : Nat} (state : v.node.Retrying failures active s)
    (failed : v.answer.toBool = false) (left : failures + 1 < v.node.maxAttempts) :
    v.node.Retrying (failures + 1) (w.activeAfter runId s visits) (s.afterVisits runId visits) := by
  constructor
  case awake =>
    rw [Workflow.activeAfter, List.mem_eraseDups, List.mem_flatMap]
    exact ⟨v, among, v.targets_of_failure state failed left ▸ List.mem_singleton_self _⟩
  case counted => rw [round.attemptsOf_afterVisits among, state.counted]
  case silent =>
    rw [contains_afterVisits, state.silent, Bool.or_false, List.any_eq_false]
    intro u other succeeded
    rw [Bool.and_eq_true, decide_eq_true_eq] at succeeded
    rw [round.visit_unique other among succeeded.1, failed] at succeeded
    exact absurd succeeded.2 Bool.false_ne_true

end Round

namespace History

variable {h : History} {step : Step} {id : String} {x : Execution}

theorem success?_after_zero (once : step.executions id = [x]) :
    (h.after step).success? id 0 = some x.ending.answer.toBool := by
  simp [success?, once]

theorem success?_after_succ (once : step.executions id = [x]) (i : Nat) :
    (h.after step).success? id (i + 1) = h.success? id i := by
  simp [success?, once]

end History

namespace Course

variable {w : Workflow} {b : Behaviour} {runId : String} {limit left number : Nat}
  {active : List String} {s : State} {h : History} {n : Node}

theorem exists_execution (valid : w.Valid) (member : n ∈ w.nodes) {visits : List Visit}
    {happenings : List Happening} (round : Round w b runId active s visits [])
    (told : endings happenings = visits.map (·.ending runId s)) (awake : n.id ∈ active) :
    ∃ v ∈ visits, v.node = n ∧ ∀ number, Step.executions ⟨number, active, s, happenings⟩ n.id =
      [v.execution runId ⟨number, active, s, happenings⟩] := by
  obtain ⟨v, among, same⟩ := round.exists_visit awake
  obtain rfl := valid.node_unique (round.inside v among) member same
  exact ⟨v, among, rfl, fun _ => round.executions_visited told among⟩

/-- As long as a node has failed only, its next execution obeys the rules. -/
theorem obeys (valid : w.Valid) (member : n ∈ w.nodes)
    (course : Course w b runId limit left number active s h) {first failures : Nat}
    (numbered : number = first + failures) (state : n.Retrying failures active s) :
    ∀ more, failures + more < n.maxAttempts → (∀ i < more, h.Fails n.id i) →
      ∀ x, (h.executions n.id)[more]? = some x → w.Obeys n first (failures + more) x := by
  induction course generalizing failures with
  | finished => exact (List.not_mem_nil state.awake).elim
  | limited =>
      intro more _ _ x found
      cases found
  | crashed busy round told =>
      intro more left failed x found
      have listed := List.mem_of_getElem? found
      simp only [History.executions, List.flatMap_cons, List.flatMap_nil, List.append_nil]
        at found listed
      rw [Round.executions_eq told] at listed
      obtain ⟨v, visited, rfl⟩ := List.mem_map.1 listed
      obtain ⟨among, same⟩ := List.mem_filter.1 visited
      obtain rfl := valid.node_unique (round.inside v among) member (eq_of_beq same)
      rw [round.executions_visited told among] at found
      cases more with
      | zero => exact Visit.obeys numbered state.awake state.counted state.silent
      | succ more => cases found
  | @step _ number _ _ _ _ _ busy round told later ih =>
      obtain ⟨v, among, rfl, executed⟩ := exists_execution valid member round told state.awake
      have once := executed number
      intro more left failed x found
      rw [History.executions_after, once] at found
      cases more with
      | zero =>
          obtain rfl := Option.some.inj found
          exact Visit.obeys numbered state.awake state.counted state.silent
      | succ more =>
          -- The execution of this step failed. Later ones are counted from the next step,
          -- where the node has one failure more behind it.
          have answer := failed 0 (Nat.succ_pos _)
          rw [History.Fails, History.success?_after_zero once, Option.some.injEq] at answer
          have next := round.retrying among state answer (by omega)
          have rest : ∀ i < more, History.Fails _ v.node.id i := fun i before =>
            (History.success?_after_succ once i).symm.trans
              (failed (i + 1) (Nat.succ_lt_succ before))
          have := ih (by omega) next more (by omega) rest x found
          rwa [Nat.add_assoc, Nat.add_comm 1] at this

/-- If nothing cuts the run off, a node that has failed only goes on until it
    succeeds or has used up its attempts. -/
theorem answers (valid : w.Valid) (member : n ∈ w.nodes)
    (course : Course w b runId limit left number active s h) {failures : Nat}
    (state : n.Retrying failures active s) (few : failures < n.maxAttempts) {last : State}
    (whole : h.outcome = .ok last) :
    ∃ more, failures + more < n.maxAttempts ∧ (∀ i < more, h.Fails n.id i) ∧
      (h.Succeeds n.id more ∨ failures + more + 1 = n.maxAttempts ∧ h.Fails n.id more) := by
  induction course generalizing failures with
  | finished => exact (List.not_mem_nil state.awake).elim
  | limited => cases whole
  | crashed => cases whole
  | @step _ number active s happenings _ h busy round told later ih =>
      obtain ⟨v, among, rfl, executed⟩ := exists_execution valid member round told state.awake
      have once := executed number
      cases answer : v.answer.toBool with
      | true =>
          refine ⟨0, few, fun i before => (Nat.not_lt_zero i before).elim, .inl ?_⟩
          rw [History.Succeeds, History.success?_after_zero once]
          exact congrArg some answer
      | false =>
          have failedNow : (h.after ⟨number, active, s, happenings⟩).Fails v.node.id 0 := by
            rw [History.Fails, History.success?_after_zero once]
            exact congrArg some answer
          by_cases up : failures + 1 = v.node.maxAttempts
          · refine ⟨0, few, fun i before => (Nat.not_lt_zero i before).elim, .inr ⟨up, ?_⟩⟩
            exact failedNow
          · have next := round.retrying among state answer (by omega)
            obtain ⟨more, left, failed, ends⟩ := ih next (by omega) whole
            refine ⟨more + 1, by omega, ?_, ?_⟩
            · intro i before
              cases i with
              | zero => exact failedNow
              | succ i => exact (History.success?_after_succ once i).trans (failed i (by omega))
            · rcases ends with succeeded | ⟨up, failedLast⟩
              · exact .inl ((History.success?_after_succ once more).trans succeeded)
              · exact .inr ⟨by omega, (History.success?_after_succ once more).trans failedLast⟩

/-- Before its first activation a node does nothing, so the course from there on
    has all of its executions. -/
theorem from_first (course : Course w b runId limit left number active s h) {id : String}
    (counted : s.attemptsOf id = 0) (silent : s.outputs.contains id = false) {first : Nat}
    (reached : h.FirstActive id first) :
    ∃ left active s h', Course w b runId limit left first active s h' ∧ id ∈ active ∧
      s.attemptsOf id = 0 ∧ s.outputs.contains id = false ∧
      h'.executions id = h.executions id ∧ h'.outcome = h.outcome := by
  induction course with
  | finished => cases reached
  | limited => cases reached
  | @crashed left number active _ s _ _ busy round told may =>
      by_cases awake : id ∈ active
      · have same : number = first := by simpa [History.FirstActive, awake] using reached
        subst same
        exact ⟨left + 1, _, _, _, .crashed busy round told may, awake, counted, silent, rfl, rfl⟩
      · simp [History.FirstActive, awake] at reached
  | @step left number active s _ visits rest busy round told later ih =>
      by_cases awake : id ∈ active
      · have same : number = first := by
          simpa [History.FirstActive, History.after, awake] using reached
        subst same
        exact ⟨left + 1, _, _, _, .step busy round told later, awake, counted, silent, rfl, rfl⟩
      · have unvisited : ∀ v ∈ visits, v.node.id ≠ id := fun v among same =>
          awake (same ▸ round.mem_active among)
        have stillCounted := (round.attemptsOf_afterVisits_other awake).trans counted
        have stillSilent := (round.contains_afterVisits_other awake).trans silent
        have reachedLater : rest.FirstActive id first := by
          simpa [History.FirstActive, History.after, awake] using reached
        obtain ⟨left, active, s, h', course, found, counts, silence, same, ends⟩ :=
          ih stillCounted stillSilent reachedLater
        refine ⟨left, active, s, h', course, found, counts, silence, ?_, ends⟩
        rw [History.executions_after, Round.executions_idle told unvisited]
        exact same

end Course

/-- Retries of at most 32 bits give one attempt more, as far as 32 bits go. -/
theorem Node.maxAttempts_of_fits (n : Node) (some_ : 0 ≤ n.maxRetries)
    (fits : n.maxRetries < twoTo 32) :
    (n.maxAttempts : Int) = min (n.maxRetries + 1) (twoTo 32 - 1) := by
  have bits : twoTo 32 = 4294967296 := rfl
  unfold maxAttempts
  simp only [some_, fits, and_self, if_true]
  omega

theorem Node.maxAttempts_of_retries {n : Node} {k : Nat} (retries : n.maxRetries = k)
    (small : k ≤ twoTo 32 - 2) : n.maxAttempts = k + 1 := by
  have bits : twoTo 32 = 4294967296 := rfl
  have attempts := n.maxAttempts_of_fits (by omega) (by omega)
  omega

section

variable {τ ε : Type} {e : Engine τ ε} {w : Workflow} {runId prompt : String}
  {given : Metadata} {t : τ}

/-- Whatever its siblings do, a node with `k` retries is executed in one step after
    another from its first activation on, until it succeeds or has failed `k + 1`
    times; each failure leads back to the node alone, a success along the edges that
    are open in its own view, and the last failure along the first edge whose
    condition holds there. -/
theorem retries_regardless_of_siblings (faithful : e.worker.Faithful) {start : String}
    {h : History} (ran : (e.run w runId prompt given t).2.course = .ok (start, h)) {n : Node}
    (member : n ∈ w.nodes) {k : Nat} (retries : n.maxRetries = k) (small : k ≤ twoTo 32 - 2)
    {first : Nat} (reached : h.FirstActive n.id first) :
    (∀ j ≤ k, (∀ i < j, h.Fails n.id i) → h.Succeeds n.id j →
      ∀ i ≤ j, ∃ x, (h.executions n.id)[i]? = some x ∧ x.step.number = first + i ∧
        n.id ∈ x.step.active ∧ x.ending.call.attempt = i + 1 ∧
        (w.completion x.step n x.ending).targets =
          if i < j then [n.id] else w.openTargets n.id (w.ownView n x)) ∧
    ((∀ i ≤ k, h.Fails n.id i) →
      ∀ i ≤ k, ∃ x cause, (h.executions n.id)[i]? = some x ∧ x.step.number = first + i ∧
        n.id ∈ x.step.active ∧ x.ending.call.attempt = i + 1 ∧ x.ending.answer = .error cause ∧
        (i < k →
          (w.completion x.step n x.ending).patch.error =
              some ("Node " ++ n.id ++ " failed (attempt " ++ toString (i + 1) ++ " of " ++
                toString (k + 1) ++ "): " ++ cause.message) ∧
            (w.completion x.step n x.ending).targets = [n.id]) ∧
        (i = k →
          (w.completion x.step n x.ending).patch.error =
              some ("Node " ++ n.id ++ " failed after " ++ toString (k + 1) ++ " attempts: " ++
                cause.message) ∧
            ∀ router, w.routeOf n = .dynamic router →
              (w.completion x.step n x.ending).targets =
                w.fallbackTarget n.id (w.ownView n x))) ∧
    (∀ last, h.outcome = .ok last →
      ∃ j ≤ k, (∀ i < j, h.Fails n.id i) ∧ (h.Succeeds n.id j ∨ j = k ∧ h.Fails n.id k)) ∧
    h.steps.IsChain w.Follows := by
  obtain ⟨valid, _, course⟩ := Engine.course_of_run faithful (e.worker.shows_any e.resolve) ran
  have most := Node.maxAttempts_of_retries retries small
  obtain ⟨left, active, s, h', later, awake, counted, silent, same, ends⟩ :=
    course.from_first rfl rfl reached
  have state : n.Retrying 0 active s := ⟨awake, counted, silent⟩
  have obeys {i : Nat} (few : i ≤ k) (failed : ∀ l < i, h.Fails n.id l) {x : Execution}
      (found : (h.executions n.id)[i]? = some x) : w.Obeys n first i x := by
    have failed' : ∀ l < i, h'.Fails n.id l := by
      simpa only [History.Fails, History.success?, same] using failed
    have := later.obeys valid member (Nat.add_zero first).symm state i (by omega) failed' x
      (same ▸ found)
    rwa [Nat.zero_add] at this
  refine ⟨?_, ?_, ?_, (course.chained valid).1⟩
  · intro j few failed succeeded i upTo
    by_cases before : i < j
    · obtain ⟨x, found, answer⟩ := Option.map_eq_some_iff.1 (failed i before)
      have rules := obeys (by omega) (fun l earlier => failed l (by omega)) found
      obtain ⟨cause, answered⟩ := exists_error answer
      refine ⟨x, found, rules.number, rules.active, rules.called, ?_⟩
      rw [if_pos before]
      exact (rules.retry cause answered (by omega)).2
    · obtain rfl : i = j := by omega
      obtain ⟨x, found, answer⟩ := Option.map_eq_some_iff.1 succeeded
      have rules := obeys few failed found
      refine ⟨x, found, rules.number, rules.active, rules.called, ?_⟩
      rw [if_neg before]
      exact (rules.success answer).2
  · intro failed i few
    obtain ⟨x, found, answer⟩ := Option.map_eq_some_iff.1 (failed i few)
    have rules := obeys few (fun l earlier => failed l (by omega)) found
    obtain ⟨cause, answered⟩ := exists_error answer
    refine ⟨x, cause, found, rules.number, rules.active, rules.called, answered, ?_, ?_⟩
    · intro early
      have := rules.retry cause answered (by omega)
      rwa [most] at this
    · rintro rfl
      have := rules.exhausted cause answered most.symm
      rwa [most] at this
  · intro last outcome
    obtain ⟨j, few, failed, answer⟩ :=
      later.answers valid member state (by omega) (ends.trans outcome)
    simp only [History.Fails, History.Succeeds, History.success?, same] at failed answer
    refine ⟨j, by omega, failed, ?_⟩
    rcases answer with succeeded | ⟨up, failedLast⟩
    · exact .inl succeeded
    · obtain rfl : j = k := by omega
      exact .inr ⟨rfl, failedLast⟩

end

/-! ## Two siblings -/

namespace Siblings

/-- A node that is attempted twice. -/
def twice (id : String) : Node :=
  { Node.plain id "work" with maxRetries := 1 }

/-- Two nodes side by side that are attempted twice. Each has an edge for failures and
    one that is not for failures. -/
def flow : Workflow where
  plan := ""
  diagram := ""
  nodes := [.plain "a" "work", twice "b", twice "c", .plain "d" "work"]
  edges := [.always "a" "b", .always "a" "c", .conditional "b" "a" "error !== null",
    .conditional "b" "d" "error === null", .always "c" "a", .conditional "c" "d" "error !== null"]
  startNode := "a"
  endNode := "d"
  initialMetadata := none

/-- One of the two fails at first, the other one always. -/
def answer (id : String) (attempt : Nat) : Answer :=
  if id = "c" ∨ id = "b" ∧ attempt = 1 then .error (.task "work" "not yet")
  else .ok ("done " ++ id)

def engine : Engine Unit (Call → Answer) where
  settings := {}
  resolve _ := .ok fun call => answer call.nodeId call.attempt
  openSessions _ t := (t, .ok ())
  worker := .oneByOne id

theorem ready : engine.Ready flow () where
  valid := by decide +kernel
  resolved _ _ := ⟨_, rfl⟩
  opened _ _ := rfl
  calm _ _ := rfl

end Siblings

open Siblings in
theorem retries_regardless_of_siblings_side_by_side :
    ∃ h, (engine.run flow "one" "go" .empty ()).2.course = .ok ("a", h) ∧
      (∀ i ≤ 1, ∃ x, (h.executions "b")[i]? = some x ∧ x.step.number = 2 + i ∧
        "b" ∈ x.step.active ∧ x.ending.call.attempt = i + 1 ∧
        (flow.completion x.step (twice "b") x.ending).targets =
          if i < 1 then ["b"] else flow.openTargets "b" (flow.ownView (twice "b") x)) ∧
      (∃ x cause, (h.executions "c")[0]? = some x ∧ x.ending.answer = .error cause ∧
        (flow.completion x.step (twice "c") x.ending).patch.error =
          some ("Node c failed (attempt 1 of 2): " ++ cause.message) ∧
        (flow.completion x.step (twice "c") x.ending).targets = ["c"]) ∧
      ∃ x cause, (h.executions "c")[1]? = some x ∧ x.ending.answer = .error cause ∧
        (flow.completion x.step (twice "c") x.ending).patch.error =
          some ("Node c failed after 2 attempts: " ++ cause.message) ∧
        (flow.completion x.step (twice "c") x.ending).targets =
          flow.fallbackTarget "c" (flow.ownView (twice "c") x) ∧
        flow.fallbackTarget "c" (flow.ownView (twice "c") x) = ["d"] := by
  obtain ⟨h, ran⟩ := ready.exists_history "one" "go" .empty
  have facts : (match (engine.run flow "one" "go" .empty ()).2.course with
      | .ok (_, h) => decide (h.FirstActive "b" 2 ∧ h.FirstActive "c" 2 ∧
          h.Fails "b" 0 ∧ h.Succeeds "b" 1 ∧ h.Fails "c" 0 ∧ h.Fails "c" 1 ∧
          (h.executions "c")[1]?.map (fun x =>
            flow.fallbackTarget "c" (flow.ownView (twice "c") x)) = some ["d"])
      | .error _ => false) = true := by
    decide +kernel
  rw [ran] at facts
  obtain ⟨reached₁, reached₂, failed, succeeded, failed₁, failed₂, held⟩ :=
    of_decide_eq_true facts
  have protocol (id : String) (member : twice id ∈ flow.nodes)
      (reached : h.FirstActive (twice id).id 2) :=
    retries_regardless_of_siblings (Worker.oneByOne_faithful fun _ => .refl _) ran member rfl
      (show 1 ≤ twoTo 32 - 2 by decide) reached
  obtain ⟨succeeding, _⟩ := protocol "b" (by simp [flow]) reached₁
  obtain ⟨_, failing, _⟩ := protocol "c" (by simp [flow]) reached₂
  have both : ∀ i ≤ 1, h.Fails "c" i := by
    intro i few
    obtain rfl | rfl : i = 0 ∨ i = 1 := by omega
    · exact failed₁
    · exact failed₂
  refine ⟨h, ran, succeeding 1 (Nat.le_refl 1) (fun i before => ?_) succeeded, ?_, ?_⟩
  · obtain rfl : i = 0 := by omega
    exact failed
  · obtain ⟨x, cause, found, _, _, _, answered, early, _⟩ := failing both 0 (Nat.zero_le 1)
    exact ⟨x, cause, found, answered, early Nat.one_pos⟩
  · obtain ⟨x, cause, found, _, _, _, answered, _, last⟩ := failing both 1 (Nat.le_refl 1)
    obtain ⟨error, routed⟩ := last rfl
    rw [show (h.executions "c")[1]? = some x from found, Option.map_some, Option.some.injEq] at held
    exact ⟨x, cause, found, answered, error, routed _ rfl, held⟩

end Superstep
