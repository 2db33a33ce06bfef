import Superstep.Proofs.Digest
import Superstep.Proofs.Names
import Superstep.Proofs.Runs
import Superstep.Proofs.Sequential

/-! # Confluence of runs

In which order the calls of a step end decides about the error, the current node
and the order of the outputs, and about nothing else: no later step reads these.
Two runs whose executors give the same answers therefore agree step by step, as
long as no two nodes of a step write the same metadata and neither has a cap that
cannot be kept. The argument is a
simulation that keeps the active nodes, as a set, and the digest of the state.
-/

namespace Superstep

/-- What the hooks of the node add does not depend on how long a call took. -/
def Node.IgnoresElapsed (n : Node) : Prop :=
  ∀ s call output error a b,
    hookMetadata n.onSuccess (hookContext s call output error a) =
        hookMetadata n.onSuccess (hookContext s call output error b) ∧
      hookMetadata n.onError (hookContext s call output error a) =
        hookMetadata n.onError (hookContext s call output error b)

namespace Node

theorem hookContext_alike (s : State) (call : Call) (output error : Option String) (a b : Nat)
    {names : List String} (unread : "elapsedMs" ∉ names) :
    Expression.Alike (hookContext s call output error a) (hookContext s call output error b)
      names := by
  intro name member
  have other : name ≠ "elapsedMs" := fun same => unread (same ▸ member)
  simp [hookContext, KeyMap.ofList, KeyMap.insertAll, other]

/-- Hooks in which the time does not occur ignore it. -/
theorem ignoresElapsed_of_names {n : Node}
    (unread : ∀ source, n.onSuccess = some source ∨ n.onError = some source →
      ∀ e, Expression.parse source = .ok e → "elapsedMs" ∉ e.names) : n.IgnoresElapsed := by
  intro s call output error a b
  constructor
  · cases hook : n.onSuccess with
    | none => rfl
    | some source =>
        apply Expression.runHook_congr
        intro e parsed
        exact hookContext_alike s call output error a b (unread source (.inl hook) e parsed)
  · cases hook : n.onError with
    | none => rfl
    | some source =>
        apply Expression.runHook_congr
        intro e parsed
        exact hookContext_alike s call output error a b (unread source (.inr hook) e parsed)

section

variable {s₁ s₂ : State} (same : s₁.digest = s₂.digest)

include same

theorem callIn_congr (n : Node) (runId : String) : n.callIn runId s₁ = n.callIn runId s₂ := by
  have alike := State.alikeTo_of_digest same n.id
  unfold callIn
  rw [alike.attempts, instructionIn_of_alike alike]

theorem hookContext_congr (call : Call) (output error : Option String) (elapsed : Nat) :
    hookContext s₁ call output error elapsed = hookContext s₂ call output error elapsed := by
  unfold hookContext
  rw [State.metadata_of_digest same]

end

/-- The patch of a completion depends on the digest of the state and the answer,
    but not on the run and on the time that the call took. -/
theorem complete_congr {n : Node} (timeless : n.IgnoresElapsed) {s₁ s₂ : State}
    (same : s₁.digest = s₂.digest) (r₁ r₂ : String) (answer : Answer) (a b : Nat) :
    n.complete s₁ (n.callIn r₁ s₁) answer a = n.complete s₂ (n.callIn r₂ s₂) answer b := by
  have runs (output error : Option String) (elapsed : Nat) :
      hookContext s₂ (n.callIn r₁ s₂) output error elapsed =
        hookContext s₂ (n.callIn r₂ s₂) output error elapsed := rfl
  rw [n.callIn_congr same]
  cases answer with
  | ok output =>
      simp only [complete, hookContext_congr same, runs]
      rw [(timeless s₂ _ (some output) none a b).1]
      rfl
  | error cause =>
      have text : (n.callIn r₁ s₂).errorText cause = (n.callIn r₂ s₂).errorText cause := rfl
      simp only [complete, hookContext_congr same, runs, text]
      rw [(timeless s₂ _ none (some ((n.callIn r₂ s₂).errorText cause)) a b).2]
      rfl

end Node

namespace Workflow

variable {w : Workflow}

/-- No two completions of a step write the same metadata. -/
def MetadataApart (w : Workflow) (step : Step) : Prop :=
  (w.patches step).Pairwise fun p q =>
    ∀ key ∈ p.metadata.keys, q.metadata.contains key = false

instance (w : Workflow) (step : Step) : Decidable (w.MetadataApart step) :=
  inferInstanceAs (Decidable (List.Pairwise _ _))

/-- The same nodes are active in two steps, and the states before and after them
    differ in nothing but the order of outputs, the error and the current node. -/
structure StepsAgree (w : Workflow) (step₁ step₂ : Step) : Prop where
  number : step₁.number = step₂.number
  active : step₁.active.Perm step₂.active
  before : step₁.before.digest = step₂.before.digest
  after : (w.stateAfter step₁).digest = (w.stateAfter step₂).digest

end Workflow

/-- Two runs end alike, or both reach the limit of steps with the same active
    nodes. -/
inductive OutcomesAgree : Except EngineFault State → Except EngineFault State → Prop where
  | finished {s₁ s₂ : State} (same : s₁.digest = s₂.digest) : OutcomesAgree (.ok s₁) (.ok s₂)
  | limited {limit : Nat} {active₁ active₂ : List String} (same : active₁.Perm active₂) :
      OutcomesAgree (.error (.stepLimit limit active₁)) (.error (.stepLimit limit active₂))

namespace Round

variable {w : Workflow} {b : Behaviour} {runId : String} {active : List String} {s : State}
  {visits : List Visit}

theorem mem_nodes_iff (valid : w.Valid) (round : Round w b runId active s visits []) {n : Node} :
    n ∈ visits.map Visit.node ↔ n ∈ w.nodes ∧ n.id ∈ active := by
  constructor
  · intro member
    obtain ⟨v, among, rfl⟩ := List.mem_map.1 member
    exact ⟨round.inside v among, round.mem_active among⟩
  · rintro ⟨member, awake⟩
    obtain ⟨v, among, same⟩ := round.exists_visit awake
    rw [← valid.node_unique (round.inside v among) member same]
    exact List.mem_map_of_mem among

theorem nodes_nodup {unended : List String} (round : Round w b runId active s visits unended) :
    (visits.map Visit.node).Nodup := by
  have distinct : ((visits.map Visit.node).map Node.id).Nodup := by
    rw [List.map_map]
    exact round.ids_nodup
  exact List.Nodup.of_map _ distinct

theorem nodes_perm (valid : w.Valid) {r₁ r₂ : String} {active₁ active₂ : List String}
    {s₁ s₂ : State} {visits₁ visits₂ : List Visit}
    (round₁ : Round w b r₁ active₁ s₁ visits₁ []) (round₂ : Round w b r₂ active₂ s₂ visits₂ [])
    (same : active₁.Perm active₂) :
    (visits₁.map Visit.node).Perm (visits₂.map Visit.node) := by
  refine (List.perm_ext_iff_of_nodup round₁.nodes_nodup round₂.nodes_nodup).2 ?_
  intro n
  rw [round₁.mem_nodes_iff valid, round₂.mem_nodes_iff valid, same.mem_iff]

end Round

def Node.patchBy (n : Node) (f : String → Nat → String → Answer) (s : State) : Patch :=
  n.complete s (n.callIn "" s) (f n.id (s.attemptsOf n.id + 1) (n.instructionIn s)) 0

namespace Workflow

variable {w : Workflow} {f : String → Nat → String → Answer}

def targetsBy (w : Workflow) (f : String → Nat → String → Answer) (s : State) (n : Node) :
    List String :=
  (w.routeOf n).next (s.apply (n.patchBy f s))

section

variable {runId : String} {active : List String} {s₁ s₂ : State} {visits : List Visit}

theorem patch_eq_patchBy (timeless : ∀ n ∈ w.nodes, n.IgnoresElapsed)
    (same : s₁.digest = s₂.digest) {unended : List String}
    (round : Round w (.ofAnswers f) runId active s₂ visits unended) {v : Visit}
    (among : v ∈ visits) : v.patch runId s₂ = v.node.patchBy f s₁ := by
  have answered :
      v.answer = f v.node.id (s₁.attemptsOf v.node.id + 1) (v.node.instructionIn s₁) := by
    have alike := State.alikeTo_of_digest same v.node.id
    rw [alike.attempts, Node.instructionIn_of_alike alike]
    exact round.allowed v among
  rw [Visit.patch, Node.patchBy, ← answered]
  exact Node.complete_congr (timeless v.node (round.inside v among)) same.symm ..

theorem patches_eq_patchBy (timeless : ∀ n ∈ w.nodes, n.IgnoresElapsed)
    (same : s₁.digest = s₂.digest) {unended : List String}
    (round : Round w (.ofAnswers f) runId active s₂ visits unended) :
    visits.map (·.patch runId s₂) = (visits.map Visit.node).map (·.patchBy f s₁) := by
  rw [List.map_map]
  exact List.map_congr_left fun v among => patch_eq_patchBy timeless same round among

theorem targets_eq_targetsBy (timeless : ∀ n ∈ w.nodes, n.IgnoresElapsed)
    (same : s₁.digest = s₂.digest) {unended : List String}
    (round : Round w (.ofAnswers f) runId active s₂ visits unended) {v : Visit}
    (among : v ∈ visits) : v.targets w runId s₂ = w.targetsBy f s₁ v.node := by
  rw [Visit.targets, targetsBy, patch_eq_patchBy timeless same round among]
  exact Route.next_apply_congr _ same.symm _

theorem mem_activeAfter_iff (timeless : ∀ n ∈ w.nodes, n.IgnoresElapsed)
    (same : s₁.digest = s₂.digest) {unended : List String}
    (round : Round w (.ofAnswers f) runId active s₂ visits unended) {id : String} :
    id ∈ w.activeAfter runId s₂ visits ↔
      ∃ n ∈ visits.map Visit.node, id ∈ w.targetsBy f s₁ n := by
  rw [activeAfter, List.mem_eraseDups, List.mem_flatMap]
  constructor
  · rintro ⟨v, among, member⟩
    rw [targets_eq_targetsBy timeless same round among] at member
    exact ⟨v.node, List.mem_map_of_mem among, member⟩
  · rintro ⟨n, visited, member⟩
    obtain ⟨v, among, rfl⟩ := List.mem_map.1 visited
    rw [← targets_eq_targetsBy timeless same round among] at member
    exact ⟨v, among, member⟩

end

section

variable {r₁ r₂ : String} {active₁ active₂ : List String} {s₁ s₂ : State}
  {visits₁ visits₂ : List Visit}

theorem digest_afterVisits (valid : w.Valid) (timeless : ∀ n ∈ w.nodes, n.IgnoresElapsed)
    (round₁ : Round w (.ofAnswers f) r₁ active₁ s₁ visits₁ [])
    (round₂ : Round w (.ofAnswers f) r₂ active₂ s₂ visits₂ [])
    (sameActive : active₁.Perm active₂) (same : s₁.digest = s₂.digest)
    (apart : (visits₁.map (·.patch r₁ s₁)).Pairwise fun p q =>
      ∀ key ∈ p.metadata.keys, q.metadata.contains key = false) :
    (s₁.afterVisits r₁ visits₁).digest = (s₂.afterVisits r₂ visits₂).digest := by
  have shuffled : (visits₁.map (·.patch r₁ s₁)).Perm (visits₂.map (·.patch r₂ s₂)) := by
    rw [patches_eq_patchBy timeless rfl round₁, patches_eq_patchBy timeless same round₂]
    exact (round₁.nodes_perm valid round₂ sameActive).map _
  have differ : (visits₁.map (·.patch r₁ s₁)).Pairwise fun p q => p.nodeId ≠ q.nodeId := by
    have distinct := List.pairwise_map.1 round₁.ids_nodup
    rw [List.pairwise_map]
    simpa only [Visit.patch_nodeId] using distinct
  exact State.digest_applyAll_perm same (differ.and apart) shuffled

theorem activeAfter_perm (valid : w.Valid) (timeless : ∀ n ∈ w.nodes, n.IgnoresElapsed)
    (round₁ : Round w (.ofAnswers f) r₁ active₁ s₁ visits₁ [])
    (round₂ : Round w (.ofAnswers f) r₂ active₂ s₂ visits₂ [])
    (sameActive : active₁.Perm active₂) (same : s₁.digest = s₂.digest) :
    (w.activeAfter r₁ s₁ visits₁).Perm (w.activeAfter r₂ s₂ visits₂) := by
  refine (List.perm_ext_iff_of_nodup (w.activeAfter_nodup ..) (w.activeAfter_nodup ..)).2 ?_
  intro id
  rw [mem_activeAfter_iff timeless rfl round₁, mem_activeAfter_iff timeless same round₂]
  simp only [(round₁.nodes_perm valid round₂ sameActive).mem_iff]

end

theorem courses_agree (valid : w.Valid) (timeless : ∀ n ∈ w.nodes, n.IgnoresElapsed)
    {r₁ r₂ : String} {limit left number : Nat} {active₁ active₂ : List String} {s₁ s₂ : State}
    {h₁ h₂ : History} (course₁ : Course w (.ofAnswers f) r₁ limit left number active₁ s₁ h₁)
    (course₂ : Course w (.ofAnswers f) r₂ limit left number active₂ s₂ h₂)
    (sameActive : active₁.Perm active₂) (same : s₁.digest = s₂.digest)
    (apart : ∀ step ∈ h₁.steps, w.MetadataApart step) :
    List.Forall₂ w.StepsAgree h₁.steps h₂.steps ∧ OutcomesAgree h₁.outcome h₂.outcome := by
  induction course₁ generalizing active₂ s₂ h₂ with
  | finished =>
      obtain rfl := sameActive.nil_eq
      cases course₂ with
      | finished => exact ⟨.nil, .finished same⟩
      | limited busy => exact absurd rfl busy
      | crashed busy => exact absurd rfl busy
      | step busy => exact absurd rfl busy
  | limited busy =>
      cases course₂ with
      | finished => exact absurd sameActive.eq_nil busy
      | limited => exact ⟨.nil, .limited sameActive⟩
  | crashed _ _ _ may => exact may.elim
  | step busy round₁ told₁ later ih =>
      cases course₂ with
      | finished => exact absurd sameActive.eq_nil busy
      | crashed _ _ _ may => exact may.elim
      -- The states after the step may differ in error and current node; the next step
      -- is simulated from their digest, in which both are missing.
      | step _ round₂ told₂ later₂ =>
          have here := apart _ List.mem_cons_self
          rw [MetadataApart, valid.patches_eq told₁ round₁.inside] at here
          have after := digest_afterVisits valid timeless round₁ round₂ sameActive same here
          have next := activeAfter_perm valid timeless round₁ round₂ sameActive same
          obtain ⟨steps, outcomes⟩ :=
            ih later₂ next after fun step member => apart step (List.mem_cons_of_mem _ member)
          refine ⟨.cons ⟨rfl, sameActive, same, ?_⟩ steps, outcomes⟩
          rw [valid.stateAfter_eq told₁ round₁.inside, valid.stateAfter_eq told₂ round₂.inside]
          exact after

end Workflow

section

variable {τ₁ τ₂ ε₁ ε₂ : Type} {e₁ : Engine τ₁ ε₁} {e₂ : Engine τ₂ ε₂} {w : Workflow}
  {f : String → Nat → String → Answer} {t₁ : τ₁} {t₂ : τ₂}

/-- Two runs of a workflow whose executors answer by the same function agree step
    by step, in whatever order the calls of each step end, unless two nodes of a
    step of the first run write the same metadata. Either run is lost just when its
    cap on running calls is too great to be kept. -/
theorem runs_agree (ready₁ : e₁.Ready w t₁) (ready₂ : e₂.Ready w t₂)
    (faithful₁ : e₁.worker.Faithful) (faithful₂ : e₂.worker.Faithful)
    (shows₁ : e₁.worker.Shows e₁.resolve (.ofAnswers f))
    (shows₂ : e₂.worker.Shows e₂.resolve (.ofAnswers f))
    (timeless : ∀ n ∈ w.nodes, n.IgnoresElapsed)
    (limits : e₁.settings.maxSteps = e₂.settings.maxSteps)
    (r₁ r₂ prompt : String) (given : Metadata) :
    ((e₁.run? w r₁ prompt given t₁).2 = none ↔ Engine.capLimit < e₁.settings.maxConcurrency) ∧
    ((e₂.run? w r₂ prompt given t₂).2 = none ↔ Engine.capLimit < e₂.settings.maxConcurrency) ∧
    ∀ run₁ run₂, (e₁.run? w r₁ prompt given t₁).2 = some run₁ →
      (e₂.run? w r₂ prompt given t₂).2 = some run₂ →
      ∃ h₁ h₂, run₁.course = .ok (w.startNode, h₁) ∧ run₂.course = .ok (w.startNode, h₂) ∧
        ((∀ step ∈ h₁.steps, w.MetadataApart step) →
          List.Forall₂ w.StepsAgree h₁.steps h₂.steps ∧ OutcomesAgree h₁.outcome h₂.outcome) := by
  refine ⟨ready₁.run?_eq_none_iff, ready₂.run?_eq_none_iff, fun run₁ run₂ found₁ found₂ => ?_⟩
  obtain rfl := Engine.eq_run_of_run? found₁
  obtain rfl := Engine.eq_run_of_run? found₂
  obtain ⟨h₁, ran₁⟩ := ready₁.exists_history r₁ prompt given
  obtain ⟨h₂, ran₂⟩ := ready₂.exists_history r₂ prompt given
  refine ⟨h₁, h₂, ran₁, ran₂, fun apart => ?_⟩
  obtain ⟨valid, _, course₁⟩ := Engine.course_of_run faithful₁ shows₁ ran₁
  obtain ⟨_, _, course₂⟩ := Engine.course_of_run faithful₂ shows₂ ran₂
  rw [← limits] at course₂
  exact w.courses_agree valid timeless course₁ course₂ (.refl _) rfl apart

end

namespace Diamond

open Expression in
theorem parse_onError : parse "{b: true}" = .ok (.object [("b", .literal (.bool true))]) := by
  have lexed : tokenize "{b: true}" = .ok [⟨.symbol .openBrace, 0⟩, ⟨.name "b", 1⟩,
      ⟨.symbol .colon, 2⟩, ⟨.keyword .yes, 4⟩, ⟨.symbol .closeBrace, 8⟩, ⟨.finish, 9⟩] :=
    eq_ok_of_toOption (by decide +kernel)
  rw [parse, lexed]
  rfl

open Expression in
theorem parse_onSuccess : parse "{c: true}" = .ok (.object [("c", .literal (.bool true))]) := by
  have lexed : tokenize "{c: true}" = .ok [⟨.symbol .openBrace, 0⟩, ⟨.name "c", 1⟩,
      ⟨.symbol .colon, 2⟩, ⟨.keyword .yes, 4⟩, ⟨.symbol .closeBrace, 8⟩, ⟨.finish, 9⟩] :=
    eq_ok_of_toOption (by decide +kernel)
  rw [parse, lexed]
  rfl

theorem timeless {n : Node} (member : n ∈ flow.nodes) : n.IgnoresElapsed := by
  apply Node.ignoresElapsed_of_names
  intro source hook e parsed
  simp only [flow, List.mem_cons, List.not_mem_nil, or_false] at member
  rcases member with rfl | rfl | rfl | rfl
  · rcases hook with hook | hook <;> cases hook
  · rcases hook with hook | hook <;> cases hook
    rw [parse_onError] at parsed
    cases parsed
    simp [Expression.Expr.names, Expression.namesFields]
  · rcases hook with hook | hook <;> cases hook
    rw [parse_onSuccess] at parsed
    cases parsed
    simp [Expression.Expr.names, Expression.namesFields]
  · rcases hook with hook | hook <;> cases hook

theorem metadataApart {h : History}
    (ran : ((engine id).run flow "one" "go" .empty ()).2.course = .ok ("a", h)) :
    ∀ step ∈ h.steps, flow.MetadataApart step := by
  have apart : (match ((engine id).run flow "one" "go" .empty ()).2.course with
      | .ok (_, h) => h.steps.all fun step => decide (flow.MetadataApart step)
      | .error _ => false) = true := by
    decide +kernel
  rw [ran] at apart
  intro step member
  exact of_decide_eq_true (List.all_eq_true.1 apart step member)

/-- An engine for the diamond with a cap one beyond the greatest that can be kept. -/
def overfull : Engine Unit (Call → Answer) :=
  { engine id with settings := { maxConcurrency := Engine.capLimit + 1 } }

theorem overfull_ready : overfull.Ready flow () where
  valid := (ready id).valid
  resolved _ _ := ⟨_, rfl⟩
  opened _ _ := rfl
  calm _ _ := rfl

end Diamond

open Diamond in
theorem runs_agree_diamond :
    ∃ run₁ run₂ h₁ h₂,
      ((engine id).run? flow "one" "go" .empty ()).2 = some run₁ ∧
      ((engine List.reverse).run? flow "two" "go" .empty ()).2 = some run₂ ∧
      run₁.course = .ok ("a", h₁) ∧ run₂.course = .ok ("a", h₂) ∧
      List.Forall₂ flow.StepsAgree h₁.steps h₂.steps ∧ OutcomesAgree h₁.outcome h₂.outcome := by
  have kept (jobs : List (Job (Call → Answer))) : (id jobs).Perm jobs := .refl _
  have ran₁ : ((engine id).run? flow "one" "go" .empty ()).2 =
      some ((engine id).run flow "one" "go" .empty ()).2 :=
    Engine.run?_eq_run (ready id).startCrash (by decide)
  have ran₂ : ((engine List.reverse).run? flow "two" "go" .empty ()).2 =
      some ((engine List.reverse).run flow "two" "go" .empty ()).2 :=
    Engine.run?_eq_run (ready List.reverse).startCrash (by decide)
  obtain ⟨_, _, agree⟩ :=
    runs_agree (f := answer) (ready id) (ready List.reverse) (Worker.oneByOne_faithful kept)
      (Worker.oneByOne_faithful List.reverse_perm)
      (Worker.oneByOne_shows kept fun _ _ same => by cases same; exact fun _ => rfl)
      (Worker.oneByOne_shows List.reverse_perm fun _ _ same => by cases same; exact fun _ => rfl)
      (fun _ member => timeless member) rfl "one" "two" "go" .empty
  obtain ⟨h₁, h₂, course₁, course₂, agree⟩ := agree _ _ ran₁ ran₂
  exact ⟨_, _, h₁, h₂, ran₁, ran₂, course₁, course₂, agree (metadataApart course₁)⟩

open Diamond in
/-- A cap that is too great parts two runs that differ in nothing else. -/
theorem runs_part_beyond_cap :
    flow.violations = [] ∧ (∀ n ∈ flow.nodes, n.IgnoresElapsed) ∧
      overfull.settings.maxSteps = (engine id).settings.maxSteps ∧
      overfull.resolve = (engine id).resolve ∧ overfull.worker = (engine id).worker ∧
      (∃ r h, ((engine id).run? flow "one" "go" .empty ()).2 = some r ∧
        r.course = .ok ("a", h) ∧ ∀ step ∈ h.steps, flow.MetadataApart step) ∧
      (overfull.run? flow "two" "go" .empty ()).2 = none := by
  refine ⟨(ready id).valid, fun _ member => timeless member, rfl, rfl, rfl, ?_,
    overfull_ready.run?_eq_none_iff.2 (Nat.lt_succ_self _)⟩
  obtain ⟨h, course⟩ := (ready id).exists_history "one" "go" .empty
  exact ⟨_, h, Engine.run?_eq_run (ready id).startCrash (by decide), course, metadataApart course⟩

end Superstep
