import Superstep.Executor.Basic
import Superstep.Proofs.Sessions

/-! # Registrations

A pool changes while it is used. Executors are registered, also for task types that have
one already, another task type becomes the default one, and sessions are opened. What a
pool takes down as open are task types and not executors. So an executor whose session
has to be open may be one that was never asked to open it, but only if it has taken the
place of another one whose session was open.
-/

namespace Superstep

variable {σ τ : Type}

/-- Something that is done to a pool. -/
inductive Operation (σ : Type) where
  /-- Every registration brings an executor of its own, which has a label. -/
  | register (taskType label : String) (e : Executor σ)
  | withDefault (taskType : String)
  | sessions (taskTypes : List String)

/-- A pool and what it is used at. -/
structure Deployment (σ : Type) where
  pool : Pool σ
  site : Site σ

namespace Deployment

def openAll (d : Deployment σ) (taskTypes : List String) :
    Site σ × Option (Except Failure Unit) :=
  d.pool.openAll taskTypes d.site

/-- Do something to a pool. What is put in place of an executor may depend on its
    label. -/
def after (place : String → Executor σ → Executor τ) (d : Deployment τ) :
    Operation σ → Deployment τ
  | .register taskType label e => { d with pool := d.pool.register taskType (place label e) }
  | .withDefault taskType => { d with pool := d.pool.withDefault taskType }
  | .sessions taskTypes => { d with site := (d.openAll taskTypes).1 }

/-- What becomes of an empty pool. -/
def ofOperations (place : String → Executor σ → Executor τ) (ops : List (Operation σ))
    (world : τ) : Deployment τ :=
  ops.foldl (after place) ⟨.empty, ⟨[], world⟩⟩

/-- The pool with the executors as they are. -/
def plain (ops : List (Operation σ)) (world : σ) : Deployment σ :=
  ofOperations (fun _ e => e) ops world

/-- The pool whose executors log what they do under their labels. -/
def watched (ops : List (Operation σ)) (world : σ) : Deployment (Logged σ) :=
  ofOperations Executor.watched ops ⟨world, []⟩

end Deployment

namespace Operation

def label? : Operation σ → Option String
  | .register _ label _ => some label
  | _ => none

/-- The executor that an operation registers for a task type, with its label. -/
def brings? (key : String) : Operation σ → Option (String × Executor σ)
  | .register taskType label e => if taskType = key then some (label, e) else none
  | _ => none

/-- The executor of a task type, with its label: the one that was registered last. -/
def holder? (ops : List (Operation σ)) (key : String) : Option (String × Executor σ) :=
  ops.reverse.findSome? (brings? key)

variable {ops : List (Operation σ)} {op : Operation σ} {key : String}

@[simp] theorem label?_register (taskType label : String) (e : Executor σ) :
    (register taskType label e).label? = some label := rfl

@[simp] theorem label?_sessions (taskTypes : List String) :
    (sessions taskTypes : Operation σ).label? = none := rfl

@[simp] theorem brings?_sessions (key : String) (taskTypes : List String) :
    (sessions taskTypes : Operation σ).brings? key = none := rfl

theorem brings?_eq_some_iff {x : String × Executor σ} :
    op.brings? key = some x ↔ op = .register key x.1 x.2 := by
  cases op with
  | register taskType label e =>
      by_cases same : taskType = key
      · simp [brings?, same, Prod.ext_iff]
      · simp [brings?, same]
  | withDefault | sessions => simp [brings?]

@[simp] theorem holder?_concat :
    holder? (ops ++ [op]) key = (op.brings? key).or (holder? ops key) := by
  rw [holder?, List.reverse_concat, List.findSome?_cons]
  cases op.brings? key <;> rfl

/-- The executor of a task type has been registered, and no other one since. -/
theorem holder?_eq_some_iff {x : String × Executor σ} :
    holder? ops key = some x ↔ ∃ before after, ops = before ++ .register key x.1 x.2 :: after ∧
      ∀ op ∈ after, op.brings? key = none := by
  simp only [holder?, List.findSome?_eq_some_iff, brings?_eq_some_iff]
  constructor
  · rintro ⟨later, op, earlier, whole, rfl, none⟩
    refine ⟨earlier.reverse, later.reverse, ?_, by simpa using none⟩
    simpa using congrArg List.reverse whole
  · rintro ⟨before, after, rfl, none⟩
    exact ⟨after.reverse, _, before.reverse, by simp, rfl, by simpa using none⟩

theorem mem_of_holder? {x : String × Executor σ} (holds : holder? ops key = some x) :
    .register key x.1 x.2 ∈ ops := by
  obtain ⟨before, after, rfl, _⟩ := holder?_eq_some_iff.1 holds
  simp

/-- With labels of their own, two registrations with one label are the same. -/
theorem eq_of_label {taskType taskType' label : String} {e e' : Executor σ}
    (distinct : (ops.filterMap label?).Nodup) (one : .register taskType label e ∈ ops)
    (other : .register taskType' label e' ∈ ops) : taskType = taskType' := by
  induction ops with
  | nil => cases one
  | cons first rest ih =>
      have unused {t : String} {d : Executor σ} (member : .register t label d ∈ rest) :
          label ∈ rest.filterMap label? := List.mem_filterMap.2 ⟨_, member, rfl⟩
      have later : (rest.filterMap label?).Nodup :=
        distinct.sublist ((List.sublist_cons_self first rest).filterMap _)
      rcases List.mem_cons.1 one with same | one'
      · rcases List.mem_cons.1 other with same' | other'
        · cases same.trans same'.symm
          rfl
        · simp [← same, unused other'] at distinct
      · rcases List.mem_cons.1 other with same' | other'
        · simp [← same', unused one'] at distinct
        · exact ih later one' other'

end Operation

/-! ## Opening sessions -/

/-- From one site to another some sessions have been opened, or failed to open or crashed,
    of executors that hold task types whose sessions were not open. -/
structure Site.Opens (holder : String → Option (String × Executor σ)) (site : Site (Logged σ))
    (more : List Deed) (later : Site (Logged σ)) : Prop where
  log : later.world.log = site.world.log ++ more
  fresh : ∀ d ∈ more, ∃ key x result, holder key = some x ∧ d = .ofSession x.1 result ∧
    key ∉ site.opened
  opened : ∀ key, key ∈ later.opened ↔
    key ∈ site.opened ∨ ∃ x, holder key = some x ∧ .opened x.1 (.ok ()) ∈ more

/-- A pool of executors that log under their labels, by task type. -/
structure Pool.HeldBy (p : Pool (Logged σ)) (holder : String → Option (String × Executor σ)) :
    Prop where
  get? : ∀ key, p.get? key = (holder key).map fun x => x.2.watched x.1
  apart : ∀ key key' x x', holder key = some x → holder key' = some x' → x.1 = x'.1 → key = key'

section

variable {holder : String → Option (String × Executor σ)} {site mid later : Site (Logged σ)}
  {more others : List Deed}

namespace Site.Opens

theorem refl (site : Site (Logged σ)) : Opens holder site [] site where
  log := (List.append_nil _).symm
  fresh := by simp
  opened := by simp

theorem trans (first : Opens holder site more mid) (second : Opens holder mid others later) :
    Opens holder site (more ++ others) later where
  log := by rw [second.log, first.log, List.append_assoc]
  fresh := by
    intro d member
    rcases List.mem_append.1 member with early | late
    · exact first.fresh d early
    · obtain ⟨key, x, result, holds, same, fresh⟩ := second.fresh d late
      exact ⟨key, x, result, holds, same, fun open_ => fresh ((first.opened key).2 (.inl open_))⟩
  opened := by
    intro key
    rw [second.opened, first.opened]
    simp only [List.mem_append]
    grind

end Site.Opens

namespace Pool.HeldBy

variable {p : Pool (Logged σ)}

theorem openOne (held : p.HeldBy holder) (taskType : String) (site : Site (Logged σ)) :
    ∃ more, Site.Opens holder site more (p.openOne taskType site).1 := by
  unfold Pool.openOne
  cases found : p.find taskType with
  | error cause => exact ⟨[], .refl site⟩
  | ok provider =>
      obtain ⟨key, e⟩ := provider
      simp only
      split
      next => exact ⟨[], .refl site⟩
      next fresh =>
        have own := (find_ok found).1
        rw [held.get?, Option.map_eq_some_iff] at own
        obtain ⟨x, holds, rfl⟩ := own
        have log := site.log_ask key x.1 x.2
        have opened := site.ask_opened key (x.2.watched x.1)
        generalize (site.ask key (x.2.watched x.1)).2 = result at log opened
        refine ⟨[.ofSession x.1 result], log, ?_, ?_⟩
        · intro d member
          exact ⟨key, x, result, holds, List.mem_singleton.1 member, fresh⟩
        · intro other
          rw [opened]
          by_cases same : other = key
          · subst same
            by_cases succeeded : result = some (.ok ())
            · simp [succeeded, holds, Deed.ofSession]
            · have failed : .opened x.1 (.ok ()) ≠ Deed.ofSession x.1 result := by
                rw [ne_comm, Ne, Deed.ofSession_eq_opened_iff]
                exact fun both => succeeded both.2
              simp [succeeded, holds, fresh, failed]
          · have unasked : ¬ ∃ y, holder other = some y ∧
                .opened y.1 (.ok ()) ∈ [Deed.ofSession x.1 result] := by
              rintro ⟨y, holds', member⟩
              have asked := Deed.ofSession_eq_opened_iff.1 (List.mem_singleton.1 member).symm
              exact same (held.apart _ _ _ _ holds' holds asked.1.symm)
            rw [or_iff_left unasked]
            split <;> simp [same]

theorem openAll (held : p.HeldBy holder) (taskTypes : List String) (site : Site (Logged σ)) :
    ∃ more, Site.Opens holder site more (p.openAll taskTypes site).1 := by
  induction taskTypes generalizing site with
  | nil => exact ⟨[], .refl site⟩
  | cons taskType rest ih =>
      obtain ⟨more, first⟩ := held.openOne taskType site
      rw [openAll_cons]
      generalize p.openOne taskType site = one at first
      rcases one with ⟨reached, _ | _ | _⟩
      · exact ⟨more, first⟩
      · exact ⟨more, first⟩
      · obtain ⟨others, second⟩ := ih reached
        exact ⟨more ++ others, first.trans second⟩

end Pool.HeldBy

end

/-! ## Operations one after another -/

namespace Deployment

open Operation

variable {ops later : List (Operation σ)} {world : σ}

theorem ofOperations_concat (place : String → Executor σ → Executor τ) (ops : List (Operation σ))
    (op : Operation σ) (world : τ) :
    ofOperations place (ops ++ [op]) world = (ofOperations place ops world).after place op := by
  simp [ofOperations]

theorem get?_ofOperations (place : String → Executor σ → Executor τ) (ops : List (Operation σ))
    (world : τ) (key : String) :
    (ofOperations place ops world).pool.get? key =
      (holder? ops key).map fun x => place x.1 x.2 := by
  induction ops using List.reverseRecOn with
  | nil => rfl
  | append_singleton ops op ih =>
      rw [ofOperations_concat, holder?_concat]
      cases op with
      | register taskType label e =>
          have placed : ((ofOperations place ops world).after place
              (.register taskType label e)).pool.get? key =
                if key = taskType then some (place label e)
                else (ofOperations place ops world).pool.get? key :=
            KeyMap.get?_insert _ _ _ _
          rw [placed, ih]
          by_cases same : key = taskType
          · simp [brings?, same]
          · simp [brings?, same, Ne.symm same]
      | withDefault | sessions => exact ih

theorem heldBy (distinct : (ops.filterMap label?).Nodup) (world : σ) :
    (watched ops world).pool.HeldBy (holder? ops) where
  get? := get?_ofOperations _ ops _
  apart key key' x x' holds holds' labels := by
    have one := mem_of_holder? holds
    rw [labels] at one
    exact eq_of_label distinct one (mem_of_holder? holds')

/-- What one more operation does at the site. -/
theorem opens_concat (distinct : (ops.filterMap label?).Nodup) (op : Operation σ) (world : σ) :
    ∃ more,
      (watched ops world).site.Opens (holder? ops) more (watched (ops ++ [op]) world).site := by
  rw [watched, watched, ofOperations_concat]
  cases op with
  | register | withDefault => exact ⟨[], .refl _⟩
  | sessions taskTypes => exact (heldBy distinct world).openAll taskTypes _

theorem distinct_of_concat {op : Operation σ} (distinct : ((ops ++ [op]).filterMap label?).Nodup) :
    (ops.filterMap label?).Nodup :=
  distinct.sublist ((List.sublist_append_left ops [op]).filterMap _)

theorem unlabelled {before after : List (Operation σ)} {key label : String} {e : Executor σ}
    (distinct : ((before ++ .register key label e :: after).filterMap label?).Nodup) :
    label ∉ before.filterMap label? := by
  rw [List.filterMap_append, List.nodup_append] at distinct
  exact fun known => distinct.2.2 _ known label (by simp) rfl

theorem label_of_opened (distinct : (ops.filterMap label?).Nodup) {label : String}
    {result : Except Failure Unit}
    (done : .opened label result ∈ (watched ops world).site.world.log) :
    label ∈ ops.filterMap label? := by
  induction ops using List.reverseRecOn with
  | nil => cases done
  | append_singleton ops op ih =>
      have earlier := distinct_of_concat distinct
      obtain ⟨more, opens⟩ := opens_concat earlier op world
      rw [opens.log, List.mem_append] at done
      rw [List.filterMap_append, List.mem_append]
      rcases done with old | new
      · exact .inl (ih earlier old)
      · obtain ⟨key, x, _, holds, same, _⟩ := opens.fresh _ new
        obtain ⟨rfl, _⟩ := Deed.ofSession_eq_opened_iff.1 same.symm
        exact .inl (List.mem_filterMap.2 ⟨_, mem_of_holder? holds, rfl⟩)

/-- A task type counts as open if one of the executors that were registered for it has
    opened its session. -/
theorem mem_opened_iff (distinct : (ops.filterMap label?).Nodup) {key : String} :
    key ∈ (watched ops world).site.opened ↔ ∃ label e, .register key label e ∈ ops ∧
      .opened label (.ok ()) ∈ (watched ops world).site.world.log := by
  induction ops using List.reverseRecOn with
  | nil => simp [watched, ofOperations]
  | append_singleton ops op ih =>
      have earlier := distinct_of_concat distinct
      obtain ⟨more, opens⟩ := opens_concat earlier op world
      rw [opens.opened, ih earlier, opens.log]
      simp only [List.mem_append, List.mem_singleton]
      constructor
      · rintro (⟨label, e, member, done⟩ | ⟨x, holds, done⟩)
        · exact ⟨label, e, .inl member, .inl done⟩
        · exact ⟨x.1, x.2, .inl (mem_of_holder? holds), .inr done⟩
      · rintro ⟨label, e, member, done | done⟩
        · rcases member with member | rfl
          · exact .inl ⟨label, e, member, done⟩
          · exact absurd (label_of_opened earlier done) (unlabelled distinct)
        · obtain ⟨key', x, _, holds, same, _⟩ := opens.fresh _ done
          obtain ⟨rfl, _⟩ := Deed.ofSession_eq_opened_iff.1 same.symm
          have listed : .register key x.1 e ∈ ops ++ [op] := by simpa using member
          have own := List.mem_append_left [op] (mem_of_holder? holds)
          obtain rfl : key = key' := eq_of_label distinct listed own
          exact .inr ⟨x, holds, done⟩

theorem subset_opened (distinct : ((ops ++ later).filterMap label?).Nodup) :
    (watched ops world).site.opened ⊆ (watched (ops ++ later) world).site.opened := by
  induction later using List.reverseRecOn with
  | nil => simp
  | append_singleton later op ih =>
      rw [← List.append_assoc] at distinct ⊢
      have earlier := distinct_of_concat distinct
      obtain ⟨more, opens⟩ := opens_concat earlier op world
      exact fun key known => (opens.opened key).2 (.inl (ih earlier known))

/-- An executor that holds its task type to the end has its session open if and only if
    the task type counts as open at the end and did not when it was registered. -/
theorem session_of_last (world : σ) {before after : List (Operation σ)} {key label : String}
    {e : Executor σ} (whole : ops = before ++ .register key label e :: after)
    (distinct : (ops.filterMap label?).Nodup) (last : ∀ op ∈ after, op.brings? key = none) :
    .opened label (.ok ()) ∈ (watched ops world).site.world.log ↔
      key ∈ (watched ops world).site.opened ∧ key ∉ (watched before world).site.opened := by
  induction after using List.reverseRecOn generalizing ops with
  | nil =>
      subst whole
      have fresh : .opened label (.ok ()) ∉ (watched before world).site.world.log :=
        fun done => unlabelled distinct (label_of_opened (distinct_of_concat distinct) done)
      have same : (watched (before ++ [.register key label e]) world).site =
          (watched before world).site := by
        rw [watched, ofOperations_concat]
        rfl
      rw [same]
      tauto
  | append_singleton after op ih =>
      rw [← List.cons_append, ← List.append_assoc] at whole
      subst whole
      have earlier := distinct_of_concat distinct
      have holds : holder? (before ++ .register key label e :: after) key = some (label, e) :=
        holder?_eq_some_iff.2 ⟨before, after, rfl, fun op member => last op (by simp [member])⟩
      have kept : key ∈ (watched before world).site.opened →
          key ∈ (watched (before ++ .register key label e :: after) world).site.opened :=
        fun known => subset_opened earlier known
      obtain ⟨more, opens⟩ := opens_concat earlier op world
      have asked : .opened label (.ok ()) ∈ more →
          key ∉ (watched (before ++ .register key label e :: after) world).site.opened := by
        intro done
        obtain ⟨key', x, _, holds', same, fresh⟩ := opens.fresh _ done
        obtain rfl : key = key' :=
          (heldBy earlier world).apart _ _ _ _ holds holds'
            (Deed.ofSession_eq_opened_iff.1 same.symm).1.symm
        exact fresh
      rw [opens.log, List.mem_append, opens.opened, ih rfl earlier fun op member =>
        last op (by simp [member])]
      simp only [holds, Option.some.injEq, exists_eq_left']
      tauto

/-! ## Watching -/

theorem fallback_ofOperations {υ : Type} (place : String → Executor σ → Executor τ)
    (place' : String → Executor σ → Executor υ) (ops : List (Operation σ)) (u : τ) (v : υ) :
    (ofOperations place ops u).pool.fallback = (ofOperations place' ops v).pool.fallback := by
  induction ops using List.reverseRecOn with
  | nil => rfl
  | append_singleton ops op ih =>
      rw [ofOperations_concat, ofOperations_concat]
      cases op with
      | withDefault => rfl
      | register | sessions => exact ih

/-- The watched pool finds the executors of the plain one, under the labels of those that
    hold their task types. -/
theorem watches (ops : List (Operation σ)) (world : σ) :
    (watched ops world).pool.Watches
      (fun key => ((holder? ops key).map Prod.fst).getD "") (plain ops world).pool := by
  have logged (key : String) := get?_ofOperations Executor.watched ops (Logged.mk world []) key
  have own (key : String) := get?_ofOperations (fun _ (e : Executor σ) => e) ops world key
  intro taskType
  unfold Pool.find Pool.provider?
  rw [watched, plain, logged, own, fallback_ofOperations _ (fun _ e => e) ops _ world]
  cases held : holder? ops taskType with
  | some x => simp [Except.map, held]
  | none =>
      cases (ofOperations (fun _ e => e) ops world).pool.fallback with
      | none => rfl
      | some standby =>
          simp only [Option.map_none, Option.bind_eq_bind, Option.bind_some, logged, own]
          cases held' : holder? ops standby with
          | none => rfl
          | some x => simp [Except.map, held']

theorem plain_site (ops : List (Operation σ)) (world : σ) :
    (watched ops world).site.plain = (plain ops world).site := by
  induction ops using List.reverseRecOn with
  | nil => rfl
  | append_singleton ops op ih =>
      rw [watched, plain, ofOperations_concat, ofOperations_concat]
      cases op with
      | register | withDefault => exact ih
      | sessions taskTypes =>
          have same := (Pool.plain_openAll (watches ops world) taskTypes
            (watched ops world).site).1
          rw [ih] at same
          exact same

end Deployment

open Operation Deployment in
/-- If the sessions for task types open, the executor that one of them resolves to is the
    last that was registered for some task type, and its session is open unless it took
    the place of one whose session had been opened before. Watching changes neither
    sites nor results. -/
theorem sessions_open_unless_replaced {ops : List (Operation σ)}
    (distinct : (ops.filterMap label?).Nodup) (world : σ) {taskTypes : List String}
    (opened : ((plain ops world).openAll taskTypes).2 = some (.ok ())) :
    let site := ((watched ops world).openAll taskTypes).1
    site.plain = ((plain ops world).openAll taskTypes).1 ∧
    ∀ taskType ∈ taskTypes, ∃ before key label e after,
      ops = before ++ .register key label e :: after ∧
      (∀ op ∈ after, op.brings? key = none) ∧
      (plain ops world).pool.resolve taskType = .ok e ∧
      (key = taskType ∨
        (plain ops world).pool.get? taskType = none ∧ (plain ops world).pool.fallback = some key) ∧
      (.opened label (.ok ()) ∈ site.world.log ↔ ∀ other d, .register key other d ∈ before →
        .opened other (.ok ()) ∉ (watched before world).site.world.log) := by
  intro site
  have sites : site.plain = ((plain ops world).openAll taskTypes).1 := by
    have same := (Pool.plain_openAll (watches ops world) taskTypes
      (watched ops world).site).1
    rw [plain_site] at same
    exact same
  refine ⟨sites, fun taskType member => ?_⟩
  have ready : (plain ops world).openAll taskTypes =
      (((plain ops world).openAll taskTypes).1, some (.ok ())) := Prod.ext rfl opened
  obtain ⟨key, e, found, known⟩ := Pool.opened_of_openAll ready member
  have resolved : (plain ops world).pool.resolve taskType = .ok e := by
    rw [Pool.resolve_eq, found]
    rfl
  obtain ⟨own, named⟩ := Pool.find_ok found
  rw [plain, get?_ofOperations, Option.map_eq_some_iff] at own
  obtain ⟨⟨label, d⟩, holds, same⟩ := own
  obtain rfl : d = e := same
  obtain ⟨before, after, whole, last⟩ := holder?_eq_some_iff.1 holds
  refine ⟨before, key, label, d, after, whole, last, resolved, named, ?_⟩
  -- The last use of the pool is one more operation, which registers nothing.
  have used : (watched (ops ++ [.sessions taskTypes]) world).site = site := by
    rw [watched, ofOperations_concat]
    rfl
  have whole' : ops ++ [.sessions taskTypes] =
      before ++ .register key label d :: (after ++ [.sessions taskTypes]) := by simp [whole]
  have distinct' : ((ops ++ [sessions taskTypes]).filterMap label?).Nodup := by
    simpa [List.filterMap_append, List.filterMap_cons] using distinct
  have last' : ∀ op ∈ after ++ [.sessions taskTypes], op.brings? key = none := by
    simpa [or_imp, forall_and] using last
  have asked := session_of_last world whole' distinct' last'
  have earlier : (before.filterMap label?).Nodup := by
    rw [whole] at distinct
    exact distinct.sublist ((List.sublist_append_left _ _).filterMap _)
  have open_ : key ∈ site.opened := by
    rw [← sites] at known
    exact known
  rw [used, mem_opened_iff earlier] at asked
  simpa [open_] using asked

open Operation Deployment in
theorem sessions_open_unless_replaced_standby :
    ∃ ops : List (Operation Unit), ∃ e, (ops.filterMap label?).Nodup ∧
      ((plain ops ()).openAll ["work", "other"]).2 = some (.ok ()) ∧
      ops = [.register "other" "first" e, .withDefault "other", .sessions ["work"],
        .register "work" "second" e] ∧
      (plain ops ()).pool.resolve "work" = .ok e ∧
      .opened "second" (.ok ()) ∈
        ((watched ops ()).openAll ["work", "other"]).1.world.log := by
  let e : Executor Unit := .echo "echo"
  let ops : List (Operation Unit) :=
    [.register "other" "first" e, .withDefault "other", .sessions ["work"],
      .register "work" "second" e]
  have distinct : (ops.filterMap label?).Nodup := by decide
  have opened : ((plain ops ()).openAll ["work", "other"]).2 = some (.ok ()) := rfl
  obtain ⟨_, each⟩ := sessions_open_unless_replaced distinct () opened
  obtain ⟨before, key, label, d, after, whole, last, _, named, open_⟩ :=
    each "work" List.mem_cons_self
  refine ⟨ops, e, distinct, opened, rfl, rfl, ?_⟩
  obtain rfl : key = "work" := by
    rcases named with same | ⟨none, _⟩
    · exact same
    · cases none
  obtain ⟨rfl, ⟨rfl, _⟩, _⟩ : before = [.register "other" "first" e, .withDefault "other",
      .sessions ["work"]] ∧ (label = "second" ∧ d = e) ∧ after = [] := by
    simpa [ops, List.cons_eq_append_iff] using whole
  exact open_.2 (by simp)

open Operation Deployment in
/-- An executor that has taken the place of one whose session was open is never asked to
    open its own, although the sessions for its task type open. -/
theorem replaced_executor_unopened :
    ∃ ops : List (Operation Unit), ∃ e, (ops.filterMap label?).Nodup ∧
      ops = [.register "work" "first" e, .sessions ["work"], .register "work" "second" e] ∧
      ((plain ops ()).openAll ["work"]).2 = some (.ok ()) ∧
      (watched ops ()).pool.resolve "work" = .ok (e.watched "second") ∧
      ((watched ops ()).openAll ["work"]).1.world.log = [.opened "first" (.ok ())] :=
  ⟨_, .echo "echo", by decide, rfl, rfl, rfl, rfl⟩

end Superstep
