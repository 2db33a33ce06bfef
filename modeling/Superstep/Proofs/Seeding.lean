import Mathlib.Data.List.TakeWhile
import Superstep.Command.Execute
import Superstep.Proofs.Boundaries
import Superstep.Proofs.Coherence
import Superstep.Proofs.Sequential

/-! # Where metadata come from

Arguments set metadata one after another, and of those that set the same key the last one
counts. The metadata of the workflow stand behind them, and only under keys that no argument
sets. A run starts its first step with just these.
-/

namespace Superstep

open Json (Value DecodeError)

namespace Command

/-- What an argument sets. Its key stands before the first equality sign, blanks around it
    aside, and its value behind that: as JSON, or as a text if it is none. -/
inductive Sets (argument : String) : String → Value → Prop where
  | json {key raw : String} {v : Value} (spelled : argument = key ++ "=" ++ raw)
      (first : '=' ∉ key.toList) (read : Json.parse raw = .ok v) :
      Sets argument (Text.trim key) v
  | text {key raw : String} {fault : DecodeError} (spelled : argument = key ++ "=" ++ raw)
      (first : '=' ∉ key.toList) (unread : Json.parse raw = .error fault) :
      Sets argument (Text.trim key) (.string raw)

/-- What arguments leave under a key: what the last one of them sets that sets the key. -/
def Leave (arguments : List String) (key : String) (v : Value) : Prop :=
  ∃ earlier argument later, arguments = earlier ++ argument :: later ∧ Sets argument key v ∧
    ∀ other ∈ later, ∀ u, ¬ Sets other key u

/-! ## One argument -/

theorem exists_split {argument : String} (some : '=' ∈ argument.toList) :
    ∃ key raw, argument = key ++ "=" ++ raw ∧ '=' ∉ key.toList := by
  obtain ⟨before, after, split, first⟩ := List.eq_append_cons_of_mem some
  refine ⟨String.ofList before, String.ofList after, ?_, by rwa [String.toList_ofList]⟩
  apply String.toList_injective
  simp [split]

theorem passes_of_free {cs : List Char} (free : '=' ∉ cs) : ∀ c ∈ cs, (c != '=') = true := by
  intro c member
  rw [bne_iff_ne]
  rintro rfl
  exact free member

theorem metadataEntry_split {key : String} (first : '=' ∉ key.toList) (raw : String) :
    metadataEntry (key ++ "=" ++ raw) =
      .ok (Text.trim key, (Json.parse raw).toOption.getD (.string raw)) := by
  have other := passes_of_free first
  have chars : (key ++ "=" ++ raw).toList = key.toList ++ '=' :: raw.toList := by simp
  simp only [metadataEntry, chars, List.dropWhile_append_of_pos other,
    List.takeWhile_append_of_pos other]
  cases parsed : Json.parse raw <;> simp [parsed, Except.toOption]

theorem metadataEntry_error {argument : String} (none : '=' ∉ argument.toList) :
    metadataEntry argument =
      .error ("--meta expects key=value, got '" ++ argument ++ "'") := by
  simp only [metadataEntry, List.dropWhile_eq_nil_iff.2 (passes_of_free none)]

theorem metadataEntry_eq_ok_iff {argument key : String} {v : Value} :
    metadataEntry argument = .ok (key, v) ↔ Sets argument key v := by
  constructor
  · intro entered
    by_cases some : '=' ∈ argument.toList
    · obtain ⟨own, raw, rfl, first⟩ := exists_split some
      rw [metadataEntry_split first] at entered
      cases read : Json.parse raw with
      | ok u =>
          rw [read] at entered
          cases entered
          exact .json rfl first read
      | error fault =>
          rw [read] at entered
          cases entered
          exact .text rfl first read
    · rw [metadataEntry_error some] at entered
      cases entered
  · intro sets
    cases sets with
    | json spelled first read =>
        rw [spelled, metadataEntry_split first, read]
        rfl
    | text spelled first unread =>
        rw [spelled, metadataEntry_split first, unread]
        rfl

theorem Sets.unique {argument key other : String} {u v : Value} (one : Sets argument key u)
    (two : Sets argument other v) : key = other ∧ u = v := by
  have same := (metadataEntry_eq_ok_iff.2 one).symm.trans (metadataEntry_eq_ok_iff.2 two)
  cases same
  exact ⟨rfl, rfl⟩

/-! ## All arguments -/

theorem parseMetadata_concat (arguments : List String) (argument : String) :
    parseMetadata (arguments ++ [argument]) = (do
      let m ← parseMetadata arguments
      let entry ← metadataEntry argument
      .ok (m.insert entry.1 entry.2)) := by
  simp only [parseMetadata, List.mapM_append, List.mapM_cons, List.mapM_nil]
  cases arguments.mapM metadataEntry with
  | error message => rfl
  | ok entries =>
      cases metadataEntry argument with
      | error message => rfl
      | ok entry => simp [Except.map, bind, Except.bind, pure, Except.pure, KeyMap.ofList,
          KeyMap.insertAll, List.foldl_append]

theorem leave_concat_iff {arguments : List String} {argument key : String} {v : Value} :
    Leave (arguments ++ [argument]) key v ↔
      Sets argument key v ∨ (∀ u, ¬ Sets argument key u) ∧ Leave arguments key v := by
  constructor
  · rintro ⟨earlier, last, later, split, sets, silent⟩
    rcases List.eq_nil_or_concat later with rfl | ⟨between, final, rfl⟩
    · obtain ⟨_, same⟩ := List.append_inj' split rfl
      cases same
      exact .inl sets
    · rw [List.concat_eq_append, ← List.cons_append, ← List.append_assoc] at split
      obtain ⟨rfl, same⟩ := List.append_inj' split rfl
      cases same
      refine .inr ⟨silent _ (by simp), earlier, last, between, rfl, sets, ?_⟩
      exact fun other among => silent other (by simp [among])
  · rintro (sets | ⟨silent, earlier, last, later, rfl, sets, quiet⟩)
    · exact ⟨arguments, argument, [], rfl, sets, nofun⟩
    · refine ⟨earlier, last, later ++ [argument], by simp, sets, ?_⟩
      exact List.forall_mem_append.2 ⟨quiet, List.forall_mem_singleton.2 silent⟩

/-- Something is left under a key if an argument sets it: the last one that does. -/
theorem exists_leave_iff {arguments : List String} {key : String} :
    (∃ v, Leave arguments key v) ↔ ∃ argument ∈ arguments, ∃ u, Sets argument key u := by
  constructor
  · rintro ⟨v, earlier, argument, later, rfl, sets, _⟩
    exact ⟨argument, by simp, v, sets⟩
  · induction arguments using List.reverseRecOn with
    | nil => nofun
    | append_singleton arguments argument ih =>
        rintro ⟨other, member, u, sets⟩
        by_cases last : ∃ v, Sets argument key v
        · obtain ⟨v, own⟩ := last
          exact ⟨v, leave_concat_iff.2 (.inl own)⟩
        · have silent : ∀ v, ¬ Sets argument key v := not_exists.1 last
          have before : other ∈ arguments := by
            rcases List.mem_append.1 member with before | same
            · exact before
            · rw [List.mem_singleton.1 same] at sets
              exact absurd sets (silent u)
          obtain ⟨v, left⟩ := ih ⟨other, before, u, sets⟩
          exact ⟨v, leave_concat_iff.2 (.inr ⟨silent, left⟩)⟩

theorem parseMetadata_fails_iff {arguments : List String} :
    (∃ message, parseMetadata arguments = .error message) ↔
      ∃ argument ∈ arguments, '=' ∉ argument.toList := by
  induction arguments using List.reverseRecOn with
  | nil => simp [parseMetadata, Except.map, pure, Except.pure]
  | append_singleton arguments argument ih =>
      simp only [List.mem_append, List.mem_singleton, or_and_right, exists_or, exists_eq_left]
      rw [← ih, parseMetadata_concat]
      cases parseMetadata arguments with
      | error message => exact ⟨fun _ => .inl ⟨_, rfl⟩, fun _ => ⟨_, rfl⟩⟩
      | ok m =>
          by_cases some : '=' ∈ argument.toList
          · obtain ⟨key, raw, rfl, first⟩ := exists_split some
            simp [metadataEntry_split first, bind, Except.bind]
          · simp [metadataEntry_error some, some, bind, Except.bind]

theorem parseMetadata_get? {arguments : List String} {m : Metadata}
    (parsed : parseMetadata arguments = .ok m) {key : String} {v : Value} :
    m.get? key = some v ↔ Leave arguments key v := by
  induction arguments using List.reverseRecOn generalizing m v with
  | nil =>
      cases parsed
      refine ⟨nofun, ?_⟩
      rintro ⟨earlier, argument, later, split, _⟩
      simp at split
  | append_singleton arguments argument ih =>
      rw [parseMetadata_concat] at parsed
      obtain ⟨before, earlier, parsed⟩ := bind_ok parsed
      obtain ⟨⟨own, u⟩, entered, parsed⟩ := bind_ok parsed
      cases parsed
      have sets := metadataEntry_eq_ok_iff.1 entered
      rw [leave_concat_iff, KeyMap.get?_insert]
      by_cases same : key = own
      · subst same
        rw [if_pos rfl, Option.some.injEq]
        constructor
        · rintro rfl
          exact .inl sets
        · rintro (again | ⟨silent, _⟩)
          · exact (sets.unique again).2
          · exact absurd sets (silent u)
      · have silent : ∀ w, ¬ Sets argument key w := fun w again => same (again.unique sets).1
        rw [if_neg same, ih earlier]
        exact ⟨fun left => .inr ⟨silent, left⟩,
          fun left => left.elim (fun again => absurd again (silent v)) And.right⟩

end Command

/-! ## The first step -/

/-- A run starts its first step with the state that it is given. -/
theorem Graph.before_first {τ ε : Type} (g : Graph ε) (worker : Worker τ ε) (runId : String)
    (limit : Nat) (s : State) (t : τ) :
    ∀ step ∈ (g.history worker runId limit s t).2.steps.head?, step.before = s := by
  intro step first
  unfold history at first
  cases limit with
  | zero => cases first
  | succ left =>
      rw [proceed] at first
      rcases taken : g.takeStep worker runId 1 [g.startNode] s t with ⟨t', own, outcome⟩
      obtain ⟨_, _, before⟩ := takeStep_keeps taken
      rw [taken] at first
      cases outcome <;> cases first <;> exact before

/-- Arguments for metadata are refused just when one of them has no equality sign. In the
    state that the nodes of the first step see, whoever makes their calls, the value under
    a key is what the last argument has set there that sets the key, and else that of the
    workflow; there are no other keys. -/
theorem metadata_seeded (arguments : List String) :
    ((∃ message, Command.parseMetadata arguments = .error message) ↔
      ∃ argument ∈ arguments, '=' ∉ argument.toList) ∧
    ∀ given, Command.parseMetadata arguments = .ok given →
      ∀ {τ ε : Type} (e : Engine τ ε) (w : Workflow) (runId prompt : String) (t : τ) (r : Run)
        (start : String) (h : History) (step : Step),
        (e.run? w runId prompt given t).2 = some r → r.course = .ok (start, h) →
        h.steps.head? = some step →
        ∀ key v, step.before.metadata.get? key = some v ↔
          Command.Leave arguments key v ∨
            (∀ argument ∈ arguments, ∀ u, ¬ Command.Sets argument key u) ∧
              ∃ initial, w.initialMetadata = some initial ∧ initial.get? key = some v := by
  refine ⟨Command.parseMetadata_fails_iff, ?_⟩
  intro given parsed τ ε e w runId prompt t r start h step found taken first key v
  obtain rfl := Engine.eq_run_of_run? found
  obtain ⟨g, t', _, _, rfl⟩ := Engine.history_of_run taken
  rw [g.before_first _ _ _ _ _ step first]
  have seeded : (Engine.startState w prompt given).metadata =
      (w.initialMetadata.getD .empty).insertAll given.entries := rfl
  have left (u : Value) : given.get? key = some u ↔ Command.Leave arguments key u :=
    Command.parseMetadata_get? parsed
  have unset : given.get? key = none ↔
      ∀ argument ∈ arguments, ∀ u, ¬ Command.Sets argument key u := by
    have set : (given.get? key).isSome ↔
        ∃ argument ∈ arguments, ∃ u, Command.Sets argument key u := by
      rw [Option.isSome_iff_exists, ← Command.exists_leave_iff]
      exact exists_congr left
    rw [← Option.not_isSome_iff_eq_none, set]
    simp
  have initial : (w.initialMetadata.getD .empty).get? key = some v ↔
      ∃ initial, w.initialMetadata = some initial ∧ initial.get? key = some v := by
    cases w.initialMetadata <;> simp
  rw [seeded, KeyMap.get?_merge, Option.or_eq_some_iff, left, unset, initial]

namespace Diamond

/-- The diamond with metadata of its own. -/
def seeded : Workflow :=
  { flow with initialMetadata := some (.ofList [("topic", .null), ("year", .ofNat 7)]) }

theorem seeded_ready : (engine id).Ready seeded () where
  valid := by decide +kernel
  resolved _ _ := ⟨_, rfl⟩
  opened _ _ := rfl
  calm _ _ := rfl

/-- Two arguments for one key, the first of which is no JSON, and one with two equality
    signs. -/
def topics : List String := ["topic=one", " topic =true", "title=a=b"]

open Command in
theorem sets_topics : Sets "topic=one" "topic" (.string "one") ∧
    Sets " topic =true" "topic" (.bool true) ∧ Sets "title=a=b" "title" (.string "a=b") := by
  obtain ⟨_, one⟩ : ∃ fault, Json.parse "one" = .error fault := exists_error (by decide +kernel)
  obtain ⟨_, ab⟩ : ∃ fault, Json.parse "a=b" = .error fault := exists_error (by decide +kernel)
  have yes : Json.parse "true" = .ok (.bool true) := by
    have same : (Json.parse "true").toOption.any (·.same (.bool true)) = true := by decide +kernel
    obtain ⟨v, read⟩ : ∃ v, Json.parse "true" = .ok v := exists_ok (by decide +kernel)
    rw [read] at same ⊢
    cases v with
    | bool b =>
        obtain rfl : b = true := by simpa [Except.toOption, Value.same] using same
        rfl
    | _ => cases same
  have trimmed : Text.trim "topic" = "topic" ∧ Text.trim " topic " = "topic" ∧
      Text.trim "title" = "title" := by decide +kernel
  obtain ⟨first, second, third⟩ := trimmed
  refine ⟨?_, ?_, ?_⟩
  · have sets : Sets "topic=one" (Text.trim "topic") (.string "one") := .text rfl (by decide) one
    rwa [first] at sets
  · have sets : Sets " topic =true" (Text.trim " topic ") (.bool true) := .json rfl (by decide) yes
    rwa [second] at sets
  · have sets : Sets "title=a=b" (Text.trim "title") (.string "a=b") := .text rfl (by decide) ab
    rwa [third] at sets

open Command in
/-- Of the arguments for the topic the last one counts, and none is for the year. -/
theorem leave_topics : Leave topics "topic" (.bool true) ∧ Leave topics "title" (.string "a=b") ∧
    ∀ argument ∈ topics, ∀ u, ¬ Sets argument "year" u := by
  obtain ⟨one, yes, ab⟩ := sets_topics
  refine ⟨?_, ⟨["topic=one", " topic =true"], "title=a=b", [], rfl, ab, nofun⟩, ?_⟩
  · refine ⟨["topic=one"], " topic =true", ["title=a=b"], rfl, yes, ?_⟩
    intro other member u sets
    obtain rfl := List.mem_singleton.1 member
    exact absurd (sets.unique ab).1 (by decide)
  · intro argument member u sets
    have listed : argument = "topic=one" ∨ argument = " topic =true" ∨
        argument = "title=a=b" := by simpa [topics] using member
    rcases listed with rfl | rfl | rfl
    · exact absurd (sets.unique one).1 (by decide)
    · exact absurd (sets.unique yes).1 (by decide)
    · exact absurd (sets.unique ab).1 (by decide)

end Diamond

open Diamond in
theorem metadata_seeded_diamond :
    (∃ message, Command.parseMetadata ["topic"] = .error message) ∧
    ∃ given r h step, Command.parseMetadata topics = .ok given ∧
      ((engine id).run? seeded "one" "go" given ()).2 = some r ∧ r.course = .ok ("a", h) ∧
      h.steps.head? = some step ∧ step.before.metadata.get? "topic" = some (.bool true) ∧
      step.before.metadata.get? "title" = some (.string "a=b") ∧
      step.before.metadata.get? "year" = some (.ofNat 7) := by
  refine ⟨(metadata_seeded ["topic"]).1.2 ⟨"topic", by simp, by decide⟩, ?_⟩
  obtain ⟨fails_iff, seeds⟩ := metadata_seeded topics
  cases parsed : Command.parseMetadata topics with
  | error message =>
      obtain ⟨argument, listed, bare⟩ := fails_iff.1 ⟨message, parsed⟩
      exact absurd bare (by revert argument; decide)
  | ok given =>
      cases found : ((engine id).run? seeded "one" "go" given ()).2 with
      | none => exact absurd (seeded_ready.run?_eq_none_iff.1 found) (by decide)
      | some r =>
          obtain ⟨h, taken⟩ := seeded_ready.exists_history "one" "go" given
          have faithful : (engine id).worker.Faithful := Worker.oneByOne_faithful fun _ => .refl _
          obtain ⟨_, _, course⟩ :=
            Engine.course_of_run faithful ((engine id).worker.shows_any _) taken
          obtain ⟨happenings, later, steps⟩ := course.exists_step (List.cons_ne_nil _ _) (by decide)
          have first := congrArg List.head? steps
          have ran : r.course = .ok (seeded.startNode, h) := by
            rw [Engine.eq_run_of_run? found, taken]
          have values :=
            seeds given parsed (engine id) seeded "one" "go" () r _ h _ found ran first
          obtain ⟨topic, title, year⟩ := leave_topics
          have initial : ∃ m, seeded.initialMetadata = some m ∧ m.get? "year" = some (.ofNat 7) :=
            ⟨_, rfl, by simp [KeyMap.ofList, KeyMap.insertAll]⟩
          exact ⟨given, r, h, _, rfl, found, ran, first, (values _ _).2 (.inl topic),
            (values _ _).2 (.inl title), (values _ _).2 (.inr ⟨year, initial⟩)⟩

end Superstep
