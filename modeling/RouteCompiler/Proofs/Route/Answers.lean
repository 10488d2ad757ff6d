/-
**What the answers of an operation come to.**

An answer with JSON content gives its filtered schema under the text of its status, one without gives nothing, and the
order is that of the document. But statuses that differ may have one text, as a number and the text of its digits do,
and a map has a key once: of answers whose statuses have one text, the first one gives the place and the last one the
schema, and the others are lost. So every answer with JSON content is kept just where no two of them have statuses of
one text.

* `DeclaresJson`, `jsonSchema?_eq_some_iff`: the schema of JSON content;
* `Collects`: the schemas of answers, one for each that has JSON content;
* `collectResponses_ok_iff`: what is collected are these schemas, set one after the other;
* `KeepsAnswers`, `Collects.distinct_iff`: when none of them is lost;
* `answers_of_responses`: the answers of an operation;
* `answer_may_be_lost`: two answers of which one is lost.
-/

import RouteCompiler.Proofs.Route.Fault

namespace RouteCompiler

/-! ### JSON content -/

/-- A part of a document declares JSON content with a schema: it has an entry for one of the media types, and none but
absent ones for those before it. The schema is that of the entry, or the empty one if the entry is no object or its
schema does not count as given. -/
inductive DeclaresJson (types : List String) (node : Tree) : Tree → Prop
  | media {content : Entries} {before after : List String} {type : String} {media : Tree}
      (given : node.get? "content" = some (.map content)) (listed : types = before ++ type :: after)
      (skipped : ∀ earlier ∈ before,
        OrderedMap.get? content (.str earlier) = none ∨ OrderedMap.get? content (.str earlier) = some .null)
      (found : OrderedMap.get? content (.str type) = some media) (notNull : media ≠ .null) :
      DeclaresJson types node (if (media.field "schema").isTruthy then media.field "schema" else .map [])

/-- The first entry is that of a media type before which all are skipped. -/
theorem firstMedia?_eq_some_iff {content : Entries} {types : List String} {media : Tree} :
    firstMedia? content types = some media ↔
      ∃ before type after, types = before ++ type :: after ∧
        (∀ earlier ∈ before,
          OrderedMap.get? content (.str earlier) = none ∨ OrderedMap.get? content (.str earlier) = some .null) ∧
        OrderedMap.get? content (.str type) = some media ∧ media ≠ .null := by
  induction types with
  | nil => simp [firstMedia?]
  | cons first rest ih =>
    -- a media type without an entry is skipped, so the first entry is one of the rest
    have later (absent : OrderedMap.get? content (.str first) = none ∨
        OrderedMap.get? content (.str first) = some .null) :
        firstMedia? content (first :: rest) = firstMedia? content rest := by
      rcases absent with none | null
      · rw [firstMedia?, none]
      · rw [firstMedia?, null]
    constructor
    · intro isFirst
      by_cases absent : OrderedMap.get? content (.str first) = none ∨
          OrderedMap.get? content (.str first) = some .null
      · obtain ⟨before, type, after, rfl, skipped, found, notNull⟩ := ih.mp ((later absent).symm.trans isFirst)
        exact ⟨first :: before, type, after, rfl, List.forall_mem_cons.mpr ⟨absent, skipped⟩, found, notNull⟩
      · obtain ⟨present, notNull⟩ := not_or.mp absent
        obtain ⟨other, found⟩ := Option.ne_none_iff_exists'.mp present
        rw [found, Option.some.injEq] at notNull
        rw [firstMedia?, found] at isFirst
        split at isFirst
        · rename_i none
          cases none
        · rename_i null
          exact absurd (Option.some.inj null) notNull
        · cases isFirst
          rename_i same
          cases same
          exact ⟨[], first, rest, rfl, List.forall_mem_nil _, found, notNull⟩
    · rintro ⟨before, type, after, split, skipped, found, notNull⟩
      cases before with
      | nil =>
        cases split
        rw [firstMedia?, found]
        cases media with
        | scalar value =>
          cases value with
          | null => exact absurd rfl notNull
          | _ => rfl
        | _ => rfl
      | cons earlier before =>
        cases split
        obtain ⟨absent, skippedRest⟩ := List.forall_mem_cons.mp skipped
        exact (later absent).trans (ih.mpr ⟨before, type, after, rfl, skippedRest, found, notNull⟩)

/-- **The schema of JSON content** is that of the first media type with an entry. -/
theorem jsonSchema?_eq_some_iff {types : List String} {node schema : Tree} :
    jsonSchema? types node = some schema ↔ DeclaresJson types node schema := by
  constructor
  · intro isSchema
    unfold jsonSchema? at isSchema
    split at isSchema
    · rename_i content given
      obtain ⟨media, isFirst, rfl⟩ := Option.map_eq_some_iff.mp isSchema
      obtain ⟨before, type, after, listed, skipped, found, notNull⟩ := firstMedia?_eq_some_iff.mp isFirst
      exact .media given listed skipped found notNull
    · cases isSchema
  · rintro ⟨given, listed, skipped, found, notNull⟩
    have isFirst := firstMedia?_eq_some_iff.mpr ⟨_, _, _, listed, skipped, found, notNull⟩
    unfold jsonSchema?
    rw [given]
    simp only [isFirst]
    rfl

theorem jsonSchema?_eq_none_iff {types : List String} {node : Tree} :
    jsonSchema? types node = none ↔ ∀ schema, ¬ DeclaresJson types node schema := by
  simp only [Option.eq_none_iff_forall_ne_some, ne_eq, jsonSchema?_eq_some_iff]

/-! ### Collecting answers -/

/-- The schemas of answers: one for each answer with JSON content, in order, under the text of its status. It is the
schema of the answer without the properties that are only sent. -/
inductive Collects (settings : Settings) (location : Location) : Entries → Entries → Prop
  | done : Collects settings location [] []
  /-- An answer without JSON content gives nothing. -/
  | skipped {status : Scalar} {response : Tree} {rest answers : Entries}
      (without : ∀ schema, ¬ DeclaresJson settings.jsonMediaTypes response schema)
      (later : Collects settings location rest answers) :
      Collects settings location ((status, response) :: rest) answers
  /-- An answer with JSON content gives its filtered schema. -/
  | kept {status : Scalar} {response schema filtered : Tree} {text : String} {rest answers : Entries}
      (declares : DeclaresJson settings.jsonMediaTypes response schema) (spelled : status.spelled = .ok text)
      (filters : (Schema.filterSchema .writeOnly settings.filterDepth settings.strictSchemas
        (placeWithin location ("response " ++ text)) schema).outcome.1 = .ok filtered)
      (later : Collects settings location rest answers) :
      Collects settings location ((status, response) :: rest) ((.str text, filtered) :: answers)

variable {settings : Settings} {location : Location}

theorem Scalar.display_of_spelled {value : Scalar} {text : String} (spelled : value.spelled = .ok text) :
    value.display = text := by
  unfold Scalar.spelled Tree.spelled at spelled
  split at spelled
  · exact Except.ok.inj spelled
  · cases spelled

/-- What one answer gives. -/
theorem responseSchema_ok_iff {status : Scalar} {response : Tree} {schema? : Option Tree} :
    (responseSchema settings location status response).outcome.1 = .ok schema? ↔
      (schema? = none ∧ ∀ schema, ¬ DeclaresJson settings.jsonMediaTypes response schema) ∨
      ∃ schema text filtered, DeclaresJson settings.jsonMediaTypes response schema ∧ status.spelled = .ok text ∧
        (Schema.filterSchema .writeOnly settings.filterDepth settings.strictSchemas
          (placeWithin location ("response " ++ text)) schema).outcome.1 = .ok filtered ∧
        schema? = some filtered := by
  unfold responseSchema
  cases json : jsonSchema? settings.jsonMediaTypes response with
  | none =>
    have without := jsonSchema?_eq_none_iff.mp json
    constructor
    · intro made
      cases made
      exact Or.inl ⟨rfl, without⟩
    · rintro (⟨rfl, _⟩ | ⟨schema, _, _, declares, _⟩)
      · rfl
      · exact absurd declares (without schema)
  | some schema =>
    have declares := jsonSchema?_eq_some_iff.mp json
    have steady (place : String) := (Schema.confined_filterSchema .writeOnly settings.filterDepth
      settings.strictSchemas (placeWithin location place) schema).steady
    rw [Run.outcome_bind _ fun text => (steady _).bind fun _ => .pure _]
    constructor
    · intro made
      obtain ⟨text, spelled, later⟩ := bind_ok_iff.mp made
      rw [Run.outcome_bind _ fun _ => .pure _] at later
      obtain ⟨filtered, filters, same⟩ := bind_ok_iff.mp later
      cases same
      exact Or.inr ⟨schema, text, filtered, declares, spelled, filters, rfl⟩
    · rintro (⟨_, without⟩ | ⟨other, text, filtered, alsoDeclares, spelled, filters, rfl⟩)
      · exact absurd declares (without schema)
      · cases json.symm.trans (jsonSchema?_eq_some_iff.mpr alsoDeclares)
        refine bind_ok_iff.mpr ⟨text, spelled, ?_⟩
        rw [Run.outcome_bind _ fun _ => .pure _]
        exact bind_ok_iff.mpr ⟨filtered, filters, rfl⟩

/-- **What is collected** are the schemas of the answers, set one after the other. -/
theorem collectResponses_ok_iff {collected entries result : Entries} :
    (collectResponses settings location collected entries).outcome.1 = .ok result ↔
      ∃ answers, Collects settings location entries answers ∧ result = OrderedMap.merge collected answers := by
  induction entries generalizing collected with
  | nil =>
    constructor
    · intro made
      cases made
      exact ⟨[], .done, rfl⟩
    · rintro ⟨_, ⟨⟩, rfl⟩
      rfl
  | cons entry rest ih =>
    obtain ⟨status, response⟩ := entry
    have stepwise : (collectResponses settings location collected ((status, response) :: rest)).outcome.1 =
        (responseSchema settings location status response).outcome.1 >>= fun schema? =>
          (collectResponses settings location
            (schema?.elim collected fun schema => OrderedMap.insert collected (.str status.display) schema)
            rest).outcome.1 := by
      rw [collectResponses, Run.outcome_bind]
      · congr 1
        funext schema?
        cases schema? <;> rfl
      · rintro (_ | schema)
        · exact (confined_collectResponses settings location _ rest).steady
        · exact (confined_collectResponses settings location _ rest).steady
    rw [stepwise, bind_ok_iff]
    constructor
    · rintro ⟨schema?, here, later⟩
      rcases responseSchema_ok_iff.mp here with ⟨rfl, none⟩ | ⟨schema, text, filtered, declares, spelled, filters, rfl⟩
      · obtain ⟨answers, collects, same⟩ := ih.mp later
        exact ⟨answers, .skipped none collects, same⟩
      · obtain ⟨answers, collects, same⟩ := ih.mp later
        rw [Scalar.display_of_spelled spelled] at same
        exact ⟨_, .kept declares spelled filters collects, same⟩
    · rintro ⟨answers, collects, rfl⟩
      cases collects with
      | skipped without later => exact ⟨none, responseSchema_ok_iff.mpr (Or.inl ⟨rfl, without⟩), ih.mpr ⟨_, later, rfl⟩⟩
      | @kept _ _ schema filtered text _ answers declares spelled filters later =>
        refine ⟨some filtered, responseSchema_ok_iff.mpr (Or.inr ⟨_, _, _, declares, spelled, filters, rfl⟩), ?_⟩
        have text_eq := Scalar.display_of_spelled spelled
        subst text_eq
        exact ih.mpr ⟨answers, later, rfl⟩

/-! ### Lost answers -/

/-- No two answers with JSON content have statuses of one text. -/
def TellsApart (types : List String) (entries : Entries) : Prop :=
  entries.Pairwise fun first second =>
    (∃ schema, DeclaresJson types first.2 schema) → (∃ schema, DeclaresJson types second.2 schema) →
      first.1.display ≠ second.1.display

/-- The keys of the schemas are the texts of the statuses of the answers with JSON content. -/
theorem Collects.mem_keys_iff {entries answers : Entries} (collects : Collects settings location entries answers)
    {key : Scalar} : key ∈ OrderedMap.keys answers ↔
      ∃ entry ∈ entries, (∃ schema, DeclaresJson settings.jsonMediaTypes entry.2 schema) ∧
        key = .str entry.1.display := by
  induction collects with
  | done => simp
  | skipped none _ ih =>
    rw [ih]
    simp [none]
  | kept declares spelled _ _ ih =>
    rw [OrderedMap.keys_cons, List.mem_cons, ih]
    simp only [List.mem_cons, exists_eq_or_imp, Scalar.display_of_spelled spelled]
    exact or_congr_left ⟨fun same => ⟨⟨_, declares⟩, same⟩, And.right⟩

/-- **The keys of the schemas are distinct** where the answers are told apart. -/
theorem Collects.distinct_iff {entries answers : Entries} (collects : Collects settings location entries answers) :
    OrderedMap.Distinct answers ↔ TellsApart settings.jsonMediaTypes entries := by
  induction collects with
  | done => exact ⟨fun _ => .nil, fun _ => .nil⟩
  | skipped none _ ih =>
    rw [ih, TellsApart, TellsApart, List.pairwise_cons]
    exact ⟨fun rest => ⟨fun _ _ ⟨schema, declares⟩ => absurd declares (none schema), rest⟩, And.right⟩
  | @kept status _ _ _ _ _ _ declares spelled _ later ih =>
    rw [OrderedMap.Distinct, OrderedMap.keys_cons, List.nodup_cons, ← OrderedMap.Distinct, ih, TellsApart, TellsApart,
      List.pairwise_cons, later.mem_keys_iff, ← Scalar.display_of_spelled spelled]
    refine and_congr_left fun _ => ⟨fun fresh entry member _ json same => ?_, fun apart => ?_⟩
    · exact fresh ⟨entry, member, json, by rw [same]⟩
    · rintro ⟨entry, member, json, same⟩
      exact apart entry member ⟨_, declares⟩ json (Scalar.str.inj same)

/-! ### The answers of an operation -/

/-- The part of the schema of a route that its answers give: nothing, or an object under `response`. -/
def answersPart (answers : Entries) : Entries :=
  if answers = [] then [] else [("response", .map answers)]

/-- Every answer with JSON content has an entry of its own, in order, and there are no other entries. -/
def KeepsAnswers (settings : Settings) (location : Location) (entries result : Entries) : Prop :=
  ∃ answers, Collects settings location entries answers ∧ result = answersPart answers

theorem responses_map_ok_iff {entries result : Entries} :
    (responses settings location (.map entries)).outcome.1 = .ok result ↔
      ∃ answers, Collects settings location entries answers ∧ result = answersPart (OrderedMap.ofList answers) := by
  have collected : (responses settings location (.map entries)).outcome.1 =
      (collectResponses settings location [] entries).outcome.1 >>= fun answers => .ok (answersPart answers) := by
    unfold responses
    cases entries with
    | nil => rfl
    | cons entry rest =>
      have given : (Tree.map (entry :: rest)).isTruthy = true := rfl
      rw [if_pos given]
      simp only
      rw [Run.outcome_bind _ fun _ => .pure _]
      congr 1
      funext answers
      cases answers <;> rfl
  rw [collected, bind_ok_iff]
  simp only [collectResponses_ok_iff]
  constructor
  · rintro ⟨_, ⟨answers, collects, rfl⟩, same⟩
    exact ⟨answers, collects, (Except.ok.inj same).symm⟩
  · rintro ⟨answers, collects, rfl⟩
    exact ⟨_, ⟨answers, collects, rfl⟩, rfl⟩

theorem answersPart_injective {first second : Entries} (same : answersPart first = answersPart second) :
    first = second := by
  cases first <;> cases second <;> simp_all [answersPart]

/-- The schemas of answers are determined by the answers. -/
theorem Collects.unique {entries answers others : Entries} (collects : Collects settings location entries answers)
    (also : Collects settings location entries others) : answers = others := by
  induction collects generalizing others with
  | done =>
    cases also
    rfl
  | skipped none _ ih =>
    cases also with
    | skipped _ later => exact ih later
    | kept declares _ _ _ => exact absurd declares (none _)
  | kept declares spelled filters _ ih =>
    cases also with
    | skipped none _ => exact absurd declares (none _)
    | kept alsoDeclares alsoSpelled alsoFilters later =>
      cases (jsonSchema?_eq_some_iff.mpr declares).symm.trans (jsonSchema?_eq_some_iff.mpr alsoDeclares)
      cases spelled.symm.trans alsoSpelled
      cases filters.symm.trans alsoFilters
      rw [ih later]

/-- **What the answers of an operation come to.** The schemas of those with JSON content are set one after the other
under the texts of their statuses. Each has an entry of its own just where no two of these statuses have one text. -/
theorem answers_of_responses {entries result : Entries}
    (made : (responses settings location (.map entries)).outcome.1 = .ok result) :
    (∃ answers, Collects settings location entries answers ∧ result = answersPart (OrderedMap.ofList answers)) ∧
      (KeepsAnswers settings location entries result ↔ TellsApart settings.jsonMediaTypes entries) := by
  obtain ⟨answers, collects, rfl⟩ := responses_map_ok_iff.mp made
  refine ⟨⟨answers, collects, rfl⟩, ?_⟩
  rw [← collects.distinct_iff]
  constructor
  · rintro ⟨others, also, same⟩
    cases collects.unique also
    rw [← answersPart_injective same]
    exact OrderedMap.distinct_ofList answers
  · intro distinct
    exact ⟨answers, collects, by rw [OrderedMap.ofList_eq_self distinct]⟩

/-- An answer whose JSON content is an object with one property. -/
def answerWith (property : String) : Tree :=
  .map [("content", .map [("application/json", .map [("schema", schemaWith)])])]
where
  /-- The schema of such an object. -/
  schemaWith : Tree :=
    .map [("properties", .map [(.str property, .map [])])]

/-- Three answers: one by the number of its status, one without JSON content, and one for all other statuses. -/
def threeAnswers : Entries :=
  [(.int 404, answerWith "reason"), ("204", .map []), ("default", answerWith "title")]

/-- The schemas of two of them. -/
def threeAnswersPart : Entries :=
  [("response", .map [("404", answerWith.schemaWith "reason"), ("default", answerWith.schemaWith "title")])]

theorem answers_of_threeAnswers :
    (responses .default .null (.map threeAnswers)).outcome.1 = .ok threeAnswersPart ∧
      (∃ answers, Collects .default .null threeAnswers answers ∧
        threeAnswersPart = answersPart (OrderedMap.ofList answers)) ∧
      (KeepsAnswers .default .null threeAnswers threeAnswersPart ↔
        TellsApart Settings.default.jsonMediaTypes threeAnswers) := by
  have made : (responses .default .null (.map threeAnswers)).outcome.1 = .ok threeAnswersPart := by decide +kernel
  exact ⟨made, answers_of_responses made⟩

/-- Two answers of one status, once as a number and once as a text. -/
def twoAnswers : Entries :=
  [(.int 200, answerWith "a"), ("200", answerWith "b")]

/-- An answer with JSON content may be lost. -/
theorem answer_may_be_lost :
    ¬ ∀ settings location entries result, OrderedMap.Distinct entries →
      (responses settings location (.map entries)).outcome.1 = .ok result →
        KeepsAnswers settings location entries result := by
  intro keeps
  have made : (responses .default .null (.map twoAnswers)).outcome.1 =
      .ok [("response", .map [("200", answerWith.schemaWith "b")])] := by decide +kernel
  have distinct : OrderedMap.Distinct twoAnswers := by
    rw [OrderedMap.Distinct]
    decide
  obtain ⟨answers, collects, same⟩ := keeps _ _ _ _ distinct made
  have first : ∃ schema, DeclaresJson Settings.default.jsonMediaTypes (answerWith "a") schema :=
    ⟨_, jsonSchema?_eq_some_iff.mp rfl⟩
  have second : ∃ schema, DeclaresJson Settings.default.jsonMediaTypes (answerWith "b") schema :=
    ⟨_, jsonSchema?_eq_some_iff.mp rfl⟩
  -- all answers are kept, though two of them have statuses of one text
  have kept : OrderedMap.Distinct answers := by
    have one : answersPart [("200", answerWith.schemaWith "b")] = answersPart answers := same
    rw [← answersPart_injective one]
    simp [OrderedMap.Distinct]
  have apart := List.rel_of_pairwise_cons (collects.distinct_iff.mp kept) (List.mem_singleton_self _) first second
  exact apart rfl

end RouteCompiler
