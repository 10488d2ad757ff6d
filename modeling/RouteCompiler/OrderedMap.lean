/-
**Maps that keep the order of their entries.**

A map is a list of entries. A look-up finds the first entry of a key; setting a key replaces the value
of its entry where it stands and appends an entry when there is none. So a key keeps the position of
its first occurrence and has the value of its last.

* `get?_insert`: the value of a key after setting one;
* `insert_insert`, `insert_comm`: what setting two keys comes to;
* `keys_insert`: the keys after setting one;
* `mem_keys_merge`: the same for setting many;
* `get?_merge_of_distinct`, `keys_merge`: the same for setting each of many keys once;
* `distinct_insert`, `distinct_merge`, `distinct_ofList`: no operation makes a key occur twice.
-/

namespace RouteCompiler.OrderedMap

variable {κ α : Type} [DecidableEq κ]

/-! ### Operations -/

/-- The value of a key: that of its first entry. -/
def get? : List (κ × α) → κ → Option α
  | [], _ => none
  | (k, v) :: rest, key => if k = key then some v else get? rest key

/-- The keys in order. -/
def keys (entries : List (κ × α)) : List κ :=
  entries.map (·.1)

/-- The values in order. -/
def values (entries : List (κ × α)) : List α :=
  entries.map (·.2)

/-- Whether a key has an entry. -/
def contains (entries : List (κ × α)) (key : κ) : Bool :=
  (get? entries key).isSome

/-- Sets a key: its entry keeps its place, a new one comes last. -/
def insert : List (κ × α) → κ → α → List (κ × α)
  | [], key, value => [(key, value)]
  | (k, v) :: rest, key, value =>
    if k = key then (k, value) :: rest else (k, v) :: insert rest key value

/-- Sets the keys of the second map in the first, from left to right. -/
def merge (base additions : List (κ × α)) : List (κ × α) :=
  additions.foldl (fun entries entry => insert entries entry.1 entry.2) base

/-- The map of a list of pairs: a repeated key keeps its first place and its last value. -/
def ofList (pairs : List (κ × α)) : List (κ × α) :=
  merge [] pairs

/-- No key occurs twice. -/
def Distinct (entries : List (κ × α)) : Prop :=
  (keys entries).Nodup

/-! ### One key -/

omit [DecidableEq κ] in
@[simp] theorem keys_nil : keys ([] : List (κ × α)) = [] :=
  rfl

omit [DecidableEq κ] in
@[simp] theorem keys_cons (entry : κ × α) (rest : List (κ × α)) :
    keys (entry :: rest) = entry.1 :: keys rest :=
  rfl

omit [DecidableEq κ] in
@[simp] theorem keys_append (first second : List (κ × α)) :
    keys (first ++ second) = keys first ++ keys second := by
  simp [keys]

omit [DecidableEq κ] in
/-- The keys of the entries that are kept by their keys. -/
theorem keys_filter (entries : List (κ × α)) (kept : κ → Bool) :
    keys (entries.filter fun entry => kept entry.1) = (keys entries).filter kept := by
  unfold keys
  rw [List.filter_map]
  rfl

@[simp] theorem get?_nil (key : κ) : get? ([] : List (κ × α)) key = none :=
  rfl

theorem get?_cons (k : κ) (v : α) (rest : List (κ × α)) (key : κ) :
    get? ((k, v) :: rest) key = if k = key then some v else get? rest key :=
  rfl

/-- A key has a value exactly when it is one of the keys. -/
theorem get?_isSome_iff (entries : List (κ × α)) (key : κ) :
    (get? entries key).isSome = true ↔ key ∈ keys entries := by
  induction entries with
  | nil => simp
  | cons entry rest ih =>
    obtain ⟨k, v⟩ := entry
    by_cases same : k = key
    · simp [get?_cons, same]
    · simp only [get?_cons, if_neg same, ih, keys_cons, List.mem_cons]
      exact ⟨Or.inr, fun found => found.resolve_left fun equal => same equal.symm⟩

theorem get?_eq_none_iff (entries : List (κ × α)) (key : κ) :
    get? entries key = none ↔ key ∉ keys entries := by
  rw [← get?_isSome_iff, Option.not_isSome_iff_eq_none]

/-- What is found stands under one of the keys. -/
theorem mem_keys_of_get? {entries : List (κ × α)} {key : κ} {value : α}
    (found : get? entries key = some value) : key ∈ keys entries := by
  rw [← get?_isSome_iff, found]
  rfl

theorem contains_iff (entries : List (κ × α)) (key : κ) :
    contains entries key = true ↔ key ∈ keys entries :=
  get?_isSome_iff entries key

/-- A value that is found stands in an entry of its key. -/
theorem mem_of_get?_eq_some {entries : List (κ × α)} {key : κ} {value : α}
    (found : get? entries key = some value) : (key, value) ∈ entries := by
  induction entries with
  | nil => simp at found
  | cons entry rest ih =>
    obtain ⟨k, v⟩ := entry
    by_cases same : k = key
    · simp only [get?_cons, if_pos same, Option.some.injEq] at found
      simp [same, found]
    · simp only [get?_cons, if_neg same] at found
      exact List.mem_cons_of_mem _ (ih found)

/-- Where keys are distinct, an entry is what the look-up of its key finds. -/
theorem get?_eq_some_of_mem {entries : List (κ × α)} (distinct : Distinct entries) {key : κ} {value : α}
    (member : (key, value) ∈ entries) : get? entries key = some value := by
  induction entries with
  | nil => cases member
  | cons entry rest ih =>
    obtain ⟨k, v⟩ := entry
    obtain ⟨fresh, distinctRest⟩ := List.nodup_cons.mp distinct
    rcases List.mem_cons.mp member with equal | later
    · simp only [Prod.mk.injEq] at equal
      simp [get?_cons, equal.1, equal.2]
    · have other : k ≠ key := by
        intro same
        exact fresh (by subst same; exact List.mem_map.mpr ⟨_, later, rfl⟩)
      simpa [get?_cons, other] using ih distinctRest later

/-- In one map after another, a key is looked up in the first one first. -/
theorem get?_append (first second : List (κ × α)) (key : κ) :
    get? (first ++ second) key = (get? first key <|> get? second key) := by
  induction first with
  | nil => simp
  | cons entry rest ih =>
    obtain ⟨k, v⟩ := entry
    by_cases same : k = key <;> simp [get?_cons, same, ih]

/-- Where entries are kept by their keys, a key that is kept has the value that it had. -/
theorem get?_filter (entries : List (κ × α)) (kept : κ → Bool) {key : κ} (holds : kept key = true) :
    get? (entries.filter fun entry => kept entry.1) key = get? entries key := by
  induction entries with
  | nil => rfl
  | cons entry rest ih =>
    obtain ⟨k, v⟩ := entry
    by_cases here : k = key
    · subst here
      simp [get?_cons, holds]
    · rw [List.filter_cons]
      split <;> simp [get?_cons, here, ih]

/-- Where keys are renamed apart and values changed, each key has its value changed. -/
theorem get?_rename {μ β : Type} [DecidableEq μ] {rename : κ → μ}
    (apart : ∀ {first second}, rename first = rename second → first = second) (change : α → β)
    (entries : List (κ × α)) (key : κ) :
    get? (entries.map fun entry => (rename entry.1, change entry.2)) (rename key) = (get? entries key).map change := by
  induction entries with
  | nil => rfl
  | cons entry rest ih =>
    obtain ⟨k, v⟩ := entry
    rw [List.map_cons, get?_cons, get?_cons, ih]
    by_cases same : k = key
    · rw [if_pos same, if_pos (congrArg rename same), Option.map_some]
    · rw [if_neg same, if_neg fun renamed => same (apart renamed)]

/-! ### Setting a key -/

/-- After setting a key, it has the new value and every other key has the old one. -/
theorem get?_insert (entries : List (κ × α)) (key : κ) (value : α) (other : κ) :
    get? (insert entries key value) other = if key = other then some value else get? entries other := by
  induction entries with
  | nil => simp [insert, get?_cons]
  | cons entry rest ih =>
    obtain ⟨k, v⟩ := entry
    by_cases same : k = key
    · subst same
      by_cases equal : k = other <;> simp [insert, get?_cons, equal]
    · by_cases equal : k = other
      · subst equal
        have differ : ¬ key = k := fun found => same found.symm
        simp [insert, get?_cons, same, differ]
      · simp [insert, get?_cons, same, equal, ih]

theorem get?_insert_self (entries : List (κ × α)) (key : κ) (value : α) :
    get? (insert entries key value) key = some value := by
  rw [get?_insert, if_pos rfl]

/-- Setting a key to the value that it has changes nothing. -/
theorem insert_eq_self {entries : List (κ × α)} {key : κ} {value : α}
    (found : get? entries key = some value) : insert entries key value = entries := by
  induction entries with
  | nil => cases found
  | cons entry rest ih =>
    obtain ⟨k, v⟩ := entry
    rw [get?_cons] at found
    rw [insert]
    split
    · rename_i same
      rw [if_pos same] at found
      cases found
      rfl
    · rename_i differ
      rw [if_neg differ] at found
      rw [ih found]

/-- Of two values that are set for a key, the later one stays. -/
theorem insert_insert (entries : List (κ × α)) (key : κ) (value later : α) :
    insert (insert entries key value) key later = insert entries key later := by
  induction entries with
  | nil => simp [insert]
  | cons entry rest ih =>
    obtain ⟨k, v⟩ := entry
    by_cases same : k = key <;> simp [insert, same, ih]

/-- The value of a key that is there may be set before or after that of another key. -/
theorem insert_comm {entries : List (κ × α)} {key other : κ} (differ : key ≠ other)
    (present : key ∈ keys entries) (value otherValue : α) :
    insert (insert entries other otherValue) key value = insert (insert entries key value) other otherValue := by
  induction entries with
  | nil => cases present
  | cons entry rest ih =>
    obtain ⟨k, v⟩ := entry
    by_cases here : k = key
    · simp [insert, here, differ]
    · have inRest : key ∈ keys rest := (List.mem_cons.mp present).resolve_left (Ne.symm here)
      by_cases same : k = other
      · simp [insert, same, differ.symm]
      · simp [insert, here, same, ih inRest]

/-- Setting a key adds it at the end when it is new and leaves the keys as they are otherwise. -/
theorem keys_insert (entries : List (κ × α)) (key : κ) (value : α) :
    keys (insert entries key value) =
      if key ∈ keys entries then keys entries else keys entries ++ [key] := by
  induction entries with
  | nil => simp [insert]
  | cons entry rest ih =>
    obtain ⟨k, v⟩ := entry
    by_cases same : k = key
    · simp [insert, same]
    · have differ : key ≠ k := fun equal => same equal.symm
      by_cases member : key ∈ keys rest <;> simp [insert, same, ih, member, differ]

theorem mem_keys_insert (entries : List (κ × α)) (key other : κ) (value : α) :
    other ∈ keys (insert entries key value) ↔ other = key ∨ other ∈ keys entries := by
  rw [keys_insert]
  split
  · rename_i member
    constructor
    · exact Or.inr
    · rintro (rfl | found)
      · exact member
      · exact found
  · simp [or_comm]

/-- An entry of a map in which a key has been set is the new one or an old one. -/
theorem mem_insert_cases {entries : List (κ × α)} {key : κ} {value : α} {entry : κ × α}
    (member : entry ∈ insert entries key value) : entry = (key, value) ∨ entry ∈ entries := by
  induction entries with
  | nil => exact Or.inl (List.mem_singleton.mp member)
  | cons first rest ih =>
    obtain ⟨k, v⟩ := first
    rw [insert] at member
    split at member
    · rename_i same
      rcases List.mem_cons.mp member with here | later
      · exact Or.inl (by rw [here, same])
      · exact Or.inr (List.mem_cons_of_mem _ later)
    · rcases List.mem_cons.mp member with here | later
      · exact Or.inr (List.mem_cons.mpr (Or.inl here))
      · rcases ih later with new | old
        · exact Or.inl new
        · exact Or.inr (List.mem_cons_of_mem _ old)

/-- An entry stays where a key is set, unless it has the value that the key had. -/
theorem mem_insert_or {entries : List (κ × α)} {entry : κ × α} (member : entry ∈ entries) (key : κ) (value : α) :
    entry ∈ insert entries key value ∨ get? entries key = some entry.2 := by
  induction entries with
  | nil => cases member
  | cons first rest ih =>
    by_cases same : first.1 = key
    · rw [insert, if_pos same, get?_cons, if_pos same]
      rcases List.mem_cons.mp member with rfl | later
      · exact Or.inr rfl
      · exact Or.inl (List.mem_cons_of_mem _ later)
    · rw [insert, if_neg same, get?_cons, if_neg same]
      rcases List.mem_cons.mp member with rfl | later
      · exact Or.inl List.mem_cons_self
      · exact (ih later).imp_left (List.mem_cons_of_mem _)

theorem distinct_insert {entries : List (κ × α)} (distinct : Distinct entries) (key : κ) (value : α) :
    Distinct (insert entries key value) := by
  unfold Distinct at *
  rw [keys_insert]
  split
  · exact distinct
  · rename_i fresh
    exact List.nodup_append.mpr ⟨distinct, by simp, by
      intro first inFirst second inSecond equal
      simp only [List.mem_singleton] at inSecond
      exact fresh (inSecond ▸ equal ▸ inFirst)⟩

/-! ### Setting many keys -/

@[simp] theorem merge_nil (base : List (κ × α)) : merge base [] = base :=
  rfl

theorem merge_cons (base : List (κ × α)) (key : κ) (value : α) (rest : List (κ × α)) :
    merge base ((key, value) :: rest) = merge (insert base key value) rest :=
  rfl

theorem mem_keys_merge (base additions : List (κ × α)) (key : κ) :
    key ∈ keys (merge base additions) ↔ key ∈ keys base ∨ key ∈ keys additions := by
  induction additions generalizing base with
  | nil => simp
  | cons entry rest ih =>
    obtain ⟨k, v⟩ := entry
    rw [merge_cons, ih, mem_keys_insert]
    simp only [keys_cons, List.mem_cons]
    constructor
    · rintro ((equal | inBase) | inRest)
      · exact Or.inr (Or.inl equal)
      · exact Or.inl inBase
      · exact Or.inr (Or.inr inRest)
    · rintro (inBase | equal | inRest)
      · exact Or.inl (Or.inr inBase)
      · exact Or.inl (Or.inl equal)
      · exact Or.inr inRest

/-- An entry of a merged map is one of either map. -/
theorem mem_merge_cases {base additions : List (κ × α)} {entry : κ × α} (member : entry ∈ merge base additions) :
    entry ∈ base ∨ entry ∈ additions := by
  induction additions generalizing base with
  | nil => exact Or.inl member
  | cons first rest ih =>
    rcases ih member with inBase | inRest
    · rcases mem_insert_cases inBase with rfl | old
      · exact Or.inr List.mem_cons_self
      · exact Or.inl old
    · exact Or.inr (List.mem_cons_of_mem _ inRest)

/-- An entry of the map of a list of pairs is one of the pairs. -/
theorem mem_of_mem_ofList {pairs : List (κ × α)} {entry : κ × α} (member : entry ∈ ofList pairs) : entry ∈ pairs :=
  (mem_merge_cases member).resolve_left List.not_mem_nil

/-- Of keys that are set once each, every one has the value that is set, and every other key the old one. -/
theorem get?_merge_of_distinct (base : List (κ × α)) {additions : List (κ × α)} (distinct : Distinct additions)
    (key : κ) : get? (merge base additions) key = (get? additions key <|> get? base key) := by
  induction additions generalizing base with
  | nil => simp
  | cons entry rest ih =>
    obtain ⟨k, v⟩ := entry
    obtain ⟨fresh, distinctRest⟩ := List.nodup_cons.mp distinct
    rw [merge_cons, ih _ distinctRest, get?_insert, get?_cons]
    by_cases same : k = key
    · subst same
      have absent : get? rest k = none := (get?_eq_none_iff rest k).mpr fresh
      simp [absent]
    · simp [same]

/-- Of keys that are set once each, those that are new come last, in their order. -/
theorem keys_merge (base : List (κ × α)) {additions : List (κ × α)} (distinct : Distinct additions) :
    keys (merge base additions) = keys base ++ (keys additions).filter fun key => key ∉ keys base := by
  induction additions generalizing base with
  | nil => simp
  | cons entry rest ih =>
    obtain ⟨k, v⟩ := entry
    obtain ⟨fresh, distinctRest⟩ := List.nodup_cons.mp distinct
    have others : (keys rest).filter (fun key => key ∉ keys (insert base k v)) =
        (keys rest).filter fun key => key ∉ keys base := by
      refine List.filter_congr fun key inRest => ?_
      have differ : key ≠ k := fun equal => fresh (equal ▸ inRest)
      simp [mem_keys_insert, differ]
    rw [merge_cons, ih _ distinctRest, others, keys_insert, keys_cons]
    split
    · rename_i member
      simp [member]
    · rename_i absent
      simp [absent]

theorem distinct_merge {base : List (κ × α)} (distinct : Distinct base) (additions : List (κ × α)) :
    Distinct (merge base additions) := by
  induction additions generalizing base with
  | nil => exact distinct
  | cons entry rest ih => exact ih (distinct_insert distinct entry.1 entry.2)

theorem distinct_ofList (pairs : List (κ × α)) : Distinct (ofList pairs) :=
  distinct_merge (by simp [Distinct]) pairs

/-- Setting fresh distinct keys appends their entries. -/
theorem merge_eq_append {base additions : List (κ × α)} (distinct : Distinct additions)
    (fresh : ∀ key ∈ keys additions, key ∉ keys base) : merge base additions = base ++ additions := by
  induction additions generalizing base with
  | nil => simp
  | cons entry rest ih =>
    obtain ⟨k, v⟩ := entry
    obtain ⟨notInRest, distinctRest⟩ := List.nodup_cons.mp distinct
    have appended : insert base k v = base ++ [(k, v)] := by
      have absent : k ∉ keys base := fresh k (by simp)
      clear ih fresh
      induction base with
      | nil => rfl
      | cons first others inner =>
        obtain ⟨l, w⟩ := first
        simp only [keys_cons, List.mem_cons, not_or] at absent
        have differ : ¬ l = k := fun found => absent.1 found.symm
        simp [insert, differ, inner absent.2]
    rw [merge_cons, appended, ih distinctRest]
    · simp
    · intro key inRest
      simp only [keys_append, keys_cons, keys_nil, List.mem_append, List.mem_singleton, not_or]
      refine ⟨fresh key (by simp [inRest]), ?_⟩
      intro equal
      exact notInRest (equal ▸ inRest)

/-- A map whose keys are distinct is the map of its own entries. -/
theorem ofList_eq_self {entries : List (κ × α)} (distinct : Distinct entries) :
    ofList entries = entries := by
  have fresh : ∀ key ∈ keys entries, key ∉ keys ([] : List (κ × α)) := by simp
  simpa [ofList] using merge_eq_append distinct fresh

end RouteCompiler.OrderedMap
