/-
**Keys that are the same, as a relation.**

Being the same key is an equivalence: numbers are compared by what they are worth, points in time by the
instant, and everything else by what it is. So a map up to spelling is a map, with one value for each key
however the key is spelled.

* `Binary64.Tied`: numbers that are worth the same, an equivalence since all mantissas can be written for
  one exponent (`tied_finite_iff`);
* `Scalar.isSameKey_iff`, `isSameKey_refl`, `isSameKey_symm`, `isSameKey_trans`: keys that are the same;
* `Entries.Apart`: a map that has no key twice, in whatever spelling;
* `Entries.find?_insert`, `Entries.find?_merge`: the value of a key after setting one, or many;
* `Entries.keys_insert`, `Entries.keys_merge`: a key has the place and the spelling of its first occurrence;
* `Entries.merge_of_apart`: setting keys that are not there appends them.
-/

import RouteCompiler.Tree.Key

namespace RouteCompiler

/-! ### Numbers -/

namespace Binary64

/-- A mantissa for a lower exponent is larger by the power of two between them. -/
theorem aligned_lower (negative : Bool) (mantissa : Nat) {exponent low lower : Int} (below : lower ≤ low)
    (within : low ≤ exponent) :
    aligned negative mantissa exponent lower =
      aligned negative mantissa exponent low * (twoTo (low - lower).toNat : Nat) := by
  have split : (exponent - lower).toNat = (exponent - low).toNat + (low - lower).toNat := by omega
  have power : twoTo (exponent - lower).toNat = twoTo (exponent - low).toNat * twoTo (low - lower).toNat := by
    rw [split]
    exact Nat.pow_add 2 _ _
  unfold aligned
  rw [power, Int.natCast_mul, ← Int.mul_assoc]
  cases negative
  · rfl
  · exact (Int.neg_mul _ _).symm

/-- Two numbers that are worth the same. What is not a number is worth nothing. -/
def Tied (first second : Binary64) : Prop :=
  first ≠ .nan ∧ second ≠ .nan ∧ first.isLess second = false ∧ second.isLess first = false

theorem Tied.symm {first second : Binary64} (tied : Tied first second) : Tied second first :=
  ⟨tied.2.1, tied.1, tied.2.2.2, tied.2.2.1⟩

/-- Finite numbers are worth the same when their mantissas for a common exponent are equal. -/
theorem tied_finite_iff {a b : Bool} {m n : Nat} {e f low : Int} (first : low ≤ e) (second : low ≤ f) :
    Tied (.finite a m e) (.finite b n f) ↔ aligned a m e low = aligned b n f low := by
  have power : (0 : Int) < (twoTo (min e f - low).toNat : Nat) := Int.natCast_pos.mpr (twoTo_pos _)
  have common : low ≤ min e f := by omega
  rw [aligned_lower a m common (Int.min_le_left e f), aligned_lower b n common (Int.min_le_right e f),
    Int.mul_eq_mul_right_iff (Int.ne_of_gt power)]
  simp only [Tied, isLess, decide_eq_false_iff_not, Int.min_comm f e]
  constructor
  · rintro ⟨_, _, notLess, notMore⟩
    omega
  · intro equal
    exact ⟨nofun, nofun, by omega, by omega⟩

/-- An infinity is worth as much as itself alone. -/
theorem eq_of_tied_infinite {negative : Bool} {other : Binary64} (tied : Tied (.infinite negative) other) :
    other = .infinite negative := by
  obtain ⟨_, isNumber, notLess, notMore⟩ := tied
  cases other with
  | nan => exact absurd rfl isNumber
  | infinite sign => cases negative <;> cases sign <;> simp_all [isLess]
  | finite sign mantissa exponent => cases negative <;> simp_all [isLess]

theorem Tied.trans {first second third : Binary64} (left : Tied first second) (right : Tied second third) :
    Tied first third := by
  cases second with
  | nan => exact absurd rfl right.1
  | infinite negative =>
    rw [eq_of_tied_infinite left.symm]
    exact right
  | finite b n f =>
    cases first with
    | nan => exact absurd rfl left.1
    | infinite negative => cases eq_of_tied_infinite left
    | finite a m e =>
      cases third with
      | nan => exact absurd rfl right.2.1
      | infinite negative => cases eq_of_tied_infinite right.symm
      | finite c k g =>
        have atFirst : min e (min f g) ≤ e := by omega
        have atSecond : min e (min f g) ≤ f := by omega
        have atThird : min e (min f g) ≤ g := by omega
        rw [tied_finite_iff atFirst atSecond] at left
        rw [tied_finite_iff atSecond atThird] at right
        exact (tied_finite_iff atFirst atThird).mpr (left.trans right)

end Binary64

/-! ### Keys -/

namespace Scalar

/-- The instant of a key that is a point in time. -/
def instant : Scalar → Int
  | .stamp moment => moment.instant
  | _ => 0

theorem isBefore_of_number {first : Scalar} (isNumber : first.keyKind = .number) (second : Scalar) :
    first.isBefore second = first.number.isLess second.number := by
  cases first with
  | stamp moment => cases moment <;> cases isNumber
  | null => cases isNumber
  | str text => cases isNumber
  | bytes content => cases isNumber
  | _ => rfl

theorem isBefore_of_time {first second : Scalar} (isTime : first.keyKind = .time true)
    (alsoTime : second.keyKind = .time true) :
    first.isBefore second = decide (first.instant < second.instant) := by
  cases first with
  | stamp moment =>
    cases second with
    | stamp other => rfl
    | _ => cases alsoTime
  | _ => cases isTime

/-- Keys are the same when they are equal, numbers worth the same, or points in time with an offset at the
same instant. -/
theorem isSameKey_iff (first second : Scalar) :
    first.isSameKey second = true ↔
      first = second ∨
        (first.keyKind = .number ∧ second.keyKind = .number ∧ first.number.Tied second.number) ∨
        (first.keyKind = .time true ∧ second.keyKind = .time true ∧ first.instant = second.instant) := by
  unfold isSameKey
  split
  · rename_i isNumber alsoNumber
    rw [isBefore_of_number isNumber, isBefore_of_number alsoNumber]
    simp [isNumber, alsoNumber, Binary64.Tied, and_assoc]
  · rename_i isTime alsoTime
    rw [isBefore_of_time isTime alsoTime, isBefore_of_time alsoTime isTime]
    simp only [isTime, alsoTime, Bool.and_eq_true, Bool.not_eq_true', decide_eq_false_iff_not]
    constructor
    · intro together
      exact Or.inr (Or.inr ⟨trivial, trivial, by omega⟩)
    · rintro (rfl | ⟨other, _⟩ | ⟨_, _, together⟩)
      · omega
      · cases other
      · omega
  · rename_i notNumbers notTimes
    rw [beq_iff_eq]
    refine ⟨Or.inl, ?_⟩
    rintro (equal | ⟨isNumber, alsoNumber, _⟩ | ⟨isTime, alsoTime, _⟩)
    · exact equal
    · exact (notNumbers isNumber alsoNumber).elim
    · exact (notTimes isTime alsoTime).elim

@[simp] theorem isSameKey_refl (key : Scalar) : key.isSameKey key = true :=
  (isSameKey_iff key key).mpr (Or.inl rfl)

theorem isSameKey_symm {first second : Scalar} (same : first.isSameKey second = true) :
    second.isSameKey first = true := by
  rw [isSameKey_iff] at same ⊢
  rcases same with equal | ⟨atFirst, atSecond, tied⟩ | ⟨atFirst, atSecond, together⟩
  · exact Or.inl equal.symm
  · exact Or.inr (Or.inl ⟨atSecond, atFirst, tied.symm⟩)
  · exact Or.inr (Or.inr ⟨atSecond, atFirst, together.symm⟩)

theorem isSameKey_trans {first second third : Scalar} (left : first.isSameKey second = true)
    (right : second.isSameKey third = true) : first.isSameKey third = true := by
  rw [isSameKey_iff] at left right ⊢
  rcases left with rfl | ⟨atFirst, atSecond, tied⟩ | ⟨atFirst, atSecond, together⟩
  · exact right
  · rcases right with rfl | ⟨_, atThird, later⟩ | ⟨other, _, _⟩
    · exact Or.inr (Or.inl ⟨atFirst, atSecond, tied⟩)
    · exact Or.inr (Or.inl ⟨atFirst, atThird, tied.trans later⟩)
    · cases atSecond.symm.trans other
  · rcases right with rfl | ⟨other, _, _⟩ | ⟨_, atThird, later⟩
    · exact Or.inr (Or.inr ⟨atFirst, atSecond, together⟩)
    · cases atSecond.symm.trans other
    · exact Or.inr (Or.inr ⟨atFirst, atThird, together.trans later⟩)

/-- Keys that are the same are the same as the same keys. -/
theorem isSameKey_congr {first second : Scalar} (same : first.isSameKey second = true) (key : Scalar) :
    first.isSameKey key = second.isSameKey key := by
  rw [Bool.eq_iff_iff]
  exact ⟨fun atFirst => isSameKey_trans (isSameKey_symm same) atFirst,
    fun atSecond => isSameKey_trans same atSecond⟩

end Scalar

/-! ### Maps up to spelling -/

/-- An item that is added is a new one at the end, or is related to one of those that are kept. -/
theorem eraseDupsBy_concat {β : Type} (related : β → β → Bool) (items : List β) (item : β) :
    (items ++ [item]).eraseDupsBy related =
      if (items.eraseDupsBy related).any (related item) then items.eraseDupsBy related
      else items.eraseDupsBy related ++ [item] := by
  have looped (seen : List β) : List.eraseDupsBy.loop related (items ++ [item]) seen =
      if (List.eraseDupsBy.loop related items seen).any (related item) then List.eraseDupsBy.loop related items seen
      else List.eraseDupsBy.loop related items seen ++ [item] := by
    induction items generalizing seen with
    | nil =>
      rw [List.nil_append, List.eraseDupsBy.loop, List.eraseDupsBy.loop, List.any_reverse]
      cases seen.any (related item) <;> simp [List.eraseDupsBy.loop]
    | cons first rest ih =>
      rw [List.cons_append, List.eraseDupsBy.loop, List.eraseDupsBy.loop]
      cases seen.any (related first)
      · exact ih (first :: seen)
      · exact ih seen
  exact looped []

namespace Entries

variable {α : Type}

/-- No key stands in a map twice, in whatever spelling. -/
def Apart (entries : List (Scalar × α)) : Prop :=
  (OrderedMap.keys entries).Pairwise fun first second => first.isSameKey second = false

/-- The value of a key, in whatever spelling. -/
def find? (entries : List (Scalar × α)) (key : Scalar) : Option α :=
  OrderedMap.get? entries (spelling entries key)

theorem Apart.distinct {entries : List (Scalar × α)} (apart : Apart entries) : OrderedMap.Distinct entries := by
  refine List.Pairwise.imp (fun {first second} differ => ?_) apart
  rintro rfl
  rw [Scalar.isSameKey_refl] at differ
  cases differ

/-! #### Member by member -/

theorem isSameKey_spelling (entries : List (Scalar × α)) (key : Scalar) :
    key.isSameKey (spelling entries key) = true := by
  unfold spelling
  cases found : (OrderedMap.keys entries).find? (Scalar.isSameKey key) with
  | none => exact Scalar.isSameKey_refl key
  | some spelled => exact List.find?_some found

theorem spelling_cons (k : Scalar) (v : α) (rest : List (Scalar × α)) (key : Scalar) :
    spelling ((k, v) :: rest) key = if key.isSameKey k then k else spelling rest key := by
  rw [spelling, OrderedMap.keys_cons, List.find?_cons]
  split
  · rename_i same
    rw [if_pos same, Option.getD_some]
  · rename_i differs
    rw [if_neg (by simp [differs]), spelling]

/-- An entry is passed over when a look-up is for another key. -/
theorem ne_spelling {k key : Scalar} (differs : key.isSameKey k = false) (rest : List (Scalar × α)) :
    k ≠ spelling rest key := by
  intro same
  rw [same, isSameKey_spelling] at differs
  cases differs

@[simp] theorem find?_nil (key : Scalar) : find? ([] : List (Scalar × α)) key = none :=
  rfl

theorem find?_cons (k : Scalar) (v : α) (rest : List (Scalar × α)) (key : Scalar) :
    find? ((k, v) :: rest) key = if key.isSameKey k then some v else find? rest key := by
  rw [find?, spelling_cons]
  cases same : key.isSameKey k with
  | true => simp [OrderedMap.get?_cons]
  | false => simp [OrderedMap.get?_cons, ne_spelling same, find?]

theorem insert_cons (k : Scalar) (v : α) (rest : List (Scalar × α)) (key : Scalar) (value : α) :
    insert ((k, v) :: rest) key value =
      if key.isSameKey k then (k, value) :: rest else (k, v) :: insert rest key value := by
  rw [insert, spelling_cons]
  cases same : key.isSameKey k with
  | true => simp [OrderedMap.insert]
  | false => simp [OrderedMap.insert, ne_spelling same, insert]

/-! #### Values -/

theorem find?_str (entries : List (Scalar × α)) (text : String) :
    find? entries (.str text) = OrderedMap.get? entries (.str text) := by
  rw [find?, spelling_str]

theorem find?_eq_none_iff {entries : List (Scalar × α)} {key : Scalar} :
    find? entries key = none ↔ ∀ other ∈ OrderedMap.keys entries, key.isSameKey other = false := by
  induction entries with
  | nil => simp
  | cons entry rest ih =>
    obtain ⟨k, v⟩ := entry
    rw [find?_cons, OrderedMap.keys_cons, List.forall_mem_cons]
    cases same : key.isSameKey k with
    | true => simp
    | false => simpa using ih

theorem has_eq_false_iff {entries : List (Scalar × α)} {key : Scalar} :
    has entries key = false ↔ find? entries key = none := by
  show (find? entries key).isSome = false ↔ _
  rw [Option.isSome_eq_false_iff, Option.isNone_iff_eq_none]

/-- A value that is found stands in the map. -/
theorem mem_of_find?_eq_some {entries : List (Scalar × α)} {key : Scalar} {value : α}
    (found : find? entries key = some value) : (spelling entries key, value) ∈ entries :=
  OrderedMap.mem_of_get?_eq_some found

/-- Where no key stands twice, a value that stands in the map is found. -/
theorem find?_eq_some_of_mem {entries : List (Scalar × α)} (apart : Apart entries) {key : Scalar} {value : α}
    (member : (key, value) ∈ entries) : find? entries key = some value := by
  induction entries with
  | nil => cases member
  | cons entry rest ih =>
    obtain ⟨k, v⟩ := entry
    obtain ⟨fresh, apartRest⟩ := List.pairwise_cons.mp apart
    rw [find?_cons]
    rcases List.mem_cons.mp member with equal | later
    · cases equal
      rw [if_pos (Scalar.isSameKey_refl key)]
    · have differs : key.isSameKey k = false := by
        rw [← Bool.not_eq_true]
        intro same
        have other := fresh key (List.mem_map.mpr ⟨_, later, rfl⟩)
        rw [Scalar.isSameKey_symm same] at other
        cases other
      rw [if_neg (by simp [differs])]
      exact ih apartRest later

/-- **After setting a key** it has the new value in every spelling, and every other key has the old
one. -/
theorem find?_insert (entries : List (Scalar × α)) (key : Scalar) (value : α) (other : Scalar) :
    find? (insert entries key value) other = if other.isSameKey key then some value else find? entries other := by
  induction entries with
  | nil =>
    show find? [(key, value)] other = _
    rw [find?_cons]
  | cons entry rest ih =>
    obtain ⟨k, v⟩ := entry
    rw [insert_cons, find?_cons]
    cases same : key.isSameKey k with
    | true =>
      have equal : other.isSameKey key = other.isSameKey k := by
        rw [Bool.eq_iff_iff]
        exact ⟨fun found => Scalar.isSameKey_trans found same,
          fun found => Scalar.isSameKey_trans found (Scalar.isSameKey_symm same)⟩
      rw [if_pos rfl, find?_cons, equal]
      cases other.isSameKey k <;> rfl
    | false =>
      rw [if_neg (by simp), find?_cons, ih]
      cases found : other.isSameKey k with
      | false => rfl
      | true =>
        have differs : other.isSameKey key = false := by
          rw [← Bool.not_eq_true]
          intro again
          rw [Scalar.isSameKey_trans (Scalar.isSameKey_symm again) found] at same
          cases same
        simp [differs]

theorem merge_cons (base : List (Scalar × α)) (key : Scalar) (value : α) (rest : List (Scalar × α)) :
    merge base ((key, value) :: rest) = merge (insert base key value) rest :=
  rfl

/-- **After setting many keys** each has its new value, and every other key has the old one. -/
theorem find?_merge (base : List (Scalar × α)) {additions : List (Scalar × α)} (apart : Apart additions)
    (key : Scalar) : find? (merge base additions) key = (find? additions key <|> find? base key) := by
  induction additions generalizing base with
  | nil => rfl
  | cons entry rest ih =>
    obtain ⟨k, v⟩ := entry
    obtain ⟨fresh, apartRest⟩ := List.pairwise_cons.mp apart
    rw [merge_cons, ih _ apartRest, find?_insert, find?_cons]
    cases same : key.isSameKey k with
    | false => rfl
    | true =>
      have absent : find? rest key = none := by
        refine find?_eq_none_iff.mpr fun other member => ?_
        rw [Scalar.isSameKey_congr same]
        exact fresh other member
      rw [absent]
      rfl

/-! #### Keys -/

theorem mem_keys_insert {entries : List (Scalar × α)} {key other : Scalar} {value : α}
    (member : other ∈ OrderedMap.keys (insert entries key value)) :
    other = key ∨ other ∈ OrderedMap.keys entries := by
  rcases (OrderedMap.mem_keys_insert entries _ other value).mp member with rfl | known
  · unfold spelling
    cases found : (OrderedMap.keys entries).find? (Scalar.isSameKey key) with
    | none => exact Or.inl rfl
    | some spelled => exact Or.inr (List.mem_of_find?_eq_some found)
  · exact Or.inr known

/-- A key that is set stays where it is, or is put at the end. -/
theorem keys_insert (entries : List (Scalar × α)) (key : Scalar) (value : α) :
    OrderedMap.keys (insert entries key value) =
      if (OrderedMap.keys entries).any key.isSameKey then OrderedMap.keys entries
      else OrderedMap.keys entries ++ [key] := by
  induction entries with
  | nil => rfl
  | cons entry rest ih =>
    obtain ⟨k, v⟩ := entry
    rw [insert_cons, OrderedMap.keys_cons, List.any_cons]
    cases same : key.isSameKey k with
    | true => rfl
    | false =>
      rw [if_neg Bool.false_ne_true, OrderedMap.keys_cons, ih, Bool.false_or]
      split <;> rfl

/-- **After setting many keys** the keys are first occurrences, in order. -/
theorem keys_merge {base : List (Scalar × α)} {keys : List Scalar}
    (known : OrderedMap.keys base = keys.eraseDupsBy Scalar.isSameKey) (additions : List (Scalar × α)) :
    OrderedMap.keys (merge base additions) =
      (keys ++ OrderedMap.keys additions).eraseDupsBy Scalar.isSameKey := by
  induction additions generalizing base keys with
  | nil =>
    rw [OrderedMap.keys_nil, List.append_nil]
    exact known
  | cons entry rest ih =>
    obtain ⟨key, value⟩ := entry
    have inserted : OrderedMap.keys (insert base key value) = (keys ++ [key]).eraseDupsBy Scalar.isSameKey := by
      rw [keys_insert, eraseDupsBy_concat, known]
    rw [merge_cons, ih inserted, OrderedMap.keys_cons, List.append_assoc]
    rfl

/-- Setting a key makes none stand twice. -/
theorem Apart.insert {entries : List (Scalar × α)} (apart : Apart entries) (key : Scalar) (value : α) :
    Apart (insert entries key value) := by
  induction entries with
  | nil => exact List.pairwise_singleton _ key
  | cons entry rest ih =>
    obtain ⟨k, v⟩ := entry
    obtain ⟨fresh, apartRest⟩ := List.pairwise_cons.mp apart
    rw [insert_cons]
    cases same : key.isSameKey k with
    | true => exact apart
    | false =>
      refine List.pairwise_cons.mpr ⟨fun other member => ?_, ih apartRest⟩
      rcases mem_keys_insert member with rfl | known
      · rw [← Bool.not_eq_true]
        intro again
        rw [Scalar.isSameKey_symm again] at same
        cases same
      · exact fresh other known

theorem Apart.merge {base : List (Scalar × α)} (apart : Apart base) (additions : List (Scalar × α)) :
    Apart (merge base additions) := by
  induction additions generalizing base with
  | nil => exact apart
  | cons entry rest ih => exact ih (apart.insert entry.1 entry.2)

/-! #### Fresh keys -/

/-- A key that is in none of its spellings there is set at the end. -/
theorem insert_of_fresh {entries : List (Scalar × α)} {key : Scalar}
    (fresh : ∀ other ∈ OrderedMap.keys entries, key.isSameKey other = false) (value : α) :
    insert entries key value = entries ++ [(key, value)] := by
  induction entries with
  | nil => rfl
  | cons entry rest ih =>
    obtain ⟨k, v⟩ := entry
    rw [OrderedMap.keys_cons, List.forall_mem_cons] at fresh
    rw [insert_cons, if_neg (by simp [fresh.1]), ih fresh.2, List.cons_append]

/-- Setting keys that are not there appends their entries. -/
theorem merge_of_apart {base additions : List (Scalar × α)} (apart : Apart (base ++ additions)) :
    merge base additions = base ++ additions := by
  induction additions generalizing base with
  | nil => rw [List.append_nil]; rfl
  | cons entry rest ih =>
    obtain ⟨k, v⟩ := entry
    have fresh : ∀ other ∈ OrderedMap.keys base, k.isSameKey other = false := by
      intro other member
      rw [Apart, OrderedMap.keys_append, OrderedMap.keys_cons] at apart
      rw [← Bool.not_eq_true]
      intro same
      have differs := (List.pairwise_append.mp apart).2.2 other member k List.mem_cons_self
      rw [Scalar.isSameKey_symm same] at differs
      cases differs
    rw [merge_cons, insert_of_fresh fresh, ih (by rwa [List.append_assoc]), List.append_assoc]
    rfl

end Entries

end RouteCompiler
