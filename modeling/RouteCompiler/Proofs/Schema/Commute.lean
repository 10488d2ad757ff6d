/-
**Filtering for both sides.**

A schema may be filtered for what is sent and for what is returned. The two filters may go to different depths, so on
some levels only one of them takes properties out, and with a property that one of them takes out go all levels
that the other would have filtered. Still it does not matter which of them comes first. Neither changes the flags that
the other reads, and on a level that both reach the required names of what is left in the end are left by either
order.

* `trimmed_comm`: two flags and two numbers of levels;
* `exists_reaches_both`: levels that are enough for two schemas;
* `filtered_comm`: two flags and two depths;
* `filterSchema_comm`: two filters in either order.
-/

import RouteCompiler.Proofs.Schema.Depth

namespace RouteCompiler.Schema

/-! ### Levels -/

section Levels

variable (first second : Flag)

/-- The names of what both filters leave are among those of what one of them leaves. -/
theorem keys_unmarked_subset (flag : Flag) (properties : Entries) :
    OrderedMap.keys (unmarked flag properties) ⊆ OrderedMap.keys properties :=
  List.map_subset _ (List.filter_subset_self _)

theorem unmarked_comm (properties : Entries) :
    unmarked second (unmarked first properties) = unmarked first (unmarked second properties) :=
  List.filter_comm _ _ _

/-- A level that two filters reach is restricted to the properties that have neither flag, each of which has both
filters applied below it. -/
theorem trimmed_trimmed_succ {level properties : Entries}
    (given : OrderedMap.get? level propertiesKey = some (.map properties)) (levels others : Nat) :
    trimmed second (others + 1) (trimmed first (levels + 1) level) =
      restricted level (OrderedMap.mapValues (atOpened (trimmed second others ∘ trimmed first levels))
        (unmarked second (unmarked first properties))) := by
  rw [trimmed_succ given, trimmed_succ (get?_restricted_properties _ _), unmarked_mapValues_trimmed,
    OrderedMap.mapValues_mapValues, atOpened_atOpened (keepsLevels_trimmed first levels)]
  refine restricted_restricted ?_
  rw [OrderedMap.keys_mapValues, OrderedMap.keys_mapValues]
  exact keys_unmarked_subset second _

/-- **Levels may be filtered by one flag first or by the other**, to whatever number of levels. -/
theorem trimmed_comm (levels others : Nat) (level : Entries) :
    trimmed second others (trimmed first levels level) = trimmed first levels (trimmed second others level) := by
  induction levels generalizing others level with
  | zero => rfl
  | succ levels ih =>
    cases others with
    | zero => rfl
    | succ others =>
      by_cases given : ∃ properties, OrderedMap.get? level propertiesKey = some (.map properties)
      · obtain ⟨properties, given⟩ := given
        have below : trimmed second others ∘ trimmed first levels = trimmed first levels ∘ trimmed second others := by
          funext nested
          exact ih others nested
        rw [trimmed_trimmed_succ first second given, trimmed_trimmed_succ second first given, below,
          unmarked_comm first second]
      · rw [trimmed_of_no_properties given, trimmed_of_no_properties given, trimmed_of_no_properties given]

end Levels

/-! ### Depths -/

/-- There are levels that are enough for two schemas: as many as the depth says, or as many as the higher one has. -/
theorem exists_reaches_both (depth : Option Int) (schema other : Entries) :
    ∃ levels, Reaches depth schema levels ∧ Reaches depth other levels := by
  cases depth with
  | some limit => exact ⟨_, rfl, rfl⟩
  | none => exact ⟨_, Nat.le_max_left _ _, Nat.le_max_right _ _⟩

theorem filtered_nil (flag : Flag) (depth : Option Int) : filtered flag depth (.map []) = .map [] :=
  rfl

/-- **A schema may be filtered by one flag first or by the other**, to whatever depths. -/
theorem filtered_comm (first second : Flag) (depth limit : Option Int) (schema : Tree) :
    filtered second limit (filtered first depth schema) = filtered first depth (filtered second limit schema) := by
  cases schema with
  | map schema =>
    obtain ⟨once, isOnce⟩ : ∃ once, filtered first depth (.map schema) = .map once := exists_atOpened_map _ schema
    obtain ⟨other, isOther⟩ : ∃ other, filtered second limit (.map schema) = .map other :=
      exists_atOpened_map _ schema
    -- each filter meets the schema in one order and what the other filter has left of it in the other
    obtain ⟨levels, reachesFirst, alsoFirst⟩ := exists_reaches_both depth schema other
    obtain ⟨others, reachesSecond, alsoSecond⟩ := exists_reaches_both limit schema once
    have either : trimmed second others ∘ trimmed first levels = trimmed first levels ∘ trimmed second others := by
      funext level
      exact trimmed_comm first second levels others level
    have ofSecond : filtered second limit (.map once) =
        atOpened (trimmed second others ∘ trimmed first levels) (.map schema) := by
      rw [filtered_of_reaches alsoSecond, ← isOnce, filtered_of_reaches reachesFirst,
        ← atOpened_atOpened (keepsLevels_trimmed first levels), Function.comp_apply]
    have ofFirst : filtered first depth (.map other) =
        atOpened (trimmed first levels ∘ trimmed second others) (.map schema) := by
      rw [filtered_of_reaches alsoFirst, ← isOther, filtered_of_reaches reachesSecond,
        ← atOpened_atOpened (keepsLevels_trimmed second others), Function.comp_apply]
    rw [isOnce, isOther, ofSecond, ofFirst, either]
  | _ => exact (filtered_nil second limit).trans (filtered_nil first depth).symm

/-! ### Filters -/

/-- Filters that follow each other and both succeed compute the functions of the schema that they are. -/
theorem filtered_of_both {first second : Flag} {depth limit : Option Int} {strict otherStrict : Bool}
    {location place : Location} {schema result : Tree}
    (succeeded : ((filterSchema first depth strict location schema).outcome.1 >>= fun once =>
      (filterSchema second limit otherStrict place once).outcome.1) = .ok result) :
    result = filtered second limit (filtered first depth schema) := by
  obtain ⟨once, atFirst, atSecond⟩ := bind_ok_iff.mp succeeded
  obtain ⟨_, rfl⟩ := filterSchema_ok_iff.mp atFirst
  exact (filterSchema_ok_iff.mp atSecond).2

/-- **The filters of the two flags commute**: at whatever depths, strict or not, what they leave when the one for
`readOnly` comes first is what they leave when the one for `writeOnly` does. -/
theorem filterSchema_comm {readDepth writeDepth : Option Int} {readStrict writeStrict : Bool}
    {readLocation writeLocation : Location} {schema result other : Tree}
    (readFirst : ((filterSchema .readOnly readDepth readStrict readLocation schema).outcome.1 >>= fun once =>
      (filterSchema .writeOnly writeDepth writeStrict writeLocation once).outcome.1) = .ok result)
    (writeFirst : ((filterSchema .writeOnly writeDepth writeStrict writeLocation schema).outcome.1 >>= fun once =>
      (filterSchema .readOnly readDepth readStrict readLocation once).outcome.1) = .ok other) :
    result = other := by
  rw [filtered_of_both readFirst, filtered_of_both writeFirst]
  exact filtered_comm .readOnly .writeOnly readDepth writeDepth schema

/-- A secret that is only sent. -/
def sentSecret : Scalar × Tree :=
  ("secret", .map [("writeOnly", .bool true)])

/-- Both filters on an order, the one for `readOnly` on its first level alone. -/
theorem filterSchema_comm_of_orderSchema :
    let schema : Tree := .map (orderSchema [givenIdentifier, sentSecret] [givenIdentifier, sentSecret]
      [.str "id", .str "secret", .str "lines"])
    let remaining : Tree := .map (orderSchema [] [givenIdentifier] [.str "lines"])
    ((filterSchema .readOnly (some 1) true .null schema).outcome.1 >>= fun once =>
        (filterSchema .writeOnly none true .null once).outcome.1) = .ok remaining ∧
      ∃ other, ((filterSchema .writeOnly none true .null schema).outcome.1 >>= fun once =>
        (filterSchema .readOnly (some 1) true .null once).outcome.1) = .ok other ∧ remaining = other := by
  intro schema remaining
  have readFirst : ((filterSchema .readOnly (some 1) true .null schema).outcome.1 >>= fun once =>
      (filterSchema .writeOnly none true .null once).outcome.1) = .ok remaining := by decide +kernel
  have writeFirst : ((filterSchema .writeOnly none true .null schema).outcome.1 >>= fun once =>
      (filterSchema .readOnly (some 1) true .null once).outcome.1) = .ok remaining := by decide +kernel
  exact ⟨readFirst, remaining, writeFirst, filterSchema_comm readFirst writeFirst⟩

end RouteCompiler.Schema
