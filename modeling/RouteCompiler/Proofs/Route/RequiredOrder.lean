/-
**The order of required names.**

The properties of a part of the request stand in the order in which they were first declared, its required names in
the order in which they were last declared: a name that is declared again is moved to the end of the required ones.
So the required names stand in the order of the properties just where no two of them have been declared again in the
opposite order. A path that repeats a parameter of an operation may change it.

* `FirstBefore`, `LastBefore`: the orders of first and of last occurrences;
* `pairwise_eraseDups`, `pairwise_dedup`: lists that are put in these orders;
* `sublist_eraseDups_iff`: when the one order is the other;
* `required_in_order_of_last`: the required names of a part and its properties;
* `required_names_out_of_order`: they may differ.
-/

import Mathlib.Data.List.Sort
import RouteCompiler.Proofs.Route.Redeclaration

namespace RouteCompiler

/-! ### First and last occurrences -/

section Occurrences

variable {α : Type} [DecidableEq α] {names kept : List α} {first second : α}

/-- The first occurrence of a name is before that of another one. -/
def FirstBefore (names : List α) (first second : α) : Prop :=
  names.idxOf first < names.idxOf second

/-- The last occurrence of a name is before that of another one. -/
def LastBefore (names : List α) (first second : α) : Prop :=
  names.reverse.idxOf second < names.reverse.idxOf first

/-- Of two names one occurs first before the other. -/
theorem FirstBefore.total (known : first ∈ names) (differ : first ≠ second) :
    FirstBefore names first second ∨ FirstBefore names second first := by
  have apart : names.idxOf first ≠ names.idxOf second := fun same => differ ((List.idxOf_inj known).mp same)
  exact Nat.lt_or_gt_of_ne apart

theorem FirstBefore.asymm (before : FirstBefore names first second) : ¬ FirstBefore names second first :=
  Nat.lt_asymm before

theorem LastBefore.asymm (before : LastBefore names first second) : ¬ LastBefore names second first :=
  Nat.lt_asymm before

/-- Names without repetition stand in the order of their first occurrences. -/
theorem pairwise_eraseDups (names : List α) : names.eraseDups.Pairwise (FirstBefore names) := by
  induction names using List.reverseRecOn with
  | nil => exact .nil
  | append_singleton names name ih =>
    have still {first : α} (known : first ∈ names.eraseDups) :
        (names ++ [name]).idxOf first = names.idxOf first :=
      List.idxOf_append_of_mem (List.mem_eraseDups.mp known)
    have before : names.eraseDups.Pairwise (FirstBefore (names ++ [name])) :=
      ih.imp_of_mem fun {first second} isFirst isSecond earlier => by
        rw [FirstBefore, still isFirst, still isSecond]
        exact earlier
    rw [eraseDups_concat]
    split
    · exact before
    · rename_i fresh
      refine List.pairwise_append.mpr ⟨before, List.pairwise_singleton _ _, fun first isFirst last isLast => ?_⟩
      cases List.mem_singleton.mp isLast
      rw [FirstBefore, still isFirst, List.idxOf_append_of_notMem fresh]
      exact Nat.lt_add_right _ (List.idxOf_lt_length_of_mem (List.mem_eraseDups.mp isFirst))

/-- Names that are moved to the end when they are repeated stand in the order of their last occurrences. -/
theorem pairwise_dedup (names : List α) : names.dedup.Pairwise (LastBefore names) := by
  induction names using List.reverseRecOn with
  | nil => exact .nil
  | append_singleton names name ih =>
    have differs {other : α} (member : other ∈ names.dedup.erase name) : name ≠ other := by
      rintro rfl
      exact (List.nodup_dedup names).not_mem_erase member
    have later {other : α} (member : other ∈ names.dedup.erase name) :
        (names ++ [name]).reverse.idxOf other = names.reverse.idxOf other + 1 := by
      rw [List.reverse_append, List.reverse_singleton, List.singleton_append,
        List.idxOf_cons_ne _ (differs member)]
    rw [dedup_concat]
    refine List.pairwise_append.mpr ⟨?_, List.pairwise_singleton _ _, fun first isFirst last isLast => ?_⟩
    · refine (ih.sublist List.erase_sublist).imp_of_mem fun {first second} isFirst isSecond earlier => ?_
      rw [LastBefore, later isFirst, later isSecond]
      exact Nat.succ_lt_succ earlier
    · cases List.mem_singleton.mp isLast
      rw [LastBefore, later isFirst, List.reverse_append, List.reverse_singleton, List.singleton_append,
        List.idxOf_cons_self]
      exact Nat.succ_pos _

/-- **Some names stand in the order of first occurrences** when that is their order of last occurrences. -/
theorem sublist_eraseDups_iff (some : kept.Sublist names.dedup) :
    kept.Sublist names.eraseDups ↔
      ∀ first ∈ kept, ∀ second ∈ kept, FirstBefore names first second → LastBefore names first second := by
  have byLast : kept.Pairwise (LastBefore names) := (pairwise_dedup names).sublist some
  have known {name : α} (member : name ∈ kept) : name ∈ names := List.mem_dedup.mp (some.subset member)
  constructor
  · intro ordered
    have byFirst : kept.Pairwise (FirstBefore names) := (pairwise_eraseDups names).sublist ordered
    have forward : kept.Pairwise fun first second => FirstBefore names first second → LastBefore names first second :=
      byLast.imp fun {first second} before (_ : FirstBefore names first second) => before
    -- what stands later in the list is not first before what stands earlier
    have backward : kept.Pairwise
        (flip fun first second => FirstBefore names first second → LastBefore names first second) :=
      byFirst.imp fun before opposite => absurd opposite before.asymm
    refine fun first isFirst second isSecond => forward.forall_of_forall_of_flip (fun name _ => ?_) backward isFirst
      isSecond
    exact fun before => absurd before before.asymm
  · intro agree
    have byFirst : kept.Pairwise (FirstBefore names) := by
      refine (byLast.and (names.nodup_dedup.sublist some)).imp_of_mem fun {first second} isFirst isSecond both => ?_
      refine (FirstBefore.total (known isFirst) both.2).resolve_right fun opposite => ?_
      exact both.1.asymm (agree second isSecond first isFirst opposite)
    have : Std.Antisymm (FirstBefore names) := ⟨fun first second before after => absurd after before.asymm⟩
    refine List.sublist_of_subperm_of_pairwise ?_ byFirst (pairwise_eraseDups names)
    exact List.subperm_of_subset (names.nodup_dedup.sublist some) fun name member =>
      List.mem_eraseDups.mpr (known member)

end Occurrences

/-! ### Required names -/

/-- The order of the names in the schema of the declarations of a part. -/
structure Orders (declared : List Parameter) (schema : Tree) : Prop where
  /-- The properties stand in the order of first declarations. -/
  properties : ∃ properties, schema.get? "properties" = some (.map properties) ∧
    OrderedMap.keys properties = (namesOf declared).eraseDups.map .str
  /-- The required names stand in the order of last declarations. -/
  required : schema.get? "required" =
    if requiredNames declared = [] then none else some (.list ((requiredNames declared).map .str))
  /-- The two orders are one where any two required names are declared first and last in the same order. -/
  sublist_iff : (requiredNames declared).Sublist (namesOf declared).eraseDups ↔
    ∀ first ∈ requiredNames declared, ∀ second ∈ requiredNames declared,
      FirstBefore (namesOf declared) first second → LastBefore (namesOf declared) first second

/-- **Required names stand in the order of their last declarations**, which need not be that of the properties. -/
theorem required_in_order_of_last {trees : List Tree} {schemas : Entries}
    (made : parameterSchemas true trees = .ok schemas) :
    ∃ declared, List.Forall₂ Declares trees declared ∧
      ∀ part ∈ declared.map (·.part), ∃ schema, OrderedMap.get? schemas (.str part.key) = some schema ∧
        Orders (inPart part declared) schema := by
  obtain ⟨declared, read, rfl⟩ := parameterSchemas_ok_iff.mp made
  refine ⟨declared, read, fun part present => ⟨_, get?_schemasOf true present, ?_, ?_, ?_⟩⟩
  · obtain ⟨properties, found, keys, _⟩ := ParameterGroup.exists_properties_schema true (inPart part declared)
    exact ⟨properties, found, keys⟩
  · rw [ParameterGroup.get?_required_schema]
    simp only [Bool.true_eq_false, false_or]
  · exact sublist_eraseDups_iff List.filter_sublist

/-- Two required parameters, the first of which is declared again. -/
def repeatedDeclarations : List Tree :=
  [query "page", query "size", query "page"]
where
  query (name : String) : Tree :=
    .map [("name", .str name), ("in", .str "query"), ("required", .bool true)]

/-- What they come to. -/
def repeatedSchemas : Entries :=
  [("querystring", .map [("type", .str "object"), ("properties", .map [("page", .map []), ("size", .map [])]),
    ("required", .list [.str "size", .str "page"])])]

theorem required_in_order_of_last_of_repeated :
    parameterSchemas true repeatedDeclarations = .ok repeatedSchemas ∧
      ∃ declared, List.Forall₂ Declares repeatedDeclarations declared ∧
        ∀ part ∈ declared.map (·.part), ∃ schema, OrderedMap.get? repeatedSchemas (.str part.key) = some schema ∧
          Orders (inPart part declared) schema := by
  have made : parameterSchemas true repeatedDeclarations = .ok repeatedSchemas := by decide +kernel
  exact ⟨made, required_in_order_of_last made⟩

/-- Required names need not stand in the order of the properties. -/
theorem required_names_out_of_order :
    ¬ ∀ (trees : List Tree) (schemas : Entries), parameterSchemas true trees = .ok schemas →
      ∀ key schema properties required, OrderedMap.get? schemas key = some schema →
        schema.get? "properties" = some (.map properties) → schema.get? "required" = some (.list required) →
          required.Sublist ((OrderedMap.keys properties).map .scalar) := by
  intro ordered
  have made : parameterSchemas true repeatedDeclarations = .ok repeatedSchemas := by decide +kernel
  have sublist := ordered _ _ made "querystring" _ _ _ rfl rfl rfl
  revert sublist
  decide

end RouteCompiler
