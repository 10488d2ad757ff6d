/-
**Paths of segments.**

Most paths are segments between slashes, each of them a variable or literal text, and the routing pattern of such a
path can be read back. A pattern only marks where a variable begins, so this rests on the segments: a variable is all
of its segment, and a literal segment does not begin with the mark. The scan goes over such a path segment by segment,
because no brace is left open at a slash.

* `Segment`: a segment with what is asked of it;
* `Segment.pattern_injective`: a segment is read back from its routing pattern;
* `Template.render_scan_join`, `Template.names_scan_join`: the scan of segments;
* `IsSegmented`: paths of segments;
* `segmented_path_of_url`: a path of segments has a routing pattern of its own, from which its variables are read off.
-/

import Mathlib.Data.Set.List
import RouteCompiler.Proofs.Route.Coverage
import RouteCompiler.Proofs.Route.Template

namespace RouteCompiler

open Template (BraceFree braced marked addLiteral addVariable scan)

/-! ### Segments -/

/-- A segment of a path. -/
inductive Segment where
  /-- A variable. There is no brace and no slash in its name. -/
  | named (name : List Char) (free : BraceFree name) (inside : '/' ∉ name)
  /-- Literal text. There is no brace and no slash in it, and it does not begin with a colon. -/
  | literal (chars : List Char) (free : BraceFree chars) (inside : '/' ∉ chars) (unmarked : chars.head? ≠ some ':')

namespace Segment

/-- A segment with a variable written by `write`. -/
def render (write : List Char → List Char) : Segment → List Char
  | named name .. => write name
  | literal chars .. => chars

/-- A segment in a path. -/
def text (segment : Segment) : List Char :=
  segment.render braced

/-- A segment in a routing pattern. -/
def pattern (segment : Segment) : List Char :=
  segment.render marked

/-- The name of a segment that is a variable. -/
def name? : Segment → Option (List Char)
  | named name .. => some name
  | literal .. => none

/-- Segments with slashes between them. -/
def join (write : List Char → List Char) (segments : List Segment) : List Char :=
  ['/'].intercalate (segments.map (render write))

variable {write : List Char → List Char}

theorem join_singleton (segment : Segment) : join write [segment] = segment.render write := by
  simp [join]

theorem join_cons_cons (segment next : Segment) (rest : List Segment) :
    join write (segment :: next :: rest) = segment.render write ++ '/' :: join write (next :: rest) := by
  simp [join, List.intercalate_cons_cons]

/-- **A segment is read back from its pattern.** -/
theorem pattern_injective : Function.Injective pattern := by
  intro first second same
  cases first with
  | named name free inside =>
    cases second with
    | named other _ _ =>
      have sameName : name = other := (List.cons.inj same).2
      subst sameName
      rfl
    | literal chars _ _ unmarked =>
      have begins : chars = ':' :: name := same.symm
      exact absurd (by rw [begins, List.head?_cons]) unmarked
  | literal chars free inside unmarked =>
    cases second with
    | named other _ _ =>
      have begins : chars = ':' :: other := same
      exact absurd (by rw [begins, List.head?_cons]) unmarked
    | literal others _ _ _ =>
      have sameChars : chars = others := same
      subst sameChars
      rfl

/-- Segments that are joined are split again at the slashes, when variables are written without any. -/
theorem splitOn_join (keeps : ∀ name, '/' ∉ name → '/' ∉ write name) {segments : List Segment}
    (nonempty : segments ≠ []) : (join write segments).splitOn '/' = segments.map (render write) := by
  refine List.splitOn_intercalate '/' (fun part member => ?_) (by simpa using nonempty)
  obtain ⟨segment, _, rfl⟩ := List.mem_map.mp member
  cases segment with
  | named name free inside => exact keeps name inside
  | literal chars free inside unmarked => exact inside

theorem splitOn_join_marked {segments : List Segment} (nonempty : segments ≠ []) :
    (join marked segments).splitOn '/' = segments.map pattern :=
  splitOn_join (fun name inside => by simpa [marked] using inside) nonempty

theorem splitOn_join_braced {segments : List Segment} (nonempty : segments ≠ []) :
    (join braced segments).splitOn '/' = segments.map text :=
  splitOn_join (fun name inside => by simpa [braced] using inside) nonempty

/-- The names of the variables are the segments of the pattern that begin with a colon, without it. -/
theorem names_of_patterns (segments : List Segment) :
    segments.filterMap name? =
      ((segments.map pattern).filter fun part => part.head? = some ':').map List.tail := by
  induction segments with
  | nil => rfl
  | cons segment rest ih =>
    rw [List.filterMap_cons, List.map_cons, List.filter_cons]
    cases segment with
    | named name free inside => simp [name?, pattern, render, marked, ih]
    | literal chars free inside unmarked => simp [name?, pattern, render, unmarked, ih]

end Segment

/-! ### The scan of segments -/

namespace Template

/-- Text without braces is scanned as a literal, whatever follows. -/
theorem scan_free (chars rest : List Char) (free : BraceFree chars) :
    scan none (chars ++ rest) = addLiteral chars (scan none rest) := by
  induction chars with
  | nil => rfl
  | cons c chars ih =>
    simp only [BraceFree, List.mem_cons, not_or] at free
    obtain ⟨⟨notOpening, noOpening⟩, _, noClosing⟩ := free
    simp [scan, Ne.symm notOpening, ih ⟨noOpening, noClosing⟩, addLiteral]

/-- A segment is scanned apart from what follows it. -/
theorem scan_segment (segment : Segment) (rest : List Char) :
    (∀ write, (scan none (segment.text ++ rest)).render write =
        segment.render write ++ (scan none rest).render write) ∧
      (scan none (segment.text ++ rest)).groups.map (·.1) =
        segment.name?.toList ++ (scan none rest).groups.map (·.1) := by
  cases segment with
  | named name free inside =>
    have scanned : scan none (braced name ++ rest) = addVariable name (scan none rest) := by
      simpa [braced] using scan_braced name rest free
    refine ⟨fun write => ?_, ?_⟩
    · rw [Segment.text, Segment.render, scanned, render_addVariable, Segment.render]
    · rw [Segment.text, Segment.render, scanned]
      rfl
  | literal chars free inside unmarked =>
    refine ⟨fun write => ?_, ?_⟩
    · rw [Segment.text, Segment.render, scan_free chars rest free, render_addLiteral, Segment.render]
    · rw [Segment.text, Segment.render, scan_free chars rest free]
      rfl

theorem scan_slash (rest : List Char) : scan none ('/' :: rest) = addLiteral ['/'] (scan none rest) := by
  simp [scan]

/-- **Segments are scanned one by one**, and the slashes between them stay. -/
theorem render_scan_join (write : List Char → List Char) (segments : List Segment) :
    (scan none (Segment.join braced segments)).render write = Segment.join write segments := by
  induction segments with
  | nil => rfl
  | cons segment rest ih =>
    cases rest with
    | nil =>
      have alone := (scan_segment segment []).1 write
      rw [List.append_nil] at alone
      rw [Segment.join_singleton, Segment.join_singleton]
      simpa [Segment.text, scan, render] using alone
    | cons next rest =>
      rw [Segment.join_cons_cons, Segment.join_cons_cons, ← Segment.text, (scan_segment segment _).1 write,
        scan_slash, render_addLiteral, ih, List.singleton_append]

/-- The variables of segments are those segments that are one. -/
theorem names_scan_join (segments : List Segment) :
    (scan none (Segment.join braced segments)).groups.map (·.1) = segments.filterMap Segment.name? := by
  induction segments with
  | nil => rfl
  | cons segment rest ih =>
    have split : (segment :: rest).filterMap Segment.name? = segment.name?.toList ++ rest.filterMap Segment.name? := by
      cases segment <;> rfl
    cases rest with
    | nil =>
      have alone := (scan_segment segment []).2
      rw [List.append_nil] at alone
      rw [split, Segment.join_singleton]
      simpa [Segment.text, scan] using alone
    | cons next rest =>
      rw [Segment.join_cons_cons, ← Segment.text, (scan_segment segment _).2, scan_slash, split, ← ih]
      rfl

end Template

/-! ### Paths -/

/-- Every part of a path between slashes is a segment. -/
def IsSegmented (path : String) : Prop :=
  ∀ part ∈ path.toList.splitOn '/', ∃ segment : Segment, segment.text = part

/-- A path of segments is written with slashes between them. -/
theorem isSegmented_iff {path : String} :
    IsSegmented path ↔ ∃ segments, segments ≠ [] ∧ path.toList = Segment.join braced segments := by
  constructor
  · intro segmented
    have made : path.toList.splitOn '/' ∈ Set.range (List.map Segment.text) := by
      rw [Set.range_list_map]
      exact segmented
    obtain ⟨segments, same⟩ := made
    have nonempty : segments ≠ [] := by
      rintro rfl
      exact List.splitOn_ne_nil '/' path.toList same.symm
    have written : path.toList = ['/'].intercalate (segments.map Segment.text) := by
      rw [same, List.intercalate_splitOn]
    exact ⟨segments, nonempty, written⟩
  · rintro ⟨segments, nonempty, written⟩ part member
    rw [written, Segment.splitOn_join_braced nonempty] at member
    obtain ⟨segment, _, same⟩ := List.mem_map.mp member
    exact ⟨segment, same⟩

theorem url_of_join {path : String} {segments : List Segment} (written : path.toList = Segment.join braced segments) :
    (Template.ofText path).url.toList = Segment.join marked segments := by
  rw [Template.url, String.toList_ofList, Template.ofText, written, Template.render_scan_join]

/-- Paths of segments with one routing pattern are one path. -/
theorem IsSegmented.url_inj {first second : String} (isFirst : IsSegmented first) (isSecond : IsSegmented second)
    (same : (Template.ofText first).url = (Template.ofText second).url) : first = second := by
  obtain ⟨segments, nonempty, written⟩ := isSegmented_iff.mp isFirst
  obtain ⟨others, nonemptyOther, writtenOther⟩ := isSegmented_iff.mp isSecond
  have sameChars : Segment.join marked segments = Segment.join marked others := by
    rw [← url_of_join written, ← url_of_join writtenOther, same]
  have samePatterns : segments.map Segment.pattern = others.map Segment.pattern := by
    rw [← Segment.splitOn_join_marked nonempty, ← Segment.splitOn_join_marked nonemptyOther, sameChars]
  have sameSegments : segments = others := (List.map_injective_iff.mpr Segment.pattern_injective) samePatterns
  exact String.toList_injective (by rw [written, writtenOther, sameSegments])

/-- The variables of a path of segments are read off its routing pattern. -/
theorem IsSegmented.variableNames_eq {path : String} (segmented : IsSegmented path) :
    (Template.ofText path).variableNames =
      (((Template.ofText path).url.toList.splitOn '/').filter fun part => part.head? = some ':').map fun part =>
        String.ofList part.tail := by
  obtain ⟨segments, nonempty, written⟩ := isSegmented_iff.mp segmented
  have names : (Template.ofText path).groups.map (·.1) = segments.filterMap Segment.name? := by
    rw [Template.ofText, written, Template.names_scan_join]
  calc (Template.ofText path).variableNames
      = ((Template.ofText path).groups.map (·.1)).map String.ofList := by
        rw [List.map_map]
        rfl
    _ = (((segments.map Segment.pattern).filter fun part => part.head? = some ':').map List.tail).map
          String.ofList := by rw [names, Segment.names_of_patterns]
    _ = _ := by
        rw [url_of_join written, Segment.splitOn_join_marked nonempty, List.map_map]
        rfl

/-! ### Routes -/

variable {settings : Settings} {handlers : Handlers} {document : Tree} {routes : List Route}

/-- The routing pattern of a route is that of its path. -/
theorem url_of_mem_routes (compiles : (compileDocument settings handlers document).outcome.1 = .ok routes)
    {route : Route} (member : route ∈ routes) : route.url = (Template.ofText route.path).url := by
  rw [compileDocument_outcome] at compiles
  obtain ⟨resolved, _, compiled⟩ := bind_ok_iff.mp compiles
  obtain ⟨_, serve⟩ := compileResolved_ok_iff.mp compiled
  obtain ⟨operation, _, serves⟩ := exists_left_of_mem serve member
  rw [serves.url, serves.path]

/-- **A path of segments has a routing pattern of its own.** Its variables are the segments of the pattern that begin
with a colon. So two different paths of a document, both of segments, are never compiled to one method and pattern. -/
theorem segmented_path_of_url {first second : String} (isFirst : IsSegmented first) (isSecond : IsSegmented second) :
    ((Template.ofText first).url = (Template.ofText second).url → first = second) ∧
      ((Template.ofText first).variableNames =
        (((Template.ofText first).url.toList.splitOn '/').filter fun part => part.head? = some ':').map fun part =>
          String.ofList part.tail) ∧
      ∀ settings handlers document routes, (compileDocument settings handlers document).outcome.1 = .ok routes →
        ∀ route ∈ routes, ∀ other ∈ routes, route.path = first → other.path = second → first ≠ second →
          (route.method, route.url) ≠ (other.method, other.url) := by
  refine ⟨isFirst.url_inj isSecond, isFirst.variableNames_eq, ?_⟩
  intro settings handlers document routes compiles route inRoutes other otherInRoutes atFirst atSecond differ same
  have sameUrl : route.url = other.url := (Prod.mk.inj same).2
  rw [url_of_mem_routes compiles inRoutes, url_of_mem_routes compiles otherInRoutes, atFirst, atSecond] at sameUrl
  exact differ (isFirst.url_inj isSecond sameUrl)

/-- The segments of a path that ends in a variable. -/
def userSegments : List Segment :=
  [.literal [] (by decide) (by decide) (by decide), .literal "users".toList (by decide) (by decide) (by decide),
    .named "id".toList (by decide) (by decide)]

/-- The segments of a path that ends in the name of this variable. -/
def idSegments : List Segment :=
  [.literal [] (by decide) (by decide) (by decide), .literal "users".toList (by decide) (by decide) (by decide),
    .literal "id".toList (by decide) (by decide) (by decide)]

/-- A document with both paths. -/
def lookalikeDocument : Tree :=
  .map [("paths", .map [("/users/\x7bid\x7d", .map [("get", .map [("operationId", .str "GetUser")])]),
    ("/users/id", .map [("get", .map [("operationId", .str "GetId")])])])]

theorem segmented_path_of_lookalikes :
    IsSegmented "/users/\x7bid\x7d" ∧ IsSegmented "/users/id" ∧
      (Template.ofText "/users/\x7bid\x7d").url ≠ (Template.ofText "/users/id").url ∧
      ∃ routes, (compileDocument .default [("getUser", .callable "read"), ("getId", .callable "show")]
          lookalikeDocument).outcome.1 = .ok routes ∧
        (routes.map fun route => (route.path, route.method)) =
          [("/users/\x7bid\x7d", "GET"), ("/users/id", "GET")] ∧
        ∀ route ∈ routes, ∀ other ∈ routes, route.path = "/users/\x7bid\x7d" → other.path = "/users/id" →
          (route.method, route.url) ≠ (other.method, other.url) := by
  have isUser : IsSegmented "/users/\x7bid\x7d" :=
    isSegmented_iff.mpr ⟨userSegments, by simp [userSegments], by decide⟩
  have isId : IsSegmented "/users/id" := isSegmented_iff.mpr ⟨idSegments, by simp [idSegments], by decide⟩
  have differ : "/users/\x7bid\x7d" ≠ "/users/id" := by decide
  have served : ((compileDocument .default [("getUser", .callable "read"), ("getId", .callable "show")]
      lookalikeDocument).outcome.1.map fun routes => routes.map fun route => (route.path, route.method)) =
        .ok [("/users/\x7bid\x7d", "GET"), ("/users/id", "GET")] := by
    decide +kernel
  obtain ⟨routes, compiles, places⟩ := map_ok_iff.mp served
  obtain ⟨own, _, apart⟩ := segmented_path_of_url isUser isId
  refine ⟨isUser, isId, fun same => differ (own same), routes, compiles, places, ?_⟩
  intro route inRoutes other otherInRoutes atUser atId
  exact apart _ _ _ routes compiles route inRoutes other otherInRoutes atUser atId differ

end RouteCompiler
