import Mathlib.Algebra.GroupWithZero.Nat
import SqlAssembly.Proofs.Acceptance
import SqlAssembly.Proofs.Layout.Clauses
import SqlAssembly.Proofs.Outcomes

/-!
# Runs of parts

Parts that are rendered one after the other on one rendering, in whatever order: a statement's own
order is one of many. The last number that was handed out is always the number of the scalars
collected, so what a part adds does not depend on what was rendered before it, and its text only in
that every number is raised (`Rendering.answer_consistent`). A part that cannot be made adds
nothing.
-/

namespace SqlAssembly

open Layout Outcome

/-! ## Parts -/

namespace Part

def layout : Part → Layout Scalar
  | .condition c => c.layout
  | .group g => g.layout
  | .filter f => f.layout
  | .assignments items => Assignment.layoutAll items

/-- The conditions in the order of the text. -/
def conditions : Part → List Condition
  | .condition c => [c]
  | .group g => g
  | .filter f => (f.required ++ f.alternatives).flatten
  | .assignments _ => []

def assigned : Part → List Assignment
  | .condition _ | .group _ | .filter _ => []
  | .assignments items => items

/-- The mode in which the part is written, whatever the mode of the rendering is for assignments. -/
def modeIn (mode : Rendering.Mode) : Part → Rendering.Mode
  | .condition _ | .group _ | .filter _ => mode
  | .assignments _ => .placeholder

/-- The scalars that become arguments. -/
def bound (mode : Rendering.Mode) (part : Part) : List Scalar :=
  match mode with
  | .placeholder =>
      part.conditions.flatMap Condition.scalars ++ part.assigned.map Assignment.value
  | .literal => part.assigned.map Assignment.value

theorem render_eq (part : Part) (r : Rendering) :
    part.render r = part.layout.write (part.modeIn r.mode) r := by
  cases part with
  | condition c => exact c.render_eq r
  | group g => exact g.render_eq r
  | filter f => exact f.render_eq r
  | assignments items => exact Assignment.renderAll_eq items r

theorem flatMap_scalars_flatten (groups : List Group) :
    groups.flatten.flatMap Condition.scalars = groups.flatMap Group.scalars := by
  rw [List.flatten_eq_flatMap, List.flatMap_assoc]
  rfl

theorem holes_layout (part : Part) :
    holes part.layout =
      part.conditions.flatMap Condition.scalars ++ part.assigned.map Assignment.value := by
  cases part with
  | condition c => simp [layout, conditions, assigned]
  | group g => simp [layout, conditions, assigned, Group.scalars]
  | filter f => simp [layout, conditions, assigned, flatMap_scalars_flatten, Filter.scalars]
  | assignments items => simp [layout, conditions, assigned]

/-- The arguments are what stands in the holes, unless those are filled with literals. -/
theorem bound_eq (mode : Rendering.Mode) (part : Part) :
    part.bound mode =
      match part.modeIn mode with
      | .placeholder => holes part.layout
      | .literal => [] := by
  rw [holes_layout]
  cases mode <;> cases part <;> rfl

/-- In placeholder mode every value takes as many arguments as it has scalars, and a condition
without a value takes none. -/
theorem length_bound (mode : Rendering.Mode) (part : Part) :
    (part.bound mode).length =
      (match mode with
        | .placeholder => (part.conditions.map fun c => c.value.elim 0 Value.count).sum
        | .literal => 0) + part.assigned.length := by
  have count (c : Condition) : c.scalars.length = c.value.elim 0 Value.count := by
    unfold Condition.scalars
    cases c.value <;> rfl
  cases mode with
  | placeholder =>
      simp only [bound, List.length_append, List.length_flatMap, List.length_map, count]
  | literal => simp only [bound, List.length_map, Nat.zero_add]

end Part

/-! ## Requests -/

/-- A part to be made and rendered: the calls that make its conditions, or the columns and scalars
of its assignments. -/
inductive Request where
  | condition (call : Condition.Call)
  | group (calls : List Condition.Call)
  | filter (required alternatives : List (List Condition.Call))
  | assignments (drafts : List (String × Scalar))

namespace Request

/-- The part, or the first error of what it is made from. -/
def make : Request → Except BuildError Part
  | .condition call => call.perform.map .condition
  | .group calls => (makeGroup calls).map .group
  | .filter required alternatives => do
      let required ← required.mapM makeGroup
      let alternatives ← alternatives.mapM makeGroup
      pure (.filter ⟨required, alternatives⟩)
  | .assignments drafts =>
      (drafts.mapM fun (column, s) => Assignment.make column s).map .assignments
where
  makeGroup (calls : List Condition.Call) : Except BuildError Group :=
    calls.mapM Condition.Call.perform

def calls : Request → List Condition.Call
  | .condition call => [call]
  | .group calls => calls
  | .filter required alternatives => (required ++ alternatives).flatten
  | .assignments _ => []

def drafts : Request → List (String × Scalar)
  | .condition _ | .group _ | .filter .. => []
  | .assignments drafts => drafts

/-- A condition or an assignment cannot be made. -/
def IsRefused (request : Request) : Prop :=
  (∃ call ∈ request.calls, ∃ e, call.perform = .error e) ∨
    ∃ draft ∈ request.drafts, ∃ e, Assignment.make draft.1 draft.2 = .error e

theorem makeGroups_error_iff {groups : List (List Condition.Call)} :
    (∃ e, groups.mapM make.makeGroup = .error e) ↔
      ∃ call ∈ groups.flatten, ∃ e, call.perform = .error e := by
  simp only [mapM_error_iff, make.makeGroup, List.mem_flatten]
  constructor
  · rintro ⟨calls, group, call, mem, refused⟩
    exact ⟨call, ⟨calls, group, mem⟩, refused⟩
  · rintro ⟨call, ⟨calls, group, mem⟩, refused⟩
    exact ⟨calls, group, call, mem, refused⟩

/-- Only what a request is made from can be at fault. -/
theorem make_error_iff (request : Request) :
    (∃ e, request.make = .error e) ↔ request.IsRefused := by
  cases request with
  | condition call => simp [make, IsRefused, calls, drafts, map_error_iff]
  | group calls =>
      simp [make, make.makeGroup, IsRefused, Request.calls, drafts, map_error_iff, mapM_error_iff]
  | filter required alternatives =>
      have second (groups : List Group) : (∃ e, (do
          let others ← alternatives.mapM make.makeGroup
          pure (Part.filter ⟨groups, others⟩) : Except BuildError Part) = .error e) ↔
            ∃ call ∈ alternatives.flatten, ∃ e, call.perform = .error e :=
        map_error_iff.trans makeGroups_error_iff
      rw [make, bind_error_iff second, makeGroups_error_iff]
      simp [IsRefused, calls, drafts, or_and_right, exists_or]
  | assignments drafts =>
      simp [make, IsRefused, calls, Request.drafts, map_error_iff, mapM_error_iff]

/-! ### What is made -/

theorem draft_of_perform {call : Condition.Call} {c : Condition} (made : call.perform = .ok c) :
    c.draft = call.draft := by
  rw [call.perform_eq] at made
  exact Condition.Draft.check_eq_ok_iff.mp made

theorem map_draft_of_makeGroup {calls : List Condition.Call} {group : Group}
    (made : make.makeGroup calls = .ok group) :
    group.map Condition.draft = calls.map Condition.Call.draft :=
  map_eq_of_mapM draft_of_perform made

theorem map_draft_of_makeGroups {groups : List (List Condition.Call)} {made : List Group}
    (h : groups.mapM make.makeGroup = .ok made) :
    made.flatten.map Condition.draft = groups.flatten.map Condition.Call.draft := by
  rw [List.map_flatten, List.map_flatten]
  exact congrArg List.flatten (map_eq_of_mapM map_draft_of_makeGroup h)

/-- The part has what was asked for, in the order in which it was. -/
theorem drafts_of_make {request : Request} {part : Part} (made : request.make = .ok part) :
    part.conditions.map Condition.draft = request.calls.map Condition.Call.draft ∧
      part.assigned.map (fun a => (a.column, a.value)) = request.drafts := by
  cases request with
  | condition call =>
      obtain ⟨c, performed, rfl⟩ := eq_of_map_ok made
      exact ⟨congrArg (fun d => [d]) (draft_of_perform performed), rfl⟩
  | group calls =>
      obtain ⟨group, performed, rfl⟩ := eq_of_map_ok made
      exact ⟨map_draft_of_makeGroup performed, rfl⟩
  | filter required alternatives =>
      rw [make] at made
      cases first : required.mapM make.makeGroup with
      | error e => simp [first, bind, Except.bind] at made
      | ok groups =>
          simp only [first, bind, Except.bind] at made
          obtain ⟨others, second, rfl⟩ := eq_of_map_ok made
          refine ⟨?_, rfl⟩
          rw [Part.conditions, calls, List.flatten_append, List.flatten_append, List.map_append,
            List.map_append, map_draft_of_makeGroups first, map_draft_of_makeGroups second]
  | assignments drafts =>
      obtain ⟨items, performed, rfl⟩ := eq_of_map_ok made
      have kept {draft : String × Scalar} {a : Assignment}
          (h : Assignment.make draft.1 draft.2 = .ok a) : (a.column, a.value) = id draft := by
        obtain ⟨column, value⟩ := Assignment.make_eq_ok_iff.mp h
        rw [column, value, id]
      exact ⟨rfl, (map_eq_of_mapM kept performed).trans (List.map_id _)⟩

end Request

/-! ## Runs -/

namespace Rendering

/-- The text of what was asked for, or the error of what cannot be made. -/
def answer (r : Rendering) (request : Request) : Except BuildError String × Rendering :=
  match request.make with
  | .error e => (.error e, r)
  | .ok part =>
      let (text, r) := part.render r
      (.ok text, r)

/-- The rendering after all requests, in order. -/
def after (r : Rendering) (requests : List Request) : Rendering :=
  requests.foldl (fun r request => (r.answer request).2) r

/-- The last number that was handed out is the number of the scalars collected. -/
def IsCounted (r : Rendering) : Prop := r.counter = r.arguments.size

variable {r : Rendering} {request : Request} {part : Part}

theorem isCounted_start (mode : Mode) : (start mode).IsCounted := rfl

theorem IsCounted.collect (h : r.IsCounted) (mode : Mode) (items : List Scalar) :
    (r.collect mode items).IsCounted := by
  cases mode with
  | literal => exact h
  | placeholder =>
      have length := congrArg List.length (toList_bind items r)
      rw [Arguments.length_toList, List.length_append, Arguments.length_toList] at length
      rw [IsCounted, Rendering.collect, counter_bind, h, length]

theorem answer_of_error {e : BuildError} (refused : request.make = .error e) :
    r.answer request = (.error e, r) := by
  rw [answer, refused]

theorem answer_of_ok (made : request.make = .ok part) :
    r.answer request =
      (.ok (part.layout.fill (part.modeIn r.mode).mark r.counter),
        r.collect (part.modeIn r.mode) (holes part.layout)) := by
  rw [answer, made]
  simp only [part.render_eq, Layout.write]

/-- What a step keeps. -/
theorem answer_keeps (r : Rendering) (request : Request) :
    (r.answer request).2.mode = r.mode ∧ (r.IsCounted → (r.answer request).2.IsCounted) := by
  cases outcome : request.make with
  | error e =>
      rw [answer_of_error outcome]
      exact ⟨rfl, id⟩
  | ok part =>
      rw [answer_of_ok outcome]
      exact ⟨mode_collect _ _ _, fun h => h.collect _ _⟩

theorem after_keeps (r : Rendering) (requests : List Request) :
    (r.after requests).mode = r.mode ∧ (r.IsCounted → (r.after requests).IsCounted) := by
  induction requests generalizing r with
  | nil => exact ⟨rfl, id⟩
  | cons request requests ih =>
      have first := r.answer_keeps request
      have others := ih (r.answer request).2
      exact ⟨others.1.trans first.1, others.2 ∘ first.2⟩

theorem toList_arguments_collect (part : Part) :
    (r.collect (part.modeIn r.mode) (holes part.layout)).arguments.toList =
      r.arguments.toList ++ part.bound r.mode := by
  rw [part.bound_eq]
  cases part.modeIn r.mode with
  | placeholder => exact toList_bind _ _
  | literal => exact (List.append_nil _).symm

/-- Between any two steps of a run the last number is the number of arguments. A step that asks for
what cannot be made changes nothing. Any other step leaves the arguments that are there and adds
its scalars behind them in the order of its text: in placeholder mode all of them, as many as its
values and assignments have, in literal mode those that it assigns. Its text is that of the same
step on a fresh rendering, with every number raised by the last one that was handed out before. -/
theorem answer_consistent (mode : Mode) (before : List Request) (request : Request) :
    let r := (start mode).after before
    r.counter = r.arguments.size ∧
      (r.answer request).2.counter = (r.answer request).2.arguments.size ∧
      (request.IsRefused → ∃ e, r.answer request = (.error e, r)) ∧
      (¬ request.IsRefused → ∃ part, request.make = .ok part) ∧
      ∀ part, request.make = .ok part →
        part.conditions.map Condition.draft = request.calls.map Condition.Call.draft ∧
          part.assigned.map (fun a => (a.column, a.value)) = request.drafts ∧
          holes part.layout =
            part.conditions.flatMap Condition.scalars ++ part.assigned.map Assignment.value ∧
          (r.answer request).2.arguments.toList = r.arguments.toList ++ part.bound mode ∧
          (part.bound mode).length =
            (match mode with
              | .placeholder => (part.conditions.map fun c => c.value.elim 0 Value.count).sum
              | .literal => 0) + part.assigned.length ∧
          ((start mode).answer request).1 =
            .ok (part.layout.fill (part.modeIn mode).mark 0) ∧
          (r.answer request).1 =
            .ok (part.layout.fill (fun k => (part.modeIn mode).mark (k + r.counter)) 0) := by
  intro r
  have kept := (start mode).after_keeps before
  have sameMode : r.mode = mode := kept.1
  have counted : r.IsCounted := kept.2 (isCounted_start mode)
  refine ⟨counted, (r.answer_keeps request).2 counted, fun refused => ?_, fun accepted => ?_,
    fun part made => ?_⟩
  · obtain ⟨e, outcome⟩ := request.make_error_iff.mpr refused
    exact ⟨e, answer_of_error outcome⟩
  · cases outcome : request.make with
    | error e => exact absurd (request.make_error_iff.mp ⟨e, outcome⟩) accepted
    | ok part => exact ⟨part, rfl⟩
  · obtain ⟨conditions, assignments⟩ := Request.drafts_of_make made
    refine ⟨conditions, assignments, part.holes_layout, ?_, part.length_bound mode, ?_, ?_⟩
    · rw [answer_of_ok made, toList_arguments_collect, sameMode]
    · rw [answer_of_ok made]
      rfl
    · rw [answer_of_ok made, sameMode, fill_behind]

/-- Assignments behind a filter and a refused condition, and a blank column behind them. -/
theorem answer_consistent_assignedLast :
    let r := (start .placeholder).after
      [.filter [[.inList "id" [.int 7, .int 8]]] [], .condition (.eq " " (.int 1))]
    (r.answer (.assignments [("name", .text "Mark")])).1 = .ok "name = $3" ∧
      ∃ e, r.answer (.group [.isNull "name", .eq " " (.int 1)]) = (.error e, r) := by
  intro r
  have assigned := answer_consistent .placeholder
    [.filter [[.inList "id" [.int 7, .int 8]]] [], .condition (.eq " " (.int 1))]
    (.assignments [("name", .text "Mark")])
  have refused := answer_consistent .placeholder
    [.filter [[.inList "id" [.int 7, .int 8]]] [], .condition (.eq " " (.int 1))]
    (.group [.isNull "name", .eq " " (.int 1)])
  constructor
  · have text := (assigned.2.2.2.2 (.assignments [⟨"name", .text "Mark", by decide, trivial⟩])
      rfl).2.2.2.2.2.2
    exact text.trans (by decide +kernel)
  · exact refused.2.2.1 (.inl ⟨_, List.mem_cons_of_mem _ List.mem_cons_self, _, rfl⟩)

end Rendering

end SqlAssembly
