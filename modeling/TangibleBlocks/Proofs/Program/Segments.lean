import TangibleBlocks.Program.Loops

/-!
Programs segment by segment. The start blocks cut the statements into segments,
and each segment makes its own nodes: the commands up to the first loop, and a
loop of all that follows. Whether a start block opens the program, closes a loop
or is superfluous, and whether the last loop is closed at all, makes no
difference. Every command comes up in the program once and in its place.
-/

namespace TangibleBlocks

/-- The commands of a node as they are written, those of a loop once. -/
def Node.written : Node → List Command
  | .command c => [c]
  | .loop _ body => body

namespace Statement

def opensLoop : Statement → Bool
  | .loop _ _ => true
  | _ => false

def command? : Statement → Option Command
  | .command c => some c
  | _ => none

/-- What a statement contributes to the body of a loop. -/
def inBody? : Statement → Option Command
  | .command c => some c
  | .loop n h => some ⟨.stay, h, n.getD 1⟩
  | .start => none

/-- The nodes of the statements between two start blocks. -/
def segmentNodes (fallback : Nat) (segment : List Statement) : List Node :=
  ((segment.takeWhile fun s => !s.opensLoop).filterMap command?).map .command ++
    match segment.dropWhile fun s => !s.opensLoop with
    | .loop n _ :: rest => [.loop (max (n.getD fallback) 1) (rest.filterMap inBody?)]
    | _ => []

@[simp] theorem segmentNodes_nil (fallback : Nat) : segmentNodes fallback [] = [] := rfl

@[simp] theorem segmentNodes_start (fallback : Nat) (rest : List Statement) :
    segmentNodes fallback (.start :: rest) = segmentNodes fallback rest := rfl

@[simp] theorem segmentNodes_command (fallback : Nat) (c : Command) (rest : List Statement) :
    segmentNodes fallback (.command c :: rest) = .command c :: segmentNodes fallback rest := rfl

@[simp] theorem segmentNodes_loop (fallback : Nat) (n : Option Nat) (h : Option Heading)
    (rest : List Statement) :
    segmentNodes fallback (.loop n h :: rest) =
      [.loop (max (n.getD fallback) 1) (rest.filterMap inBody?)] := rfl

/-! ### The nodes of a segment -/

/-- A loop that is open collects all the statements of its segment. -/
theorem nodes_some_of_segment (fallback : Nat) (l : OpenLoop) {segment : List Statement}
    (h : .start ∉ segment) :
    nodes fallback (some l) segment =
      [.loop l.repeats (l.reversed.reverse ++ segment.filterMap inBody?)] := by
  induction segment generalizing l with
  | nil => simp [nodes, OpenLoop.close]
  | cons s rest ih =>
      rw [List.mem_cons, not_or] at h
      obtain ⟨hs, hrest⟩ := h
      cases s with
      | start => exact absurd rfl hs
      | loop n direction =>
          rw [nodes, ih _ hrest]
          simp [OpenLoop.add, inBody?]
      | command c =>
          rw [nodes, ih _ hrest]
          simp [OpenLoop.add, inBody?]

theorem nodes_of_segment (fallback : Nat) {segment : List Statement} (h : .start ∉ segment) :
    nodes fallback none segment = segmentNodes fallback segment := by
  induction segment with
  | nil => rfl
  | cons s rest ih =>
      rw [List.mem_cons, not_or] at h
      obtain ⟨hs, hrest⟩ := h
      cases s with
      | start => exact absurd rfl hs
      | loop n direction => rw [nodes, nodes_some_of_segment fallback _ hrest]; rfl
      | command c => rw [nodes, ih hrest, segmentNodes_command]

/-! ### Start blocks -/

/-- Whatever is open at a start block, and be it nothing, what follows begins anew. -/
theorem nodes_append_start (fallback : Nat) (l : Option OpenLoop) (xs ys : List Statement) :
    nodes fallback l (xs ++ .start :: ys) = nodes fallback l xs ++ nodes fallback none ys := by
  induction xs generalizing l with
  | nil => cases l <;> rfl
  | cons s rest ih =>
      rw [List.cons_append]
      cases l with
      | none =>
          cases s with
          | start => rw [nodes, nodes, ih]
          | loop n direction => rw [nodes, nodes, ih]
          | command c => rw [nodes, nodes, ih, List.cons_append]
      | some l =>
          cases s with
          | start => rw [nodes, nodes, ih, List.cons_append]
          | loop n direction => rw [nodes, nodes, ih]
          | command c => rw [nodes, nodes, ih]

theorem splitOn_eq_singleton {segment : List Statement} (h : .start ∉ segment) :
    segment.splitOn .start = [segment] := by
  refine List.splitOnP_eq_singleton fun s hs => ?_
  exact beq_eq_false_iff_ne.mpr fun heq => h (heq ▸ hs)

theorem splitOn_append_start {segment : List Statement} (h : .start ∉ segment)
    (rest : List Statement) :
    (segment ++ .start :: rest).splitOn .start = segment :: rest.splitOn .start := by
  have hno : ∀ s ∈ segment, (s == Statement.start) = false :=
    fun s hs => beq_eq_false_iff_ne.mpr fun heq => h (heq ▸ hs)
  exact List.splitOnP_append_cons_of_forall_mem hno .start (beq_self_eq_true _) rest

/-- To prove something of a list of statements, prove it of a last segment, and of a segment and a
start block in front of what it is already known of. -/
theorem segment_induction {motive : List Statement → Prop}
    (last : ∀ segment, .start ∉ segment → motive segment)
    (next : ∀ segment rest, .start ∉ segment → motive rest → motive (segment ++ .start :: rest))
    (ss : List Statement) : motive ss := by
  induction h : ss.length using Nat.strongRecOn generalizing ss with
  | _ n ih =>
      by_cases hstart : .start ∈ ss
      · obtain ⟨segment, rest, rfl, hsegment⟩ := List.eq_append_cons_of_mem hstart
        refine next segment rest hsegment (ih rest.length ?_ rest rfl)
        rw [← h, List.length_append, List.length_cons]
        omega
      · exact last ss hstart

theorem nodes_eq_flatMap_segmentNodes (fallback : Nat) (ss : List Statement) :
    nodes fallback none ss = (ss.splitOn .start).flatMap (segmentNodes fallback) := by
  induction ss using segment_induction with
  | last segment h =>
      rw [nodes_of_segment fallback h, splitOn_eq_singleton h, List.flatMap_singleton]
  | next segment rest h ih =>
      rw [nodes_append_start, nodes_of_segment fallback h, ih, splitOn_append_start h,
        List.flatMap_cons]

/-! ### The commands of the program -/

/-- The nodes of a segment hold what its statements contribute, but for the first loop. -/
theorem written_segmentNodes (fallback : Nat) (segment : List Statement) :
    (segmentNodes fallback segment).flatMap Node.written =
      (segment.eraseP opensLoop).filterMap inBody? := by
  induction segment with
  | nil => rfl
  | cons s rest ih =>
      cases s with
      | start =>
          rw [segmentNodes_start, ih, List.eraseP_cons_of_neg Bool.false_ne_true]
          rfl
      | loop n direction =>
          rw [segmentNodes_loop, List.flatMap_singleton, List.eraseP_cons_of_pos rfl]
          rfl
      | command c =>
          rw [segmentNodes_command, List.flatMap_cons, ih,
            List.eraseP_cons_of_neg Bool.false_ne_true]
          rfl

theorem written_nodes (fallback : Nat) (ss : List Statement) :
    (nodes fallback none ss).flatMap Node.written =
      (ss.splitOn .start).flatMap fun segment => (segment.eraseP opensLoop).filterMap inBody? := by
  rw [nodes_eq_flatMap_segmentNodes, List.flatMap_assoc]
  simp only [written_segmentNodes]

theorem filterMap_command?_eraseP (segment : List Statement) :
    (segment.eraseP opensLoop).filterMap command? = segment.filterMap command? := by
  induction segment with
  | nil => rfl
  | cons s rest ih =>
      cases s with
      | start => rw [List.eraseP_cons_of_neg Bool.false_ne_true]; exact ih
      | loop n direction => rw [List.eraseP_cons_of_pos rfl]; rfl
      | command c =>
          rw [List.eraseP_cons_of_neg Bool.false_ne_true]
          exact congrArg (c :: ·) ih

theorem filterMap_command?_sublist (ss : List Statement) :
    (ss.filterMap command?).Sublist (ss.filterMap inBody?) := by
  induction ss with
  | nil => exact .slnil
  | cons s rest ih =>
      cases s with
      | start => exact ih
      | loop n direction => exact ih.cons _
      | command c => exact ih.cons_cons c

/-- What a loop contributes to the body of another one does not act. -/
theorem filter_inBody? (ss : List Statement) :
    (ss.filterMap inBody?).filter (fun c => c.action ≠ .stay) =
      (ss.filterMap command?).filter fun c => c.action ≠ .stay := by
  induction ss with
  | nil => rfl
  | cons s rest ih =>
      cases s with
      | start => exact ih
      | loop n direction => exact ih
      | command c =>
          show (c :: rest.filterMap inBody?).filter _ = (c :: rest.filterMap command?).filter _
          rw [List.filter_cons, List.filter_cons, ih]

theorem written_nodes_of_segment (fallback : Nat) {segment : List Statement}
    (h : .start ∉ segment) :
    (nodes fallback none segment).flatMap Node.written =
      (segment.eraseP opensLoop).filterMap inBody? := by
  rw [nodes_of_segment fallback h, written_segmentNodes]

theorem sublist_written_nodes (fallback : Nat) (ss : List Statement) :
    (ss.filterMap command?).Sublist ((nodes fallback none ss).flatMap Node.written) := by
  induction ss using segment_induction with
  | last segment h =>
      rw [written_nodes_of_segment fallback h, ← filterMap_command?_eraseP]
      exact filterMap_command?_sublist _
  | next segment rest h ih =>
      rw [nodes_append_start, List.flatMap_append, List.filterMap_append,
        written_nodes_of_segment fallback h, ← filterMap_command?_eraseP segment]
      exact (filterMap_command?_sublist _).append ih

theorem filter_written_nodes (fallback : Nat) (ss : List Statement) :
    ((nodes fallback none ss).flatMap Node.written).filter (fun c => c.action ≠ .stay) =
      (ss.filterMap command?).filter fun c => c.action ≠ .stay := by
  induction ss using segment_induction with
  | last segment h =>
      rw [written_nodes_of_segment fallback h, filter_inBody?, filterMap_command?_eraseP]
  | next segment rest h ih =>
      rw [nodes_append_start, List.flatMap_append, List.filter_append, ih,
        written_nodes_of_segment fallback h, filter_inBody?, filterMap_command?_eraseP,
        ← List.filter_append, List.filterMap_append]
      rfl

end Statement

namespace Program

open Statement

/-- The nodes of a program are those of its segments, one segment after the other. A start block
between two lists of statements is therefore no more than a cut. The commands are those of the
segments without the loops that open them: none is lost and none changes its place, and what is
there besides does not act. -/
theorem ofStatements_eq_segments (fallback : Nat) (ss : List Statement) :
    (ofStatements fallback ss).nodes = (ss.splitOn .start).flatMap (segmentNodes fallback) ∧
    (∀ xs ys, (ofStatements fallback (xs ++ [.start] ++ ys)).nodes =
      (ofStatements fallback xs).nodes ++ (ofStatements fallback ys).nodes) ∧
    ((ofStatements fallback ss).nodes.flatMap Node.written =
      (ss.splitOn .start).flatMap fun segment => (segment.eraseP opensLoop).filterMap inBody?) ∧
    (ss.filterMap command?).Sublist ((ofStatements fallback ss).nodes.flatMap Node.written) ∧
    ((ofStatements fallback ss).nodes.flatMap Node.written).filter (fun c => c.action ≠ .stay) =
      (ss.filterMap command?).filter fun c => c.action ≠ .stay := by
  refine ⟨nodes_eq_flatMap_segmentNodes fallback ss, fun xs ys => ?_, written_nodes fallback ss,
    sublist_written_nodes fallback ss, filter_written_nodes fallback ss⟩
  rw [List.append_assoc, List.singleton_append]
  exact nodes_append_start fallback none xs ys

-- a loop in a loop, and a start block that nothing waits for
example (c d : Command) :
    (ofStatements 2 [.command c, .loop none none, .command d, .loop (some 4) none, .start, .start,
      .loop (some 0) none]).nodes =
      [.command c, .loop 2 [d, ⟨.stay, none, 4⟩], .loop 1 []] := rfl

end Program

end TangibleBlocks
