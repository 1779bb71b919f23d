import TangibleBlocks.Program.Basic

/-!
Programs without their loops, and the places at which the execution of a program
may end. Unrolling writes down the body of a loop as often as it is repeated. A
cut separates the commands that have been executed from what is still to be
started; there is one at the start of a program, one behind every command that
stands outside of a loop and one behind every iteration of a loop.
-/

namespace TangibleBlocks

namespace Program

/-- The commands of a program, as often as they are executed. -/
def unroll (p : Program) : List Command :=
  p.nodes.flatMap Node.unroll

/-- The program without loops that executes the same commands. -/
def unrolled (p : Program) : Program :=
  ⟨p.unroll.map .command⟩

@[simp] theorem unroll_nil : unroll ⟨[]⟩ = [] := rfl

@[simp] theorem unroll_cons (n : Node) (rest : List Node) :
    unroll ⟨n :: rest⟩ = n.unroll ++ unroll ⟨rest⟩ := by
  simp [unroll]

theorem length_unroll_eq_commandCount (p : Program) : p.unroll.length = p.commandCount := by
  obtain ⟨ns⟩ := p
  induction ns with
  | nil => rfl
  | cons n rest ih =>
      rw [unroll_cons, List.length_append, ih, n.length_unroll]
      rfl

theorem unroll_unrolled (p : Program) : p.unrolled.unroll = p.unroll := by
  simp [unrolled, unroll, List.flatMap_map, Node.unroll]

end Program

namespace Node

@[simp] theorem unroll_command (c : Command) : (command c).unroll = [c] := rfl

@[simp] theorem unroll_loop_zero (body : List Command) : (loop 0 body).unroll = [] := rfl

theorem unroll_loop_succ (n : Nat) (body : List Command) :
    (loop (n + 1) body).unroll = body ++ (loop n body).unroll := by
  simp [unroll, List.replicate_succ]

end Node

/-- A place in the execution of a program: the commands executed so far and the nodes still to be
started. Of a loop that has been entered, these are the iterations still to be started. -/
structure Cut where
  done : List Command
  rest : List Node
  deriving DecidableEq

namespace Cut

/-- The same place, seen from farther ahead. -/
def behind (cs : List Command) (c : Cut) : Cut :=
  ⟨cs ++ c.done, c.rest⟩

@[simp] theorem done_behind (cs : List Command) (c : Cut) : (c.behind cs).done = cs ++ c.done :=
  rfl

@[simp] theorem rest_behind (cs : List Command) (c : Cut) : (c.behind cs).rest = c.rest := rfl

/-- What is still to be started if `n` iterations of a loop are left. -/
def remaining (n : Nat) (body : List Command) (rest : List Node) : List Node :=
  if n = 0 then rest else .loop n body :: rest

/-- The cuts behind the iterations of a loop, and the given cuts behind the last of them. -/
def ofRounds (body : List Command) (rest : List Node) (following : List Cut) : Nat → List Cut
  | 0 => following
  | n + 1 =>
    (⟨[], remaining n body rest⟩ :: ofRounds body rest following n).map (behind body)

/-- The cuts of a list of nodes, but for the one at its start. -/
def ofNodes : List Node → List Cut
  | [] => []
  | .command c :: rest => (⟨[], rest⟩ :: ofNodes rest).map (behind [c])
  | .loop n body :: rest => ofRounds body rest (ofNodes rest) n

end Cut

namespace Program

/-- The cuts of a program in the order in which an execution comes to them. -/
def cuts (p : Program) : List Cut :=
  ⟨[], p.nodes⟩ :: Cut.ofNodes p.nodes

example (a b : Command) :
    cuts ⟨[.loop 2 [a], .loop 0 [b], .command b]⟩ =
      [⟨[], [.loop 2 [a], .loop 0 [b], .command b]⟩,
        ⟨[a], [.loop 1 [a], .loop 0 [b], .command b]⟩,
        ⟨[a, a], [.loop 0 [b], .command b]⟩, ⟨[a, a, b], []⟩] := rfl

end Program

namespace Cut

@[simp] theorem remaining_zero (body : List Command) (rest : List Node) :
    remaining 0 body rest = rest := rfl

@[simp] theorem remaining_succ (n : Nat) (body : List Command) (rest : List Node) :
    remaining (n + 1) body rest = .loop (n + 1) body :: rest := rfl

theorem unroll_remaining (n : Nat) (body : List Command) (rest : List Node) :
    Program.unroll ⟨remaining n body rest⟩ = (Node.loop n body).unroll ++ Program.unroll ⟨rest⟩ := by
  cases n <;> simp

/-! Nothing is lost at a cut: what has been done and what is left make up the program. -/

theorem unroll_of_mem_ofRounds {body : List Command} {rest : List Node} {following : List Cut}
    (hf : ∀ c ∈ following, c.done ++ Program.unroll ⟨c.rest⟩ = Program.unroll ⟨rest⟩) (n : Nat) :
    ∀ c ∈ ofRounds body rest following n,
      c.done ++ Program.unroll ⟨c.rest⟩ = (Node.loop n body).unroll ++ Program.unroll ⟨rest⟩ := by
  induction n with
  | zero => simpa [ofRounds] using hf
  | succ n ih =>
      intro c hc
      obtain ⟨d, hd, rfl⟩ := List.mem_map.mp hc
      rw [Node.unroll_loop_succ, done_behind, rest_behind, List.append_assoc, List.append_assoc]
      rcases List.mem_cons.mp hd with rfl | hd
      · rw [unroll_remaining, List.nil_append]
      · rw [ih d hd]

theorem unroll_of_mem_ofNodes (ns : List Node) :
    ∀ c ∈ ofNodes ns, c.done ++ Program.unroll ⟨c.rest⟩ = Program.unroll ⟨ns⟩ := by
  induction ns with
  | nil => simp [ofNodes]
  | cons n rest ih =>
      cases n with
      | loop k body => simpa [ofNodes] using unroll_of_mem_ofRounds ih k
      | command a =>
          intro c hc
          obtain ⟨d, hd, rfl⟩ := List.mem_map.mp hc
          rcases List.mem_cons.mp hd with rfl | hd
          · simp
          · simpa using ih d hd

theorem unroll_of_mem_cuts {p : Program} {c : Cut} (hc : c ∈ p.cuts) :
    c.done ++ Program.unroll ⟨c.rest⟩ = p.unroll := by
  rcases List.mem_cons.mp hc with rfl | hc
  · rfl
  · exact unroll_of_mem_ofNodes p.nodes c hc

/-- The commands executed before a cut are the first ones of the unrolled program. -/
theorem done_prefix_unroll {p : Program} {c : Cut} (hc : c ∈ p.cuts) : c.done <+: p.unroll :=
  ⟨_, unroll_of_mem_cuts hc⟩

/-! An execution that has not come to the last cut has something left to start, and what it has
done so far it has done at all later cuts. -/

/-- How a cut compares with a later one. -/
def Before (c d : Cut) : Prop :=
  c.rest ≠ [] ∧ c.done <+: d.done

theorem Before.behind {c d : Cut} (h : c.Before d) (cs : List Command) :
    (c.behind cs).Before (d.behind cs) :=
  ⟨h.1, (List.prefix_append_right_inj cs).mpr h.2⟩

theorem pairwise_cons_map_behind {ns : List Node} {cs : List Command} {following : List Cut}
    (hns : ns ≠ []) (hf : following.Pairwise Before) :
    (⟨[], ns⟩ :: following.map (behind cs)).Pairwise Before := by
  refine List.pairwise_cons.mpr ⟨fun d _ => ⟨hns, List.nil_prefix⟩, ?_⟩
  exact List.pairwise_map.mpr (hf.imp fun h => h.behind cs)

theorem pairwise_ofRounds {body : List Command} {rest : List Node} {following : List Cut}
    (hf : (⟨[], rest⟩ :: following).Pairwise Before) (n : Nat) :
    (⟨[], remaining n body rest⟩ :: ofRounds body rest following n).Pairwise Before := by
  induction n with
  | zero => exact hf
  | succ n ih => exact pairwise_cons_map_behind (by simp) ih

theorem pairwise_ofNodes (ns : List Node) : (⟨[], ns⟩ :: ofNodes ns).Pairwise Before := by
  induction ns with
  | nil => exact List.pairwise_singleton _ _
  | cons n rest ih =>
      cases n with
      | command a => exact pairwise_cons_map_behind (by simp) ih
      | loop k body =>
          -- A loop that is repeated 0 times is still to be started, although nothing remains of it.
          refine List.pairwise_cons.mpr ⟨fun d _ => ⟨by simp, List.nil_prefix⟩, ?_⟩
          exact (pairwise_ofRounds ih k).tail

theorem before_of_cuts_eq {p : Program} {before after : List Cut} {c d : Cut}
    (h : p.cuts = before ++ c :: after) (hd : d ∈ after) : c.Before d := by
  have hp : (before ++ c :: after).Pairwise Before := h ▸ pairwise_ofNodes p.nodes
  exact (List.pairwise_cons.mp (List.pairwise_append.mp hp).2.1).1 d hd

theorem done_getLast?_ofRounds {body : List Command} {rest : List Node} {following : List Cut}
    {cs : List Command}
    (hf : ∀ ns, (⟨[], ns⟩ :: following).getLast?.map done = some cs) (n : Nat) (ns : List Node) :
    (⟨[], ns⟩ :: ofRounds body rest following n).getLast?.map done =
      some ((Node.loop n body).unroll ++ cs) := by
  -- The nodes of the first cut vary, since `ofRounds` puts a cut of its own in front.
  induction n generalizing ns with
  | zero => simpa [ofRounds] using hf ns
  | succ n ih =>
      obtain ⟨d, hd, he⟩ := Option.map_eq_some_iff.mp (ih (remaining n body rest))
      rw [ofRounds, List.map_cons, List.getLast?_cons_cons, ← List.map_cons, List.getLast?_map, hd]
      simp [he, Node.unroll_loop_succ]

theorem done_getLast?_ofNodes (ms ns : List Node) :
    (⟨[], ns⟩ :: ofNodes ms).getLast?.map done = some (Program.unroll ⟨ms⟩) := by
  induction ms generalizing ns with
  | nil => rfl
  | cons m rest ih =>
      cases m with
      | loop k body => simpa [ofNodes] using done_getLast?_ofRounds ih k ns
      | command a =>
          obtain ⟨d, hd, he⟩ := Option.map_eq_some_iff.mp (ih rest)
          rw [ofNodes, List.map_cons, List.getLast?_cons_cons, ← List.map_cons, List.getLast?_map,
            hd]
          simp [he]

/-- Behind the last cut there is nothing to execute. -/
theorem done_eq_unroll {p : Program} {before : List Cut} {c : Cut} (h : p.cuts = before ++ [c]) :
    c.done = p.unroll := by
  have hlast : p.cuts.getLast?.map done = some p.unroll := done_getLast?_ofNodes p.nodes p.nodes
  simpa [h] using hlast

end Cut

end TangibleBlocks
