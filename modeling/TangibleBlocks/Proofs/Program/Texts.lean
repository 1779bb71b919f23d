import Mathlib.Data.List.Basic
import TangibleBlocks.Proofs.Json.Telling
import TangibleBlocks.Sink.Folder

/-!
Programs as texts. Different programs are different data, and all numbers in them are
integers. So the text that is written for a program tells which program it is, by itself
as well as within the record of an execution.
-/

namespace TangibleBlocks

open Function

open Json (Exact)

/-! ### Different programs are different data -/

theorem Action.keyword_injective : Injective Action.keyword := by
  intro a b h
  cases a <;> cases b <;> simp [keyword] at h ⊢

theorem Heading.ofName?_name (h : Heading) : ofName? h.name = some h := by
  cases h <;> decide

theorem Heading.toJson_injective : Injective Heading.toJson := by
  intro h k heq
  have hname : ofName? h.name = ofName? k.name := congrArg ofName? (Json.string.inj heq)
  rw [ofName?_name, ofName?_name] at hname
  exact Option.some.inj hname

/-- No heading is written as none. -/
theorem Heading.getD_map_toJson_injective :
    Injective fun h : Option Heading => (h.map Heading.toJson).getD .null := by
  intro h k heq
  cases h with
  | none =>
      cases k with
      | none => rfl
      | some k => cases heq
  | some h =>
      cases k with
      | none => cases heq
      | some k => exact congrArg some (Heading.toJson_injective heq)

theorem Command.members_injective : Injective Command.members := by
  rintro ⟨a, h, m⟩ ⟨b, k, n⟩ heq
  simp only [members, List.cons.injEq, Prod.mk.injEq, Json.string.injEq, Json.ofNat_inj, true_and,
    and_true] at heq
  obtain ⟨haction, hdirection, rfl⟩ := heq
  rw [Action.keyword_injective haction, Heading.getD_map_toJson_injective hdirection]

theorem Command.toJson_injective : Injective Command.toJson :=
  fun _ _ h => Command.members_injective (Json.object.inj h)

theorem Node.toJson_injective : Injective Node.toJson := by
  intro x y h
  cases x with
  | command c =>
      cases y with
      | command d =>
          obtain ⟨-, hmembers⟩ := List.cons.inj (Json.object.inj h)
          rw [Command.members_injective hmembers]
      | loop n body => simp [toJson] at h
  | loop m body =>
      cases y with
      | command d => simp [toJson] at h
      | loop n rest =>
          simp only [toJson, Json.object.injEq, List.cons.injEq, Prod.mk.injEq, Json.ofNat_inj,
            Json.array.injEq, true_and, and_true] at h
          obtain ⟨rfl, hbody⟩ := h
          rw [List.map_injective_iff.mpr Command.toJson_injective hbody]

theorem Program.toJson_injective : Injective Program.toJson := by
  intro p q h
  simp only [toJson, Json.object.injEq, List.cons.injEq, Prod.mk.injEq, Json.array.injEq, true_and,
    and_true] at h
  have hnodes : p.nodes = q.nodes := List.map_injective_iff.mpr Node.toJson_injective h
  cases p
  cases q
  exact congrArg Program.mk hnodes

/-! ### All numbers in them are integers -/

@[simp] theorem Heading.exact_toJson (h : Heading) : Exact h.toJson := by
  simp [toJson]

theorem Command.exact_of_mem_members {c : Command} : ∀ m ∈ c.members, Exact m.2 := by
  simp [members]

@[simp] theorem Command.exact_toJson (c : Command) : Exact c.toJson :=
  .object c.exact_of_mem_members

@[simp] theorem Node.exact_toJson (x : Node) : Exact x.toJson := by
  cases x with
  | command c => exact .object (List.forall_mem_cons.mpr ⟨.string _, c.exact_of_mem_members⟩)
  | loop n body => simp [toJson]

@[simp] theorem Program.exact_toJson (p : Program) : Exact p.toJson := by
  simp [toJson]

@[simp] theorem Cell.exact_toJson (c : Cell) : Exact c.toJson := by
  simp [toJson]

@[simp] theorem Motion.Outcome.exact_toJson (o : Motion.Outcome) : Exact o.toJson := by
  cases o <;> simp [toJson]

@[simp] theorem Motion.exact_toJson (m : Motion) : Exact m.toJson := by
  simp [toJson]

@[simp] theorem Robot.exact_toJson (r : Robot) : Exact r.toJson := by
  simp [toJson]

@[simp] theorem Report.exact_toJson (r : Report) : Exact r.toJson := by
  simp [toJson]

theorem Folder.exact_programRecord (now : Timestamp) (p : Program) (r : Report) :
    Exact (programRecord now p r) := by
  simp [programRecord]

/-! ### Texts -/

namespace Program

/-- Two programs have the same text only if they are the same, down to the directions that are left
out and to where the body of a loop ends. The text of a record tells the program too, besides the
time and the report. -/
theorem text_tells_program (p q : Program) :
    (p.toJson.toPretty = q.toJson.toPretty ↔ p = q) ∧
    ∀ (now now' : Timestamp) (r r' : Report),
      (Folder.programRecord now p r).toPretty = (Folder.programRecord now' q r').toPretty ↔
        now.toText = now'.toText ∧ p = q ∧ r.toJson = r'.toJson := by
  constructor
  · rw [p.exact_toJson.toPretty_inj q.exact_toJson, toJson_injective.eq_iff]
  · intro now now' r r'
    rw [(Folder.exact_programRecord now p r).toPretty_inj (Folder.exact_programRecord now' q r')]
    simp [Folder.programRecord, toJson_injective.eq_iff]

end Program

end TangibleBlocks
