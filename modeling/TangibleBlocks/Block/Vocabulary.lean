import TangibleBlocks.Block.Basic
import TangibleBlocks.Text.Blank

/-!
A vocabulary numbers the blocks that a detector can tell apart. No block has two
numbers.
-/

namespace TangibleBlocks

structure Vocabulary where
  blocks : Array Block
  nodup : blocks.toList.Nodup
  deriving DecidableEq

namespace Vocabulary

/-- Why a list of labels is no vocabulary. -/
inductive Fault where
  | unknownLabel (label : String)
  | duplicateLabel (label : String)
  | empty
  deriving DecidableEq

def Fault.message : Fault → String
  | unknownLabel l => "未知的积木标签: " ++ l
  | duplicateLabel l => "重复的积木标签: " ++ l
  | empty => "词表为空"

/-- The full set of classes. -/
def standard : Vocabulary :=
  ⟨Block.standard.toArray, by decide⟩

instance : Inhabited Vocabulary := ⟨standard⟩

/-- The vocabulary with one more block at its end. -/
def extend (v : Vocabulary) (b : Block) (fresh : b ∉ v.blocks.toList) : Vocabulary :=
  ⟨v.blocks.push b, by
    rw [Array.toList_push]
    exact List.nodup_append.2 ⟨v.nodup, by simp, by
      intro x hx y hy
      simp only [List.mem_singleton] at hy
      subst hy
      exact fun e => fresh (e ▸ hx)⟩⟩

/-- Adds labels to a vocabulary one by one. -/
def addLabels (v : Vocabulary) : List String → Except Fault Vocabulary
  | [] => .ok v
  | text :: rest =>
    let label := Text.trimString text
    match Block.ofLabel? label with
    | none => .error (.unknownLabel label)
    | some b =>
      if h : b ∈ v.blocks.toList then .error (.duplicateLabel label)
      else addLabels (v.extend b h) rest

/-- The vocabulary with the given labels, which may have blanks around them. -/
def ofLabels : List String → Except Fault Vocabulary
  | [] => .error .empty
  | labels => addLabels ⟨#[], List.nodup_nil⟩ labels

def size (v : Vocabulary) : Nat :=
  v.blocks.size

/-- The block with a number. -/
def block? (v : Vocabulary) (number : Nat) : Option Block :=
  v.blocks[number]?

/-- The number of a block. -/
def class? (v : Vocabulary) (b : Block) : Option Nat :=
  v.blocks.toList.findIdx? (· == b)

@[simp] theorem size_standard : standard.size = 20 := rfl

end Vocabulary

end TangibleBlocks
