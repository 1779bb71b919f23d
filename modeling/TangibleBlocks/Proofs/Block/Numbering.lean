import Mathlib.Data.List.Nodup
import Mathlib.Data.List.Perm.Subperm
import TangibleBlocks.Block.Vocabulary
import TangibleBlocks.Proofs.Faults

/-!
The numbers that a vocabulary gives to blocks. Labels make a vocabulary exactly if
there is at least one of them, all of them are on blocks and no two on the same,
blanks at their ends apart; the first label that spoils it is the one reported. The
vocabulary has the blocks with these labels, in their order, and so numbers and
blocks determine each other.
-/

namespace TangibleBlocks

namespace Block

/-- The labels that are printed on blocks. -/
def labels : List String :=
  standard.map label

example : labels =
    ["andar", "circulo", "inicio", "looping", "pegar", "pular", "triangulo", "zzz", "2", "3", "4",
      "5", "6", "7", "8", "9", "seta_up", "seta_down", "seta_left", "seta_right"] := by decide

theorem ofLabel?_eq_some_iff {text : String} {b : Block} :
    ofLabel? text = some b ↔ b ∈ standard ∧ b.label = text := by
  constructor
  · intro h
    exact ⟨List.mem_of_find?_eq_some h, label_of_ofLabel? h⟩
  · rintro ⟨hb, rfl⟩
    exact ofLabel?_label hb

theorem ofLabel?_eq_none_iff {text : String} : ofLabel? text = none ↔ text ∉ labels := by
  simp [ofLabel?, labels]

/-- No two blocks have the same label. -/
theorem label_injective {a b : Block} (ha : a ∈ standard) (hb : b ∈ standard)
    (h : a.label = b.label) : a = b :=
  Option.some.inj ((ofLabel?_label ha).symm.trans (h ▸ ofLabel?_label hb))

theorem exists_map_label_eq {texts : List String} (h : texts ⊆ labels) :
    ∃ bs ⊆ standard, bs.map label = texts := by
  induction texts with
  | nil => exact ⟨[], List.nil_subset _, rfl⟩
  | cons text texts ih =>
      obtain ⟨htext, hrest⟩ := List.cons_subset.mp h
      obtain ⟨b, hb, rfl⟩ := List.mem_map.mp htext
      obtain ⟨bs, hbs, rfl⟩ := ih hrest
      exact ⟨b :: bs, List.cons_subset.mpr ⟨hb, hbs⟩, rfl⟩

theorem exists_of_map_label_eq_cons {bs : List Block} {text : String} {texts : List String}
    (hbs : bs ⊆ standard) (h : bs.map label = text :: texts) :
    ∃ b rest, bs = b :: rest ∧ ofLabel? text = some b ∧ rest ⊆ standard ∧
      rest.map label = texts := by
  obtain ⟨b, rest, rfl, hb, hrest⟩ := List.map_eq_cons_iff.mp h
  obtain ⟨hb', hrest'⟩ := List.cons_subset.mp hbs
  exact ⟨b, rest, rfl, ofLabel?_eq_some_iff.mpr ⟨hb', hb⟩, hrest', hrest⟩

end Block

namespace Vocabulary

/-! ### Numbers and blocks -/

theorem eq_of_toList_eq {v w : Vocabulary} (h : v.blocks.toList = w.blocks.toList) : v = w := by
  obtain ⟨blocks, hnodup⟩ := v
  obtain ⟨others, hnodup'⟩ := w
  obtain rfl : blocks = others := Array.toList_inj.mp h
  rfl

theorem block?_eq_getElem?_toList (v : Vocabulary) (number : Nat) :
    v.block? number = v.blocks.toList[number]? :=
  Array.getElem?_toList.symm

/-- Numbers and blocks determine each other. -/
theorem block?_eq_some_iff_class? {v : Vocabulary} {number : Nat} {b : Block} :
    v.block? number = some b ↔ v.class? b = some number := by
  rw [block?_eq_getElem?_toList, class?, List.findIdx?_eq_some_iff_getElem]
  simp only [beq_iff_eq]
  constructor
  · intro h
    obtain ⟨hlt, rfl⟩ := List.getElem?_eq_some_iff.mp h
    refine ⟨hlt, rfl, fun other hother heq => ?_⟩
    exact Nat.ne_of_lt hother (v.nodup.getElem_inj_iff.mp heq)
  · rintro ⟨hlt, rfl, -⟩
    exact List.getElem?_eq_getElem hlt

variable {v : Vocabulary} {texts : List String}

theorem size_eq_of_labels (h : v.blocks.toList.map Block.label = texts.map Text.trimString) :
    v.size = texts.length := by
  have hlength := congrArg List.length h
  rwa [List.length_map, List.length_map, Array.length_toList] at hlength

theorem size_le_of_subset_standard (h : v.blocks.toList ⊆ Block.standard) : v.size ≤ 20 :=
  (List.subperm_of_subset v.nodup h).length_le

theorem exists_text_of_lt_size {number : Nat} (hstandard : v.blocks.toList ⊆ Block.standard)
    (hlabels : v.blocks.toList.map Block.label = texts.map Text.trimString)
    (hnumber : number < v.size) :
    ∃ text b, texts[number]? = some text ∧ Block.ofLabel? (Text.trimString text) = some b ∧
      v.block? number = some b := by
  obtain ⟨b, hb⟩ : ∃ b, v.block? number = some b := ⟨_, Array.getElem?_eq_getElem hnumber⟩
  rw [block?_eq_getElem?_toList] at hb
  have hplace := congrArg (·[number]?) hlabels
  simp only [List.getElem?_map, hb, Option.map_some] at hplace
  obtain ⟨text, htext, hlabel⟩ := Option.map_eq_some_iff.mp hplace.symm
  refine ⟨text, b, htext, ?_, (block?_eq_getElem?_toList v number).trans hb⟩
  rw [hlabel]
  exact Block.ofLabel?_label (hstandard (List.mem_of_getElem? hb))

/-! ### Reading labels -/

theorem toList_extend (v : Vocabulary) {b : Block} (h : b ∉ v.blocks.toList) :
    (v.extend b h).blocks.toList = v.blocks.toList ++ [b] :=
  Array.toList_push

/-- Reading labels adds the blocks with these labels, if none of them is there already. -/
theorem addLabels_eq_ok_iff {v w : Vocabulary} {texts : List String} :
    v.addLabels texts = .ok w ↔
      ∃ bs ⊆ Block.standard, bs.map Block.label = texts.map Text.trimString ∧
        w.blocks.toList = v.blocks.toList ++ bs := by
  induction texts generalizing v with
  | nil =>
      rw [addLabels, Except.ok.injEq]
      constructor
      · rintro rfl
        exact ⟨[], List.nil_subset _, rfl, (List.append_nil _).symm⟩
      · rintro ⟨bs, -, hbs, hw⟩
        obtain rfl := List.map_eq_nil_iff.mp hbs
        rw [List.append_nil] at hw
        exact (eq_of_toList_eq hw).symm
  | cons text texts ih =>
      simp only [addLabels]
      split
      next hnone =>
        refine iff_of_false nofun ?_
        rintro ⟨bs, hbs, hlabels, -⟩
        obtain ⟨b, -, -, hb, -⟩ := Block.exists_of_map_label_eq_cons hbs hlabels
        rw [hnone] at hb
        cases hb
      next b hb =>
        split
        next hmem =>
          -- The block cannot be in the vocabulary twice.
          refine iff_of_false nofun ?_
          rintro ⟨bs, hbs, hlabels, hw⟩
          obtain ⟨c, rest, rfl, hc, -⟩ := Block.exists_of_map_label_eq_cons hbs hlabels
          obtain rfl : b = c := Option.some.inj (hb.symm.trans hc)
          have hnodup := w.nodup
          rw [hw, List.nodup_append] at hnodup
          exact hnodup.2.2 b hmem b List.mem_cons_self rfl
        next hmem =>
          obtain ⟨hstandard, hlabel⟩ := Block.ofLabel?_eq_some_iff.mp hb
          rw [ih, toList_extend]
          constructor
          · rintro ⟨bs, hbs, hlabels, hw⟩
            refine ⟨b :: bs, List.cons_subset.mpr ⟨hstandard, hbs⟩, ?_, ?_⟩
            · rw [List.map_cons, List.map_cons, hlabels, hlabel]
            · rw [hw, List.append_assoc, List.singleton_append]
          · rintro ⟨bs, hbs, hlabels, hw⟩
            obtain ⟨c, rest, rfl, hc, hrest, hlabels'⟩ :=
              Block.exists_of_map_label_eq_cons hbs hlabels
            obtain rfl : b = c := Option.some.inj (hb.symm.trans hc)
            exact ⟨rest, hrest, hlabels', by rw [hw, List.append_assoc, List.singleton_append]⟩

theorem addLabels_eq_foldlM (v : Vocabulary) (texts : List String) :
    v.addLabels texts = texts.foldlM (fun w text => w.addLabels [text]) v := by
  induction texts generalizing v with
  | nil => rfl
  | cons text texts ih =>
      rw [List.foldlM_cons]
      simp only [addLabels]
      split
      · rfl
      · split
        · rfl
        · exact ih _

theorem addLabels_singleton_eq_error_iff {v : Vocabulary} {text : String} {fault : Fault} :
    v.addLabels [text] = .error fault ↔
      (Text.trimString text ∉ Block.labels ∧ fault = .unknownLabel (Text.trimString text)) ∨
        (∃ b ∈ v.blocks.toList, Block.ofLabel? (Text.trimString text) = some b) ∧
          fault = .duplicateLabel (Text.trimString text) := by
  rw [← Block.ofLabel?_eq_none_iff]
  simp only [addLabels]
  split
  next hnone => simp [hnone, eq_comm]
  next b hb =>
    split
    next hmem =>
      rw [Array.mem_toList_iff] at hmem
      simp [hb, hmem, eq_comm]
    next hmem =>
      rw [Array.mem_toList_iff] at hmem
      simp [hb, hmem]

/-! ### Labels that make a vocabulary -/

/-- All labels are on blocks and no two on the same, blanks at their ends apart. -/
def Numberable (texts : List String) : Prop :=
  texts.map Text.trimString ⊆ Block.labels ∧ (texts.map Text.trimString).Nodup

/-- No block has a number yet. -/
def blank : Vocabulary :=
  ⟨#[], List.nodup_nil⟩

theorem addLabels_blank_eq_ok_iff {v : Vocabulary} {texts : List String} :
    blank.addLabels texts = .ok v ↔
      v.blocks.toList ⊆ Block.standard ∧
        v.blocks.toList.map Block.label = texts.map Text.trimString := by
  rw [addLabels_eq_ok_iff]
  constructor
  · rintro ⟨bs, hbs, hlabels, hv⟩
    obtain rfl : v.blocks.toList = bs := hv
    exact ⟨hbs, hlabels⟩
  · rintro ⟨hbs, hlabels⟩
    exact ⟨_, hbs, hlabels, rfl⟩

theorem exists_addLabels_blank_iff {texts : List String} :
    (∃ v, blank.addLabels texts = .ok v) ↔ Numberable texts := by
  simp only [addLabels_blank_eq_ok_iff]
  constructor
  · rintro ⟨v, hv, hlabels⟩
    rw [Numberable, ← hlabels]
    refine ⟨List.map_subset Block.label hv, v.nodup.map_on fun a ha b hb => ?_⟩
    exact Block.label_injective (hv ha) (hv hb)
  · rintro ⟨hknown, hnodup⟩
    obtain ⟨bs, hbs, hlabels⟩ := Block.exists_map_label_eq hknown
    rw [← hlabels] at hnodup
    exact ⟨⟨bs.toArray, hnodup.of_map⟩, hbs, hlabels⟩

theorem ofLabels_eq_addLabels {texts : List String} (h : texts ≠ []) :
    ofLabels texts = blank.addLabels texts := by
  cases texts with
  | nil => exact absurd rfl h
  | cons text texts => rfl

theorem ofLabels_eq_ok_iff {v : Vocabulary} {texts : List String} :
    ofLabels texts = .ok v ↔ texts ≠ [] ∧ v.blocks.toList ⊆ Block.standard ∧
      v.blocks.toList.map Block.label = texts.map Text.trimString := by
  by_cases h : texts = []
  · subst h
    exact iff_of_false nofun fun h => h.1 rfl
  · rw [ofLabels_eq_addLabels h, addLabels_blank_eq_ok_iff, and_iff_right h]

/-- A label is refused because of the labels before it, which are all right, or because it is on no
block at all. -/
theorem ofLabels_eq_error_iff {texts : List String} {fault : Fault} :
    ofLabels texts = .error fault ↔
      (texts = [] ∧ fault = .empty) ∨
        ∃ before text after, texts = before ++ text :: after ∧ Numberable before ∧
          ((Text.trimString text ∉ Block.labels ∧
              fault = .unknownLabel (Text.trimString text)) ∨
            (Text.trimString text ∈ before.map Text.trimString ∧
              fault = .duplicateLabel (Text.trimString text))) := by
  by_cases h : texts = []
  · subst h
    simp [ofLabels, eq_comm]
  · rw [ofLabels_eq_addLabels h, addLabels_eq_foldlM, foldlM_eq_error_iff]
    simp only [h, false_and, false_or]
    refine exists_congr fun before => exists_congr fun text => exists_congr fun after => ?_
    simp only [← addLabels_eq_foldlM, addLabels_singleton_eq_error_iff]
    -- The vocabulary in front of the fault has the blocks with the labels before it, so it is the
    -- same to compare with its blocks and with these labels.
    constructor
    · rintro ⟨v, hsplit, hv, hfault⟩
      refine ⟨hsplit, exists_addLabels_blank_iff.mp ⟨v, hv⟩, hfault.imp_right fun hfault => ?_⟩
      obtain ⟨⟨b, hb, hlabel⟩, hfault⟩ := hfault
      refine ⟨?_, hfault⟩
      rw [← (addLabels_blank_eq_ok_iff.mp hv).2, ← Block.label_of_ofLabel? hlabel]
      exact List.mem_map_of_mem hb
    · rintro ⟨hsplit, hbefore, hfault⟩
      obtain ⟨v, hv⟩ := exists_addLabels_blank_iff.mpr hbefore
      refine ⟨v, hsplit, hv, hfault.imp_right fun hfault => ?_⟩
      obtain ⟨hstandard, hlabels⟩ := addLabels_blank_eq_ok_iff.mp hv
      rw [← hlabels] at hfault
      obtain ⟨b, hb, hlabel⟩ := List.mem_map.mp hfault.1
      exact ⟨⟨b, hb, hlabel ▸ Block.ofLabel?_label (hstandard hb)⟩, hfault.2⟩

/-- Labels make a vocabulary exactly if there is one at least, all of them are on blocks, and no two
on the same, blanks at their ends apart. There are as many numbers as labels, at most twenty; each
of them is the number of the block with the label in that place, and of no other. Otherwise the
fault is that of the first label that is on no block or has occurred before. -/
theorem ofLabels_numbers (texts : List String) :
    ((∃ v, ofLabels texts = .ok v) ↔ texts ≠ [] ∧ Numberable texts) ∧
      (∀ v, ofLabels texts = .ok v →
        v.size = texts.length ∧ v.size ≤ 20 ∧
          (∀ number < v.size, ∃ text b, texts[number]? = some text ∧
            Block.ofLabel? (Text.trimString text) = some b ∧ v.block? number = some b) ∧
          (∀ number, v.size ≤ number → v.block? number = none) ∧
          ∀ number b, v.block? number = some b ↔ v.class? b = some number) ∧
      ∀ fault, ofLabels texts = .error fault ↔
        (texts = [] ∧ fault = .empty) ∨
          ∃ before text after, texts = before ++ text :: after ∧ Numberable before ∧
            ((Text.trimString text ∉ Block.labels ∧
                fault = .unknownLabel (Text.trimString text)) ∨
              (Text.trimString text ∈ before.map Text.trimString ∧
                fault = .duplicateLabel (Text.trimString text))) := by
  refine ⟨?_, fun v hv => ?_, fun fault => ofLabels_eq_error_iff⟩
  · by_cases h : texts = []
    · subst h
      simp [ofLabels]
    · rw [ofLabels_eq_addLabels h, exists_addLabels_blank_iff, and_iff_right h]
  · obtain ⟨-, hstandard, hlabels⟩ := ofLabels_eq_ok_iff.mp hv
    refine ⟨size_eq_of_labels hlabels, size_le_of_subset_standard hstandard,
      fun number hnumber => ?_, fun number hnumber => Array.getElem?_eq_none hnumber,
      fun _ _ => block?_eq_some_iff_class?⟩
    exact exists_text_of_lt_size hstandard hlabels hnumber

end Vocabulary

end TangibleBlocks
