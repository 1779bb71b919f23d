import TangibleBlocks.Proofs.Source.Bytes
import TangibleBlocks.Proofs.Storage.Places

/-!
Directories of tensors. All entries whose names have the right extension are taken for
frames, in the order of their names, and it is a fault if there is none. Those that
cannot be read, such as directories, yield no frame, but the frames after them still
come, and all that a file says is in its frame.
-/

namespace TangibleBlocks

namespace Storage

variable {s : Storage} {place : List String} {path : String} {e : String × Content}
  {bytes : List UInt8}

/-- Every place has one content, and its steps are names. -/
structure Sound (s : Storage) : Prop where
  nodup : (s.places.map Prod.fst).Nodup
  isName : ∀ p ∈ s.places, ∀ name ∈ p.1, Path.IsName name

instance (s : Storage) : Decidable s.Sound :=
  decidable_of_iff
    ((s.places.map Prod.fst).Nodup ∧ ∀ p ∈ s.places, ∀ name ∈ p.1, Path.IsName name)
    ⟨fun h => ⟨h.1, h.2⟩, fun h => ⟨h.nodup, h.isName⟩⟩

/-- What is right in a directory, with its names. -/
def entries (s : Storage) (place : List String) : List (String × Content) :=
  s.places.filterMap fun p =>
    if p.1.dropLast = place then p.1.getLast?.map fun name => (name, p.2) else none

theorem entry_eq_some_iff {p : List String × Content} :
    (if p.1.dropLast = place then p.1.getLast?.map fun name => (name, p.2) else none) = some e ↔
      p = (place ++ [e.1], e.2) := by
  obtain ⟨key, content⟩ := p
  obtain ⟨name, c⟩ := e
  constructor
  · intro h
    obtain ⟨hplace, h⟩ := Option.ite_none_right_eq_some.mp h
    obtain ⟨last, hlast, heq⟩ := Option.map_eq_some_iff.mp h
    obtain ⟨rfl, rfl⟩ := Prod.mk.inj heq
    rw [← hplace, List.dropLast_append_getLast? last hlast]
  · rintro h
    obtain ⟨rfl, rfl⟩ := Prod.mk.inj h
    simp

theorem mem_entries_iff : e ∈ s.entries place ↔ (place ++ [e.1], e.2) ∈ s.places := by
  simp only [entries, List.mem_filterMap, entry_eq_some_iff, exists_eq_right]

/-- No two entries of a directory have the same name. -/
theorem Sound.pairwise_entries (hs : s.Sound) (place : List String) :
    (s.entries place).Pairwise fun a b => a.1 ≠ b.1 := by
  have hplaces : s.places.Pairwise fun p q => p.1 ≠ q.1 := List.pairwise_map.mp hs.nodup
  refine List.pairwise_filterMap.mpr (hplaces.imp fun {p q} hpq a ha b hb hab => hpq ?_)
  rw [entry_eq_some_iff.mp ha, entry_eq_some_iff.mp hb, hab]

theorem Sound.isName_of_mem (hs : s.Sound) (he : e ∈ s.entries place) : Path.IsName e.1 :=
  hs.isName _ (mem_entries_iff.mp he) e.1 (List.mem_append_right place List.mem_cons_self)

theorem Sound.find?_of_mem (hs : s.Sound) (he : e ∈ s.entries place) :
    s.find? (place ++ [e.1]) = some e.2 := by
  rw [find?, if_neg (List.concat_ne_nil _ _), List.lookup_eq_some_iff]
  obtain ⟨before, after, hplaces⟩ := List.append_of_mem (mem_entries_iff.mp he)
  refine ⟨before, after, hplaces, fun p hp => ?_⟩
  have hnodup := hs.nodup
  rw [hplaces, List.map_append, List.nodup_append] at hnodup
  rw [bne_iff_ne]
  exact (hnodup.2.2 p.1 (List.mem_map_of_mem hp) _ List.mem_cons_self).symm

theorem names_of_directory (hplace : s.locate path = .ok place)
    (hdir : s.find? place = some .directory) :
    s.names path = .ok ((s.entries place).map Prod.fst) := by
  have hnames : (s.entries place).map Prod.fst =
      s.places.filterMap fun p => if p.1.dropLast = place then p.1.getLast? else none := by
    rw [entries, List.map_filterMap]
    refine List.filterMap_congr fun p _ => ?_
    split
    · rw [Option.map_map]
      exact Option.map_id'
    · rfl
  rw [names, hnames, bind_eq_ok_iff]
  exact ⟨place, hplace, by rw [hdir]⟩

/-- The bytes of an entry, if it can be read: if it is a file that is not sealed and its path is not
too long. -/
def readable? (path : String) (e : String × Content) : Option (List UInt8) :=
  match e.2 with
  | .directory => none
  | .sealed _ => none
  | .file bytes => if (Path.join path e.1).utf8ByteSize < 4096 then some bytes else none

theorem Sound.read_join_eq_ok_iff (hs : s.Sound) (hplace : s.locate path = .ok place)
    (hdir : s.find? place = some .directory) (he : e ∈ s.entries place) :
    s.read (Path.join path e.1) = .ok bytes ↔ readable? path e = some bytes := by
  have hname := hs.isName_of_mem he
  have hfound := hs.find?_of_mem he
  rw [read_eq_ok_iff]
  by_cases hsize : (Path.join path e.1).utf8ByteSize < 4096
  · rw [locate_join hname hplace hdir hsize]
    obtain ⟨name, c⟩ := e
    cases c <;> simp_all [readable?]
  · refine iff_of_false (fun ⟨_, h, _⟩ => hsize (locate_eq_ok_iff.mp h).2.2.1) ?_
    rw [readable?]
    split
    · exact nofun
    · exact nofun
    · rw [if_neg hsize]
      exact nofun

end Storage

/-! ### Attempts -/

theorem Feed.frames_prepend (notes : List Entry) (f : Feed) :
    (f.prepend notes).frames = f.frames := by
  rw [Feed.prepend, Feed.frames, Feed.frames]
  split
  next h => rw [h]
  next h => rw [h, List.map_cons, List.map_cons]

/-- A failed attempt is passed over. -/
theorem Feed.frames_ofAttempts (attempts : List (List Entry × Option Tensor)) :
    (Feed.ofAttempts attempts).frames = attempts.filterMap Prod.snd := by
  induction attempts with
  | nil => rfl
  | cons attempt attempts ih =>
      obtain ⟨notes, frame⟩ := attempt
      cases frame with
      | none => rw [Feed.ofAttempts, Feed.frames_prepend, ih, List.filterMap_cons_none rfl]
      | some t => exact congrArg (t :: ·) ih

namespace TensorFiles

variable {s : Storage} {place : List String} {path : String}

theorem frame_attempt (shape : Shape) {bytes : Option (List UInt8)}
    (hbytes : ∀ content, s.read path = .ok content ↔ bytes = some content) :
    (attempt s shape path).2 = bytes.map fun content => shape.tensor (numbers content) := by
  rw [attempt]
  split
  next fault hfault =>
    cases bytes with
    | none => rfl
    | some content =>
        have hok := (hbytes content).mpr rfl
        rw [hfault] at hok
        cases hok
  next content hcontent =>
    rw [(hbytes content).mp hcontent]
    rfl

/-- Whether an entry is taken for a frame. -/
def isTensor (e : String × Content) : Bool :=
  Path.extension? e.1 == some extension

/-- There is something in front of the extension. -/
theorem isTensor_iff {e : String × Content} :
    isTensor e = true ↔ ∃ stem, stem ≠ "" ∧ e.1 = stem ++ ".bin" := by
  rw [isTensor, beq_iff_eq, Path.extension?]
  constructor
  · intro h
    have hname := List.takeWhile_append_dropWhile (p := (· ≠ '.')) (l := e.1.toList.reverse)
    have hdot := List.head?_dropWhile_not (· ≠ '.') e.1.toList.reverse
    split at h
    next => cases h
    next => cases h
    next dot c rest hrest =>
      rw [hrest, List.head?_cons] at hdot
      obtain rfl : dot = '.' := by simpa using hdot
      have hend := congrArg String.toList (Option.some.inj h)
      rw [String.toList_ofList, List.reverse_eq_iff] at hend
      rw [hend, hrest] at hname
      refine ⟨String.ofList (c :: rest).reverse, by simp, String.toList_inj.mp ?_⟩
      rw [← List.reverse_reverse e.1.toList, ← hname, String.toList_append,
        String.toList_ofList]
      simp [extension]
  · rintro ⟨stem, hstem, hname⟩
    obtain ⟨c, rest, hrest⟩ : ∃ c rest, stem.toList.reverse = c :: rest :=
      List.exists_cons_of_ne_nil fun h => hstem (by simpa using h)
    have hreverse : e.1.toList.reverse = 'n' :: 'i' :: 'b' :: '.' :: c :: rest := by
      rw [hname, String.toList_append, List.reverse_append, hrest]
      rfl
    rw [hreverse]
    rfl

/-- The entries that are taken for frames, in the order of their names. -/
def tensorEntries (s : Storage) (place : List String) : List (String × Content) :=
  ((s.entries place).filter isTensor).mergeSort fun a b => decide (a.1 ≤ b.1)

theorem perm_tensorEntries (s : Storage) (place : List String) :
    (tensorEntries s place).Perm ((s.entries place).filter isTensor) :=
  List.mergeSort_perm _ _

theorem pairwise_tensorEntries (hs : s.Sound) (place : List String) :
    (tensorEntries s place).Pairwise fun a b => a.1 < b.1 := by
  have hordered : (tensorEntries s place).Pairwise fun a b => decide (a.1 ≤ b.1) = true := by
    refine List.pairwise_mergeSort (fun a b c hab hbc => ?_) (fun a b => ?_) _
    · rw [decide_eq_true_eq] at hab hbc ⊢
      exact String.le_trans hab hbc
    · rw [Bool.or_eq_true, decide_eq_true_eq, decide_eq_true_eq]
      exact String.le_total a.1 b.1
  have hapart : (tensorEntries s place).Pairwise fun a b => a.1 ≠ b.1 :=
    ((hs.pairwise_entries place).filter isTensor).perm (perm_tensorEntries s place).symm Ne.symm
  refine (hordered.and hapart).imp fun h => ?_
  exact String.not_le.mp fun hle => h.2 (String.le_antisymm (of_decide_eq_true h.1) hle)

theorem filesAt_of_directory (hplace : s.locate path = .ok place)
    (hdir : s.find? place = some .directory) :
    filesAt s path = match tensorEntries s place with
      | [] => .error (.noTensorFile path)
      | found => .ok (found.map fun e => Path.join path e.1) := by
  have hisdir : s.isDirectory path = true := by
    have hstat : s.stat path = .ok .directory := by
      rw [Storage.stat, bind_eq_ok_iff]
      exact ⟨place, hplace, by rw [hdir]⟩
    rw [Storage.isDirectory, hstat]
  have hfound : (((s.entries place).map Prod.fst).filter fun n =>
      Path.extension? n == some extension).mergeSort (fun a b => decide (a ≤ b)) =
        (tensorEntries s place).map Prod.fst := by
    rw [List.filter_map]
    exact (List.map_mergeSort (f := Prod.fst) (l := (s.entries place).filter isTensor)
      fun _ _ _ _ => rfl).symm
  rw [filesAt, if_pos hisdir, Storage.names_of_directory hplace hdir]
  simp only [hfound]
  cases tensorEntries s place with
  | nil => rfl
  | cons e rest => simp

theorem tensorEntries_eq_nil_iff :
    tensorEntries s place = [] ↔
      ¬ ∃ e ∈ s.entries place, ∃ stem, stem ≠ "" ∧ e.1 = stem ++ ".bin" := by
  have hmem (e : String × Content) :
      e ∈ tensorEntries s place ↔ e ∈ s.entries place ∧ isTensor e = true := by
    rw [(perm_tensorEntries s place).mem_iff, List.mem_filter]
  simp [List.eq_nil_iff_forall_not_mem, hmem, ← isTensor_iff]

/-- Every entry that can be read yields a frame, whatever the entries before it yield. -/
theorem frames_feed (hs : s.Sound) (shape : Shape) (hplace : s.locate path = .ok place)
    (hdir : s.find? place = some .directory) :
    (feed ⟨(tensorEntries s place).map fun e => Path.join path e.1, shape⟩ s).frames =
      ((tensorEntries s place).filterMap (Storage.readable? path)).map
        fun content => shape.tensor (numbers content) := by
  rw [feed, Feed.frames_ofAttempts, List.map_map, List.filterMap_map, List.map_filterMap]
  refine List.filterMap_congr fun e he => ?_
  have hentry : e ∈ s.entries place :=
    (List.mem_filter.mp ((perm_tensorEntries s place).mem_iff.mp he)).1
  exact frame_attempt shape fun content => hs.read_join_eq_ok_iff hplace hdir hentry

theorem ofUrl_eq_filesAt {u : Url} (hscheme : u.scheme = scheme) {shape : Shape}
    (hshape : Shape.ofQuery u.queryPairs = .ok shape) :
    ofUrl s u = (filesAt s u.filePath).map fun files => ⟨files, shape⟩ := by
  rw [ofUrl, if_neg (not_not_intro hscheme), hshape]

end TensorFiles

end TangibleBlocks
