import Mathlib.Data.List.Induction
import TangibleBlocks.Proofs.Faults
import TangibleBlocks.Proofs.Text.Cutting
import TangibleBlocks.Storage.Basic

/-!
Paths and places. The path of a name below a directory leads to that name in the place
of the directory, and to no other name. What is added to a storage, or written to one
of its places, leaves the other places as they are; as directories stay directories,
every path goes on leading where it led.
-/

namespace TangibleBlocks

/-! ### Names -/

namespace Path

/-- What leads one step down in a path. -/
structure IsPlain (name : String) : Prop where
  ne_empty : name ≠ ""
  ne_dot : name ≠ "."
  ne_dots : name ≠ ".."
  noSlash : '/' ∉ name.toList

/-- What a file or a directory can be called. -/
structure IsName (name : String) : Prop extends IsPlain name where
  noZero : Char.ofNat 0 ∉ name.toList
  size_le : name.utf8ByteSize ≤ 255

instance (name : String) : Decidable (IsName name) :=
  decidable_of_iff (name ≠ "" ∧ name ≠ "." ∧ name ≠ ".." ∧ '/' ∉ name.toList ∧
      Char.ofNat 0 ∉ name.toList ∧ name.utf8ByteSize ≤ 255)
    ⟨fun ⟨h₁, h₂, h₃, h₄, h₅, h₆⟩ => ⟨⟨h₁, h₂, h₃, h₄⟩, h₅, h₆⟩,
      fun ⟨⟨h₁, h₂, h₃, h₄⟩, h₅, h₆⟩ => ⟨h₁, h₂, h₃, h₄, h₅, h₆⟩⟩

theorem pieces_of_noSlash {name : String} (h : '/' ∉ name.toList) : pieces name = [name] := by
  rw [pieces, Text.pieces_of_notMem h, List.map_singleton, String.ofList_toList]

/-- The last step of the path of a name is the name, whether or not the path of the directory ends
with a slash. -/
theorem exists_pieces_join (directory : String) {name : String} (hslash : '/' ∉ name.toList) :
    ∃ above, pieces (join directory name) = above ++ [name] ∧
      (directory ≠ "" → pieces directory = above ∨ pieces directory = above ++ [""]) := by
  have hname : (Text.pieces '/' name.toList).map String.ofList = [name] := pieces_of_noSlash hslash
  rw [join]
  split
  next hempty => exact ⟨[], pieces_of_noSlash hslash, fun h => absurd hempty h⟩
  next =>
    split
    next hlast =>
      obtain ⟨front, hfront⟩ := List.getLast?_eq_some_iff.mp hlast
      refine ⟨(Text.pieces '/' front).map String.ofList, ?_, fun _ => .inr ?_⟩
      · rw [pieces, String.toList_append, hfront, List.append_assoc, List.singleton_append,
          Text.pieces_append, List.map_append, hname]
      · rw [pieces, hfront, Text.pieces_append, List.map_append]
        rfl
    next =>
      refine ⟨pieces directory, ?_, fun _ => .inl rfl⟩
      have htext : (directory ++ "/" ++ name).toList = directory.toList ++ '/' :: name.toList := by
        simp
      rw [pieces, htext, Text.pieces_append, List.map_append, hname]
      rfl

theorem eq_of_join_eq {directory directory' name name' : String} (hname : '/' ∉ name.toList)
    (hname' : '/' ∉ name'.toList) (h : join directory name = join directory' name') :
    name = name' := by
  obtain ⟨above, hjoin, -⟩ := exists_pieces_join directory hname
  obtain ⟨above', hjoin', -⟩ := exists_pieces_join directory' hname'
  have hlast : above ++ [name] = above' ++ [name'] := by rw [← hjoin, ← hjoin', h]
  exact (List.append_singleton_inj.mp hlast).2

theorem isRooted_join {directory name : String} (h : directory ≠ "") :
    isRooted (join directory name) = isRooted directory := by
  obtain ⟨c, cs, hcs⟩ : ∃ c cs, directory.toList = c :: cs :=
    List.exists_cons_of_ne_nil fun hnil => h (String.toList_eq_nil_iff.mp hnil)
  rw [isRooted, isRooted, join, if_neg h]
  split <;> simp [hcs]

theorem mem_toList_join {directory name : String} {c : Char}
    (h : c ∈ (join directory name).toList) :
    c ∈ directory.toList ∨ c = '/' ∨ c ∈ name.toList := by
  rw [join] at h
  split at h
  next => exact .inr (.inr h)
  next =>
    split at h <;> simp only [String.toList_append, List.mem_append] at h
    next => exact h.imp_right .inr
    next =>
      rcases h with (h | h) | h
      · exact .inl h
      · exact .inr (.inl (by simpa using h))
      · exact .inr (.inr h)

theorem join_ne_empty {directory name : String} (h : name ≠ "") : join directory name ≠ "" := by
  rw [join]
  split
  next => exact h
  next =>
    split <;>
      · rw [ne_eq, String.append_eq_empty_iff]
        exact fun hempty => h hempty.2

end Path

namespace Storage

variable {s t u : Storage} {place other : List String} {path name step : String} {c : Content}
  {bytes : List UInt8}

/-! ### Following paths -/

theorem find?_of_follow (h : s.follow place step = .ok other) :
    s.find? place = some .directory := by
  rw [follow] at h
  split at h
  next => cases h
  next => cases h
  next => cases h
  next hdir => exact hdir

theorem follow_congr (hs : s.find? place = some .directory)
    (ht : t.find? place = some .directory) : t.follow place step = s.follow place step := by
  rw [follow, follow, hs, ht]

theorem follow_name (hname : Path.IsName name) (hdir : s.find? place = some .directory) :
    s.follow place name = .ok (place ++ [name]) := by
  have hsize : ¬ 255 < name.utf8ByteSize := Nat.not_lt.mpr hname.size_le
  simp [follow, hdir, hname.ne_empty, hname.ne_dot, hname.ne_dots, hsize]

theorem eq_append_of_follow (h : s.follow place name = .ok other) (hname : Path.IsPlain name) :
    other = place ++ [name] := by
  rw [follow, find?_of_follow h] at h
  dsimp only at h
  rw [if_neg (not_or.mpr ⟨hname.ne_empty, hname.ne_dot⟩), if_neg hname.ne_dots] at h
  split at h
  next => cases h
  next => exact (Except.ok.inj h).symm

theorem eq_of_follow_empty (h : s.follow place "" = .ok other) : other = place := by
  rw [follow, find?_of_follow h] at h
  exact (Except.ok.inj h).symm

/-- Where the first step of a path is taken. -/
def start (s : Storage) (path : String) : List String :=
  if Path.isRooted path then [] else s.here

theorem locate_eq_ok_iff :
    s.locate path = .ok place ↔
      Char.ofNat 0 ∉ path.toList ∧ path ≠ "" ∧ path.utf8ByteSize < 4096 ∧
        (Path.pieces path).foldlM s.follow (s.start path) = .ok place := by
  rw [locate, start]
  split
  next h => simp_all
  next h =>
    split
    next h' => simp [h']
    next h' =>
      split
      next h'' => simp [Nat.not_lt.mpr h'']
      next h'' => simp_all

/-- The path of a name below a directory leads to the name in the place of the directory. -/
theorem locate_join (hname : Path.IsName name) (hplace : s.locate path = .ok place)
    (hdir : s.find? place = some .directory)
    (hsize : (Path.join path name).utf8ByteSize < 4096) :
    s.locate (Path.join path name) = .ok (place ++ [name]) := by
  obtain ⟨hzero, hpath, -, hsteps⟩ := locate_eq_ok_iff.mp hplace
  refine locate_eq_ok_iff.mpr ⟨fun hmem => ?_, Path.join_ne_empty hname.ne_empty, hsize, ?_⟩
  · rcases Path.mem_toList_join hmem with h | h | h
    · exact hzero h
    · exact absurd h (by decide)
    · exact hname.noZero h
  · obtain ⟨above, hjoin, habove⟩ := Path.exists_pieces_join path hname.noSlash
    have hstart : s.start (Path.join path name) = s.start path := by
      rw [start, start, Path.isRooted_join hpath]
    have hplace' : above.foldlM s.follow (s.start path) = .ok place := by
      rcases habove hpath with h | h
      · exact h ▸ hsteps
      · rw [h, foldlM_concat_eq_ok_iff] at hsteps
        obtain ⟨last, hlast, hempty⟩ := hsteps
        exact (eq_of_follow_empty hempty).symm ▸ hlast
    rw [hjoin, hstart, foldlM_concat_eq_ok_iff]
    exact ⟨place, hplace', follow_name hname hdir⟩

/-- Names below a directory lead to no place that ends with another name. -/
theorem getLast?_of_locate_join (hname : Path.IsPlain name)
    (h : s.locate (Path.join path name) = .ok place) : place.getLast? = some name := by
  obtain ⟨-, -, -, hsteps⟩ := locate_eq_ok_iff.mp h
  obtain ⟨above, hjoin, -⟩ := Path.exists_pieces_join path hname.noSlash
  rw [hjoin, foldlM_concat_eq_ok_iff] at hsteps
  obtain ⟨directory, -, hlast⟩ := hsteps
  rw [eq_append_of_follow hlast hname, List.getLast?_concat]

/-! ### What is found at places -/

theorem find?_root (s : Storage) : s.find? [] = some .directory :=
  if_pos rfl

theorem lookup_put (entries : List (List String × Content)) :
    (entries.filter (fun p => p.1 != place) ++ [(place, c)]).lookup other =
      if other = place then some c else entries.lookup other := by
  rw [List.lookup_append]
  split
  next h =>
    subst h
    have hnone : (entries.filter fun p => p.1 != other).lookup other = none := by
      refine List.lookup_eq_none_iff.mpr fun p hp => ?_
      have hne : (p.1 != other) = true := (List.mem_filter.mp hp).2
      rwa [bne_comm] at hne
    rw [hnone, Option.none_or, List.lookup_cons_self]
  next h =>
    have hlast : [(place, c)].lookup other = none := by simp [h]
    rw [hlast, Option.or_none]
    induction entries with
    | nil => rfl
    | cons p entries ih =>
        rw [List.filter_cons]
        split
        next => rw [List.lookup_cons, List.lookup_cons, ih]
        next hp =>
          have hkey : (other == p.1) = false := by
            rw [beq_eq_false_iff_ne]
            rintro rfl
            exact hp (bne_iff_ne.mpr h)
          rw [List.lookup_cons, hkey, ih]

theorem find?_put (hplace : place ≠ []) :
    (s.put place c).find? other = if other = place then some c else s.find? other := by
  rw [find?, find?]
  split
  next h => rw [h, if_neg hplace.symm]
  next => exact lookup_put s.places

theorem read_eq_ok_iff :
    s.read path = .ok bytes ↔
      ∃ place, s.locate path = .ok place ∧ s.find? place = some (.file bytes) := by
  rw [read, bind_eq_ok_iff]
  simp only [stat, bind_eq_ok_iff]
  constructor
  · rintro ⟨c, ⟨place, hplace, hc⟩, hbytes⟩
    refine ⟨place, hplace, ?_⟩
    split at hc
    next => cases hc
    next h =>
      obtain rfl := Except.ok.inj hc
      split at hbytes
      next => cases hbytes
      next => rw [h, Except.ok.inj hbytes]
      next => cases hbytes
  · rintro ⟨place, hplace, hbytes⟩
    exact ⟨.file bytes, ⟨place, hplace, by rw [hbytes]⟩, rfl⟩

theorem write_eq_ok_iff :
    s.write path bytes = .ok t ↔
      ∃ place, s.locate path = .ok place ∧ (∀ c, s.find? place = some c → ∃ old, c = .file old) ∧
        t = s.put place (.file bytes) := by
  rw [write, bind_eq_ok_iff]
  refine exists_congr fun place => and_congr_right fun _ => ?_
  cases s.find? place with
  | none => simp [eq_comm]
  | some c => cases c <;> simp [eq_comm]

theorem ne_directory_of_file (h : ∀ c, s.find? place = some c → ∃ old, c = .file old) :
    s.find? place ≠ some .directory := by
  intro hdir
  obtain ⟨old, hold⟩ := h .directory hdir
  cases hold

theorem makeDirectory_eq_ok_iff :
    s.makeDirectory path = .ok t ↔
      ∃ place, s.locate path = .ok place ∧ s.find? place = none ∧
        t = s.put place .directory := by
  rw [makeDirectory, bind_eq_ok_iff]
  refine exists_congr fun place => and_congr_right fun _ => ?_
  split
  next h => simp [h]
  next h => simp [h, eq_comm]

/-! ### Storages that change -/

/-- Directories stay directories. -/
structure Stands (s t : Storage) : Prop where
  here_eq : t.here = s.here
  directory : ∀ place, s.find? place = some .directory → t.find? place = some .directory

theorem Stands.trans (h : s.Stands t) (h' : t.Stands u) : s.Stands u where
  here_eq := h'.here_eq.trans h.here_eq
  directory place hplace := h'.directory place (h.directory place hplace)

theorem Stands.steps (h : s.Stands t) {steps : List String} {origin : List String}
    (hsteps : steps.foldlM s.follow origin = .ok place) :
    steps.foldlM t.follow origin = .ok place := by
  induction steps using List.reverseRecOn generalizing place with
  | nil => exact hsteps
  | append_singleton steps step ih =>
      rw [foldlM_concat_eq_ok_iff] at hsteps ⊢
      obtain ⟨above, habove, hstep⟩ := hsteps
      have hdir : s.find? above = some .directory := find?_of_follow hstep
      exact ⟨above, ih habove, (follow_congr hdir (h.directory above hdir)).trans hstep⟩

theorem Stands.locate (h : s.Stands t) (hpath : s.locate path = .ok place) :
    t.locate path = .ok place := by
  rw [locate_eq_ok_iff] at hpath ⊢
  have hstart : t.start path = s.start path := by rw [start, start, h.here_eq]
  exact ⟨hpath.1, hpath.2.1, hpath.2.2.1, hstart ▸ h.steps hpath.2.2.2⟩

/-- More has been found a place, but nothing has been changed and no file is new. -/
structure Grows (s t : Storage) : Prop where
  here_eq : t.here = s.here
  found : ∀ place c, s.find? place = some c → t.find? place = some c
  file : ∀ place bytes, t.find? place = some (.file bytes) → s.find? place = some (.file bytes)

theorem Grows.refl (s : Storage) : s.Grows s :=
  ⟨rfl, fun _ _ => id, fun _ _ => id⟩

theorem Grows.trans (h : s.Grows t) (h' : t.Grows u) : s.Grows u where
  here_eq := h'.here_eq.trans h.here_eq
  found place c hc := h'.found place c (h.found place c hc)
  file place bytes hbytes := h.file place bytes (h'.file place bytes hbytes)

theorem Grows.stands (h : s.Grows t) : s.Stands t :=
  ⟨h.here_eq, fun place => h.found place .directory⟩

theorem grows_of_makeDirectory (h : s.makeDirectory path = .ok t) : s.Grows t := by
  obtain ⟨place, -, hnone, rfl⟩ := makeDirectory_eq_ok_iff.mp h
  have hroot : place ≠ [] := by
    rintro rfl
    cases hnone
  refine ⟨rfl, fun other c hc => ?_, fun other bytes hbytes => ?_⟩
  · rw [find?_put hroot, if_neg, hc]
    rintro rfl
    rw [hnone] at hc
    cases hc
  · rw [find?_put hroot] at hbytes
    split at hbytes
    next => cases hbytes
    next => exact hbytes

theorem grows_of_makeAll {rooted : Bool} {steps : List String}
    (h : s.makeAll rooted steps = .ok t) : s.Grows t := by
  induction steps generalizing t with
  | nil => exact Except.ok.inj h ▸ .refl s
  | cons step above ih =>
      rw [makeAll] at h
      dsimp only at h
      split at h
      next =>
        split at h
        next habove =>
          -- The directory itself is made last, when those above it are there.
          have hgrows := ih habove
          split at h
          next hmade => exact hgrows.trans (grows_of_makeDirectory (hmade.trans h))
          next =>
            split at h
            next => exact Except.ok.inj h ▸ hgrows
            next => cases h
        next => cases h
      next =>
        split at h
        next hmade => exact grows_of_makeDirectory (hmade.trans h)
        next =>
          split at h
          next => exact Except.ok.inj h ▸ .refl s
          next => cases h

theorem grows_of_makeDirectories (h : s.makeDirectories path = .ok t) : s.Grows t :=
  grows_of_makeAll h

/-- What a file that has been written replaces is the file in its place, if there was one. -/
theorem stands_of_write (h : s.write path bytes = .ok t) : s.Stands t := by
  obtain ⟨place, -, hplace, rfl⟩ := write_eq_ok_iff.mp h
  have hroot : place ≠ [] := by
    rintro rfl
    exact ne_directory_of_file hplace (find?_root s)
  refine ⟨rfl, fun other hother => ?_⟩
  rw [find?_put hroot, if_neg, hother]
  rintro rfl
  exact ne_directory_of_file hplace hother

/-- A file with the given bytes is at a place, and the files at other places are the same. -/
structure Receives (s t : Storage) (place : List String) (bytes : List UInt8) : Prop where
  stands : s.Stands t
  received : t.find? place = some (.file bytes)
  others : ∀ other content, other ≠ place →
    (t.find? other = some (.file content) ↔ s.find? other = some (.file content))

/-- The path of a file leads to it, also when directories have been made for it. -/
theorem exists_receives_of_write (hgrows : s.Grows t) (h : t.write path bytes = .ok u) :
    ∃ place, u.locate path = .ok place ∧ s.Receives u place bytes := by
  have hstands : t.Stands u := stands_of_write h
  obtain ⟨place, hlocate, hplace, rfl⟩ := write_eq_ok_iff.mp h
  have hroot : place ≠ [] := by
    rintro rfl
    exact ne_directory_of_file hplace (find?_root t)
  refine ⟨place, hstands.locate hlocate, hgrows.stands.trans hstands, ?_, ?_⟩
  · rw [find?_put hroot, if_pos rfl]
  · intro other content hother
    rw [find?_put hroot, if_neg hother]
    exact ⟨hgrows.file other content, hgrows.found other (.file content)⟩

end Storage

end TangibleBlocks
