import TangibleBlocks.Proofs.Sink.Names

/-!
What gathers in a folder. There may be several handles of one folder, of which some leave
out empty detections and others do not; the running number is common to them. As long as it
does not start over, every result that is not left out gets a file of its own, and no file
is written twice.
-/

namespace TangibleBlocks.Folder

/-! ### Calls -/

inductive Result where
  | detections (anchors : Nat) (items : List Detection)
  | execution (program : Program) (report : Report)

/-- A result, the time at which it comes, and whether the handle through which it comes takes empty
detections too. -/
structure Call where
  always : Bool
  now : Timestamp
  result : Result

namespace Call

def kind (c : Call) : Kind :=
  match c.result with
  | .detections _ _ => .detections
  | .execution _ _ => .program

def text (c : Call) : String :=
  match c.result with
  | .detections anchors items => (detectionRecord c.now anchors items).toPretty
  | .execution p r => (programRecord c.now p r).toPretty

/-- Empty detections that are not asked for. -/
def isSkipped (c : Call) : Bool :=
  match c.result with
  | .detections _ items => !c.always && items.isEmpty
  | .execution _ _ => false

def perform (c : Call) (f : Folder) (s : Storage) : Filed × Option Fault :=
  match c.result with
  | .detections anchors items => f.addFrame c.now anchors items s
  | .execution p r => f.addProgram c.now p r s

end Call

/-- A file that has been written for a call. -/
structure Record where
  call : Call
  directory : String
  name : String

def Record.path (r : Record) : String :=
  Path.join r.directory r.name

/-- What the handles of a folder have in common, the storage, and the files that have been written,
in their order. -/
structure Archive where
  directory : String
  counter : Nat
  storage : Storage
  records : List Record

namespace Archive

def handle (a : Archive) (always : Bool) : Folder :=
  ⟨a.directory, a.counter, always⟩

def recordOf (a : Archive) (c : Call) : Record :=
  ⟨c, (a.handle c.always).dayPath c.now, fileName c.now (a.handle c.always).nextNumber c.kind⟩

def step (a : Archive) (c : Call) : Except Fault Archive :=
  match c.perform (a.handle c.always) a.storage with
  | (_, some fault) => .error fault
  | (⟨f, s⟩, none) =>
    .ok ⟨f.directory, f.counter, s,
      if c.isSkipped then a.records else a.records ++ [a.recordOf c]⟩

end Archive

variable {f : Folder} {s t : Storage} {d : Filed} {now : Timestamp} {k : Kind} {text : String}
  {c : Call} {a b : Archive} {fault : Fault}

/-! ### One call -/

theorem exists_of_write (h : f.write now k text s = (d, none)) :
    ∃ place, d.storage.locate (f.filePath now k) = .ok place ∧
      s.Receives d.storage place (Utf8.encode text) ∧
      d.folder = { f with counter := f.nextNumber } := by
  unfold write at h
  dsimp only at h
  split at h
  next => cases h
  next t hprepared =>
    have hgrows : s.Grows t := by
      split at hprepared
      next => exact Except.ok.inj hprepared ▸ .refl s
      next => exact Storage.grows_of_makeDirectories hprepared
    split at h
    next => cases h
    next u hwrite =>
      obtain rfl := (Prod.mk.inj h).1
      obtain ⟨place, hplace, hreceives⟩ := Storage.exists_receives_of_write hgrows hwrite
      exact ⟨place, hplace, hreceives, rfl⟩

/-- Nothing but the storage can be in the way of a file. -/
theorem exists_of_write_fault (h : f.write now k text s = (d, some fault)) :
    ∃ e, fault = .storage e ∧ (s.makeDirectories (f.dayPath now) = .error e ∨
      ∃ t, (t = s ∨ s.makeDirectories (f.dayPath now) = .ok t) ∧
        t.write (f.filePath now k) (Utf8.encode text) = .error e) := by
  unfold write at h
  dsimp only at h
  split at h
  next e hprepared =>
    refine ⟨e, (Option.some.inj (Prod.mk.inj h).2).symm, .inl ?_⟩
    split at hprepared
    next => cases hprepared
    next => exact hprepared
  next t hprepared =>
    split at h
    next e hwrite =>
      refine ⟨e, (Option.some.inj (Prod.mk.inj h).2).symm, .inr ⟨t, ?_, hwrite⟩⟩
      split at hprepared
      next => exact .inl (Except.ok.inj hprepared).symm
      next => exact .inr hprepared
    next => cases h

namespace Archive

/-- The directory for the file of a call cannot be made, or the file cannot be written. -/
def Refuses (a : Archive) (c : Call) (e : Storage.Fault) : Prop :=
  a.storage.makeDirectories (a.recordOf c).directory = .error e ∨
    ∃ t, (t = a.storage ∨ a.storage.makeDirectories (a.recordOf c).directory = .ok t) ∧
      t.write (a.recordOf c).path (Utf8.encode c.text) = .error e

theorem perform_eq (a : Archive) (c : Call) :
    c.perform (a.handle c.always) a.storage =
      if c.isSkipped then (⟨a.handle c.always, a.storage⟩, none)
      else (a.handle c.always).write c.now c.kind c.text a.storage := by
  obtain ⟨always, now, result⟩ := c
  cases result with
  | detections anchors items => rfl
  | execution p r => rfl

/-- Empty detections that are not asked for change nothing. -/
theorem step_of_isSkipped (h : c.isSkipped = true) : a.step c = .ok a := by
  rw [step, perform_eq, h]
  rfl

theorem exists_of_step (hc : c.isSkipped = false) (h : a.step c = .ok b) :
    ∃ place, b.storage.locate (a.recordOf c).path = .ok place ∧
      a.storage.Receives b.storage place (Utf8.encode c.text) ∧
      b.directory = a.directory ∧ b.counter = (a.counter + 1) % UInt16.size ∧
      b.records = a.records ++ [a.recordOf c] := by
  rw [step, perform_eq, hc] at h
  split at h
  next => cases h
  next f s hperform =>
    obtain ⟨place, hplace, hreceives, hfolder⟩ := exists_of_write hperform
    dsimp only at hplace hreceives hfolder
    subst hfolder
    obtain rfl := Except.ok.inj h
    exact ⟨place, hplace, hreceives, rfl, rfl, rfl⟩

theorem exists_of_step_error (h : a.step c = .error fault) :
    c.isSkipped = false ∧ ∃ e, fault = .storage e ∧ a.Refuses c e := by
  cases hc : c.isSkipped with
  | true => cases (step_of_isSkipped hc).symm.trans h
  | false =>
      rw [step, perform_eq, hc] at h
      split at h
      next found hperform =>
        obtain rfl := Except.error.inj h
        exact ⟨rfl, exists_of_write_fault hperform⟩
      next => cases h

end Archive

/-! ### All calls -/

/-- The file for a call that has the given number. -/
def Call.record (c : Call) (root : String) (n : Nat) : Record :=
  ⟨c, (⟨root, n, c.always⟩ : Folder).dayPath c.now, fileName c.now n c.kind⟩

theorem path_record_ne {root : String} {c c' : Call} {m n : Nat} (hmn : m < n)
    (hn : n < UInt16.size) : (c.record root m).path ≠ (c'.record root n).path := fun h =>
  fileName_ne hmn hn (Path.eq_of_join_eq (isPlain_fileName c.now (hmn.trans hn) c.kind).noSlash
    (isPlain_fileName c'.now hn c'.kind).noSlash h)

/-- Files of different numbers lie in different places, whatever their directories are. -/
theorem place_ne {root : String} {c c' : Call} {m n : Nat} {place place' : List String}
    (hmn : m < n) (hn : n < UInt16.size) (h : s.locate (c.record root m).path = .ok place)
    (h' : s.locate (c'.record root n).path = .ok place') : place ≠ place' := by
  rintro rfl
  have hlast := Storage.getLast?_of_locate_join (isPlain_fileName c.now (hmn.trans hn) c.kind) h
  rw [Storage.getLast?_of_locate_join (isPlain_fileName c'.now hn c'.kind) h'] at hlast
  exact fileName_ne hmn hn (Option.some.inj hlast).symm

/-- The files are numbered from one on and hold what has been written to them, and other files are
those that were there before. -/
structure Kept (root : String) (s : Storage) (a : Archive) : Prop where
  directory_eq : a.directory = root
  counter_eq : a.counter = a.records.length
  record_eq : ∀ i (hi : i < a.records.length), a.records[i] = a.records[i].call.record root (i + 1)
  stored : ∀ r ∈ a.records, ∃ place, a.storage.locate r.path = .ok place ∧
    a.storage.find? place = some (.file (Utf8.encode r.call.text))
  others : ∀ place bytes, (∀ r ∈ a.records, a.storage.locate r.path ≠ .ok place) →
    (a.storage.find? place = some (.file bytes) ↔ s.find? place = some (.file bytes))

namespace Kept

variable {root : String}

theorem initial (root : String) (s : Storage) : Kept root s ⟨root, 0, s, []⟩ where
  directory_eq := rfl
  counter_eq := rfl
  record_eq := nofun
  stored := nofun
  others _ _ _ := Iff.rfl

theorem recordOf_eq (ha : Kept root s a) (hsize : a.records.length + 1 < UInt16.size) (c : Call) :
    a.recordOf c = c.record root (a.records.length + 1) := by
  have hnumber : (a.handle c.always).nextNumber = a.records.length + 1 := by
    rw [nextNumber, Archive.handle, ha.counter_eq, Nat.mod_eq_of_lt hsize]
  rw [Archive.recordOf, hnumber, Archive.handle, ha.directory_eq]
  rfl

/-- One more file does not touch the others, as its number is a new one. -/
theorem step (ha : Kept root s a) (hsize : a.records.length + 1 < UInt16.size)
    (hc : c.isSkipped = false) (h : a.step c = .ok b) :
    Kept root s b ∧ b.records = a.records ++ [c.record root (a.records.length + 1)] := by
  obtain ⟨place, hplace, hreceives, hdirectory, hcounter, hrecords⟩ := Archive.exists_of_step hc h
  rw [ha.recordOf_eq hsize] at hplace hrecords
  refine ⟨⟨hdirectory.trans ha.directory_eq, ?_, ?_, ?_, ?_⟩, hrecords⟩
  · rw [hcounter, ha.counter_eq, Nat.mod_eq_of_lt hsize, hrecords, List.length_append,
      List.length_singleton]
  · intro i hi
    simp only [hrecords, List.getElem_append]
    split
    next hold => exact ha.record_eq i hold
    next hlast =>
      rw [hrecords, List.length_append, List.length_singleton] at hi
      have hlength : i = a.records.length := by omega
      simp [hlength]
      rfl
  · intro r hr
    rw [hrecords, List.mem_append, List.mem_singleton] at hr
    rcases hr with hr | rfl
    · obtain ⟨other, hother, hfile⟩ := ha.stored r hr
      have hstill : b.storage.locate r.path = .ok other := hreceives.stands.locate hother
      have hne : other ≠ place := by
        obtain ⟨i, hi, rfl⟩ := List.getElem_of_mem hr
        rw [ha.record_eq i hi] at hstill
        exact place_ne (Nat.succ_lt_succ hi) hsize hstill hplace
      exact ⟨other, hstill, (hreceives.others other _ hne).mpr hfile⟩
    · exact ⟨place, hplace, hreceives.received⟩
  · intro other bytes hother
    rw [hrecords] at hother
    have hne : other ≠ place := by
      rintro rfl
      exact hother _ List.mem_concat_self hplace
    refine (hreceives.others other bytes hne).trans (ha.others other bytes fun r hr hr' => ?_)
    exact hother r (List.mem_append_left _ hr) (hreceives.stands.locate hr')

theorem run {calls : List Call} (ha : Kept root s a)
    (hsize : a.records.length + calls.length < UInt16.size)
    (h : calls.foldlM Archive.step a = .ok b) :
    Kept root s b ∧
      b.records.map Record.call = a.records.map Record.call ++ calls.filter (!·.isSkipped) := by
  induction calls generalizing a with
  | nil =>
      obtain rfl := Except.ok.inj h
      exact ⟨ha, (List.append_nil _).symm⟩
  | cons c calls ih =>
      rw [List.foldlM_cons, bind_eq_ok_iff] at h
      obtain ⟨next, hstep, hrest⟩ := h
      rw [List.length_cons] at hsize
      cases hc : c.isSkipped with
      | true =>
          rw [Archive.step_of_isSkipped hc] at hstep
          obtain rfl := Except.ok.inj hstep
          rw [List.filter_cons_of_neg (by simp [hc])]
          exact ih ha (by omega) hrest
      | false =>
          obtain ⟨hnext, hrecords⟩ := ha.step (by omega) hc hstep
          have hlength : next.records.length = a.records.length + 1 := by simp [hrecords]
          obtain ⟨hb, hcalls⟩ := ih hnext (by omega) hrest
          refine ⟨hb, ?_⟩
          rw [hcalls, hrecords, List.filter_cons_of_pos (by simp [hc])]
          simp [Call.record]

theorem exists_number (ha : Kept root s a) (hsize : a.records.length < UInt16.size) {i : Nat}
    (hi : i < a.records.length) :
    ∃ number, Hexadecimal number (i + 1) ∧
      let r := a.records[i]
      r.directory = (⟨root, i, r.call.always⟩ : Folder).dayPath r.call.now ∧
        r.name = s!"{r.call.now.clockText}-{number}-{r.call.kind.name}.json" := by
  refine ⟨numberText (i + 1), hexadecimal_numberText (by omega), ?_⟩
  dsimp only
  rw [ha.record_eq i hi]
  exact ⟨rfl, rfl⟩

theorem pairwise_path (ha : Kept root s a) (hsize : a.records.length < UInt16.size) :
    a.records.Pairwise fun r r' =>
      r.path ≠ r'.path ∧ a.storage.locate r.path ≠ a.storage.locate r'.path := by
  rw [List.pairwise_iff_getElem]
  intro i j hi hj hij
  have hnumber : j + 1 < UInt16.size := by omega
  obtain ⟨place, hplace, -⟩ := ha.stored _ (List.getElem_mem hi)
  obtain ⟨place', hplace', -⟩ := ha.stored _ (List.getElem_mem hj)
  rw [ha.record_eq i hi] at hplace ⊢
  rw [ha.record_eq j hj] at hplace' ⊢
  refine ⟨path_record_ne (Nat.succ_lt_succ hij) hnumber, ?_⟩
  rw [hplace, hplace', ne_eq, Except.ok.injEq]
  exact place_ne (Nat.succ_lt_succ hij) hnumber hplace hplace'

theorem pairwise_name (ha : Kept root s a) (hsize : a.records.length < UInt16.size) :
    a.records.Pairwise fun r r' => r.directory = r'.directory →
      r.call.now.clockText = r'.call.now.clockText → r.name < r'.name := by
  rw [List.pairwise_iff_getElem]
  intro i j hi hj hij _ hclock
  rw [ha.record_eq i hi, ha.record_eq j hj]
  exact fileName_lt hclock (Nat.succ_lt_succ hij) (by omega)

end Kept

/-- Of a run of calls in which the number does not start over, every result is recorded that is not
skipped, in the order of the calls. The files have the numbers from one on, in four hexadecimal
digits; their paths differ, and so do the places these lead to. In one directory and within one
second the names have the order in which the files were written. At the end each file holds what
was written to it, and no other file is new or changed. This fails only if the storage refuses one
of the files. Whatever is skipped changes nothing: not the storage, and not the number either. -/
theorem records_kept (root : String) (s : Storage) {calls : List Call}
    (hcalls : calls.length ≤ 65535) :
    let start : Archive := ⟨root, 0, s, []⟩
    (∀ b, calls.foldlM Archive.step start = .ok b →
      b.records.map Record.call = calls.filter (!·.isSkipped) ∧
      (∀ i (hi : i < b.records.length), ∃ number, Hexadecimal number (i + 1) ∧
        let r := b.records[i]
        r.directory = (⟨root, i, r.call.always⟩ : Folder).dayPath r.call.now ∧
          r.name = s!"{r.call.now.clockText}-{number}-{r.call.kind.name}.json") ∧
      b.records.Pairwise (fun r r' =>
        r.path ≠ r'.path ∧ b.storage.locate r.path ≠ b.storage.locate r'.path) ∧
      b.records.Pairwise (fun r r' => r.directory = r'.directory →
        r.call.now.clockText = r'.call.now.clockText → r.name < r'.name) ∧
      (∀ r ∈ b.records, b.storage.read r.path = .ok (Utf8.encode r.call.text)) ∧
      ∀ place bytes, (∀ r ∈ b.records, b.storage.locate r.path ≠ .ok place) →
        (b.storage.find? place = some (.file bytes) ↔ s.find? place = some (.file bytes))) ∧
    (∀ fault, calls.foldlM Archive.step start = .error fault →
      ∃ before c after a e, calls = before ++ c :: after ∧
        before.foldlM Archive.step start = .ok a ∧ c.isSkipped = false ∧
        fault = .storage e ∧ a.Refuses c e) ∧
    ∀ (a : Archive) (c : Call), c.isSkipped = true → a.step c = .ok a := by
  intro start
  refine ⟨fun b hrun => ?_, fun fault hrun => ?_, fun a c => Archive.step_of_isSkipped⟩
  · have hsize : calls.length < UInt16.size := Nat.lt_succ_of_le hcalls
    obtain ⟨hb, hrecords⟩ := (Kept.initial root s).run (by simpa using hsize) hrun
    have hcount : b.records.length < UInt16.size := by
      rw [← List.length_map Record.call, hrecords]
      exact (List.length_filter_le _ calls).trans_lt hsize
    exact ⟨hrecords, fun i => hb.exists_number hcount, hb.pairwise_path hcount,
      hb.pairwise_name hcount, fun r hr => Storage.read_eq_ok_iff.mpr (hb.stored r hr), hb.others⟩
  · obtain ⟨before, c, after, a, hsplit, hbefore, hstep⟩ := foldlM_eq_error_iff.mp hrun
    obtain ⟨hc, e, hfault, hrefuses⟩ := Archive.exists_of_step_error hstep
    exact ⟨before, c, after, a, e, hsplit, hbefore, hc, hfault, hrefuses⟩

/-- Two handles, of which one takes empty detections, in the course of one second. -/
theorem records_kept_second :
    let now : Timestamp := ⟨2026, 3, 5, 10, 20, 30, 0⟩
    let calls : List Call :=
      [⟨true, now, .detections 7 []⟩, ⟨false, now, .detections 7 []⟩,
        ⟨false, { now with nanosecond := 9 }, .execution ⟨[]⟩ .empty⟩]
    calls.length ≤ 65535 ∧ ∃ b, calls.foldlM Archive.step ⟨"d", 0, ⟨[], []⟩, []⟩ = .ok b ∧
      b.records.map Record.path = ["d/2026/03/05/10-20-30-0001-detections.json",
        "d/2026/03/05/10-20-30-0002-program.json"] ∧
      b.records.Pairwise (fun r r' => r.directory = r'.directory →
        r.call.now.clockText = r'.call.now.clockText → r.name < r'.name) := by
  intro now calls
  have hcalls : calls.length ≤ 65535 := by decide
  have hpaths : (calls.foldlM Archive.step ⟨"d", 0, ⟨[], []⟩, []⟩).map
      (fun b => b.records.map Record.path) = .ok ["d/2026/03/05/10-20-30-0001-detections.json",
        "d/2026/03/05/10-20-30-0002-program.json"] := by
    decide +kernel
  cases hrun : calls.foldlM Archive.step ⟨"d", 0, ⟨[], []⟩, []⟩ with
  | error fault =>
      rw [hrun] at hpaths
      cases hpaths
  | ok b =>
      rw [hrun] at hpaths
      obtain ⟨-, -, -, hordered, -⟩ := (records_kept "d" ⟨[], []⟩ hcalls).1 b hrun
      exact ⟨hcalls, b, rfl, Except.ok.inj hpaths, hordered⟩

end TangibleBlocks.Folder
