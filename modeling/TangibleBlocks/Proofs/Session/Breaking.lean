import TangibleBlocks.Proofs.Detection.Words
import TangibleBlocks.Proofs.Session.Agreement
import TangibleBlocks.Session.Breakdown

/-!
Where watching breaks off. It does so at the first frame that cannot be decoded, if it comes
to that frame at all, and by then the frames before it have been watched as usual, each with
its candidates. Where the number of fields of all frames is a word, nothing breaks off.
-/

namespace TangibleBlocks

variable {δ ε : Type}

namespace Detector

variable {detector : Detector} {t : Tensor}

theorem outside?_eq_some_iff {o : Tensor.Outside} :
    detector.outside? t = some o ↔
      t.decode detector.vocabulary detector.scoreThreshold = .error o := by
  rw [outside?]
  split
  next h => simp [h]
  next h => simp [h]

/-- What can be decoded is decoded to the candidates. -/
theorem decode_of_outside?_eq_none (ht : t.OnMachine) (h : detector.outside? t = none) :
    t.decode detector.vocabulary detector.scoreThreshold = .ok (detector.candidates t) := by
  cases hdecode : t.decode detector.vocabulary detector.scoreThreshold with
  | error o =>
      rw [outside?_eq_some_iff.mpr hdecode] at h
      cases h
  | ok ds => rw [Tensor.eq_candidates_of_decode ht hdecode, candidates]

theorem outside?_eq_none
    (hword : t.anchors * (Tensor.boxFields + detector.vocabulary.size) < UInt64.size) :
    detector.outside? t = none := by
  rw [outside?, Tensor.decode_eq_ok hword]

end Detector

/-- A session of a single frame does not break off where its number of fields is a word. -/
theorem OneShot.breakdown?_eq_none {detector : Detector} {feed : Feed} {s : δ}
    (h : ∀ t ∈ feed.frames,
      t.anchors * (Tensor.boxFields + detector.vocabulary.size) < UInt64.size) :
    OneShot.breakdown? detector feed s = none := by
  rw [OneShot.breakdown?]
  split
  next => rfl
  next notes t rest harrive =>
    have hframe : t ∈ feed.frames := by
      rw [Feed.frames, harrive]
      exact List.mem_cons_self
    rw [Detector.outside?_eq_none (h t hframe)]
    rfl

namespace Watcher

variable {w : Watcher} {d : Display δ ε} {frameRemark : δ → Tensor → List Detection → List Entry}
  {elapsed : Elapsed} {now : Timestamp} {feed : Feed} {s : Watching δ}
  {arrivals : List (List Entry × Tensor)} {b : Breakdown (Watching δ)}

/-- The frames of a feed up to the one that watching breaks off with: those in front have been
watched, and watching would have gone on behind them. -/
structure BrokenAt (w : Watcher) (d : Display δ ε) (now : Timestamp) (s : Watching δ)
    (arrivals : List (List Entry × Tensor)) (b : Breakdown (Watching δ))
    (before : List (List Entry × Tensor)) (t : Tensor) : Prop where
  arrive : ∃ notes after, arrivals = before ++ (notes, t) :: after
  decoded : ∀ p ∈ before, w.detector.outside? p.2 = none
  outside : w.detector.outside? t = some b.cause
  watched : ∀ rest, w.watch d now (before.map Prod.snd ++ rest) s = w.watch d now rest b.state
  goesOn : b.state.cancelled = false ∧ b.state.slot.stopped = false

theorem exists_brokenAt_of_framesBreakdown?
    (h : w.framesBreakdown? d frameRemark elapsed now arrivals s = some b) :
    ∃ before t, w.BrokenAt d now s arrivals b before t := by
  induction arrivals generalizing s b with
  | nil => cases h
  | cons p rest ih =>
      obtain ⟨notes, t⟩ := p
      rw [framesBreakdown?] at h
      obtain ⟨hopen, h⟩ := Option.ite_none_left_eq_some.mp h
      rw [Bool.or_eq_true, not_or, Bool.not_eq_true, Bool.not_eq_true] at hopen
      split at h
      next o ho =>
        obtain rfl := Option.some.inj h
        exact ⟨[], t, ⟨notes, rest, rfl⟩, nofun, ho, fun _ => rfl, hopen⟩
      next hdecoded =>
        split at h
        next s' hstep =>
          obtain ⟨b', hb', rfl⟩ := Option.map_eq_some_iff.mp h
          obtain ⟨before, broken, ⟨notes', after, harrive⟩, hbefore, hbroken, hwatched, hopen'⟩ :=
            ih hb'
          refine ⟨(notes, t) :: before, broken, ⟨notes', after, ?_⟩, ?_, hbroken, ?_, hopen'⟩
          · rw [harrive]
            rfl
          · exact List.forall_mem_cons.mpr ⟨hdecoded, hbefore⟩
          · intro rest
            rw [List.map_cons, List.cons_append, watch_of_goOn hstep]
            exact hwatched rest
        next => cases h

/-- Watching breaks off at the first frame that cannot be decoded. -/
theorem exists_brokenAt_of_breakdown?
    (h : w.breakdown? d frameRemark elapsed now feed s = some b) :
    ∃ before t, w.BrokenAt d now s feed.arrivals b before t := by
  obtain ⟨b', hb', rfl⟩ := Option.map_eq_some_iff.mp h
  obtain ⟨before, t, harrive, hdecoded, houtside, hwatched, hopen⟩ :=
    exists_brokenAt_of_framesBreakdown? hb'
  exact ⟨before, t, harrive, hdecoded, houtside, hwatched, hopen⟩

/-- Nothing breaks off where the number of fields is a word for every frame. -/
theorem breakdown?_eq_none
    (h : ∀ t ∈ feed.frames,
      t.anchors * (Tensor.boxFields + w.detector.vocabulary.size) < UInt64.size) :
    w.breakdown? d frameRemark elapsed now feed s = none := by
  cases hb : w.breakdown? d frameRemark elapsed now feed s with
  | none => rfl
  | some b =>
      obtain ⟨before, t, hbroken⟩ := exists_brokenAt_of_breakdown? hb
      obtain ⟨notes, after, harrive⟩ := hbroken.arrive
      have hframe : t ∈ feed.frames := by
        rw [Feed.frames, harrive]
        simp
      have hnone : w.detector.outside? t = none := Detector.outside?_eq_none (h t hframe)
      rw [hbroken.outside] at hnone
      cases hnone

end Watcher

end TangibleBlocks
