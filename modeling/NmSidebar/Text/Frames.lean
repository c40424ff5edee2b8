import NmSidebar.Program.Safety
import NmSidebar.Text.Bytes

/-!
# Framed buffers

A buffer of frames, each with its length in its header and padded to a multiple of four, and the
loop that walks over it: it goes on while a whole frame is left, and succeeds only if nothing is
left at the end. Messages and attributes of the kernel's links are framed so.
-/

namespace Text

/-- The size of a frame's header, and the length of the frame that a header states. -/
structure FrameFormat where
  header : ℕ
  lengthOf : Bytes → ℕ
  header_pos : 0 < header

/-- A length rounded up to a multiple of four. -/
def alignFour (n : ℕ) : ℕ := (n + 3) / 4 * 4

theorem le_alignFour (n : ℕ) : n ≤ alignFour n := by
  unfold alignFour
  omega

variable {σ : Type} {f : FrameFormat} {step : σ → Bytes → Option σ}

/-- The length of the frame at the start of a buffer, where a whole frame is there. -/
def FrameFormat.next (f : FrameFormat) (data : Bytes) : Option ℕ :=
  let length := f.lengthOf (data.take f.header)
  if f.header ≤ data.length ∧ f.header ≤ length ∧ length ≤ data.length then some length else none

/-- The walk over a buffer; `fuel` bounds the frames. The remaining length of the source is
negative where the padding of the last frame is missing, and then the walk fails. -/
def FrameFormat.walk (f : FrameFormat) (step : σ → Bytes → Option σ) :
    ℕ → σ → Bytes → Option σ
  | 0, s, data => if data = [] then some s else none
  | fuel + 1, s, data =>
    match f.next data with
    | none => if data = [] then some s else none
    | some length =>
      match step s (data.take length) with
      | none => none
      | some s =>
        if alignFour length ≤ data.length then f.walk step fuel s (data.drop (alignFour length))
        else none

/-- The walk of a loop that issues operations for each frame, and that a frame can stop. -/
def FrameFormat.walkM {S : Effects.Signature} (f : FrameFormat)
    (step : Bytes → Effects.Prog S Bool) : ℕ → Bytes → Effects.Prog S Bool
  | 0, data => return decide (data = [])
  | fuel + 1, data =>
    match f.next data with
    | none => return decide (data = [])
    | some length => do
      if ← step (data.take length) then
        if alignFour length ≤ data.length then f.walkM step fuel (data.drop (alignFour length))
        else return false
      else return false

/-- The buffer is the frames, each with its padding. -/
inductive Framed (f : FrameFormat) : Bytes → List Bytes → Prop
  | nil : Framed f [] []
  | cons {frame padding rest : Bytes} {frames : List Bytes} (hheader : f.header ≤ frame.length)
      (hlength : f.lengthOf (frame.take f.header) = frame.length)
      (hpadding : frame.length + padding.length = alignFour frame.length)
      (hrest : Framed f rest frames) : Framed f (frame ++ padding ++ rest) (frame :: frames)

/-- A buffer that is not empty has room for a header. -/
theorem Framed.header_le {data : Bytes} {frames : List Bytes} (h : Framed f data frames)
    (hne : data ≠ []) : f.header ≤ data.length := by
  cases h with
  | nil => exact absurd rfl hne
  | cons hheader _ _ _ =>
    rw [List.length_append, List.length_append]
    omega

theorem next_eq_some {data : Bytes} {length : ℕ} (h : f.next data = some length) :
    f.header ≤ length ∧ length ≤ data.length ∧ f.lengthOf (data.take f.header) = length := by
  simp only [FrameFormat.next] at h
  split at h
  · rename_i hframe
    obtain rfl := Option.some.inj h
    exact ⟨hframe.2.1, hframe.2.2, rfl⟩
  · cases h

/-- The frame at the start of a framed buffer. -/
theorem next_append {frame : Bytes} (rest : Bytes) (hheader : f.header ≤ frame.length)
    (hlength : f.lengthOf (frame.take f.header) = frame.length) :
    f.next (frame ++ rest) = some frame.length := by
  have htake : (frame ++ rest).take f.header = frame.take f.header :=
    List.take_append_of_le_length hheader
  simp only [FrameFormat.next, htake, hlength, List.length_append]
  exact if_pos ⟨by omega, hheader, by omega⟩

/-- A buffer whose first frame is known is framed where the rest is. -/
theorem framed_of_next {data : Bytes} {length : ℕ} {frames : List Bytes}
    (hnext : f.next data = some length) (halign : alignFour length ≤ data.length)
    (hframes : Framed f (data.drop (alignFour length)) frames) :
    Framed f data (data.take length :: frames) := by
  obtain ⟨hheader, hwithin, hlength⟩ := next_eq_some hnext
  have hframe : (data.take length).length = length := by
    rw [List.length_take, Nat.min_eq_left hwithin]
  have hdata : data = data.take length ++ (data.drop length).take (alignFour length - length) ++
      data.drop (alignFour length) := by
    rw [← List.take_add, Nat.add_sub_cancel' (le_alignFour length), List.take_append_drop]
  have hcons := @Framed.cons f (data.take length)
    ((data.drop length).take (alignFour length - length)) _ _ (by rwa [hframe]) ?_ ?_ hframes
  · rwa [← hdata] at hcons
  · rw [List.take_take, Nat.min_eq_left hheader, hframe, hlength]
  · have hle := le_alignFour length
    rw [hframe, List.length_take, List.length_drop]
    omega

/-- A walk that succeeds has gone through all frames of a framed buffer. -/
theorem framed_of_walk {fuel : ℕ} {s s' : σ} {data : Bytes}
    (h : f.walk step fuel s data = some s') :
    ∃ frames, Framed f data frames ∧ frames.foldlM step s = some s' := by
  have hend : ∀ {data : Bytes} {s : σ}, (if data = [] then some s else none) = some s' →
      ∃ frames, Framed f data frames ∧ frames.foldlM step s = some s' := by
    intro data s h
    split at h
    · rename_i hdata
      rw [hdata]
      exact ⟨[], .nil, h⟩
    · cases h
  induction fuel generalizing s data with
  | zero => exact hend h
  | succ fuel ih =>
    unfold FrameFormat.walk at h
    split at h
    · exact hend h
    rename_i length hnext
    split at h
    · cases h
    rename_i s₁ hstep
    split at h
    · rename_i halign
      obtain ⟨frames, hframes, hfold⟩ := ih h
      refine ⟨data.take length :: frames, framed_of_next hnext halign hframes, ?_⟩
      rw [List.foldlM_cons, hstep]
      exact hfold
    · cases h

/-- What every step that succeeds says of its frame, a walk that succeeds says of all frames. -/
theorem returns_walkM {S : Effects.Signature} {step : Bytes → Effects.Prog S Bool}
    {P : Bytes → Prop} (hstep : ∀ frame, (step frame).Returns fun ok => ok = true → P frame)
    (fuel : ℕ) (data : Bytes) : (f.walkM step fuel data).Returns fun ok =>
      ok = true → ∃ frames, Framed f data frames ∧ ∀ frame ∈ frames, P frame := by
  have hend : ∀ data : Bytes, decide (data = []) = true →
      ∃ frames, Framed f data frames ∧ ∀ frame ∈ frames, P frame := by
    intro data hdata
    rw [of_decide_eq_true hdata]
    exact ⟨[], .nil, by simp⟩
  induction fuel generalizing data with
  | zero => exact hend data
  | succ fuel ih =>
    unfold FrameFormat.walkM
    split
    · exact hend data
    rename_i length hnext
    refine (hstep (data.take length)).bind fun ok hok => ?_
    split
    · rename_i htrue
      split
      · rename_i halign
        refine (ih (data.drop (alignFour length))).mono fun ok hrest h => ?_
        obtain ⟨frames, hframes, hP⟩ := hrest h
        refine ⟨_, framed_of_next hnext halign hframes, fun frame hframe => ?_⟩
        rcases List.mem_cons.mp hframe with rfl | hframe
        · exact hok htrue
        · exact hP frame hframe
      · exact nofun
    · exact nofun

/-- A walk issues what its steps issue. -/
theorem uses_walkM {S : Effects.Signature} {step : Bytes → Effects.Prog S Bool} {P : S.Op → Prop}
    (hstep : ∀ frame, (step frame).Uses P) (fuel : ℕ) (data : Bytes) :
    (f.walkM step fuel data).Uses P := by
  induction fuel generalizing data with
  | zero => trivial
  | succ fuel ih =>
    unfold FrameFormat.walkM
    split
    · trivial
    refine (hstep _).bind fun ok => ?_
    split
    · split
      · exact ih _
      · trivial
    · trivial

/-- A walk over a framed buffer goes through all its frames. -/
theorem walk_of_framed {fuel : ℕ} {s : σ} {data : Bytes} {frames : List Bytes}
    (h : Framed f data frames) (hfuel : data.length ≤ fuel) :
    f.walk step fuel s data = frames.foldlM step s := by
  induction h generalizing fuel s with
  | nil =>
    have hnext : f.next [] = none := by
      have hpos := f.header_pos
      simp only [FrameFormat.next]
      exact if_neg fun h => by simp at h; omega
    cases fuel with
    | zero => rfl
    | succ fuel =>
      rw [FrameFormat.walk, hnext]
      rfl
  | @cons frame padding rest frames hheader hlength hpadding _ ih =>
    have hpos := f.header_pos
    have hdata : (frame ++ padding ++ rest).length = alignFour frame.length + rest.length := by
      rw [List.length_append, List.length_append, hpadding]
    have hframe : (frame ++ padding ++ rest).take frame.length = frame := by
      rw [List.append_assoc, List.take_left]
    have hrest : (frame ++ padding ++ rest).drop (alignFour frame.length) = rest := by
      rw [← hpadding, ← List.length_append, List.drop_left]
    have hle := le_alignFour frame.length
    cases fuel with
    | zero => omega
    | succ fuel =>
      rw [FrameFormat.walk, List.append_assoc, next_append _ hheader hlength]
      dsimp only
      rw [← List.append_assoc, hframe, hrest, List.foldlM_cons]
      cases step s frame with
      | none => rfl
      | some s₁ =>
        dsimp only
        rw [if_pos (by omega), ih (by omega)]
        rfl

/-- A buffer is framed in one way only. -/
theorem Framed.unique {data : Bytes} {frames frames' : List Bytes} (h : Framed f data frames)
    (h' : Framed f data frames') : frames = frames' := by
  have hcollect : ∀ (frames collected : List Bytes),
      frames.foldlM (fun collected frame => some (collected ++ [frame])) collected =
        some (collected ++ frames) := by
    intro frames
    induction frames with
    | nil => intro collected; rw [List.append_nil]; rfl
    | cons frame frames ih =>
      intro collected
      rw [List.foldlM_cons]
      exact (ih _).trans (by rw [List.append_assoc, List.singleton_append])
  have hwalk : f.walk (fun collected frame => some (collected ++ [frame])) _ [] data =
      frames.foldlM (fun collected frame => some (collected ++ [frame])) [] :=
    walk_of_framed h le_rfl
  rw [walk_of_framed h' le_rfl, hcollect, hcollect, List.nil_append, List.nil_append] at hwalk
  exact (Option.some.inj hwalk).symm

end Text
