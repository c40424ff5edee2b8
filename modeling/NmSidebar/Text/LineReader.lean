import NmSidebar.Text.Lines

/-!
# Lines from a stream

A reader with a buffer of bounded size takes what has arrived on a stream, until a newline is among
it. How the bytes of the stream are split does not matter to it.
-/

namespace Text

/-- What a reader of a stream meets: a signal, or bytes that have arrived. -/
inductive Arrival where
  | interrupted
  | bytes (chunk : Bytes)

namespace Arrival

/-- The bytes of an arrival. -/
def chunk : Arrival → Bytes
  | interrupted => []
  | bytes chunk => chunk

/-- The arrival is not the end of the stream. -/
def Continues : Arrival → Prop
  | interrupted => True
  | bytes chunk => chunk ≠ []

end Arrival

/-- All bytes that arrive. -/
def arrivingBytes (arrivals : List Arrival) : Bytes := arrivals.flatMap Arrival.chunk

/-- The message arrives in some way, and nothing else before the stream ends. -/
structure Carries (arrivals : List Arrival) (message : Bytes) : Prop where
  bytes : arrivingBytes arrivals = message
  continues : ∀ arrival ∈ arrivals, arrival.Continues

/-- A message may arrive at once. -/
theorem carries_whole {message : Bytes} (h : message ≠ []) : Carries [.bytes message] message where
  bytes := List.append_nil message
  continues _ hmem := List.mem_singleton.mp hmem ▸ h

/-- What has been read when a newline is among it. A read takes no more than there is room for; it
fails where nothing has arrived. -/
def readLine (limit : ℕ) : List Arrival → Bytes → Option Bytes
  | [], _ => none
  | .interrupted :: arrivals, used => readLine limit arrivals used
  | .bytes chunk :: arrivals, used =>
    let received := chunk.take (limit - used.length)
    if received = [] then none
    else if newline ∈ received then some (used ++ received)
    else readLine limit arrivals (used ++ received)

/-- Nothing is read where there is no room. -/
theorem readLine_full {limit : ℕ} {used : Bytes} (h : limit ≤ used.length)
    (arrivals : List Arrival) : readLine limit arrivals used = none := by
  induction arrivals with
  | nil => rfl
  | cons arrival arrivals ih =>
    cases arrival with
    | interrupted => exact ih
    | bytes chunk =>
      have hroom : chunk.take (limit - used.length) = [] := by
        rw [Nat.sub_eq_zero_of_le h, List.take_zero]
      unfold readLine
      dsimp only
      rw [if_pos hroom]

/-- What is read of a line is the whole line, or a part of it without the newline. -/
theorem line_begins {pre line : Bytes} (h : pre <+: line ++ [newline]) (hnone : newline ∉ line) :
    (newline ∈ pre → pre = line ++ [newline]) ∧ (newline ∉ pre → pre.length ≤ line.length) := by
  rcases List.prefix_concat_iff.mp h with rfl | hpart
  · exact ⟨fun _ => rfl, fun hout => absurd (List.mem_append_right _ List.mem_cons_self) hout⟩
  · exact ⟨fun hmem => absurd (hpart.mem hmem) hnone, fun _ => hpart.length_le⟩

/-- A line that fits is read, with its newline, and one that does not fit is not read. -/
theorem readLine_carries {limit : ℕ} {arrivals : List Arrival} {used rest line : Bytes}
    (hcarries : Carries arrivals rest) (hline : used ++ rest = line ++ [newline])
    (hnone : newline ∉ line) (hused : newline ∉ used) (hroom : used.length ≤ limit) :
    readLine limit arrivals used =
      if line.length < limit then some (line ++ [newline]) else none := by
  induction arrivals generalizing used rest with
  | nil =>
    -- the newline is still to come
    have hrest : rest = [] := hcarries.bytes.symm
    rw [hrest, List.append_nil] at hline
    rw [hline] at hused
    exact absurd (List.mem_append_right _ List.mem_cons_self) hused
  | cons arrival arrivals ih =>
    have hcontinues := fun other hother =>
      hcarries.continues other (List.mem_cons_of_mem arrival hother)
    have hfirst := hcarries.continues arrival List.mem_cons_self
    have hbytes : arrival.chunk ++ arrivingBytes arrivals = rest := hcarries.bytes
    cases arrival with
    | interrupted => exact ih ⟨hbytes, hcontinues⟩ hline hused hroom
    | bytes chunk =>
      have hchunk : chunk ≠ [] := hfirst
      have hbytes : chunk ++ arrivingBytes arrivals = rest := hbytes
      have hbegins : used ++ chunk.take (limit - used.length) <+: line ++ [newline] := by
        rw [← hline, ← hbytes]
        exact List.prefix_append_right_inj used |>.mpr
          ((List.take_prefix _ _).trans (List.prefix_append _ _))
      obtain ⟨hwhole, hpart⟩ := line_begins hbegins hnone
      have hlength : (used ++ chunk.take (limit - used.length)).length ≤ limit := by
        rw [List.length_append, List.length_take]
        omega
      unfold readLine
      dsimp only
      by_cases hmem : newline ∈ chunk.take (limit - used.length)
      · rw [if_neg (List.ne_nil_of_mem hmem), if_pos hmem,
          hwhole (List.mem_append_right _ hmem)]
        rw [hwhole (List.mem_append_right _ hmem), List.length_append, List.length_singleton]
          at hlength
        rw [if_pos (by omega)]
      have hout : newline ∉ used ++ chunk.take (limit - used.length) := fun h =>
        (List.mem_append.mp h).elim hused hmem
      by_cases hfits : chunk.length ≤ limit - used.length
      · -- the chunk is read as it is
        rw [List.take_of_length_le hfits] at hmem hout hlength ⊢
        rw [if_neg hchunk, if_neg hmem]
        apply ih ⟨rfl, hcontinues⟩ _ hout hlength
        rw [List.append_assoc, hbytes, hline]
      · -- the buffer is full, and the newline is not in it
        have hfull : limit ≤ (used ++ chunk.take (limit - used.length)).length := by
          rw [List.length_append, List.length_take]
          omega
        have hlong : ¬line.length < limit := by
          have hle := hpart hout
          omega
        rw [if_neg hmem, readLine_full hfull, if_neg hlong, ite_self]

/-- What is read is the beginning of what arrives. -/
theorem readLine_begins {limit : ℕ} {arrivals : List Arrival} {used read : Bytes}
    (h : readLine limit arrivals used = some read) : read <+: used ++ arrivingBytes arrivals := by
  induction arrivals generalizing used with
  | nil => exact absurd h.symm (Option.some_ne_none read)
  | cons arrival arrivals ih =>
    cases arrival with
    | interrupted => exact ih h
    | bytes chunk =>
      have hbytes : arrivingBytes (.bytes chunk :: arrivals) = chunk ++ arrivingBytes arrivals :=
        rfl
      unfold readLine at h
      dsimp only at h
      rw [hbytes]
      split at h
      · exact absurd h.symm (Option.some_ne_none read)
      split at h
      · obtain rfl := Option.some.inj h
        exact List.prefix_append_right_inj used |>.mpr
          ((List.take_prefix _ _).trans (List.prefix_append _ _))
      · by_cases hfits : chunk.length ≤ limit - used.length
        · rw [List.take_of_length_le hfits] at h
          have hread := ih h
          rwa [List.append_assoc] at hread
        · have hfull : limit ≤ (used ++ chunk.take (limit - used.length)).length := by
            rw [List.length_append, List.length_take]
            omega
          rw [readLine_full hfull] at h
          exact absurd h.symm (Option.some_ne_none read)

end Text
