import Mathlib.Algebra.Order.Field.Rat
import Mathlib.Data.Rat.Defs
import Mathlib.Tactic.Positivity
import NmSidebar.Collections.RingBuffer
import NmSidebar.Text.Bytes

/-!
# Traffic samples

`take_sample` and `sample_at` of `sections/traffic.c`: the rates of the Wi-Fi interface, kept in a
ring buffer. What the buffer holds is compared with a log that forgets nothing until the interface
changes.
-/

namespace NmSidebar

open Text Collections

/-! ## The state -/

/-- `TRAFFIC_HISTORY`. -/
def trafficHistory : ℕ := 600

/-- `G_USEC_PER_SEC`. -/
def usecPerSec : ℕ := 1000000

/-- `RateSample`. The rates are exact where the source has doubles. -/
structure RateSample where
  time : ℤ
  rx : ℚ
  tx : ℚ
  deriving DecidableEq

/-- `DayUsage`. -/
structure DayUsage where
  year : ℤ
  month : ℤ
  day : ℤ
  rx : UInt64
  tx : UInt64
  deriving DecidableEq

/-- The fields of `NetworkSidebarTraffic` that hold what was measured. `samples` stands for
`samples`, `head` and `count`, `days` for `days` and `n_days`, and `vnstatCancel` says whether
`vnstat_cancel` is there. -/
structure Traffic where
  iface : Option Bytes
  lastRx : UInt64
  lastTx : UInt64
  lastTime : ℤ
  haveLast : Bool
  samples : RingBuffer RateSample trafficHistory
  days : List DayUsage
  vnstatTime : ℤ
  vnstatCancel : Bool

/-- The Wi-Fi interface and what is read of its counters at a time. -/
structure TrafficReading where
  iface : Option Bytes
  rx : Option UInt64
  tx : Option UInt64
  now : ℤ

/-- The counters of an interface at a time. -/
structure Counters where
  rx : UInt64
  tx : UInt64
  time : ℤ

/-- What a reading comes to, where the interface is there and its counters can be read. -/
def TrafficReading.complete (reading : TrafficReading) : Option (Bytes × Counters) :=
  match reading.iface, reading.rx, reading.tx with
  | some iface, some rx, some tx => some (iface, ⟨rx, tx, reading.now⟩)
  | _, _, _ => none

/-- The rates between two readings of the counters. -/
def rateBetween (last counters : Counters) : RateSample :=
  let seconds : ℚ := (counters.time - last.time : ℤ) / usecPerSec
  ⟨counters.time, (counters.rx - last.rx).toNat / seconds, (counters.tx - last.tx).toNat / seconds⟩

/-- The counters have gone on since the last reading, and so has time. -/
def Counters.Continues (last counters : Counters) : Prop :=
  last.rx ≤ counters.rx ∧ last.tx ≤ counters.tx ∧ last.time < counters.time

instance (last counters : Counters) : Decidable (last.Continues counters) :=
  inferInstanceAs (Decidable (_ ∧ _))

namespace Traffic

/-- The state that `g_new0` makes. -/
def start : Traffic where
  iface := none
  lastRx := 0
  lastTx := 0
  lastTime := 0
  haveLast := false
  samples := .ofCells (.replicate trafficHistory ⟨0, 0, 0⟩) (by decide)
  days := []
  vnstatTime := 0
  vnstatCancel := false

/-- The counters that were read last. -/
def last (t : Traffic) : Counters := ⟨t.lastRx, t.lastTx, t.lastTime⟩

/-- `sample_at`. -/
def sampleAt (t : Traffic) (indexFromOldest : ℕ) : RateSample := t.samples.get indexFromOldest

/-- What `take_sample` does where the interface is not the one that is shown. -/
def showIface (t : Traffic) (iface : Bytes) : Traffic :=
  if t.iface = some iface then t
  else { t with
    iface := some iface
    haveLast := false
    samples := t.samples.clear
    days := []
    vnstatTime := 0 }

/-- The sample that `take_sample` records, if any. -/
def recordSample (t : Traffic) (counters : Counters) : Traffic :=
  if t.haveLast = true ∧ t.last.Continues counters then
    { t with samples := t.samples.push (rateBetween t.last counters) }
  else t

/-- The counters are those that the next ones are compared with. -/
def rebase (t : Traffic) (counters : Counters) : Traffic :=
  { t with
    lastRx := counters.rx, lastTx := counters.tx, lastTime := counters.time, haveLast := true }

/-- `take_sample`. -/
def takeSample (t : Traffic) (reading : TrafficReading) : Traffic :=
  match reading.complete with
  | none => { t with haveLast := false }
  | some (iface, counters) => ((t.showIface iface).recordSample counters).rebase counters

/-- Any number of samples. -/
def takeSamples (t : Traffic) (readings : List TrafficReading) : Traffic :=
  readings.foldl takeSample t

end Traffic

/-! ## The log -/

/-- The samples of the interface that is shown, all that were recorded since it came up. -/
structure SampleLog where
  iface : Option Bytes
  last : Option Counters
  samples : List RateSample

namespace SampleLog

/-- Nothing is shown yet. -/
def start : SampleLog := ⟨none, none, []⟩

/-- The log of an interface. -/
def showIface (log : SampleLog) (iface : Bytes) : SampleLog :=
  if log.iface = some iface then log else ⟨some iface, none, []⟩

/-- The log after one more reading: a sample lies between two readings that continue each other. -/
def take (log : SampleLog) (reading : TrafficReading) : SampleLog :=
  match reading.complete with
  | none => { log with last := none }
  | some (iface, counters) =>
    let log := log.showIface iface
    match log.last with
    | none => { log with last := some counters }
    | some last =>
      if last.Continues counters then
        { log with last := some counters, samples := log.samples ++ [rateBetween last counters] }
      else { log with last := some counters }

/-- The log of a sequence of readings. -/
def ofReadings (readings : List TrafficReading) : SampleLog := readings.foldl take start

end SampleLog

/-! ## The buffer holds the end of the log -/

/-- The state agrees with a log, of which it keeps the last samples. -/
structure Traffic.Keeps (t : Traffic) (log : SampleLog) : Prop where
  iface : t.iface = log.iface
  last : log.last = if t.haveLast then some t.last else none
  samples : t.samples.toList = log.samples.rtake trafficHistory

section Refinement

variable {t : Traffic} {log : SampleLog}

theorem Traffic.Keeps.showIface (h : t.Keeps log) (iface : Bytes) :
    (t.showIface iface).Keeps (log.showIface iface) := by
  unfold Traffic.showIface SampleLog.showIface
  rw [← h.iface]
  split
  · exact h
  · exact ⟨rfl, rfl, (RingBuffer.toList_clear _).trans (List.rtake_nil _).symm⟩

/-- Each reading keeps the agreement. -/
theorem Traffic.Keeps.takeSample (h : t.Keeps log) (reading : TrafficReading) :
    (t.takeSample reading).Keeps (log.take reading) := by
  unfold Traffic.takeSample SampleLog.take
  cases reading.complete with
  | none => exact ⟨h.iface, rfl, h.samples⟩
  | some read =>
    obtain ⟨iface, counters⟩ := read
    have hshown := h.showIface iface
    dsimp only
    generalize t.showIface iface = t₁ at hshown ⊢
    generalize log.showIface iface = log₁ at hshown ⊢
    have hlast := hshown.last
    by_cases hhave : t₁.haveLast = true
    · rw [if_pos hhave] at hlast
      rw [hlast]
      dsimp only
      unfold Traffic.recordSample
      by_cases hcontinues : t₁.last.Continues counters
      · rw [if_pos ⟨hhave, hcontinues⟩, if_pos hcontinues]
        exact ⟨hshown.iface, rfl, RingBuffer.toList_push hshown.samples _⟩
      · rw [if_neg fun hboth => hcontinues hboth.2, if_neg hcontinues]
        exact ⟨hshown.iface, rfl, hshown.samples⟩
    · rw [if_neg hhave] at hlast
      rw [hlast, Traffic.recordSample, if_neg fun hboth => hhave hboth.1]
      exact ⟨hshown.iface, rfl, hshown.samples⟩

theorem Traffic.Keeps.takeSamples (h : t.Keeps log) (readings : List TrafficReading) :
    (t.takeSamples readings).Keeps (readings.foldl SampleLog.take log) := by
  induction readings generalizing t log with
  | nil => exact h
  | cons reading readings ih => exact ih (h.takeSample reading)

end Refinement

theorem Traffic.keeps_ofReadings (readings : List TrafficReading) :
    (Traffic.start.takeSamples readings).Keeps (.ofReadings readings) := by
  have hempty : Traffic.start.samples.toList = [] := RingBuffer.toList_ofCells _ _
  have hnone : SampleLog.start.samples.rtake trafficHistory = [] := List.rtake_nil _
  have hkeeps : Traffic.start.Keeps .start := ⟨rfl, rfl, hempty.trans hnone.symm⟩
  exact hkeeps.takeSamples readings

/-! ## What holds of a log -/

/-- What has been sent or received since is not negative. -/
def RateSample.NonNegative (sample : RateSample) : Prop := 0 ≤ sample.rx ∧ 0 ≤ sample.tx

theorem rateBetween_nonNegative {last counters : Counters} (h : last.Continues counters) :
    (rateBetween last counters).NonNegative := by
  have hseconds : (0 : ℚ) ≤ (counters.time - last.time : ℤ) / usecPerSec := by
    have htime : (0 : ℤ) ≤ counters.time - last.time := by
      have := h.2.2
      omega
    have hcast : (0 : ℚ) ≤ (counters.time - last.time : ℤ) := by exact_mod_cast htime
    positivity
  exact ⟨div_nonneg (Nat.cast_nonneg _) hseconds, div_nonneg (Nat.cast_nonneg _) hseconds⟩

namespace SampleLog

variable {log : SampleLog}

theorem showIface_samples (log : SampleLog) (iface : Bytes) :
    (log.showIface iface).samples = log.samples ∧ (log.showIface iface).last = log.last ∨
      (log.showIface iface).samples = [] ∧ (log.showIface iface).last = none := by
  unfold showIface
  split
  · exact .inl ⟨rfl, rfl⟩
  · exact .inr ⟨rfl, rfl⟩

/-- What a reading does to the samples: it leaves them, forgets them, or adds one. -/
theorem take_samples (log : SampleLog) (reading : TrafficReading) :
    (log.take reading).samples = log.samples ∨ (log.take reading).samples = [] ∨
      ∃ last counters, log.last = some last ∧ counters.time = reading.now ∧
        last.Continues counters ∧
          (log.take reading).samples = log.samples ++ [rateBetween last counters] := by
  unfold take
  cases hcomplete : reading.complete with
  | none => exact .inl rfl
  | some read =>
    obtain ⟨iface, counters⟩ := read
    have htime : counters.time = reading.now := by
      unfold TrafficReading.complete at hcomplete
      split at hcomplete
      · obtain ⟨-, rfl⟩ := Prod.mk.inj (Option.some.inj hcomplete)
        rfl
      · cases hcomplete
    dsimp only
    rcases log.showIface_samples iface with ⟨hsamples, hlast⟩ | ⟨hsamples, hlast⟩
    · cases hbefore : log.last with
      | none =>
        rw [hlast, hbefore]
        exact .inl hsamples
      | some last =>
        rw [hlast, hbefore]
        dsimp only
        split
        · rename_i hcontinues
          refine .inr (.inr ⟨last, counters, rfl, htime, hcontinues, ?_⟩)
          rw [← hsamples]
        · exact .inl hsamples
    · rw [hlast]
      exact .inr (.inl hsamples)

theorem take_last {reading : TrafficReading} {counters : Counters}
    (h : (log.take reading).last = some counters) : counters.time = reading.now := by
  unfold take TrafficReading.complete at h
  split at h
  · cases h
  · rename_i hcomplete
    split at hcomplete
    · obtain ⟨rfl, rfl⟩ := Prod.mk.inj (Option.some.inj hcomplete)
      dsimp only at h
      split at h
      · rw [← Option.some.inj h]
      · split at h <;> rw [← Option.some.inj h]
    · cases hcomplete

theorem take_nonNegative (h : ∀ sample ∈ log.samples, sample.NonNegative)
    (reading : TrafficReading) : ∀ sample ∈ (log.take reading).samples, sample.NonNegative := by
  rcases log.take_samples reading with hsame | hnone | ⟨last, counters, -, -, hcontinues, hmore⟩
  · rwa [hsame]
  · rw [hnone]
    exact fun _ hmem => absurd hmem List.not_mem_nil
  · rw [hmore]
    intro sample hmem
    rcases List.mem_append.mp hmem with hmem | hmem
    · exact h sample hmem
    · rw [List.mem_singleton.mp hmem]
      exact rateBetween_nonNegative hcontinues

/-- The samples are in the order of their times, none of which is later than `now` or than the
counters that the next sample would start from. -/
structure Dated (log : SampleLog) (now : ℤ) : Prop where
  increasing : log.samples.Pairwise fun a b => a.time < b.time
  past : ∀ sample ∈ log.samples, sample.time ≤ now
  base : ∀ last, log.last = some last → ∀ sample ∈ log.samples, sample.time ≤ last.time

/-- A clock that does not go back keeps the order. -/
theorem Dated.take {now : ℤ} (h : log.Dated now) {reading : TrafficReading}
    (hnow : now ≤ reading.now) : (log.take reading).Dated reading.now := by
  have hpast : ∀ sample ∈ (log.take reading).samples, sample.time ≤ reading.now := by
    intro sample hmem
    rcases log.take_samples reading with hsame | hnone | ⟨last, counters, -, htime, -, hmore⟩
    · rw [hsame] at hmem
      exact le_trans (h.past sample hmem) hnow
    · rw [hnone] at hmem
      exact absurd hmem List.not_mem_nil
    · rw [hmore] at hmem
      rcases List.mem_append.mp hmem with hmem | hmem
      · exact le_trans (h.past sample hmem) hnow
      · rw [List.mem_singleton.mp hmem]
        exact le_of_eq htime
  refine ⟨?_, hpast, fun last hlast sample hmem => ?_⟩
  · rcases log.take_samples reading with hsame | hnone | ⟨last, counters, hlast, -, hlater, hmore⟩
    · rw [hsame]
      exact h.increasing
    · rw [hnone]
      exact List.Pairwise.nil
    · rw [hmore]
      refine List.pairwise_append.mpr ⟨h.increasing, List.pairwise_singleton _ _, ?_⟩
      intro sample hmem newest hnewest
      rw [List.mem_singleton.mp hnewest]
      exact lt_of_le_of_lt (h.base last hlast sample hmem) hlater.2.2
  · rw [take_last hlast]
    exact hpast sample hmem

theorem dated_foldl {now : ℤ} (h : log.Dated now) {readings : List TrafficReading}
    (hclock : (readings.map TrafficReading.now).Pairwise (· ≤ ·))
    (hnow : ∀ reading ∈ readings, now ≤ reading.now) :
    (readings.foldl SampleLog.take log).samples.Pairwise fun a b => a.time < b.time := by
  induction readings generalizing log now with
  | nil => exact h.increasing
  | cons reading readings ih =>
    obtain ⟨hfirst, hclock⟩ := List.pairwise_cons.mp hclock
    refine ih (h.take (hnow reading List.mem_cons_self)) hclock fun later hlater => ?_
    exact hfirst later.now (List.mem_map_of_mem hlater)

/-- The times of a log increase where the clock does not go back. -/
theorem ofReadings_increasing {readings : List TrafficReading}
    (hclock : (readings.map TrafficReading.now).Pairwise (· ≤ ·)) :
    (ofReadings readings).samples.Pairwise fun a b => a.time < b.time := by
  cases readings with
  | nil => exact List.Pairwise.nil
  | cons reading readings =>
    have hstart : start.Dated reading.now :=
      ⟨List.Pairwise.nil, fun _ hmem => absurd hmem List.not_mem_nil,
        fun _ hlast => absurd hlast.symm (Option.some_ne_none _)⟩
    refine dated_foldl hstart hclock fun later hlater => ?_
    rcases List.mem_cons.mp hlater with rfl | hlater
    · exact le_refl _
    · exact (List.pairwise_cons.mp hclock).1 later.now (List.mem_map_of_mem hlater)

theorem ofReadings_nonNegative (readings : List TrafficReading) :
    ∀ sample ∈ (ofReadings readings).samples, sample.NonNegative := by
  have hfold : ∀ log : SampleLog, (∀ sample ∈ log.samples, sample.NonNegative) →
      ∀ sample ∈ (readings.foldl SampleLog.take log).samples, sample.NonNegative := by
    induction readings with
    | nil => exact fun _ h => h
    | cons reading readings ih => exact fun log h => ih _ (take_nonNegative h reading)
  exact hfold start fun _ hmem => absurd hmem List.not_mem_nil

end SampleLog

/-! ## The buffer -/

/-- A reading after a gap, or of counters that do not continue the last ones, records nothing, and
the next sample starts from it. -/
theorem Traffic.takeSample_rebases (t : Traffic) {reading : TrafficReading} {iface : Bytes}
    {counters : Counters} (hcomplete : reading.complete = some (iface, counters))
    (hsame : t.iface = some iface) (hbreak : t.haveLast = false ∨ ¬t.last.Continues counters) :
    (t.takeSample reading).samples = t.samples ∧ (t.takeSample reading).last = counters ∧
      (t.takeSample reading).haveLast = true := by
  have hrecord : t.recordSample counters = t := by
    refine if_neg fun hboth => ?_
    rcases hbreak with hgap | hreset
    · exact absurd (hgap.symm.trans hboth.1) Bool.false_ne_true
    · exact hreset hboth.2
  unfold takeSample
  rw [hcomplete]
  dsimp only
  rw [showIface, if_pos hsame, hrecord]
  exact ⟨rfl, rfl, rfl⟩

/-- After any readings the buffer holds the last samples of the log, at most 600 and in their order,
each read by its index; no index is reckoned below zero, no rate is negative, and the times increase
where the clock does not go back. A reading after a gap or a reset records nothing and is what the
next one is compared with. -/
theorem trafficSamples_refine (readings : List TrafficReading) :
    ((Traffic.start.takeSamples readings).samples.toList =
        (SampleLog.ofReadings readings).samples.rtake trafficHistory ∧
      ∀ index, index < (Traffic.start.takeSamples readings).samples.count →
        (Traffic.start.takeSamples readings).samples.toList[index]? =
          some ((Traffic.start.takeSamples readings).sampleAt index)) ∧
    ((Traffic.start.takeSamples readings).samples.count ≤ trafficHistory ∧
      (Traffic.start.takeSamples readings).samples.count ≤
        (Traffic.start.takeSamples readings).samples.head + trafficHistory) ∧
    (∀ sample ∈ (Traffic.start.takeSamples readings).samples.toList, sample.NonNegative) ∧
    ((readings.map TrafficReading.now).Pairwise (· ≤ ·) →
      (Traffic.start.takeSamples readings).samples.toList.Pairwise fun a b => a.time < b.time) ∧
    ∀ reading iface counters, reading.complete = some (iface, counters) →
      (Traffic.start.takeSamples readings).iface = some iface →
      ((Traffic.start.takeSamples readings).haveLast = false ∨
        ¬(Traffic.start.takeSamples readings).last.Continues counters) →
      (Traffic.start.takeSamples (readings ++ [reading])).samples =
          (Traffic.start.takeSamples readings).samples ∧
        (Traffic.start.takeSamples (readings ++ [reading])).last = counters ∧
          (Traffic.start.takeSamples (readings ++ [reading])).haveLast = true := by
  have hkeeps := Traffic.keeps_ofReadings readings
  have hsub : (Traffic.start.takeSamples readings).samples.toList.Sublist
      (SampleLog.ofReadings readings).samples := by
    rw [hkeeps.samples]
    exact List.drop_sublist _ _
  refine ⟨⟨hkeeps.samples, fun index hindex => RingBuffer.getElem?_toList _ hindex⟩,
    ⟨RingBuffer.count_le _, RingBuffer.count_le_head_add _⟩, fun sample hmem => ?_,
    fun hclock => ?_, fun reading iface counters hcomplete hsame hbreak => ?_⟩
  · exact SampleLog.ofReadings_nonNegative readings sample (hsub.mem hmem)
  · exact (SampleLog.ofReadings_increasing hclock).sublist hsub
  · have hlast : Traffic.start.takeSamples (readings ++ [reading]) =
        (Traffic.start.takeSamples readings).takeSample reading := List.foldl_concat ..
    rw [hlast]
    exact Traffic.takeSample_rebases _ hcomplete hsame hbreak

/-- Readings of one interface, with a clock that goes back. -/
def backwardReadings : List TrafficReading :=
  [1, 5, 2, 3].map fun now => ⟨some (ascii "wlan0"), some 0, some 0, now⟩

/-- With such a clock the times of the samples need not increase. -/
theorem trafficSamples_backward : ¬∀ readings : List TrafficReading,
    (Traffic.start.takeSamples readings).samples.toList.Pairwise fun a b => a.time < b.time := by
  intro h
  have htimes := List.pairwise_map.mpr (h backwardReadings)
  rw [(Traffic.keeps_ofReadings backwardReadings).samples] at htimes
  have hlog : ((SampleLog.ofReadings backwardReadings).samples.rtake trafficHistory).map
      RateSample.time = [5, 3] := by
    decide +kernel
  rw [hlog] at htimes
  exact absurd htimes (by decide)

end NmSidebar
