import NmSidebar.Sections.Traffic

/-!
# Daily usage

`refresh_vnstat` and `vnstat_finished` of `sections/traffic.c`: vnstat is run for the interface that
is shown, and the days it prints are kept when it has finished. Nothing in its result says which
interface it was run for.
-/

namespace NmSidebar

open Text Collections

/-- `TRAFFIC_DAYS`. -/
def trafficDays : ℕ := 30

/-! ## The functions -/

/-- What `g_subprocess_communicate_utf8_finish` comes to: it was cancelled, or vnstat has ended, with
the days that were read from its output where it was successful and its output could be parsed. -/
inductive VnstatResult where
  | cancelled
  | ended (days : Option (List DayUsage))

namespace Traffic

/-- `vnstat_finished`. Only the last days have room. -/
def vnstatFinished (t : Traffic) : VnstatResult → Traffic
  | .cancelled => t
  | .ended days =>
    { t with vnstatCancel := false, days := (days.getD []).rtake (trafficDays + 1) }

/-- `refresh_vnstat`: the state, and the interface of the process that it starts, if any. -/
def refreshVnstat (t : Traffic) (hasProgram canSpawn : Bool) (now : ℤ) : Traffic × Option Bytes :=
  if t.iface.isNone ∨ hasProgram = false ∨ t.vnstatCancel then (t, none)
  else
    let t := { t with vnstatTime := now }
    if canSpawn then ({ t with vnstatCancel := true }, t.iface) else (t, none)

end Traffic

/-! ## Runs -/

/-- The state with the process that is running, named by its interface. `origin` is not in the
source: it is the interface of the process that the days came from. -/
structure UsageSystem where
  traffic : Traffic
  query : Option Bytes
  origin : Option Bytes

/-- What happens: a sample, a refresh, or the end of the process that is running. -/
inductive UsageEvent where
  | sample (reading : TrafficReading)
  | refresh (hasProgram canSpawn : Bool) (now : ℤ)
  | finished (result : VnstatResult)

namespace UsageSystem

/-- Nothing is measured yet. -/
def start : UsageSystem := ⟨.start, none, none⟩

/-- One event. A process can only finish where one is running. -/
def step (s : UsageSystem) : UsageEvent → UsageSystem
  | .sample reading => { s with traffic := s.traffic.takeSample reading }
  | .refresh hasProgram canSpawn now =>
    match s.traffic.refreshVnstat hasProgram canSpawn now with
    | (traffic, none) => { s with traffic }
    | (traffic, some iface) => { s with traffic, query := some iface }
  | .finished result =>
    match s.query with
    | none => s
    | some iface =>
      let traffic := s.traffic.vnstatFinished result
      match result with
      | .cancelled => { s with traffic, query := none }
      | .ended _ => { traffic, query := none, origin := some iface }

/-- Any number of events. -/
def run (events : List UsageEvent) : UsageSystem := events.foldl step start

/-- The days that are shown are those of the interface that is shown. -/
def Belongs (s : UsageSystem) : Prop :=
  s.traffic.days ≠ [] → s.origin.isSome = true ∧ s.origin = s.traffic.iface

/-- Where a process that has found days finishes, the interface that is shown is the one it was run
for. -/
def Timely (s : UsageSystem) (e : UsageEvent) : Prop :=
  ∀ days iface, e = .finished (.ended (some days)) → days ≠ [] → s.query = some iface →
    s.traffic.iface = some iface

/-! ## The functions and the days -/

theorem takeSample_days (t : Traffic) (reading : TrafficReading) :
    (t.takeSample reading).iface = t.iface ∧ (t.takeSample reading).days = t.days ∨
      (t.takeSample reading).days = [] := by
  unfold Traffic.takeSample
  cases reading.complete with
  | none => exact .inl ⟨rfl, rfl⟩
  | some read =>
    have hrecord (t : Traffic) (counters : Counters) :
        (t.recordSample counters).iface = t.iface ∧ (t.recordSample counters).days = t.days := by
      unfold Traffic.recordSample
      split <;> exact ⟨rfl, rfl⟩
    obtain ⟨iface, counters⟩ := read
    dsimp only [Traffic.rebase]
    rw [(hrecord _ counters).1, (hrecord _ counters).2]
    unfold Traffic.showIface
    split
    · exact .inl ⟨rfl, rfl⟩
    · exact .inr rfl

theorem refreshVnstat_days (t : Traffic) (hasProgram canSpawn : Bool) (now : ℤ) :
    (t.refreshVnstat hasProgram canSpawn now).1.iface = t.iface ∧
      (t.refreshVnstat hasProgram canSpawn now).1.days = t.days := by
  unfold Traffic.refreshVnstat
  split
  · exact ⟨rfl, rfl⟩
  dsimp only
  split <;> exact ⟨rfl, rfl⟩

/-- The last days of a list are none only where the list has none. -/
theorem rtake_days_eq_nil {days : List DayUsage} :
    days.rtake (trafficDays + 1) = [] ↔ days = [] := by
  rw [List.rtake, List.drop_eq_nil_iff]
  constructor
  · intro h
    have hlength : days.length = 0 := by omega
    exact List.length_eq_zero_iff.mp hlength
  · rintro rfl
    exact Nat.zero_le _

/-! ## Every step -/

variable {s : UsageSystem}

/-- Days that belong to the interface still do after an event exactly where it is timely. -/
theorem belongs_step (h : s.Belongs) (e : UsageEvent) : (s.step e).Belongs ↔ s.Timely e := by
  cases e with
  | sample reading =>
    refine iff_of_true (fun hdays => ?_) fun _ _ he => UsageEvent.noConfusion he
    rcases takeSample_days s.traffic reading with ⟨hiface, hsame⟩ | hnone
    · have hbelongs := h (hsame ▸ hdays)
      exact ⟨hbelongs.1, hbelongs.2.trans hiface.symm⟩
    · exact absurd hnone hdays
  | refresh hasProgram canSpawn now =>
    refine iff_of_true ?_ fun _ _ he => UsageEvent.noConfusion he
    obtain ⟨hiface, hdays⟩ := refreshVnstat_days s.traffic hasProgram canSpawn now
    dsimp only [step]
    split
    · rename_i traffic hrefresh
      rw [hrefresh] at hiface hdays
      exact fun hne => ⟨(h (hdays ▸ hne)).1, (h (hdays ▸ hne)).2.trans hiface.symm⟩
    · rename_i traffic iface hrefresh
      rw [hrefresh] at hiface hdays
      exact fun hne => ⟨(h (hdays ▸ hne)).1, (h (hdays ▸ hne)).2.trans hiface.symm⟩
  | finished result =>
    unfold step
    cases hquery : s.query with
    | none =>
      refine iff_of_true h fun _ _ _ _ hsome => ?_
      exact absurd (hquery.symm.trans hsome).symm (Option.some_ne_none _)
    | some iface =>
      cases result with
      | cancelled => exact iff_of_true h fun _ _ he => by cases he
      | ended days =>
        cases days with
        | none =>
          exact iff_of_true (fun hne => absurd (rtake_days_eq_nil.mpr rfl) hne)
            fun _ _ he => by cases he
        | some days =>
          by_cases hnone : days = []
          · subst hnone
            refine iff_of_true (fun hne => absurd (rtake_days_eq_nil.mpr rfl) hne) ?_
            rintro days iface' ⟨⟩ hne
            exact absurd rfl hne
          · have hshown : s.traffic.iface = some iface ↔ s.Timely (.finished (.ended (some days))) := by
              constructor
              · rintro hsame _ iface' ⟨⟩ - hrun
                rw [hsame, ← hquery]
                exact hrun
              · exact fun htimely => htimely days iface rfl hnone hquery
            rw [← hshown]
            constructor
            · exact fun hbelongs => (hbelongs fun hnil => hnone (rtake_days_eq_nil.mp hnil)).2.symm
            · exact fun hsame _ => ⟨rfl, hsame.symm⟩

theorem belongs_start : start.Belongs := fun hdays => absurd rfl hdays

/-! ## Every run -/

theorem run_concat (events : List UsageEvent) (e : UsageEvent) :
    run (events ++ [e]) = (run events).step e := List.foldl_concat ..

/-- In every state of a run the days belong to the interface that is shown exactly where every event
of the run is timely. -/
theorem dailyUsage_belongs (events : List UsageEvent) :
    (∀ before after, events = before ++ after → (run before).Belongs) ↔
      ∀ before e after, events = before ++ e :: after → (run before).Timely e := by
  constructor
  · intro h before e after hevents
    have hbefore := h before (e :: after) hevents
    have hnext := h (before ++ [e]) after (by rw [hevents, List.append_assoc]; rfl)
    rw [run_concat] at hnext
    exact (belongs_step hbefore e).mp hnext
  · intro h before
    induction before using List.reverseRecOn with
    | nil => exact fun _ _ => belongs_start
    | append_singleton before e ih =>
      intro after hevents
      rw [List.append_assoc] at hevents
      rw [run_concat]
      exact (belongs_step (ih _ hevents) e).mpr (h before e after hevents)

/-! ## A late query -/

/-- A reading of an interface. -/
def sampleReading (iface : String) (now : ℤ) : TrafficReading :=
  ⟨some (ascii iface), some 0, some 0, now⟩

/-- One day. -/
def sampleDay : DayUsage := ⟨2024, 1, 1, 10, 20⟩

/-- The interface changes while vnstat runs for the one before. -/
def lateQuery : List UsageEvent :=
  [.sample (sampleReading "wlan0" 1), .refresh true true 1, .sample (sampleReading "wlan1" 2),
    .finished (.ended (some [sampleDay]))]

/-- Then the days of the interface before are kept for the new one. -/
theorem dailyUsage_late : ¬∀ events : List UsageEvent, (run events).Belongs := by
  intro h
  have hdays : (run lateQuery).traffic.days ≠ [] := by decide +kernel
  have hdiffer : (run lateQuery).origin ≠ (run lateQuery).traffic.iface := by decide +kernel
  exact hdiffer (h lateQuery hdays).2

end UsageSystem

end NmSidebar
