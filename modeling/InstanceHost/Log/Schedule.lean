/-
**Schedules in a process with a log.**

A schedule runs on a service of the process: one that shares the slot of the process, or one with a
slot of its own. The log follows every action.

* `LoggedHost.service`: a service of the process;
* `LoggedHost.runAt`: a schedule at a desk, with the log behind every action;
* `LoggedHost.run`: a schedule on a service of the process;
* `runAt_of_journal_none`: without a log a schedule goes as it does at the desk alone.
-/

import InstanceHost.Call.Schedule
import InstanceHost.Log.Basic

namespace InstanceHost.LoggedHost

/-- A service of the process, with its slot or with one of its own. -/
def service (logged : LoggedHost) (shared : Bool) (loader : Loader) : Service :=
  ⟨logged.host, if shared then logged.slot else none, loader, .empty, []⟩

/-- The process after its host has changed. -/
def withHost (logged : LoggedHost) (host : Host) : LoggedHost :=
  settle { logged with host := host }

/-- A schedule at a desk. The log follows every action. -/
def runAt (logged : LoggedHost) (desk : Desk) :
    List Action → (LoggedHost × Desk) × List Report
  | [] => ((logged, desk), [])
  | action :: rest =>
    let (next, report) := desk.perform action
    let changed := logged.withHost next.service.host
    let service := { next.service with host := changed.host }
    let (last, reports) := changed.runAt { next with service := service } rest
    (last, report :: reports)

/-- Without a log nothing but the host changes. -/
theorem withHost_of_journal_none {logged : LoggedHost} (off : logged.journal = none) (host : Host) :
    logged.withHost host = { logged with host := host } := by
  simp [withHost, settle, off]

/-- **Without a log a schedule goes as it does at the desk alone.** -/
theorem runAt_of_journal_none {logged : LoggedHost} (off : logged.journal = none) (desk : Desk)
    (actions : List Action) :
    ((logged.runAt desk actions).1.2, (logged.runAt desk actions).2) = desk.run actions := by
  induction actions generalizing logged desk with
  | nil => rfl
  | cons action rest inductive_step =>
    have unlogged : (logged.withHost (desk.perform action).1.service.host).journal = none := by
      rw [withHost_of_journal_none off, off]
    have step := inductive_step unlogged (desk.perform action).1
    simp only [withHost_of_journal_none off] at step
    simp only [runAt, Desk.run, withHost_of_journal_none off]
    rw [← step]

/-- **A schedule on a service of the process**, with the desk in the end and all reports. -/
def run (logged : LoggedHost) (shared : Bool) (loader : Loader) (actions : List Action) :
    (LoggedHost × Desk) × List Report :=
  let ((last, desk), reports) := logged.runAt ⟨logged.service shared loader, []⟩ actions
  let slot := if shared then desk.service.slot else logged.slot
  (({ last with slot := slot }, desk), reports)

end InstanceHost.LoggedHost
