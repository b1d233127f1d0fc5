/-
  Properties/Restarts.lean --- what a coordinator that starts again finds.

  The process may be killed at any point, also while SAVE writes the file, and any number
  of times.  The next one finds the state of the last SAVE that was written to its end,
  unless a later one was cut short: that one emptied the file before it wrote.  The SAVEs
  of two sessions are taken not to overlap.
-/
import CollectiveScheduler.Coordinator.Site
import CollectiveScheduler.Foundation.Binary64
import CollectiveScheduler.Properties.RoundTrip

set_option autoImplicit false

namespace CollectiveScheduler

open Foundation

namespace Site

variable {D : Type} [Double D]

/-- After any run of steps and restarts, the next process starts with the records and the
counters of the state that was saved last, and without grants or evidence; with an empty
scheduler if nothing was saved or the last SAVE was cut short.  It is at the epoch of its
options unless the saved one is beyond it. -/
theorem restart_recovers_the_last_save [Double.BitCast D] (epoch epoch' : CoordinatorEpoch)
    (persists : Bool) (actions : List Action) :
    let site := (Site.start (D := D) epoch persists).run actions
    let restarted := (site.next (.restart epoch')).net
    (∀ t, site.saved = some t →
      ∃ s, t.RestoredFrom s ∧ restarted.coordinator.sys.sched = s.atEpoch epoch') ∧
    (site.saved = none → restarted.coordinator.sys.sched =
      (Scheduler.fresh PolicyConfig.default 1).atEpoch epoch') ∧
    restarted.coordinator.sys.issued = [] ∧ restarted.coordinator.sessions = [] := by
  intro site restarted
  have hsite : site.Sound := (Sound.start epoch persists).run actions
  have hsys : restarted.coordinator.sys =
      { sched := (Scheduler.recovered site.saved).atEpoch epoch' } :=
    hsite.filed.start hsite.forgets epoch'
  refine ⟨fun t hsaved => ?_, fun hsaved => ?_, ?_, rfl⟩
  · refine ⟨_, Persistence.restoredFrom t (.fresh PolicyConfig.default 1), ?_⟩
    rw [hsys, hsaved]
    rfl
  · rw [hsys, hsaved]
    rfl
  · rw [hsys]

end Site

namespace Scenario

/-- A client submits a request, asks for SAVE and submits another request. -/
def saveBetween : List UInt8 :=
  Msg.frame ⟨.submitCollective, 0,
      serializeRequest (request 1 [1] 1 : CollectiveRequest Binary64)⟩ ++
    Msg.frame ⟨.save, 1, []⟩ ++
    Msg.frame ⟨.submitCollective, 2,
      serializeRequest (request 2 [2] 1 : CollectiveRequest Binary64)⟩

/-- Its session handles the three messages. -/
def saved : List Site.Action :=
  [.step (.connect 6 .client), .step (.write 6 saveBetween), .step (.test 6),
    .step (.recv 6 65536), .step (.handle 6 {}), .step (.handle 6 {}), .step (.handle 6 {})]

end Scenario

namespace Site

/-- The first request survives, and the second is gone. -/
theorem restart_recovers_the_last_save_between :
    (((Site.start (D := Binary64) 1 true).run
        Scenario.saved).net.coordinator.sys.sched.records.size = 2) ∧
      ∃ t s : Scheduler Binary64, t.records.size = 1 ∧ t.RestoredFrom s ∧
        (((Site.start 1 true).run Scenario.saved).next (.restart 2)).net.coordinator.sys.sched =
          s.atEpoch 2 := by
  have hsaved : ((Site.start (D := Binary64) 1 true).run Scenario.saved).saved.any
      (fun t => t.records.size = 1) = true := by decide +kernel
  obtain ⟨t, ht, hsize⟩ := (Option.any_eq_true _ _).mp hsaved
  have hnext := (restart_recovers_the_last_save (D := Binary64) 1 2 true Scenario.saved).1 t
  obtain ⟨s, hfrom, hsched⟩ := hnext ht
  exact ⟨by decide +kernel, t, s, of_decide_eq_true hsize, hfrom, hsched⟩

end Site

end CollectiveScheduler
