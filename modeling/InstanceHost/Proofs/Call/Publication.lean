/-
**What schedules publish.**

Calls for an instance are made, polled and abandoned in any order, the loader pauses and fails as
it likes, and in between the slot is emptied and instances that were seen get requests. Whatever the
order:

* `published_after_start`: what is published or shown was built, started once without extensions and
  only then published, by one call; nobody sees an instance whose call is not done;
* `published_by_latest_call`: a call that found no published instance publishes its own, in its last
  poll and with its own configuration, and the latest such call counts;
* `unnoticed_unless_fulfilled`: a call that fails or is abandoned changes neither the slot nor any
  instance in any of its polls, and every call that finds the slot empty loads anew.
-/

import InstanceHost.Proofs.Call.Run

namespace InstanceHost

/-! ### Three calls at once -/

/-- A loader whose first three loads have pauses at different places; the first instance that it
is to start refuses. -/
def threeCallsPlan : Nat → LoadPlan
  | 0 => { LoadPlan.smooth with
      loadPauses := 1
      startPauses := 1
      startFailure := some "not today" }
  | 1 => { LoadPlan.smooth with buildPauses := 1 }
  | 2 => { LoadPlan.smooth with startPauses := 1 }
  | _ => .smooth

/-- A desk that was not used. -/
def threeCallsDesk : Desk :=
  ⟨⟨⟨.bare [], [], []⟩, none, .scripted threeCallsPlan, .empty, []⟩, []⟩

/-- A call that fails, one that publishes and one that is abandoned, all at once; then one that
finds the published instance and, when the slot has been emptied, one that builds another. -/
def threeCalls : List Action :=
  [.spawn "first" (.object []), .spawn "second" (.object []), .spawn "third" (.object []),
    .poll "first", .poll "second", .poll "third", .poll "first", .poll "second", .drop "third",
    .poll "first", .complete (.value (.object [])), .clear, .complete (.value (.object []))]

theorem threeCallsDesk_unused : threeCallsDesk.Unused := by
  refine ⟨fun id target found => ?_, rfl, rfl, rfl⟩
  cases found

theorem threeCallsDesk_reads : threeCallsDesk.service.loader.ReadsText := by
  intro count text
  match count with
  | 0 => rfl
  | 1 => rfl
  | 2 => rfl
  | _ + 3 => rfl

theorem threeCalls_bootstrapping : ∀ action ∈ threeCalls, action.Bootstrapping := by
  unfold threeCalls
  simp only [List.forall_mem_cons, List.not_mem_nil, IsEmpty.forall_iff, implies_true, and_true]
  repeat' constructor

/-! ### Nobody sees an instance too early -/

namespace Desk

theorem mem_seen_run {desk : Desk} {id : Nat} (actions : List Action) (there : id ∈ desk.seen) :
    id ∈ (desk.run actions).1.seen := by
  induction actions generalizing desk with
  | nil => exact there
  | cons action rest inductive_step =>
    exact inductive_step (List.mem_append_left _ (List.mem_append_left _ there))

theorem mem_seen_of_report {desk : Desk} {actions : List Action} {report : Report} {id : Nat}
    (member : report ∈ (desk.run actions).2) (shown : id ∈ report.outcome.shown) :
    id ∈ (desk.run actions).1.seen := by
  induction actions generalizing desk with
  | nil => cases member
  | cons action rest inductive_step =>
    rcases List.mem_cons.mp member with rfl | later
    · exact mem_seen_run rest (List.mem_append_left _ (List.mem_append_right _ shown))
    · exact inductive_step later

/-- An instance that is ready, and that a call has built from a normal form, started once without
extensions and then published. -/
structure Vouched (desk : Desk) (makes : String → Items → Prop) (history : History) (id : Nat) :
    Prop where
  ready : ∃ target, desk.service.host.find? id = some target ∧ target.ready = true
  delivered : ∃ life normal, .ended life (.ok id) ∈ history.past ∧ life.Delivered makes normal id

variable {desk : Desk} {makes : String → Items → Prop} {history : History} {id : Nat}

theorem Keeps.vouched (keeps : desk.Keeps makes history) (there : id ∈ desk.seen) :
    desk.Vouched makes history id := by
  obtain ⟨all, ghosts, kept, same⟩ := keeps
  have known := (same id).mpr (Or.inl there)
  exact ⟨kept.sound.ready id known, kept.chronicle.exists_delivered known⟩

theorem Keeps.mem_seen_of_slot (keeps : desk.Keeps makes history)
    (published : desk.service.slot = some id) : id ∈ desk.seen := by
  obtain ⟨all, ghosts, kept, same⟩ := keeps
  rcases (same id).mp (kept.sound.published id published) with there | there
  · exact there
  · cases there

/-- What a call has built that has come to no instance was not seen. -/
theorem Keeps.not_mem_seen (keeps : desk.Keeps makes history) {life : Life}
    (unfulfilled : life ∈ history.unfulfilled) (built : id ∈ life.built) : id ∉ desk.seen := by
  obtain ⟨all, ghosts, kept, same⟩ := keeps
  intro there
  have known := (same id).mpr (Or.inl there)
  rcases List.mem_append.mp unfulfilled with lost | running
  · obtain ⟨stage, member, own⟩ := kept.left life lost id built
    exact kept.sound.own?_ne_of_seen known (List.mem_append_right _ member) own
  · obtain ⟨stage, member, agrees⟩ := kept.aligned.exists_stage running
    exact kept.sound.own?_ne_of_seen known (List.mem_append_left _ member)
      (agrees.own?_of_built built)

end Desk

/-- **Only what was started is published or shown.** At every moment of every schedule the published
instance, and every instance that an action has shown, is ready; one call has loaded a module for
it, had it built by a module of the loader, started it once without extensions and then published
it. No instance that was built by a call that failed, was abandoned or is not done is published or
was shown. -/
theorem published_after_start (desk : Desk) (actions : List Action) (unused : desk.Unused)
    (bootstrapping : ∀ action ∈ actions, action.Bootstrapping) :
    let after := (desk.run actions).1
    let reports := (desk.run actions).2
    let history := desk.history actions
    let makes := desk.service.loader.Makes
    (∀ id, after.service.slot = some id → after.Vouched makes history id) ∧
      (∀ report ∈ reports, ∀ id ∈ report.outcome.shown, after.Vouched makes history id) ∧
      ∀ life ∈ history.unfulfilled, ∀ id ∈ life.built,
        after.service.slot ≠ some id ∧ ∀ report ∈ reports, id ∉ report.outcome.shown := by
  intro after reports history makes
  have keeps : after.Keeps makes history :=
    (unused.keeps desk.service.loader.yields_makes).run actions bootstrapping
  refine ⟨?_, ?_, ?_⟩
  · exact fun id published => keeps.vouched (keeps.mem_seen_of_slot published)
  · exact fun report member id shown => keeps.vouched (Desk.mem_seen_of_report member shown)
  · intro life unfulfilled id built
    have hidden := keeps.not_mem_seen unfulfilled built
    refine ⟨fun published => hidden (keeps.mem_seen_of_slot published), ?_⟩
    exact fun report member shown => hidden (Desk.mem_seen_of_report member shown)

/-- The instance that three calls leave published is ready, and the two that were built by
the calls that failed and were abandoned have not been shown. -/
theorem published_after_start_three_calls :
    threeCallsDesk.Unused ∧ (∀ action ∈ threeCalls, action.Bootstrapping) ∧
      (threeCallsDesk.run threeCalls).1.service.slot = some 3 ∧
      (threeCallsDesk.run threeCalls).1.Vouched threeCallsDesk.service.loader.Makes
        (threeCallsDesk.history threeCalls) 3 := by
  have slot : (threeCallsDesk.run threeCalls).1.service.slot = some 3 := by decide +kernel
  have safe := published_after_start threeCallsDesk threeCalls threeCallsDesk_unused
    threeCalls_bootstrapping
  exact ⟨threeCallsDesk_unused, threeCalls_bootstrapping, slot, safe.1 3 slot⟩

/-! ### Calls by their ends -/

/-- A call has come to an instance, or it has not. -/
theorem History.unfulfilled_or_ended {history : History} {life : Life}
    (member : life ∈ history.lives) :
    life ∈ history.unfulfilled ∨ ∃ id, Happening.ended life (.ok id) ∈ history.past := by
  rcases List.mem_append.mp member with past | running
  · obtain ⟨happening, there, which⟩ := List.mem_filterMap.mp past
    have lost : happening.lost? = some life → life ∈ history.unfulfilled := fun lost =>
      List.mem_append_left _ (List.mem_filterMap.mpr ⟨happening, there, lost⟩)
    cases happening with
    | ended other result =>
      cases which
      cases result with
      | ok id => exact Or.inr ⟨id, there⟩
      | error failure => exact Or.inl (lost rfl)
    | abandoned other =>
      cases which
      exact Or.inl (lost rfl)
    | cleared => cases which
  · exact Or.inl (List.mem_append_right _ running)

/-- Calls that have come to no instance have left no trace. -/
theorem History.Kept.traceless {history : History} {service : Service}
    {makes : String → Items → Prop} {seen : List Nat} {ghosts : List Stage} {life : Life}
    (kept : history.Kept service makes seen ghosts)
    (unfulfilled : life ∈ history.unfulfilled) : life.Traceless ∧ life.LoadsAnew := by
  rcases List.mem_append.mp unfulfilled with lost | running
  · exact kept.chronicle.traceless_of_lost lost
  · obtain ⟨stage, member, agrees⟩ := kept.aligned.exists_stage running
    exact agrees.traceless

/-! ### The latest call counts -/

/-- **The latest call that builds an instance counts.** Let the modules of the loader read texts as
configurations. The history of every schedule tells of the ends that the reports tell of, in their
order. In it, a call that has come to an instance without having found one has built it from its own
normal form, and published it in the last of its polls and in no other; there, whatever the other
calls did meanwhile, the configuration of the instance is the one that the canonical text of the
normal form describes, and no other instance has changed. No two such calls have
published the same instance. A call that has found a published instance comes to it in its first
poll and publishes nothing. So the slot holds the instance of the latest call that built one since
the slot was emptied. -/
theorem published_by_latest_call (desk : Desk) (actions : List Action) (unused : desk.Unused)
    (reads : desk.service.loader.ReadsText)
    (bootstrapping : ∀ action ∈ actions, action.Bootstrapping) :
    let history := desk.history actions
    history.results = ((desk.run actions).2.filterMap Report.result?).reverse ∧
      (∀ life id, .ended life (.ok id) ∈ history.past → life.found = none →
        ∃ normal, life.Delivered Items.Configured normal id) ∧
      history.deliveries.Nodup ∧
      (∀ life ∈ history.lives, ∀ occupant, life.found = some occupant →
        .ended life (.ok occupant) ∈ history.past ∧ life.Reused occupant) ∧
      (desk.run actions).1.service.slot = history.published? := by
  intro history
  have keeps : (desk.run actions).1.Keeps Items.Configured history :=
    (unused.keeps reads.yields).run actions bootstrapping
  obtain ⟨seen, ghosts, kept, _⟩ := keeps
  refine ⟨?_, ?_, kept.chronicle.nodup_deliveries.1, ?_, kept.chronicle.slot_eq⟩
  · exact (Desk.results_historyFrom actions unused.paired).trans (List.append_nil _)
  · intro life id member missing
    rcases kept.chronicle.delivered_or_reused member with delivered | reused
    · exact delivered
    · rw [reused.found] at missing
      cases missing
  · intro life member occupant found
    rcases History.unfulfilled_or_ended member with unfulfilled | ⟨id, ended⟩
    · rw [(kept.traceless unfulfilled).1.found] at found
      cases found
    · rcases kept.chronicle.delivered_or_reused ended with ⟨normal, delivered⟩ | reused
      · rw [delivered.found] at found
        cases found
      · rw [reused.found] at found
        cases found
        exact ⟨ended, reused⟩

/-- Of three calls the second publishes, and so does the last one of all, which counts. -/
theorem published_by_latest_call_three_calls :
    threeCallsDesk.Unused ∧ threeCallsDesk.service.loader.ReadsText ∧
      (∀ action ∈ threeCalls, action.Bootstrapping) ∧
      (threeCallsDesk.history threeCalls).deliveries = [3, 2] ∧
      (threeCallsDesk.run threeCalls).1.service.slot =
        (threeCallsDesk.history threeCalls).published? := by
  have counts := published_by_latest_call threeCallsDesk threeCalls threeCallsDesk_unused
    threeCallsDesk_reads threeCalls_bootstrapping
  exact ⟨threeCallsDesk_unused, threeCallsDesk_reads, threeCalls_bootstrapping, by decide +kernel,
    counts.2.2.2.2⟩

/-! ### Calls that come to nothing -/

theorem Life.found_eq_none {life : Life} {first : Poll} {rest : List Poll}
    (polls : life.polls = first :: rest) (empty : first.before.slot = none) :
    life.found = none := by
  unfold found
  rw [polls]
  show (if life.order.looks = true then first.before.slot else none) = none
  rw [empty, ite_self]

/-- A single load, in the first poll. -/
theorem Life.LoadsOnce.loads_eq {life : Life} {path : Option String} {first : Poll}
    {rest : List Poll} (once : life.LoadsOnce path) (polls : life.polls = first :: rest) :
    first.loads = [path] ∧ ∀ poll ∈ rest, poll.loads = [] := by
  obtain ⟨count, loads⟩ := once
  rw [Life.loads, polls, List.map_cons] at loads
  obtain ⟨head, tail⟩ := List.cons.inj loads
  refine ⟨head, fun poll member => ?_⟩
  have among : poll.loads ∈ List.replicate count [] := tail ▸ List.mem_map_of_mem member
  exact List.eq_of_mem_replicate among

/-- **A call that comes to nothing goes unnoticed.** In every schedule, no poll of a call that has
failed, was abandoned or is in flight has changed the slot or any instance that was there. A call
with a normal form that finds the slot empty asks for a load of its own in its first poll and only
there; and if it comes to an instance, it has built, started and published this instance itself. -/
theorem unnoticed_unless_fulfilled (desk : Desk) (actions : List Action) (unused : desk.Unused)
    (bootstrapping : ∀ action ∈ actions, action.Bootstrapping) :
    let history := desk.history actions
    (∀ life ∈ history.unfulfilled, ∀ poll ∈ life.polls, poll.Unnoticed) ∧
      ∀ life ∈ history.lives, ∀ normal first rest, life.order.normal? = some normal →
        life.polls = first :: rest → first.before.slot = none →
          first.loads = [normal.modulePath] ∧ (∀ poll ∈ rest, poll.loads = []) ∧
            ∀ id, .ended life (.ok id) ∈ history.past →
              life.Delivered desk.service.loader.Makes normal id := by
  intro history
  have keeps : (desk.run actions).1.Keeps desk.service.loader.Makes history :=
    (unused.keeps desk.service.loader.yields_makes).run actions bootstrapping
  obtain ⟨seen, ghosts, kept, _⟩ := keeps
  refine ⟨fun life unfulfilled => (kept.traceless unfulfilled).1.unnoticed, ?_⟩
  intro life member normal first rest known polls empty
  have missing := Life.found_eq_none polls empty
  have begun : life.polls ≠ [] := by
    rw [polls]
    exact List.cons_ne_nil first rest
  have fulfilled : ∀ id, .ended life (.ok id) ∈ history.past →
      life.Delivered desk.service.loader.Makes normal id := by
    intro id ended
    rcases kept.chronicle.delivered_or_reused ended with ⟨other, delivered⟩ | reused
    · have same := delivered.known
      rw [known] at same
      exact Option.some.inj same ▸ delivered
    · rw [reused.found] at missing
      cases missing
  have once : life.LoadsOnce normal.modulePath := by
    rcases History.unfulfilled_or_ended member with unfulfilled | ⟨id, ended⟩
    · exact (kept.traceless unfulfilled).2 normal known missing begun
    · exact (fulfilled id ended).loads
  exact ⟨(once.loads_eq polls).1, (once.loads_eq polls).2, fulfilled⟩

/-- Two of three calls come to nothing, after three polls and after one. -/
theorem unnoticed_unless_fulfilled_three_calls :
    threeCallsDesk.Unused ∧ (∀ action ∈ threeCalls, action.Bootstrapping) ∧
      (threeCallsDesk.history threeCalls).unfulfilled.map (·.polls.length) = [3, 1] ∧
      ∀ life ∈ (threeCallsDesk.history threeCalls).unfulfilled, ∀ poll ∈ life.polls,
        poll.Unnoticed := by
  have unnoticed := unnoticed_unless_fulfilled threeCallsDesk threeCalls threeCallsDesk_unused
    threeCalls_bootstrapping
  exact ⟨threeCallsDesk_unused, threeCalls_bootstrapping, by decide +kernel, unnoticed.1⟩

end InstanceHost
