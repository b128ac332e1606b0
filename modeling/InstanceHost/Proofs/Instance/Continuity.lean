/-
**What no request takes from an instance.**

Requests write items and change the registry, and hooks make further requests in the middle of
them. Whatever a request does, the instance keeps its number, and once ready it stays ready.

* `Instance.Continues`: the same instance later;
* `Continues.perform`, `Continues.conclude`: the two parts of a request;
* `Continues.target_ask`, `Continues.target_leave`: a session has what these leave;
* `Continues.request`: a request from its beginning to its end, with all the hooks that it runs.
-/

import InstanceHost.Instance.Session

namespace InstanceHost

/-- **The same instance later**: it has its number, and is ready if it was. -/
structure Instance.Continues (before after : Instance) : Prop where
  id : after.id = before.id
  ready : before.ready = true → after.ready = true

namespace Instance.Continues

theorem refl (target : Instance) : target.Continues target :=
  ⟨rfl, fun ready => ready⟩

theorem trans {first second third : Instance} (one : first.Continues second)
    (two : second.Continues third) : first.Continues third :=
  ⟨two.id.trans one.id, fun ready => two.ready (one.ready ready)⟩

theorem set (target : Instance) (key : String) (value : Json) :
    target.Continues (target.set key value).1 := by
  unfold Instance.set
  split <;> exact ⟨rfl, fun ready => ready⟩

theorem start (target : Instance) : target.Continues target.start.1 := by
  unfold Instance.start Instance.finishStart
  split
  · exact ⟨rfl, fun ready => ready⟩
  · exact ⟨rfl, fun _ => rfl⟩

/-- The part of a request before a hook runs. -/
theorem perform (target : Instance) (request : Request) :
    target.Continues (target.perform request).target := by
  cases request with
  | set key value => exact set target key value
  | check name =>
    simp only [Instance.perform]
    split <;> exact refl target
  | insert name extension =>
    simp only [Instance.perform, Instance.withRegistry]
    split <;> exact ⟨rfl, fun ready => ready⟩
  | register name extension =>
    simp only [Instance.perform]
    split <;> exact refl target
  | unregister name =>
    simp only [Instance.perform]
    split <;> exact ⟨rfl, fun ready => ready⟩
  | start =>
    have started := start target
    simp only [Instance.perform]
    split
    · next shape => rwa [shape] at started
    · next shape => rwa [shape] at started
  | _ => exact ⟨rfl, fun ready => ready⟩

/-- The part of a request after its hook has run. -/
theorem conclude (activation : Activation) (target : Instance) :
    target.Continues (activation.conclude target).target := by
  unfold Activation.conclude
  split
  · exact refl target
  · split
    · exact refl target
    · split <;> exact ⟨rfl, fun ready => ready⟩

theorem deliver (session : Session) (answer : Answer) :
    (session.deliver answer).target = session.target := by
  unfold Session.deliver
  split <;> rfl

/-- A request leaves the instance as its first part does. -/
theorem target_ask (session : Session) (request : Request) :
    (session.ask request).target = (session.target.perform request).target := by
  simp only [Session.ask]
  split
  · rw [deliver]
  · rfl

/-- The end of a hook leaves the instance as the second part does. -/
theorem target_leave (session : Session) (top : Activation) (outer : List Activation) :
    (session.leave top outer).target = (top.conclude session.target).target := by
  rw [Session.leave, deliver]

theorem ask (session : Session) (request : Request) :
    session.target.Continues (session.ask request).target := by
  rw [target_ask]
  exact perform session.target request

theorem step (session : Session) : session.target.Continues session.step.target := by
  unfold Session.step
  split
  · exact refl _
  · next top outer shape =>
    split
    · rw [target_leave]
      exact conclude top session.target
    · next request rest requests =>
      exact ask { session with running := { top with rest := rest } :: outer } request

theorem steps (session : Session) (count : Nat) :
    session.target.Continues (session.steps count).target := by
  induction count generalizing session with
  | zero => exact refl _
  | succ count inductive_step => exact (step session).trans (inductive_step session.step)

/-- **A request keeps the number of an instance and leaves it ready.** -/
theorem request (target : Instance) (request : Request) :
    target.Continues (target.ask request).target :=
  (ask (Session.start target) request).trans (steps _ _)

end Instance.Continues

end InstanceHost
