import TrackedEntity.Proofs.Exec.Running
import TrackedEntity.Proofs.Session.Freshness

/-!
# Requests to a batch

A request to a batch makes the next entity and runs the initializer on it before anybody else sees
it.  What an entity made on its own goes through is `Session.Effect.singly`: it is created as it is
built otherwise, and then the initializer works on it as operations on entities do.  A request that
finds entities left does just that (`Session.run_next_of_left`), except that an entity whose
initializer failed is not kept.  The other requests make nothing
(`Session.run_next_of_all`, `Session.run_next_of_ended`).
-/

namespace TrackedEntity

open Outcome

/-! ### Entities made singly -/

namespace Exec

/-- Runs an initializer, if there is one, with the entity and an index. -/
def prepare (initializer : Option Expr) (run : Runner) (index : ℕ) : Exec Unit := do
  match initializer with
  | none => pure ()
  | some body => let _ ← run body [← self, .int index]

/-- An operation that is asked for the class name of the entity that it leaves. -/
theorem runOn_className (x : Exec Unit) (e : EntityState) (traces : Traces) :
    ((do x; className : Exec String).runOn e).run traces =
      ((((x.runOn e).run traces).1.1.map fun () => ((x.runOn e).run traces).1.2.className,
        ((x.runOn e).run traces).1.2), ((x.runOn e).run traces).2) := by
  rw [run_runOn, run_runOn, run_bind]
  rcases x.run ⟨e, traces.history, traces.nextSerial⟩ with ⟨result, m⟩
  cases result <;> rfl

end Exec

namespace Session

/-- The session with a batch stored. -/
def withBatch (s : Session) (name : String) (b : Batch) : Session :=
  { s with batches := s.batches.put name b }

namespace Effect

/-- Makes one entity, as it is built, and runs an initializer on it; the answer is its class
name. -/
def singly (entity : String) (type : CompiledType) (initializer : Option Expr) (index : ℕ) :
    Effect String := do
  let _ ← create entity type type.newEntity
  onEntity entity fun run _ => do
    Exec.prepare initializer run index
    Exec.className

/-- Work on an entity leaves the entity, and the traces, as the work leaves them. -/
theorem run_onEntity {α : Type} {s : Session} {name : String} {e : Entity}
    (h : s.entities.get? name = some e) (work : Runner → Scene → Exec α) :
    (onEntity name work).run s =
      let done := ((work ((e.type.scene s.handlers).run depthLimit)
        (e.type.scene s.handlers)).runOn e.state).run s.traces
      (done.1.1, { s with
        entities := s.entities.put name { e with state := done.1.2 }
        traces := done.2 }) := by
  have hscene : (sceneOf e.type).run s = (.ok (e.type.scene s.handlers), s) := rfl
  rw [onEntity, run_bind_ok (run_get s), h]
  show (sceneOf e.type >>= _ : Effect α).run s = _
  rw [run_bind_ok hscene, run_bind_ok (run_leaving s _)]
  dsimp only
  rcases ((work ((e.type.scene s.handlers).run depthLimit) (e.type.scene s.handlers)).runOn
    e.state).run s.traces with ⟨⟨result, state⟩, traces⟩
  cases result <;> rfl

end Effect

end Session

namespace Batch

variable {b : Batch} {run : Runner} {index : ℕ} {traces : Traces}

theorem run_make_of_error {f : Fault} (h : b.type.newEntity = .error f) :
    (b.make run index).run traces = (.error (.fault f), traces) := by
  rw [make, h]
  rfl

theorem run_make_of_ok {e : EntityState} (h : b.type.newEntity = .ok e) :
    (b.make run index).run traces =
      let done := ((Exec.prepare b.initializer run index).runOn e).run traces
      (done.1.1.map fun () => done.1.2, done.2) := by
  have hinitializer : b.runInitializer run index = Exec.prepare b.initializer run index := by
    rw [runInitializer]
    cases b.initializer <;> rfl
  rw [make, h]
  dsimp only
  rw [hinitializer]
  rfl

theorem run_draw_of_left (hnext : b.next = some index) {n : ℤ} (hcount : b.count.integer? = some n)
    (hindex : (index : ℤ) < n) :
    (b.draw run).run traces = match (b.make run index).run traces with
      | (.ok e, traces') => ((.entity e, { b with next := some (index + 1) }), traces')
      | (.error h, traces') => ((.halted h, b.ended), traces') := by
  rw [draw, hnext, hcount]
  dsimp only
  rw [if_pos hindex, StateT.run_bind]
  rcases (b.make run index).run traces with ⟨made, traces'⟩
  cases made <;> rfl

end Batch

namespace Session

namespace Effect

variable {s : Session} {batch entity : String} {b : Batch}

/-- What a batch makes is what would be made singly. -/
theorem run_singly (s : Session) (entity : String) (b : Batch) (index : ℕ) :
    let made := (b.make ((b.type.scene s.handlers).run depthLimit) index).run s.traces
    ∃ entities, (singly entity b.type b.initializer index).run s =
      (made.1.map (·.className), { s with entities, traces := made.2 }) ∧
      ∀ e, made.1 = .ok e → entities = s.entities.put entity ⟨b.type, e⟩ := by
  rw [singly]
  cases hnew : b.type.newEntity with
  | error f =>
    -- nothing was created, so the initializer does not run
    rw [Batch.run_make_of_error hnew]
    exact ⟨s.entities, rfl, fun e he => by cases he⟩
  | ok e =>
    have hcreated : (create entity b.type (.ok e)).run s =
      (.ok e.className, { s with entities := s.entities.put entity ⟨b.type, e⟩ }) := rfl
    have hstored : (s.entities.put entity ⟨b.type, e⟩).get? entity = some ⟨b.type, e⟩ :=
      Table.get?_put_self _ _ _
    rw [Batch.run_make_of_ok hnew, run_bind_ok hcreated, run_onEntity hstored]
    dsimp only
    -- the entity as it was created gives way to the one that the initializer leaves
    rw [Exec.runOn_className, Table.put_put]
    rcases ((Exec.prepare b.initializer ((b.type.scene s.handlers).run depthLimit) index).runOn
      e).run s.traces with ⟨⟨result, state⟩, traces⟩
    refine ⟨s.entities.put entity ⟨b.type, state⟩, ?_, fun e' he' => ?_⟩
    · cases result <;> rfl
    · cases result with
      | error h => cases he'
      | ok a =>
        obtain rfl := Except.ok.inj he'
        rfl

theorem run_draw (hb : s.batches.get? batch = some b) :
    (draw batch entity).run s =
      let (drawn, traces) := (b.draw ((b.type.scene s.handlers).run depthLimit)).run s.traces
      let s' := { s with traces }.withBatch batch drawn.2
      match drawn.1 with
      | .exhausted => (.ok none, s')
      | .halted h => (.error h, s')
      | .entity e =>
        (.ok (some e.className),
          { s' with entities := s'.entities.put entity ⟨drawn.2.type, e⟩ }) := by
  have hscene : (sceneOf b.type).run s = (.ok (b.type.scene s.handlers), s) := rfl
  rw [draw, run_bind_ok (run_get s), hb]
  show (sceneOf b.type >>= _ : Effect (Option String)).run s = _
  rw [run_bind_ok hscene, run_bind_ok (run_leaving s _)]
  rcases (b.draw ((b.type.scene s.handlers).run depthLimit)).run s.traces with
    ⟨⟨drawn, b'⟩, traces⟩
  cases drawn with
  | exhausted | halted | entity => rfl

end Effect

open Effect

/-! ### Requests -/

variable {s : Session} {batch : String} {b : Batch}

/-- A batch that has ended stays as it is. -/
theorem run_next_of_ended (hb : s.batches.get? batch = some b) (hnext : b.next = none)
    (entity : String) : (perform (.next batch entity)).run s = (.ok .exhausted, s) := by
  have hdraw : b.draw ((b.type.scene s.handlers).run depthLimit) = pure (.exhausted, b) := by
    rw [Batch.draw, hnext]
  rw [perform, run_bind, run_draw hb, hdraw]
  show (Except.ok Answer.exhausted, s.withBatch batch b) = _
  rw [withBatch, Table.put_of_get? hb]

/-- A batch that has given all its entities ends. -/
theorem run_next_of_all (hb : s.batches.get? batch = some b) {i : ℕ} (hnext : b.next = some i)
    {n : ℤ} (hcount : b.count.integer? = some n) (hi : n ≤ i) (entity : String) :
    (perform (.next batch entity)).run s = (.ok .exhausted, s.withBatch batch b.ended) := by
  have hdraw : b.draw ((b.type.scene s.handlers).run depthLimit) = pure (.exhausted, b.ended) := by
    rw [Batch.draw, hnext, hcount]
    exact if_neg (by omega)
  rw [perform, run_bind, run_draw hb, hdraw]
  rfl

/-- **A request makes the next entity** as it would be made singly.  If that fails, no entity is
there, and the batch ends. -/
theorem run_next_of_left (hb : s.batches.get? batch = some b) {i : ℕ} (hnext : b.next = some i)
    {n : ℤ} (hcount : b.count.integer? = some n) (hi : (i : ℤ) < n) (entity : String) :
    (perform (.next batch entity)).run s =
      match (singly entity b.type b.initializer i).run s with
      | (.ok className, s') =>
        (.ok (.text className), s'.withBatch batch { b with next := some (i + 1) })
      | (.error h, s') =>
        (.error h, { s' with entities := s.entities }.withBatch batch b.ended) := by
  obtain ⟨entities, hsingly, hmade⟩ := run_singly s entity b i
  rw [perform, run_bind, run_draw hb, Batch.run_draw_of_left hnext hcount hi, hsingly]
  dsimp only at hmade ⊢
  generalize (b.make ((b.type.scene s.handlers).run depthLimit) i).run s.traces = done at hmade ⊢
  obtain ⟨made, traces⟩ := done
  cases made with
  | error h => rfl
  | ok e =>
    rw [hmade e rfl]
    rfl

end Session

end TrackedEntity
