import TrackedEntity.Channel.Basic

/-!
# Changes that compete with other writers

A writer reads the current snapshot, prepares the handlers that it wants to publish, and exchanges
the two in one step. When another writer has published in between, the exchange fails and shows the
snapshot that is current now, and the writer tries again from that one. A removal that finds no
handler to take out in the snapshot it holds ends without an exchange. `Writer.advance` does these
steps one at a time.

The other writers are given by what they do just before each exchange: some work on the channel for
the first exchange, some for the second, and so on. When the list is used up nobody interferes, the
snapshot that the writer holds is current, and the exchange succeeds; so the writer tries at most
once more than there are interferences. A fault in the work of the others ends the writer's attempt;
what they did before it stays done.
-/

namespace TrackedEntity

/-- Where a writer stands in the course of a change. -/
inductive Writer (α : Type u) where
  /-- It has read nothing yet. -/
  | reading
  /-- It holds the snapshot that it saw last. -/
  | holding (held : Snapshot α)
  /-- It is ready to exchange the snapshot that it holds for a candidate. -/
  | prepared (held candidate : Snapshot α)
  /-- It is done: it has published a candidate, or found nothing to change. -/
  | finished (published : Bool)

/-- The next step of a writer that makes a change to a channel. -/
def Writer.advance (e : Edit α) : Writer α → Channel α → Writer α × Channel α
  | .reading, c => (.holding c.current, c)
  | .holding held, c =>
    match e.change? held.handlers with
    | none => (.finished false, c)
    | some handlers =>
      let (candidate, c) := c.prepare handlers
      (.prepared held candidate, c)
  | .prepared held candidate, c =>
    -- what was seen is what was held, or else the snapshot to start from again
    let (seen, c) := c.exchange candidate held
    (if seen.serial = held.serial then .finished true else .holding seen, c)
  | .finished published, c => (.finished published, c)

namespace Channel

/-- What other writers do just before an exchange. -/
abbrev Interference (α ε : Type) := ExceptT ε (StateM (Channel α)) Unit

/-- What became of a change against other writers. -/
structure Attempted (α ε : Type) where
  result : Except ε Unit
  channel : Channel α
  /-- The number of exchanges made. -/
  exchanges : Nat

/-- A change by a writer that holds a snapshot, against interference before each of its
exchanges. -/
def editAgainst {α ε : Type} (e : Edit α) :
    (interference : List (Interference α ε)) → (holding : Writer α) → Channel α → Attempted α ε
  | interference, holding, c =>
    match holding.advance e c with
    | (.finished _, c) => ⟨.ok (), c, 0⟩
    | (prepared, c) =>
      match interference with
      | [] => ⟨.ok (), (prepared.advance e c).2, 1⟩
      | others :: later =>
        match others.run c with
        | (.error f, c) => ⟨.error f, c, 1⟩
        | (.ok (), c) =>
          match prepared.advance e c with
          | (.finished _, c) => ⟨.ok (), c, 1⟩
          | (holding, c) =>
            let attempted := editAgainst e later holding c
            { attempted with exchanges := attempted.exchanges + 1 }

/-- A change by a writer that starts now. -/
def editWith {α ε : Type} (c : Channel α) (e : Edit α) (interference : List (Interference α ε)) :
    Attempted α ε :=
  let (holding, c) := Writer.reading.advance e c
  editAgainst e interference holding c

end Channel

end TrackedEntity
