import TrackedEntity.Proofs.Lock.Wakeups

/-!
# Writers that give up

A writer whose wait is interrupted gives its request up: one writer less waits, and nobody is told.
The count stays right, because giving up undoes the arrival.  But the number of writers that wait is
one of the two things that readers wait for.  A reader that was told while a writer waited, and
tested in vain before the writer did, waits for nothing but that writer (`HangsOn`); if the writer
gives up, the reader is stranded: the lock is free, no writer waits, and nobody will tell the reader
(`reader_stranded`).

This is the only way in which a reader is stranded (`ReachableBy.strands_iff`).  Whatever else can
make a lock free of holds and of waiting writers tells those who wait, or is itself let in.
-/

namespace TrackedEntity.Contention

variable {c c' : Contention} {name reader : String} {m : Move}

/-- Whether a thread that gives a request up waits as a writer. -/
def WritersGiveUp (c : Contention) (name : String) (m : Move) : Prop :=
  m = .withdraw → (c.thread name).Awaits .exclusive

/-- Whether a reader waits and was not told, while nobody is inside and no writer waits. -/
structure Strands (c : Contention) (reader : String) : Prop where
  idle : ∀ name, (c.thread name).held = []
  nobody : ∀ name, ¬ (c.thread name).Awaits .exclusive
  untold : (c.thread reader).waiting = some ⟨.shared, false⟩

/-- Whether a reader waits and was not told, while nobody is inside and only one writer waits. -/
structure HangsOn (c : Contention) (reader writer : String) : Prop where
  idle : ∀ name, (c.thread name).held = []
  only : ∀ name, (c.thread name).Awaits .exclusive ↔ name = writer
  untold : (c.thread reader).waiting = some ⟨.shared, false⟩

namespace Strands

/-- Where a reader is stranded, everybody would be let in. -/
theorem admits (h : c.Strands reader) (hc : c.Counted) (a : Access) : c.lock.admits a = true := by
  obtain ⟨hexclusive, hshared⟩ := hc.admits_of_idle h.idle
  cases a with
  | shared => exact hshared h.nobody
  | exclusive => exact hexclusive

/-- **No other step strands a reader**, not even one that was stranded before. -/
theorem eq_withdraw (h : c'.Strands reader) (hc : c.Counted) (hmove : c.move? name m = some c') :
    m = .withdraw := by
  have hadmits := h.admits (hc.step hmove)
  cases move?_eq_some_iff.1 hmove with
  | enter =>
    have hheld := h.idle name
    rw [thread_granted_self] at hheld
    cases hheld
  -- nobody who asks is refused
  | @park a hfree hrefused =>
    exact absurd (hadmits a) (by rw [Bool.not_eq_true]; exact hrefused)
  | wake =>
    have hheld := h.idle name
    rw [thread_granted_self] at hheld
    cases hheld
  | @stay w hwaits hrefused =>
    exact absurd (hadmits w.access) (by rw [Bool.not_eq_true]; exact hrefused)
  | withdraw => rfl
  | leaveTelling =>
    have htold := h.untold
    rw [thread_tellAll, Thread.waiting_tell] at htold
    exact absurd htold.1 Bool.false_ne_true
  | @leave a held hfree hheld htells =>
    -- the last one to leave would have told the reader
    have hreaders : (c.lock.leave a).readers == 0 := by
      have hexclusive := hadmits .exclusive
      rw [Lock.admits, Bool.and_eq_true] at hexclusive
      exact hexclusive.2
    cases a with
    | shared => exact absurd hreaders (by rw [Bool.not_eq_true]; exact htells)
    | exclusive => cases htells

end Strands

/-- A writer that gives up strands those readers that hang on it. -/
theorem strands_withdrawn_iff (hawaits : (c.thread name).Awaits .exclusive) :
    (c.withdrawn name .exclusive).Strands reader ↔ c.HangsOn reader name := by
  have hheld : ∀ other, ((c.withdrawn name .exclusive).thread other).held =
      (c.thread other).held := by
    intro other
    by_cases hne : other = name
    · rw [hne, thread_withdrawn_self]
    · rw [thread_withdrawn_of_ne hne]
  constructor
  · rintro ⟨hidle, hnobody, huntold⟩
    refine ⟨fun other => ?_, fun other => ⟨fun hother => ?_, ?_⟩, ?_⟩
    · rw [← hheld other]
      exact hidle other
    · by_contra hne
      refine hnobody other ?_
      rw [thread_withdrawn_of_ne hne]
      exact hother
    · rintro rfl
      exact hawaits
    · -- who gives up does not wait any more
      have hne : reader ≠ name := by
        rintro rfl
        rw [thread_withdrawn_self] at huntold
        cases huntold
      rw [← thread_withdrawn_of_ne hne]
      exact huntold
  · rintro ⟨hidle, honly, huntold⟩
    refine ⟨fun other => ?_, fun other hother => ?_, ?_⟩
    · rw [hheld other]
      exact hidle other
    · by_cases hne : other = name
      · rw [hne, thread_withdrawn_self] at hother
        cases hother
      · rw [thread_withdrawn_of_ne hne] at hother
        exact hne ((honly other).1 hother)
    · -- the reader waits for another access than the writer
      have hne : reader ≠ name := by
        rintro rfl
        rw [Thread.Awaits, huntold] at hawaits
        cases hawaits
      rw [thread_withdrawn_of_ne hne]
      exact huntold

/-- **Who is stranded, and by whom.**  In every state that steps lead to, where the waits of writers
may be interrupted,

* the number of waiting writers is that of the threads that asked for an exclusive hold and were not
  let in yet;
* a reader waits without having been told, while nobody is inside and no writer waits, if and only
  if the last step was that the only waiting writer gave up, and the reader hung on that one. -/
theorem ReachableBy.strands_iff (h : ReachableBy WritersGiveUp c) :
    c.lock.waitingWriters =
        ((c.names.filter fun name => (c.thread name).Awaits .exclusive).card : ℤ) ∧
      ∀ reader, c.Strands reader ↔
        ∃ before writer, ReachableBy WritersGiveUp before ∧ before.HangsOn reader writer ∧
          before.move? writer .withdraw = some c := by
  refine ⟨?_, fun reader => ⟨fun hstrands => ?_, ?_⟩⟩
  · rw [h.reachable.counted.waiting, Finset.card_filter]
    rfl
  · cases h with
    | start => cases hstrands.untold
    | @step before _ writer m hbefore hmay hmove =>
      obtain rfl := hstrands.eq_withdraw hbefore.reachable.counted hmove
      have hawaits := hmay rfl
      obtain rfl := eq_withdrawn hmove hawaits
      exact ⟨before, writer, hbefore, (strands_withdrawn_iff hawaits).1 hstrands, hmove⟩
  · rintro ⟨before, writer, -, hhangs, hmove⟩
    have hawaits : (before.thread writer).Awaits .exclusive := (hhangs.only writer).2 rfl
    obtain rfl := eq_withdrawn hmove hawaits
    exact (strands_withdrawn_iff hawaits).2 hhangs

/-- A lock that a reader has left, when a writer and another reader were waiting.  Both were told,
and the reader has tested in vain. -/
def deserted : Contention where
  lock := ⟨0, false, 1⟩
  threads := [("a", .idle), ("b", ⟨[], some ⟨.exclusive, true⟩⟩),
    ("c", ⟨[], some ⟨.shared, false⟩⟩)]

theorem reachableBy_deserted : ReachableBy WritersGiveUp deserted := by
  have hread : ReachableBy WritersGiveUp ⟨⟨1, false, 0⟩, [("a", ⟨[.shared], none⟩)]⟩ :=
    .step "a" (.request .shared) .start (fun h => by cases h) rfl
  have hwrite : ReachableBy WritersGiveUp
      ⟨⟨1, false, 1⟩, [("a", ⟨[.shared], none⟩), ("b", ⟨[], some ⟨.exclusive, false⟩⟩)]⟩ :=
    .step "b" (.request .exclusive) hread (fun h => by cases h) rfl
  have hreader : ReachableBy WritersGiveUp
      ⟨⟨1, false, 1⟩, [("a", ⟨[.shared], none⟩), ("b", ⟨[], some ⟨.exclusive, false⟩⟩),
        ("c", ⟨[], some ⟨.shared, false⟩⟩)]⟩ :=
    .step "c" (.request .shared) hwrite (fun h => by cases h) rfl
  have hleft : ReachableBy WritersGiveUp
      ⟨⟨0, false, 1⟩, [("a", .idle), ("b", ⟨[], some ⟨.exclusive, true⟩⟩),
        ("c", ⟨[], some ⟨.shared, true⟩⟩)]⟩ :=
    .step "a" .leave hreader (fun h => by cases h) rfl
  exact .step "c" .test hleft (fun h => by cases h) rfl

theorem thread_deserted (name : String) :
    deserted.thread name = if name = "b" then ⟨[], some ⟨.exclusive, true⟩⟩
      else if name = "c" then ⟨[], some ⟨.shared, false⟩⟩ else .idle := by
  simp only [thread, deserted, Table.get?_cons, beq_iff_eq]
  split_ifs <;> simp_all [Table.get?]

theorem hangsOn_deserted : deserted.HangsOn "c" "b" := by
  refine ⟨fun name => ?_, fun name => ?_, ?_⟩
  · rw [thread_deserted]
    split_ifs <;> rfl
  · rw [thread_deserted]
    split_ifs with hb <;> simp [hb, Thread.Awaits, Thread.idle]
  · rw [thread_deserted]
    rfl

/-- The reader hangs on the writer, and the writer gives up: the reader is stranded. -/
theorem ReachableBy.strands_iff_deserted :
    ∃ c, deserted.move? "b" .withdraw = some c ∧ ReachableBy WritersGiveUp c ∧ c.Strands "c" := by
  have hmay : WritersGiveUp deserted "b" .withdraw := fun _ => rfl
  have hmove : deserted.move? "b" .withdraw = some (deserted.withdrawn "b" .exclusive) := rfl
  have hgivenUp := ReachableBy.step "b" .withdraw reachableBy_deserted hmay hmove
  obtain ⟨-, hstrands⟩ := hgivenUp.strands_iff
  exact ⟨_, hmove, hgivenUp,
    (hstrands "c").2 ⟨deserted, "b", reachableBy_deserted, hangsOn_deserted, hmove⟩⟩

/-- **A writer that gives up strands a reader**: nobody is inside, no writer waits, and a reader
waits without having been told. -/
theorem reader_stranded :
    ∃ c, ReachableBy WritersGiveUp c ∧ (∀ name, (c.thread name).held = []) ∧
      (∀ name, ¬ (c.thread name).Awaits .exclusive) ∧
      (c.thread "c").waiting = some ⟨.shared, false⟩ := by
  have hmay : WritersGiveUp deserted "b" .withdraw := fun _ => rfl
  obtain ⟨hidle, hnobody, huntold⟩ := (strands_withdrawn_iff (hmay rfl)).2 hangsOn_deserted
  exact ⟨_, .step "b" .withdraw reachableBy_deserted hmay rfl, hidle, hnobody, huntold⟩

end TrackedEntity.Contention
