import TrackedEntity.Proofs.Lock.Exclusion

/-!
# Nobody waits in vain

A thread that waits and was not told to test again has tested in vain, and since then the lock has
not begun to admit it: `Informed`.  The lock admits more only by the end of a hold, and whenever an
end of a hold lets somebody be admitted, everybody who waits is told.  So the invariant carries over
every step, as long as no request is given up: giving up lowers the number of waiting writers, which
readers wait for, and tells nobody.

A thread that waits and was not told therefore waits for somebody, and when nobody holds the lock,
somebody who waits was told and is let in by the next step (`ReachableBy.no_lost_wakeup`).
-/

namespace TrackedEntity

/-! ### When a lock begins to admit -/

namespace Lock

variable {l : Lock} {a b : Access}

theorem admits_of_admits_arrive (hwaiting : 0 ≤ l.waitingWriters)
    (h : (l.arrive a).admits b = true) : l.admits b = true := by
  cases a with
  | shared => exact h
  | exclusive =>
    cases b with
    | shared =>
      -- a writer waits now, so no reader is admitted
      simp only [arrive, admits, Bool.and_eq_true, beq_iff_eq] at h
      omega
    | exclusive => exact h

theorem admits_of_admits_enter (hreaders : 0 ≤ l.readers) (h : (l.enter a).admits b = true) :
    l.admits b = true := by
  cases a with
  | shared =>
    cases b with
    | shared => exact h
    | exclusive =>
      simp only [enter, admits, Bool.and_eq_true, beq_iff_eq] at h
      omega
  | exclusive =>
    cases b with
    | shared => simp [enter, admits] at h
    | exclusive => simp [enter, admits] at h

theorem admits_of_admits_leave (hquiet : (l.leave a).tells a = false)
    (h : (l.leave a).admits b = true) : l.admits b = true := by
  cases a with
  | shared =>
    cases b with
    | shared => exact h
    | exclusive =>
      -- the last reader would have told the others
      simp only [leave, admits, Bool.and_eq_true] at h
      simp only [leave, tells] at hquiet
      rw [hquiet] at h
      exact absurd h.2 Bool.false_ne_true
  | exclusive => simp [tells] at hquiet

theorem admits_eq_false_iff {l : Lock} :
    (l.admits .shared = false ↔ l.writing = true ∨ l.waitingWriters ≠ 0) ∧
      (l.admits .exclusive = false ↔ l.writing = true ∨ l.readers ≠ 0) := by
  constructor
  · cases hw : l.writing <;> simp [admits, hw]
  · cases hw : l.writing <;> simp [admits, hw]

end Lock

namespace Contention

variable {c c' : Contention} {name : String} {a : Access}

/-! ### Those who were not told -/

/-- Whether the lock admits nobody who waits and was not told to test again. -/
def Informed (c : Contention) : Prop :=
  ∀ name a, (c.thread name).waiting = some ⟨a, false⟩ → c.lock.admits a = false

/-- Telling everybody leaves nobody who was not told. -/
theorem informed_tellAll (c : Contention) : c.tellAll.Informed := by
  intro name a hname
  rw [thread_tellAll, Thread.waiting_tell] at hname
  exact absurd hname.1 Bool.false_ne_true

namespace Informed

/-- A step of one thread by which the lock begins to admit nothing, and after which that thread does
not wait, or has just tested in vain. -/
theorem of_others (h : c.Informed)
    (hothers : ∀ other, other ≠ name → c'.thread other = c.thread other)
    (hlock : ∀ a, c'.lock.admits a = true → c.lock.admits a = true)
    (hself : ∀ a, (c'.thread name).waiting = some ⟨a, false⟩ → c'.lock.admits a = false) :
    c'.Informed := by
  intro other a hother
  by_cases hne : other = name
  · subst hne
    exact hself a hother
  · rw [hothers other hne] at hother
    have hbefore := h other a hother
    cases hadmits : c'.lock.admits a with
    | false => rfl
    | true =>
      rw [hlock a hadmits] at hbefore
      exact absurd hbefore.symm Bool.false_ne_true

/-- **A step that gives no request up keeps everybody informed.** -/
theorem step (h : c.Informed) (hc : c.Counted) {m : Move} (hm : m ≠ .withdraw)
    (hmove : c.move? name m = some c') : c'.Informed := by
  have hreaders : 0 ≤ c.lock.readers := by
    rw [hc.readers]
    exact Int.natCast_nonneg _
  have hwaiting : 0 ≤ c.lock.waitingWriters := by
    rw [hc.waiting]
    exact Int.natCast_nonneg _
  cases move?_eq_some_iff.1 hmove with
  | @enter a hfree hadmits =>
    have hothers : ∀ other, other ≠ name →
        ((c.arrived name a).granted name a).thread other = c.thread other := by
      intro other hne
      rw [thread_granted_of_ne hne, thread_arrived_of_ne hne]
    refine h.of_others hothers ?_ ?_
    · intro b hb
      have harrive : 0 ≤ (c.lock.arrive a).readers := by cases a <;> exact hreaders
      exact Lock.admits_of_admits_arrive hwaiting (Lock.admits_of_admits_enter harrive hb)
    · rw [thread_granted_self]
      exact nofun
  | @park a hfree hadmits =>
    have hothers : ∀ other, other ≠ name →
        ((c.arrived name a).refused name a).thread other = c.thread other := by
      intro other hne
      rw [thread_refused_of_ne hne, thread_arrived_of_ne hne]
    refine h.of_others hothers ?_ ?_
    · exact fun b hb => Lock.admits_of_admits_arrive hwaiting hb
    · rw [thread_refused_self]
      rintro b ⟨⟩
      exact hadmits
  | wake hwaits hadmits =>
    refine h.of_others (fun _ hne => thread_granted_of_ne hne) ?_ ?_
    · exact fun b hb => Lock.admits_of_admits_enter hreaders hb
    · rw [thread_granted_self]
      exact nofun
  | stay hwaits hadmits =>
    refine h.of_others (fun _ hne => thread_refused_of_ne hne) (fun _ hb => hb) ?_
    rw [thread_refused_self]
    rintro b ⟨⟩
    exact hadmits
  | withdraw hwaits => exact absurd rfl hm
  | leaveTelling hfree hheld htells => exact informed_tellAll _
  | leave hfree hheld htells =>
    refine h.of_others (fun _ hne => thread_left_of_ne hne) ?_ ?_
    · exact fun b hb => Lock.admits_of_admits_leave htells hb
    · rw [thread_left_self]
      intro b hb
      rw [hfree] at hb
      cases hb

end Informed

/-- Whether a thread's step is not that it gives its request up. -/
def Patient (_ : Contention) (_ : String) (m : Move) : Prop := m ≠ .withdraw

theorem patient_request {a : Access} : Patient c name (.request a) := fun h => by cases h

theorem patient_test : Patient c name .test := fun h => by cases h

theorem patient_leave : Patient c name .leave := fun h => by cases h

theorem ReachableBy.informed (h : ReachableBy Patient c) : c.Informed := by
  induction h with
  | start => exact nofun
  | step name m hc hm hmove ih => exact ih.step hc.reachable.counted hm hmove

/-! ### Progress -/

/-- A thread that waits and is admitted is let in by whatever it does next. -/
theorem let_in_of_admits {told : Bool} (hwaits : (c.thread name).waiting = some ⟨a, told⟩)
    (hheld : (c.thread name).held = []) (hadmits : c.lock.admits a = true) :
    (∃ c', c.move? name .test = some c') ∧
      ∀ m c', Patient c name m → c.move? name m = some c' → c'.thread name = ⟨[a], none⟩ := by
  refine ⟨⟨_, move?_eq_some_iff.2 (.wake hwaits hadmits)⟩, ?_⟩
  intro m c' hm hmove
  cases move?_eq_some_iff.1 hmove with
  | enter hfree => rw [hwaits] at hfree; cases hfree
  | park hfree => rw [hwaits] at hfree; cases hfree
  | @wake w hw =>
    obtain rfl : w = ⟨a, told⟩ := Option.some.inj (hw.symm.trans hwaits)
    rw [thread_granted_self, hheld]
  | @stay w hw hrefused =>
    obtain rfl : w = ⟨a, told⟩ := Option.some.inj (hw.symm.trans hwaits)
    rw [hadmits] at hrefused
    cases hrefused
  | withdraw => exact absurd rfl hm
  | leaveTelling hfree => rw [hwaits] at hfree; cases hfree
  | leave hfree => rw [hwaits] at hfree; cases hfree

theorem Informed.told_of_admits (h : c.Informed) (hawaits : (c.thread name).Awaits a)
    (hadmits : c.lock.admits a = true) : (c.thread name).waiting = some ⟨a, true⟩ := by
  obtain ⟨⟨b, told⟩, hw, rfl⟩ := Option.map_eq_some_iff.1 hawaits
  cases told with
  | true => exact hw
  | false =>
    have hnot := h name b hw
    rw [hadmits] at hnot
    cases hnot

/-- A lock that nobody holds admits a writer, and a reader if no writer waits. -/
theorem Counted.admits_of_idle (h : c.Counted) (hidle : ∀ name, (c.thread name).held = []) :
    c.lock.admits .exclusive = true ∧
      ((∀ name, ¬ (c.thread name).Awaits .exclusive) → c.lock.admits .shared = true) := by
  have hholds : ∀ a, c.holds a = 0 := fun a => total_eq_zero fun name => by simp [hidle name]
  have hwriting : c.lock.writing = false := by
    have hnone := h.writing
    rw [hholds] at hnone
    cases hw : c.lock.writing with
    | false => rfl
    | true => simp [hw] at hnone
  have hreaders : c.lock.readers = 0 := by rw [h.readers, hholds]; rfl
  refine ⟨by simp [Lock.admits, hwriting, hreaders], fun hnobody => ?_⟩
  have hwaiting : c.awaiting .exclusive = 0 :=
    total_eq_zero fun name => if_neg (hnobody name)
  simp [Lock.admits, hwriting, h.waiting, hwaiting]

/-- **No wakeup is lost, and nobody waits for nobody.**  As long as no request is given up,

* a reader that waits and was not told waits for a writer, who is inside or waits as well;
* a writer that waits and was not told waits for somebody inside;
* if nobody holds the lock and somebody waits for it, then somebody who waits was told, can take a
  step, and is let in by it; and if nobody waits either, every request is granted at once. -/
theorem ReachableBy.no_lost_wakeup (h : ReachableBy Patient c) :
    (∀ name, (c.thread name).waiting = some ⟨.shared, false⟩ →
      (∃ other, .exclusive ∈ (c.thread other).held) ∨
        ∃ other, (c.thread other).Awaits .exclusive) ∧
    (∀ name, (c.thread name).waiting = some ⟨.exclusive, false⟩ →
      (∃ other, .exclusive ∈ (c.thread other).held) ∨
        ∃ other, .shared ∈ (c.thread other).held) ∧
    ((∀ name, (c.thread name).held = []) → (∃ name, (c.thread name).waiting ≠ none) →
      ∃ name a, (c.thread name).waiting = some ⟨a, true⟩ ∧
        (∃ c', c.move? name .test = some c') ∧
        ∀ m c', Patient c name m → c.move? name m = some c' → c'.thread name = ⟨[a], none⟩) ∧
    ((∀ name, (c.thread name).held = []) → (∀ name, (c.thread name).waiting = none) →
      ∀ name a, ∃ c', c.move? name (.request a) = some c' ∧ c'.thread name = ⟨[a], none⟩) := by
  have hc := h.reachable.counted
  have hinformed := h.informed
  refine ⟨?_, ?_, ?_, ?_⟩
  · intro name hname
    rcases Lock.admits_eq_false_iff.1.1 (hinformed name .shared hname) with hw | hw
    · exact Or.inl (hc.writing_iff.1 hw)
    · rw [hc.waiting] at hw
      exact Or.inr (exists_awaits_of_awaiting_pos (by omega))
  · intro name hname
    rcases Lock.admits_eq_false_iff.2.1 (hinformed name .exclusive hname) with hw | hr
    · exact Or.inl (hc.writing_iff.1 hw)
    · rw [hc.readers] at hr
      exact Or.inr (exists_mem_of_holds_pos (by omega))
  · intro hidle hsome
    obtain ⟨hexclusive, hshared⟩ := hc.admits_of_idle hidle
    -- a writer goes first if one waits
    by_cases hwriter : ∃ name, (c.thread name).Awaits .exclusive
    · obtain ⟨name, hname⟩ := hwriter
      have htold := hinformed.told_of_admits hname hexclusive
      exact ⟨name, .exclusive, htold, let_in_of_admits htold (hidle name) hexclusive⟩
    · have hadmits := hshared fun name hname => hwriter ⟨name, hname⟩
      obtain ⟨name, hname⟩ := hsome
      obtain ⟨⟨a, told⟩, hw⟩ := Option.ne_none_iff_exists'.1 hname
      have hawaits : (c.thread name).Awaits .shared := by
        cases a with
        | shared => rw [Thread.Awaits, hw]; rfl
        | exclusive => exact absurd ⟨name, by rw [Thread.Awaits, hw]; rfl⟩ hwriter
      have htold := hinformed.told_of_admits hawaits hadmits
      exact ⟨name, .shared, htold, let_in_of_admits htold (hidle name) hadmits⟩
  · intro hidle hnobody name a
    obtain ⟨hexclusive, hshared⟩ := hc.admits_of_idle hidle
    have hnowriter : ∀ name, ¬ (c.thread name).Awaits .exclusive := by
      intro name hname
      rw [Thread.Awaits, hnobody name] at hname
      cases hname
    have hadmits : (c.lock.arrive a).admits a = true := by
      cases a with
      | shared => exact hshared hnowriter
      | exclusive => exact hexclusive
    refine ⟨_, move?_eq_some_iff.2 (.enter (hnobody name) hadmits), ?_⟩
    rw [thread_granted_self, thread_arrived_self, hidle name]

/-- A writer and a reader that waited for a reader who has left: both were told, and the writer is
let in by its next test. -/
theorem ReachableBy.no_lost_wakeup_handover :
    ∃ c : Contention, ReachableBy Patient c ∧ (∀ name, (c.thread name).held = []) ∧
      (c.thread "b").waiting = some ⟨.exclusive, true⟩ ∧
      (c.thread "c").waiting = some ⟨.shared, true⟩ ∧
      ∃ name a, (c.thread name).waiting = some ⟨a, true⟩ ∧
        ∃ c', c.move? name .test = some c' ∧ c'.thread name = ⟨[a], none⟩ := by
  have hread : ReachableBy Patient ⟨⟨1, false, 0⟩, [("a", ⟨[.shared], none⟩)]⟩ :=
    .step "a" (.request .shared) .start patient_request rfl
  have hwrite : ReachableBy Patient
      ⟨⟨1, false, 1⟩, [("a", ⟨[.shared], none⟩), ("b", ⟨[], some ⟨.exclusive, false⟩⟩)]⟩ :=
    .step "b" (.request .exclusive) hread patient_request rfl
  have hreader : ReachableBy Patient
      ⟨⟨1, false, 1⟩, [("a", ⟨[.shared], none⟩), ("b", ⟨[], some ⟨.exclusive, false⟩⟩),
        ("c", ⟨[], some ⟨.shared, false⟩⟩)]⟩ :=
    .step "c" (.request .shared) hwrite patient_request rfl
  have hleft : ReachableBy Patient
      ⟨⟨0, false, 1⟩, [("a", ⟨[], none⟩), ("b", ⟨[], some ⟨.exclusive, true⟩⟩),
        ("c", ⟨[], some ⟨.shared, true⟩⟩)]⟩ :=
    .step "a" .leave hreader patient_leave rfl
  have hidle : ∀ name, (Contention.thread ⟨⟨0, false, 1⟩, [("a", ⟨[], none⟩),
      ("b", ⟨[], some ⟨.exclusive, true⟩⟩), ("c", ⟨[], some ⟨.shared, true⟩⟩)]⟩
      name).held = [] := by
    intro name
    rw [thread, Table.get?_cons, Table.get?_cons, Table.get?_cons]
    split_ifs <;> rfl
  obtain ⟨-, -, hnext, -⟩ := hleft.no_lost_wakeup
  obtain ⟨name, a, htold, ⟨c', hmove⟩, hin⟩ := hnext hidle ⟨"b", Option.some_ne_none _⟩
  exact ⟨_, hleft, hidle, rfl, rfl, name, a, htold, c', hmove, hin .test c' patient_test hmove⟩

end Contention

end TrackedEntity
