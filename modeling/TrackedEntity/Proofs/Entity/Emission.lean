import TrackedEntity.Proofs.Channel.Edits
import TrackedEntity.Proofs.Entity.Tracker
import TrackedEntity.Proofs.Exec.Emission

/-!
# What an emission calls

An emission calls the handlers that are subscribed when it begins, each once, in order, up to the
first one that does not return.  Whatever these do in the meantime makes no difference to it: they
may subscribe and unsubscribe, assign properties and so begin further emissions, or halt.

This holds of every scene and every runner that it admits, so of entities of all types and of
channels without an entity.  A `Journal` says it of the events of any operation: the subscribers at
the end are those at the start with all changes applied in the order in which they were made; a
handler is called on behalf of an emission that began before; an emission is to the handlers that
are subscribed at its place.  It occupies a stretch of the history of its own (`EmissionSpans`):
nothing is called for it later, and nothing is called in between for an emission that began earlier.
That stretch is what the bodies of its handlers did (`EmissionRuns`, `Journal.exists_runs`).

Journals of two operations one after the other make a journal of both (`Journal.append`).  Calls of
handlers are written down in a journal with an `outer` emission to which they belong
(`journal_callHandlers`), and when the emission has ended, its journal is closed
(`Journal.close`).
-/

namespace TrackedEntity

open Exec

/-! ### Changes among events -/

/-- The change of the subscribers that an event was. -/
def Event.edit? : Event → Option (Edit Handler)
  | .edited change => some change
  | _ => none

/-- The subscribers after events: all changes are applied, in order. -/
def subscribedAfter (hs : List Handler) (events : List Event) : List Handler :=
  (events.filterMap Event.edit?).foldl (fun hs change => change.onList hs) hs

theorem subscribedAfter_append (hs : List Handler) (xs ys : List Event) :
    subscribedAfter hs (xs ++ ys) = subscribedAfter (subscribedAfter hs xs) ys := by
  rw [subscribedAfter, List.filterMap_append, List.foldl_append]
  rfl

/-! ### Stretches of the history -/

/-- Whether the emission at the place `first` of some events, about a property, is a run of its own
that ends before the place `last`. -/
structure Scene.EmissionSpans (scene : Scene) (past events : List Event) (first last : ℕ)
    (name : String) : Prop where
  run : ∃ run sender m r m', scene.Admits run ∧ (notify run sender name).run m = (r, m') ∧
    m.history = past ++ events.take first ∧ m'.history = past ++ events.take last
  lt : first < last
  le : last ≤ events.length
  /-- All calls on its behalf are made until then. -/
  before_last : ∀ {i : ℕ} {h : Handler} {sender : Value} {name' : String} {state : EntityState},
    events[i]? = some (.called (past.length + first) h sender name' state) → i < last
  /-- No calls are made in between on behalf of an earlier emission. -/
  no_earlier : ∀ {i k : ℕ} {h : Handler} {sender : Value} {name' : String} {state : EntityState},
    first < i → i < last → events[i]? = some (.called k h sender name' state) →
    past.length + first ≤ k

/-- Whether the emission at the place `first` of some events runs the bodies of its handlers, which
are all that are called on its behalf, up to the place `last`. -/
structure Scene.EmissionRuns (scene : Scene) (past events : List Event) (first last : ℕ)
    (name : String) (hs : List Handler) : Prop extends
    scene.EmissionSpans past events first last name where
  bodies : ∃ run sender m called r m', scene.Admits run ∧
    m.history = past ++ events.take (first + 1) ∧ m'.history = past ++ events.take last ∧
    CallsEnd run (past.length + first) sender name hs m called r m' ∧
    calledFor (past.length + first) events = called

namespace Scene.EmissionSpans

variable {scene : Scene} {past xs ys : List Event} {first last : ℕ} {name : String}

/-- More events after it make no difference, if nothing is called on its behalf in them. -/
theorem extend (h : scene.EmissionSpans past xs first last name)
    (hys : ∀ {i k : ℕ} {hd : Handler} {sender : Value} {name' : String} {state : EntityState},
      ys[i]? = some (.called k hd sender name' state) → k ≠ past.length + first) :
    scene.EmissionSpans past (xs ++ ys) first last name := by
  have hle := h.le
  have hlt := h.lt
  have htake : ∀ {n : ℕ}, n ≤ xs.length → (xs ++ ys).take n = xs.take n := fun hn =>
    List.take_append_of_le_length hn
  refine ⟨?_, h.lt, ?_, ?_, ?_⟩
  · rw [htake hle, htake (by omega)]
    exact h.run
  · rw [List.length_append]
    omega
  · intro i hd sender name' state hi
    rcases getElem?_append_cases hi with ⟨-, hi⟩ | ⟨n, -, hn⟩
    · exact h.before_last hi
    · exact absurd rfl (hys hn)
  · intro i k hd sender name' state hfirst hlast hi
    rcases getElem?_append_cases hi with ⟨-, hi⟩ | ⟨n, rfl, -⟩
    · exact h.no_earlier hfirst hlast hi
    · omega

/-- More events before it make no difference. -/
theorem prepend (h : scene.EmissionSpans (past ++ xs) ys first last name) :
    scene.EmissionSpans past (xs ++ ys) (xs.length + first) (xs.length + last) name := by
  have hplace : past.length + (xs.length + first) = (past ++ xs).length + first := by
    rw [List.length_append, Nat.add_assoc]
  refine ⟨?_, ?_, ?_, ?_, ?_⟩
  · rw [take_append_add, take_append_add, ← List.append_assoc, ← List.append_assoc]
    exact h.run
  · have hlt := h.lt
    omega
  · have hle := h.le
    rw [List.length_append]
    omega
  · intro i hd sender name' state hi
    rw [hplace] at hi
    rcases getElem?_append_cases hi with ⟨hlt, hi⟩ | ⟨n, rfl, hn⟩
    · omega
    · have hn' := h.before_last hn
      omega
  · intro i k hd sender name' state hfirst hlast hi
    rw [hplace]
    rcases getElem?_append_cases hi with ⟨hlt, -⟩ | ⟨n, rfl, hn⟩
    · omega
    · exact h.no_earlier (by omega) (by omega) hn

end Scene.EmissionSpans

/-! ### Journals -/

/-- What is true of the `events` of an operation on an entity with a channel: `past` is the history
before them, the subscribers are first `hs` and in the end `hs'`.  Some calls may be on behalf of an
emission in the past, the `outer` one, about a property and with a sender. -/
structure Scene.Journal (scene : Scene) (outer : Option (ℕ × Value × String)) (past : List Event)
    (hs : List Handler) (events : List Event) (hs' : List Handler) : Prop where
  subscribed : hs' = subscribedAfter hs events
  called : ∀ {j k : ℕ} {h : Handler} {sender : Value} {name : String} {state : EntityState},
    events[j]? = some (.called k h sender name state) →
    outer = some (k, sender, name) ∨
      ∃ n ts, n < j ∧ k = past.length + n ∧ events[n]? = some (.emitted name ts)
  emitted : ∀ {j : ℕ} {name : String} {ts : List Handler},
    events[j]? = some (.emitted name ts) →
    ts = subscribedAfter hs (events.take j) ∧ ∃ last, scene.EmissionSpans past events j last name

namespace Scene.Journal

variable {scene : Scene} {outer : Option (ℕ × Value × String)} {past events xs ys : List Event}
  {hs hs₁ hs' : List Handler} {name : String} {sender : Value}

/-- An operation that left nothing in the history. -/
theorem nil : scene.Journal outer past hs [] hs where
  subscribed := rfl
  called h := by simp at h
  emitted h := by simp at h

/-- A single event that is neither an emission nor a call. -/
theorem single {event : Event} (he : ∀ name ts, event ≠ .emitted name ts)
    (hc : ∀ k h sender name state, event ≠ .called k h sender name state) :
    scene.Journal outer past hs [event] (subscribedAfter hs [event]) where
  subscribed := rfl
  called h := absurd (List.mem_singleton.1 (List.mem_of_getElem? h)).symm (hc _ _ _ _ _)
  emitted h := absurd (List.mem_singleton.1 (List.mem_of_getElem? h)).symm (he _ _)

/-- A single call on behalf of the outer emission. -/
theorem call (k : ℕ) (h : Handler) (state : EntityState) :
    scene.Journal (some (k, sender, name)) past hs [.called k h sender name state] hs where
  subscribed := rfl
  called hj := by
    obtain ⟨rfl, -, rfl, rfl, -⟩ :=
      Event.called.inj (List.mem_singleton.1 (List.mem_of_getElem? hj))
    exact Or.inl rfl
  emitted hj := by cases List.mem_singleton.1 (List.mem_of_getElem? hj)

/-- An outer emission need not call anything. -/
theorem of_none (h : scene.Journal none past hs events hs') (outer : Option (ℕ × Value × String)) :
    scene.Journal outer past hs events hs' where
  subscribed := h.subscribed
  called hj := by
    rcases h.called hj with hnone | hemission
    · cases hnone
    · exact Or.inr hemission
  emitted := h.emitted

/-- Calls belong to the outer emission or to one among the events. -/
theorem tag_bounds (h : scene.Journal outer past hs events hs') {j k : ℕ} {hd : Handler}
    {sender : Value} {name : String} {state : EntityState}
    (hj : events[j]? = some (.called k hd sender name state)) :
    outer = some (k, sender, name) ∨ past.length ≤ k ∧ k < past.length + events.length := by
  rcases h.called hj with houter | ⟨n, ts, hnj, rfl, hn⟩
  · exact Or.inl houter
  · have hlt := (List.getElem?_eq_some_iff.1 hn).1
    exact Or.inr ⟨by omega, by omega⟩

/-- **Journals of two operations one after the other make a journal of both.** -/
theorem append (houter : ∀ k sender name, outer = some (k, sender, name) → k < past.length)
    (h : scene.Journal outer past hs xs hs₁) (h' : scene.Journal outer (past ++ xs) hs₁ ys hs') :
    scene.Journal outer past hs (xs ++ ys) hs' := by
  have hlength : (past ++ xs).length = past.length + xs.length := List.length_append
  refine ⟨?_, ?_, ?_⟩
  · rw [subscribedAfter_append, ← h.subscribed]
    exact h'.subscribed
  · intro j k hd sender name state hj
    rcases getElem?_append_cases hj with ⟨-, hj⟩ | ⟨n, rfl, hn⟩
    · rcases h.called hj with hout | ⟨n, ts, hnj, hk, hn⟩
      · exact Or.inl hout
      · exact Or.inr ⟨n, ts, hnj, hk, getElem?_append_of_left hn ys⟩
    · rcases h'.called hn with hout | ⟨n', ts, hlt, hk, hn'⟩
      · exact Or.inl hout
      · refine Or.inr ⟨xs.length + n', ts, by omega, by omega, ?_⟩
        rw [getElem?_append_add, hn']
  · intro j name ts hj
    rcases getElem?_append_cases hj with ⟨hlt, hj⟩ | ⟨n, rfl, hn⟩
    · obtain ⟨hts, last, hspans⟩ := h.emitted hj
      rw [take_append_of_getElem? hj]
      refine ⟨hts, last, hspans.extend ?_⟩
      -- what comes later is called on behalf of the outer emission or of later ones
      intro i k hd sender name' state hi hk
      rcases h'.tag_bounds hi with hout | ⟨hle, -⟩
      · have hpast := houter _ _ _ hout
        omega
      · omega
    · obtain ⟨hts, last, hspans⟩ := h'.emitted hn
      refine ⟨?_, xs.length + last, hspans.prepend⟩
      rw [take_append_add, subscribedAfter_append, ← h.subscribed]
      exact hts

/-- **The journal of an emission that has ended** is closed: the calls on its behalf are calls on
behalf of an emission among the events. -/
theorem close {run : Runner} {m m' : Moment} {r : Except Halt Unit} (hrun : scene.Admits run)
    (hr : (notify run sender name).run m = (r, m')) (hm : m.history = past)
    (hm' : m'.history = past ++ .emitted name hs :: events)
    (h : scene.Journal (some (past.length, sender, name)) (past ++ [.emitted name hs]) hs events
      hs') :
    scene.Journal none past hs (.emitted name hs :: events) hs' := by
  have hlength : (past ++ [Event.emitted name hs]).length = past.length + 1 := List.length_append
  have hcalls : ∀ {j k : ℕ} {hd : Handler} {sender' : Value} {name' : String}
      {state : EntityState},
      (Event.emitted name hs :: events)[j]? = some (.called k hd sender' name' state) →
      ∃ j', j = j' + 1 ∧ events[j']? = some (.called k hd sender' name' state) := by
    intro j k hd sender' name' state hj
    cases j with
    | zero => cases Option.some.inj hj
    | succ j' => exact ⟨j', rfl, hj⟩
  refine ⟨h.subscribed, ?_, ?_⟩
  · intro j k hd sender' name' state hj
    obtain ⟨j', rfl, hj'⟩ := hcalls hj
    refine Or.inr ?_
    rcases h.called hj' with hout | ⟨n, ts, hlt, hk, hn⟩
    · obtain ⟨rfl, rfl, rfl⟩ : past.length = k ∧ sender = sender' ∧ name = name' := by
        simpa using hout
      exact ⟨0, hs, by omega, rfl, rfl⟩
    · exact ⟨n + 1, ts, by omega, by omega, hn⟩
  · intro j name' ts hj
    cases j with
    | zero =>
      obtain ⟨rfl, rfl⟩ := Event.emitted.inj (Option.some.inj hj)
      refine ⟨rfl, events.length + 1, ⟨run, sender, m, r, m', hrun, hr, ?_, ?_⟩, by omega,
        le_refl _, fun hi => (List.getElem?_eq_some_iff.1 hi).1, ?_⟩
      · rw [hm, List.take_zero, List.append_nil]
      · rw [hm', ← List.length_cons, List.take_length]
      · intro i k hd sender' name' state _ _ hi
        obtain ⟨i', -, hi'⟩ := hcalls hi
        rcases h.tag_bounds hi' with hout | ⟨hle, -⟩
        · obtain ⟨rfl, -⟩ : past.length = k ∧ _ := by simpa using hout
          omega
        · omega
    | succ j' =>
      obtain ⟨hts, last, hspans⟩ := h.emitted hj
      refine ⟨hts, last + 1, ?_⟩
      have hall := hspans.prepend
      rw [List.length_singleton, Nat.add_comm 1, Nat.add_comm 1] at hall
      exact hall

end Scene.Journal

/-! ### Everything has a journal -/

/-- Whether what happened between two moments has a journal, if there is a channel at first. -/
def Scene.Journals (scene : Scene) (m m' : Moment) : Prop :=
  ∀ c, m.entity.channel = some c → ∃ events c', m'.history = m.history ++ events ∧
    m'.entity.channel = some c' ∧ scene.Journal none m.history c.handlers events c'.handlers

namespace Scene

variable {scene : Scene} {run : Runner} {m m' : Moment} {c : Channel Handler}

/-- Operations that leave history and channel alone have an empty journal. -/
theorem journals_of_eq (hhistory : m'.history = m.history)
    (hchannel : m'.entity.channel = m.entity.channel) : scene.Journals m m' := fun c hc =>
  ⟨[], c, by rw [hhistory, List.append_nil], by rw [hchannel, hc], .nil⟩

theorem journals_after {event : Event} (he : ∀ name ts, event ≠ .emitted name ts)
    (hc : ∀ k h sender name state, event ≠ .called k h sender name state) :
    scene.Journals m (m.after event) := by
  intro c hchannel
  have hsingle : scene.Journal none m.history c.handlers [event]
      (subscribedAfter c.handlers [event]) := .single he hc
  cases event with
  | edited change =>
    refine ⟨[.edited change], c.edit change, rfl, ?_, ?_⟩
    · show m.entity.channel.map _ = _
      rw [hchannel]
      rfl
    · rw [Edit.handlers_edit]
      exact hsingle
  | logged v => exact ⟨[.logged v], c, rfl, hchannel, hsingle⟩
  | stored name ordinal v => exact ⟨[.stored name ordinal v], c, rfl, hchannel, hsingle⟩
  | emitted name ts => exact absurd rfl (he name ts)
  | called k h sender name state => exact absurd rfl (hc k h sender name state)

theorem frames_journals : Frames scene.Journals where
  trans {m₁ m₂ m₃} h₁₂ h₂₃ c hc := by
    obtain ⟨xs, c₁, hx, hc₁, hxs⟩ := h₁₂ c hc
    obtain ⟨ys, c₂, hy, hc₂, hys⟩ := h₂₃ c₁ hc₁
    rw [hx] at hys
    exact ⟨xs ++ ys, c₂, by rw [hy, hx, List.append_assoc], hc₂, hxs.append nofun hys⟩
  quiet m _ _ := journals_of_eq rfl rfl
  log _ _ := journals_after nofun nofun
  edit _ _ := journals_after nofun nofun

section Calls

variable (hrun : ∀ body args m, scene.Journals m ((run body args).run m).2)
include hrun

/-- **The calls of an emission** have a journal in which they belong to it, and are the ones that
are made on its behalf. -/
theorem journal_callHandlers {n : ℕ} {sender : Value} {name : String} {hs : List Handler}
    {r : Except Halt Unit} (hc : m.entity.channel = some c) (hn : n < m.history.length)
    (hr : (callHandlers run n sender name hs).run m = (r, m')) :
    ∃ events c' called, m'.history = m.history ++ events ∧ m'.entity.channel = some c' ∧
      scene.Journal (some (n, sender, name)) m.history c.handlers events c'.handlers ∧
      CallsEnd run n sender name hs m called r m' ∧ calledFor n events = called := by
  induction hs generalizing m c with
  | nil =>
    obtain ⟨rfl, rfl⟩ := Prod.mk.inj hr
    exact ⟨[], c, [], (List.append_nil _).symm, hc, .nil, .returned (.nil m), rfl⟩
  | cons h hs ih =>
    -- the call itself, then what the body of the handler does
    let event : Event := .called n h sender name m.entity
    obtain ⟨xs, c₁, hx, hc₁, hxs⟩ := hrun h.body [sender, .str name] (m.after event) c hc
    have houter : ∀ k sender' name', some (n, sender, name) = some (k, sender', name') →
        k < m.history.length := by
      rintro k _ _ heq
      obtain ⟨rfl, -⟩ : n = k ∧ _ := by simpa using heq
      exact hn
    have hboth : scene.Journal (some (n, sender, name)) m.history c.handlers (event :: xs)
        c₁.handlers := (Journal.call n h m.entity).append houter (hxs.of_none _)
    have hcalled : calledFor n (event :: xs) = [h] := by
      have hbody : calledFor n xs = [] := calledFor_eq_nil fun k _ _ _ _ hmem => by
        obtain ⟨j, hj⟩ := List.mem_iff_getElem?.1 hmem
        rcases hxs.tag_bounds hj with hout | ⟨hle, -⟩
        · cases hout
        · rw [Moment.length_history_after] at hle
          omega
      rw [← List.singleton_append, calledFor_append, hbody, List.append_nil]
      simp [event, calledFor, Event.calledFor?]
    have hhistory : ((run h.body [sender, .str name]).run (m.after event)).2.history =
        m.history ++ event :: xs := by
      rw [hx]
      show m.history ++ [event] ++ xs = _
      rw [List.append_assoc, List.singleton_append]
    rw [run_callHandlers_cons] at hr
    cases hb : (run h.body [sender, .str name]).run (m.after event) with
    | mk r₁ m₁ =>
      rw [hb] at hc₁ hhistory
      rw [show (run h.body [sender, .str name]).run (m.after _) = (r₁, m₁) from hb] at hr
      cases r₁ with
      | error f =>
        obtain ⟨rfl, rfl⟩ := Prod.mk.inj hr
        have hsplit : h :: hs = [] ++ h :: hs := rfl
        exact ⟨event :: xs, c₁, [h], hhistory, hc₁, hboth, .halted hsplit (.nil m) hb, hcalled⟩
      | ok w =>
        have hn₁ : n < m₁.history.length := by
          rw [show m₁.history = _ from hhistory, List.length_append]
          omega
        obtain ⟨ys, c₂, called, hy, hc₂, hys, hend, hcalled'⟩ := ih hc₁ hn₁ hr
        rw [show m₁.history = _ from hhistory] at hy hys
        refine ⟨event :: xs ++ ys, c₂, h :: called, ?_, hc₂, hboth.append houter hys,
          .cons hb hend, ?_⟩
        · rw [hy, List.append_assoc]
        · rw [calledFor_append, hcalled, hcalled', List.singleton_append]

/-- An emission has a journal. -/
theorem journal_notify (hadmits : scene.Admits run) {sender : Value} {name : String}
    {r : Except Halt Unit} (hc : m.entity.channel = some c)
    (hr : (notify run sender name).run m = (r, m')) :
    ∃ events c' called, m'.history = m.history ++ .emitted name c.handlers :: events ∧
      m'.entity.channel = some c' ∧
      scene.Journal (some (m.history.length, sender, name))
        (m.history ++ [.emitted name c.handlers]) c.handlers events c'.handlers ∧
      scene.Journal none m.history c.handlers (.emitted name c.handlers :: events) c'.handlers ∧
      CallsEnd run m.history.length sender name c.handlers (m.after (.emitted name c.handlers))
        called r m' ∧
      calledFor m.history.length events = called := by
  have hcalls := hr
  rw [run_notify hc] at hcalls
  have hlt : m.history.length < (m.after (.emitted name c.handlers)).history.length := by
    rw [Moment.length_history_after]
    omega
  obtain ⟨events, c', called, hevents, hc', hjournal, hend, hcalled⟩ :=
    journal_callHandlers (m := m.after (.emitted name c.handlers)) hrun hc hlt hcalls
  have hhistory : m'.history = m.history ++ .emitted name c.handlers :: events := by
    rw [hevents]
    show m.history ++ [_] ++ events = _
    rw [List.append_assoc, List.singleton_append]
  exact ⟨events, c', called, hhistory, hc', hjournal, .close hadmits hr rfl hhistory hjournal, hend,
    hcalled⟩

theorem journals_notify (hadmits : scene.Admits run) (sender : Value) (name : String)
    (m : Moment) : scene.Journals m ((notify run sender name).run m).2 := by
  intro c hc
  obtain ⟨events, c', -, hevents, hc', -, hjournal, -⟩ := journal_notify hrun hadmits hc rfl
  exact ⟨_, c', hevents, hc', hjournal⟩

/-- The rest of an assignment has a journal, also where slots or mask refuse it. -/
theorem journals_finish (hadmits : scene.Admits run) (s : Setter) (v : Value) (m : Moment) :
    scene.Journals m ((s.finish run v).run m).2 := by
  have hframes : Frames scene.Journals := frames_journals
  have hwrite : scene.Journals m ((writeSlot s.ordinal v).run m).2 := by
    unfold writeSlot
    split
    · exact journals_of_eq rfl rfl
    · rw [run_bind_ok (run_entity m)]
      split
      · exact journals_of_eq rfl rfl
      · exact journals_of_eq rfl rfl
  have hmark : ∀ m, scene.Journals m ((mark s.ordinal).run m).2 := by
    intro m
    unfold mark
    rw [run_bind_ok (run_entity m), run_bind, run_ofExcept]
    cases m.entity.mask.mark s.ordinal with
    | error f => exact journals_of_eq rfl rfl
    | ok mask => exact journals_of_eq rfl rfl
  unfold Setter.finish
  refine hframes.seq hwrite fun _ m₁ _ => ?_
  have hstored : scene.Journals m₁ ((record (.stored s.name s.ordinal v)).run m₁).2 :=
    fun c hc => ⟨[.stored s.name s.ordinal v], c, rfl, hc, .single nofun nofun⟩
  refine hframes.seq hstored fun _ m₂ _ => ?_
  refine hframes.seq (hmark m₂) fun _ m₃ _ => ?_
  split
  · exact hframes.seq (hframes.of_quiet Quiet.self m₃) fun self m₄ _ =>
      journals_notify hrun hadmits self s.name m₄
  · exact hframes.refl m₃

end Calls

/-- **Whatever is composed of the operations of an entity has a journal.** -/
theorem confines_journals : scene.Confines scene.Journals where
  toFrames := frames_journals
  assign hadmits hrun s _ v m :=
    frames_journals.assign hrun (journals_finish hrun hadmits s v) m

/-- What an emission that is a run of its own adds to the history: its beginning, and then what the
bodies of its handlers do. -/
theorem EmissionSpans.exists_callsEnd {past events : List Event} {first last : ℕ} {name : String}
    (h : scene.EmissionSpans past events first last name) :
    ∃ run sender m called r m' hs xs, scene.Admits run ∧
      m.history = past ++ (events.take first ++ [.emitted name hs]) ∧
      m'.history = past ++ events.take last ∧
      events.take last = events.take first ++ .emitted name hs :: xs ∧
      CallsEnd run (past.length + first) sender name hs m called r m' ∧
      calledFor (past.length + first) xs = called := by
  obtain ⟨run, sender, m, r, m', hadmits, hr, hm, hm'⟩ := h.run
  have hle := h.le
  have hlt := h.lt
  have hlength : m.history.length = past.length + first := by
    rw [hm, List.length_append, List.length_take]
    omega
  cases hc : m.entity.channel with
  | none =>
    -- nobody can be told, but the history has grown
    have hstays : m' = m := by
      unfold notify at hr
      rw [run_bind_ok (run_entity m), hc] at hr
      exact (Prod.mk.inj hr).2.symm
    have hlength' : m'.history.length = past.length + last := by
      rw [hm', List.length_append, List.length_take]
      omega
    rw [hstays] at hlength'
    omega
  | some c =>
    obtain ⟨xs, c', called, hxs, -, -, -, hend, hcalled⟩ :=
      journal_notify (confines_journals.of_admits hadmits) hadmits hc hr
    rw [hlength] at hend hcalled
    have htake : events.take last = events.take first ++ .emitted name c.handlers :: xs := by
      rw [hxs, hm, List.append_assoc] at hm'
      exact (List.append_cancel_left hm').symm
    refine ⟨run, sender, _, called, r, m', c.handlers, xs, hadmits, ?_, hm', htake, hend, hcalled⟩
    show m.history ++ [_] = _
    rw [hm, List.append_assoc]

/-- **Emissions run the bodies of their handlers.** -/
theorem Journal.exists_runs {past events : List Event} {hs hs' : List Handler}
    (h : scene.Journal none past hs events hs') {j : ℕ} {name : String} {ts : List Handler}
    (hj : events[j]? = some (.emitted name ts)) :
    ∃ last, scene.EmissionRuns past events j last name ts := by
  obtain ⟨-, last, hspans⟩ := h.emitted hj
  refine ⟨last, hspans, ?_⟩
  obtain ⟨run, sender, m, called, r, m', ts', xs, hadmits, hm, hm', htake, hend, hcalled⟩ :=
    hspans.exists_callsEnd
  have hlength : (events.take j).length = j := by
    rw [List.length_take]
    have hlt := hspans.lt
    have hle := hspans.le
    omega
  have hall : events = events.take j ++ (.emitted name ts' :: xs ++ events.drop last) := by
    rw [← List.append_assoc, ← htake, List.take_append_drop]
  -- the event at the place is the beginning of this emission
  have hplace : events[j]? = some (.emitted name ts') := by
    conv_lhs => rw [hall, List.getElem?_append_right hlength.le, hlength, Nat.sub_self]
    rfl
  obtain ⟨-, rfl⟩ := Event.emitted.inj (Option.some.inj (hj.symm.trans hplace))
  refine ⟨run, sender, m, called, r, m', hadmits, ?_, hm', hend, ?_⟩
  · rw [hm, List.take_add_one, hj]
    rfl
  · -- nothing is called on its behalf before it, or after its end
    have hearlier : calledFor (past.length + j) (events.take j) = [] :=
      calledFor_eq_nil fun k hd sender' name' state hmem => by
        obtain ⟨i, hi⟩ := List.mem_iff_getElem?.1 hmem
        have hij : i < j := hlength ▸ (List.getElem?_eq_some_iff.1 hi).1
        rw [List.getElem?_take_of_lt hij] at hi
        rcases h.called hi with hnone | ⟨n, _, hni, hk, -⟩
        · cases hnone
        · omega
    have hlater : calledFor (past.length + j) (events.drop last) = [] :=
      calledFor_eq_nil fun k hd sender' name' state hmem hk => by
        obtain ⟨i, hi⟩ := List.mem_iff_getElem?.1 hmem
        rw [List.getElem?_drop, hk] at hi
        have hbefore := hspans.before_last hi
        omega
    have hbegin : calledFor (past.length + j) [Event.emitted name ts] = [] := rfl
    rw [hall, ← List.singleton_append, calledFor_append, calledFor_append, calledFor_append,
      hearlier, hbegin, hlater, hcalled, List.nil_append, List.nil_append, List.append_nil]

/-- **An emission calls exactly the handlers that are subscribed when it begins**, whatever the
bodies of handlers and hooks do.  It adds `events` to the history such that

* the handlers called on its behalf are all of them, in order, or, if it ends with a halt, those up
  to the first one whose body halts; they are called with its sender and its property;
* all other calls are on behalf of emissions that begin in the meantime, each of which is to the
  handlers subscribed at its place and is itself such a run, from that place to a later one: until
  then nothing is called on behalf of an earlier emission, and after that nothing on its own behalf;
* in the end the subscribers are those at the start with all changes that were made applied, in
  order. -/
theorem notify_calls_subscribed (hrun : scene.Admits run) (hc : m.entity.channel = some c)
    {sender : Value} {name : String} {r : Except Halt Unit}
    (hr : (notify run sender name).run m = (r, m')) :
    ∃ events called c',
      m'.history = m.history ++ .emitted name c.handlers :: events ∧
      CallsEnd run m.history.length sender name c.handlers (m.after (.emitted name c.handlers))
        called r m' ∧
      calledFor m.history.length events = called ∧
      (∀ (j k : ℕ) h sender' name' state, events[j]? = some (.called k h sender' name' state) →
        (k = m.history.length ∧ sender' = sender ∧ name' = name) ∨
        ∃ n ts, n < j ∧ k = m.history.length + 1 + n ∧ events[n]? = some (.emitted name' ts)) ∧
      (∀ (j : ℕ) name' ts, events[j]? = some (.emitted name' ts) →
        ts = subscribedAfter c.handlers (events.take j) ∧
        ∃ last, scene.EmissionSpans (m.history ++ [.emitted name c.handlers]) events j last
          name') ∧
      m'.entity.channel = some c' ∧ c'.handlers = subscribedAfter c.handlers events := by
  have hbodies := confines_journals.of_admits hrun
  obtain ⟨events, c', called, hevents, hc', hjournal, -, hend, hcalled⟩ :=
    journal_notify hbodies hrun hc hr
  refine ⟨events, called, c', hevents, hend, hcalled, ?_, fun _ _ _ hj => hjournal.emitted hj, hc',
    hjournal.subscribed⟩
  intro j k h sender' name' state hj
  rcases hjournal.called hj with houter | ⟨n, ts, hlt, hk, hn⟩
  · left
    simpa [eq_comm] using houter
  · right
    rw [List.length_append, List.length_singleton] at hk
    exact ⟨n, ts, hlt, hk, hn⟩

end Scene

namespace Sample

/-- A handler that is put in the place of another one. -/
def substitute : Handler := ⟨"substitute", .itself "substitute", .const .none⟩

/-- A handler that replaces the recorder by the substitute and assigns the height, of which it is
told in turn. -/
def replacer : Handler where
  name := "replacer"
  identity := .itself "replacer"
  body := .seq [.unsubscribe "recorder", .subscribe "substitute", .set "height" (.const (.int 5))]

/-- The scene of a box with two handlers that are known by name. -/
def boxScene : Scene :=
  boxType.scene [("recorder", .callable recorder), ("substitute", .callable substitute)]

/-- A box to whose changes the replacer and the recorder have subscribed. -/
def watchedBox : EntityState :=
  { newBox with channel := some ⟨⟨1, [replacer, recorder]⟩, 2⟩ }

end Sample

open Sample in
/-- The recorder is still called, and the substitute is not, but it is for the height, in an
emission that begins and ends before the recorder is called. -/
theorem Scene.notify_calls_subscribed_box :
    ∃ r m' called, (notify (boxScene.run 3) (.entity "Box") "width").run ⟨watchedBox, [], 0⟩ =
        (r, m') ∧
      CallsEnd (boxScene.run 3) 0 (.entity "Box") "width" [replacer, recorder]
        (Moment.after ⟨watchedBox, [], 0⟩ (.emitted "width" [replacer, recorder])) called r m' ∧
      called.map (·.name) = ["replacer", "recorder"] ∧
      (callsIn m'.history).map (·.1.name) =
        ["replacer", "replacer", "substitute", "recorder"] ∧
      m'.entity.handlers.map (·.name) = ["replacer", "substitute", "substitute"] := by
  cases hr : (notify (boxScene.run 3) (.entity "Box") "width").run ⟨watchedBox, [], 0⟩ with
  | mk r m' =>
    have hm' : m' = ((notify (boxScene.run 3) (.entity "Box") "width").run
        ⟨watchedBox, [], 0⟩).2 := by rw [hr]
    obtain ⟨events, called, c', hevents, hend, hcalled, -⟩ :=
      notify_calls_subscribed (Scene.admits_run boxScene 3) rfl hr
    have hall : calledFor 0 m'.history = called := by
      rw [hevents, ← hcalled]
      rfl
    refine ⟨r, m', called, rfl, hend, ?_, ?_, ?_⟩
    · rw [← hall, hm']
      decide +kernel
    · rw [hm']
      decide +kernel
    · rw [hm']
      decide +kernel

end TrackedEntity
