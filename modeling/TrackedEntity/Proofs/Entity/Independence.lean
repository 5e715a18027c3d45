import TrackedEntity.Proofs.Entity.Tracker

/-!
# Assignments to different properties are independent

What becomes of one property does not depend on the attempts to assign the others.  A tracker shows
it: an attempt leaves what the tracker says about every other name (`Tracker.attempt_of_ne`), and
what it does to its own name, and how it is answered, depends on nothing else
(`Tracker.attempt_congr`).  So a run of attempts does to one name, and answers about it, what the
run of those attempts alone does that are about the name (`Tracker.attemptAll_about`).

An entity is always in the state of some tracker (`Sound.tracks_tracker`), and trackers that say the
same about every name belong to entities with the same slots and the same mask
(`Tracks.determined`).  Hence without setter hooks and without subscribers the order of attempts
matters within each property only (`assignments_independent`).
-/

namespace TrackedEntity

open Exec

/-! ### Attempts about one name -/

namespace Attempt

/-- The name that an attempt is about. -/
def name : Attempt → String
  | .set name _ => name
  | .trySet name _ => name

/-- Those of some attempts that are about a name. -/
def about (name : String) (attempts : List Attempt) : List Attempt :=
  attempts.filter fun a => a.name = name

/-- Those of some attempts that are about a name, each with its answer. -/
def answersAbout (name : String) (attempts : List Attempt) (answers : List (Except Halt Bool)) :
    List (Attempt × Except Halt Bool) :=
  (attempts.zip answers).filter fun pair => pair.1.name = name

end Attempt

namespace Tracker

variable {schema : Schema} {className : String} {subscribed : List Handler} {r r' : Tracker}
  {name : String}

/-- Whether two trackers say the same about a name. -/
def AgreeOn (name : String) (r r' : Tracker) : Prop :=
  r.current name = r'.current name ∧ (name ∈ r.changed ↔ name ∈ r'.changed)

/-- What becomes of the other names when a property is assigned: nothing. -/
theorem assign_of_ne {p : Property} (hne : p.name ≠ name) (v : Value) :
    AgreeOn name (r.assign className subscribed p v).2 r := by
  unfold assign
  match p.equality (r.current p.name) v with
  | .error f => exact ⟨rfl, Iff.rfl⟩
  | .ok true => exact ⟨rfl, Iff.rfl⟩
  | .ok false =>
    refine ⟨Function.update_of_ne hne.symm _ _, ?_⟩
    rw [Finset.mem_insert]
    exact or_iff_right hne.symm

/-- What becomes of a property that is assigned depends on what was said about it. -/
theorem assign_congr {p : Property} (h : AgreeOn p.name r r') (v : Value) :
    (r.assign className subscribed p v).1 = (r'.assign className subscribed p v).1 ∧
      AgreeOn p.name (r.assign className subscribed p v).2
        (r'.assign className subscribed p v).2 := by
  unfold assign
  rw [h.1]
  match p.equality (r'.current p.name) v with
  | .error f => exact ⟨rfl, h⟩
  | .ok true => exact ⟨rfl, h⟩
  | .ok false =>
    refine ⟨rfl, ?_, ?_⟩
    · show Function.update r.current p.name v p.name = Function.update r'.current p.name v p.name
      rw [Function.update_self, Function.update_self]
    · simp only [Finset.mem_insert_self]

variable (schema className subscribed)

/-- What an attempt can do: it is answered without effect, or it assigns a property of its name. -/
theorem attempt_cases (a : Attempt) :
    (∃ answer, ∀ r : Tracker, r.attempt schema className subscribed a = (answer, r)) ∨
      ∃ p v, p.name = a.name ∧
        ∀ r : Tracker,
          r.attempt schema className subscribed a = r.assign className subscribed p v := by
  have hname : ∀ {name : String} {p : Property}, schema.find? name = some p → p.name = name :=
    fun hfind => by simpa using List.find?_some hfind
  cases a with
  | set name v =>
    cases hfind : schema.find? name with
    | none => exact .inl ⟨.ok false, fun r => by simp only [attempt, hfind]⟩
    | some p =>
      by_cases hm : p.mutable = true
      · exact .inr ⟨p, v, hname hfind, fun r => by simp only [attempt, hfind, if_pos hm]⟩
      · exact .inl ⟨.error (.fault (.noSetter name className)), fun r => by
          simp only [attempt, hfind, if_neg hm]⟩
  | trySet name v =>
    cases hfind : schema.find? name with
    | none => exact .inl ⟨.ok false, fun r => by simp only [attempt, hfind]⟩
    | some p =>
      by_cases hm : p.mutable = true
      · exact .inr ⟨p, v, hname hfind, fun r => by simp only [attempt, hfind, if_pos hm]⟩
      · exact .inl ⟨.ok false, fun r => by simp only [attempt, hfind, if_neg hm]⟩

/-- **An attempt leaves every other name alone.** -/
theorem attempt_of_ne {a : Attempt} (hne : a.name ≠ name) :
    AgreeOn name (r.attempt schema className subscribed a).2 r := by
  rcases attempt_cases schema className subscribed a with ⟨answer, hr⟩ | ⟨p, v, hname, hr⟩
  · rw [hr]
    exact ⟨rfl, Iff.rfl⟩
  · rw [hr]
    exact assign_of_ne (hname.symm ▸ hne) v

/-- **An attempt depends on nothing but what is said about its name.** -/
theorem attempt_congr {a : Attempt} (h : AgreeOn a.name r r') :
    (r.attempt schema className subscribed a).1 = (r'.attempt schema className subscribed a).1 ∧
      AgreeOn a.name (r.attempt schema className subscribed a).2
        (r'.attempt schema className subscribed a).2 := by
  rcases attempt_cases schema className subscribed a with ⟨answer, hr⟩ | ⟨p, v, hname, hr⟩
  · rw [hr, hr]
    exact ⟨rfl, h⟩
  · rw [hr, hr, ← hname]
    exact assign_congr (hname.symm ▸ h) v

/-- **A run of attempts does to one name what those about it do alone**, and answers them alike. -/
theorem attemptAll_about (h : AgreeOn name r r') (attempts : List Attempt) :
    Attempt.answersAbout name attempts (r.attemptAll schema className subscribed attempts).1 =
        (Attempt.about name attempts).zip
          (r'.attemptAll schema className subscribed (Attempt.about name attempts)).1 ∧
      AgreeOn name (r.attemptAll schema className subscribed attempts).2
        (r'.attemptAll schema className subscribed (Attempt.about name attempts)).2 := by
  induction attempts generalizing r r' with
  | nil => exact ⟨rfl, h⟩
  | cons a attempts ih =>
    by_cases ha : a.name = name
    · -- the attempt is made in both runs
      subst ha
      obtain ⟨hanswer, hagree⟩ := attempt_congr schema className subscribed h
      obtain ⟨hanswers, hagrees⟩ := ih hagree
      have habout : Attempt.about a.name (a :: attempts) = a :: Attempt.about a.name attempts := by
        simp [Attempt.about]
      rw [habout]
      refine ⟨?_, hagrees⟩
      simp only [attemptAll, Attempt.answersAbout, List.zip_cons_cons] at hanswers ⊢
      rw [List.filter_cons_of_pos (by simp), hanswers, hanswer]
    · obtain ⟨hcurrent, hchanged⟩ := attempt_of_ne schema className subscribed (r := r) ha
      obtain ⟨hanswers, hagrees⟩ := ih ⟨hcurrent.trans h.1, hchanged.trans h.2⟩
      have habout : Attempt.about name (a :: attempts) = Attempt.about name attempts := by
        simp [Attempt.about, ha]
      rw [habout]
      refine ⟨?_, hagrees⟩
      simp only [attemptAll, Attempt.answersAbout, List.zip_cons_cons] at hanswers ⊢
      rw [List.filter_cons_of_neg (by simpa using ha), hanswers]

/-- **The order of attempts matters within each name only.** -/
theorem attemptAll_independent (r : Tracker) {xs ys : List Attempt}
    (hsame : ∀ name, Attempt.about name xs = Attempt.about name ys) (name : String) :
    Attempt.answersAbout name xs (r.attemptAll schema className subscribed xs).1 =
        Attempt.answersAbout name ys (r.attemptAll schema className subscribed ys).1 ∧
      AgreeOn name (r.attemptAll schema className subscribed xs).2
        (r.attemptAll schema className subscribed ys).2 := by
  have hself : AgreeOn name r r := ⟨rfl, Iff.rfl⟩
  obtain ⟨hxs, hcurrent, hchanged⟩ := attemptAll_about schema className subscribed hself xs
  obtain ⟨hys, hcurrent', hchanged'⟩ := attemptAll_about schema className subscribed hself ys
  rw [hsame name] at hxs hcurrent hchanged
  exact ⟨hxs.trans hys.symm, hcurrent.trans hcurrent'.symm, hchanged.trans hchanged'.symm⟩

end Tracker

theorem Attempt.length_performAll (run : Runner) (scene : Scene) (attempts : List Attempt)
    (m : Moment) : (performAll run scene attempts m).1.length = attempts.length := by
  induction attempts generalizing m with
  | nil => rfl
  | cons a attempts ih => exact congrArg Nat.succ (ih _)

namespace CompiledType

variable {t : CompiledType}

/-! ### The tracker of an entity -/

/-- The tracker that tells the state of an entity, before any calls. -/
def tracker (t : CompiledType) (e : EntityState) : Tracker where
  current name := e.slots.getD (t.names.idxOf name) .none
  changed := (e.mask.ordinals.map fun i => t.names.getD i "").toFinset
  calls := []

/-- **Every sound entity is in the state of a tracker.** -/
theorem Sound.tracks_tracker (ht : t.Aligned) {e : EntityState} (h : t.Sound e) :
    t.Tracks e.className e.handlers (t.tracker e) e := by
  -- the ordinals of the mask are places of mutable properties
  have hplace : ∀ {i : ℕ}, i ∈ e.mask.ordinals → ∃ p, t.schema.mutable[i]? = some p ∧
      t.names.getD i "" = p.name := by
    intro i hi
    have hlt : i < t.schema.mutable.length := h.lt_of_has (Mask.mem_ordinals.1 hi)
    refine ⟨_, List.getElem?_eq_getElem hlt, ?_⟩
    rw [List.getD_eq_getElem?_getD, ht.getElem?_names (List.getElem?_eq_getElem hlt),
      Option.getD_some]
  have hmem : ∀ {name : String}, name ∈ (t.tracker e).changed ↔
      ∃ i ∈ e.mask.ordinals, t.names.getD i "" = name := by
    intro name
    rw [tracker, List.mem_toFinset, List.mem_map]
  refine ⟨h, ?_, ?_, ?_, rfl, rfl⟩
  · intro i p hp
    obtain ⟨hlt, hname⟩ := List.getElem?_eq_some_iff.1 (ht.getElem?_names hp)
    obtain ⟨v, hv⟩ := h.exists_slot hp
    show e.slots[i]? = some (e.slots.getD (t.names.idxOf p.name) .none)
    rw [← hname, ht.nodup_names.idxOf_getElem i hlt, List.getD_eq_getElem?_getD, hv,
      Option.getD_some]
  · intro i p hp
    rw [Bool.eq_iff_iff, decide_eq_true_eq, hmem]
    constructor
    · intro hi
      obtain ⟨q, hq, hname⟩ := hplace (Mask.mem_ordinals.2 hi)
      obtain rfl : p = q := Option.some.inj (hp.symm.trans hq)
      exact ⟨i, Mask.mem_ordinals.2 hi, hname⟩
    · rintro ⟨j, hj, hname⟩
      obtain ⟨q, hq, hname'⟩ := hplace hj
      obtain rfl : j = i := ht.index_inj hq hp (hname'.symm.trans hname)
      exact Mask.mem_ordinals.1 hj
  · intro name hname
    obtain ⟨i, hi, rfl⟩ := hmem.1 hname
    obtain ⟨p, hp, hname'⟩ := hplace hi
    exact ⟨p, List.mem_of_getElem? hp, hname'.symm⟩

/-- **A tracker determines slots and mask** by what it says about each name. -/
theorem Tracks.determined {className className' : String} {subscribed subscribed' : List Handler}
    {r r' : Tracker} {e e' : EntityState} (h : t.Tracks className subscribed r e)
    (h' : t.Tracks className' subscribed' r' e') (hagree : ∀ name, Tracker.AgreeOn name r r') :
    e.slots = e'.slots ∧ e.mask = e'.mask := by
  constructor
  · have hlength := h.sound.length_slots
    have hlength' := h'.sound.length_slots
    refine List.ext_getElem? fun i => ?_
    by_cases hi : i < t.schema.mutable.length
    · have hp := List.getElem?_eq_getElem hi
      rw [h.slot hp, h'.slot hp, (hagree _).1]
    · have hi' : t.schema.mutableCount ≤ i := Nat.not_lt.1 hi
      rw [List.getElem?_eq_none (by omega), List.getElem?_eq_none (by omega)]
  · refine h.sound.fits.ext h'.sound.fits fun i => ?_
    by_cases hi : i < t.schema.mutable.length
    · have hp := List.getElem?_eq_getElem hi
      rw [h.marked hp, h'.marked hp]
      exact decide_eq_decide.2 (hagree _).2
    · have hout : ∀ {e : EntityState}, t.Sound e → e.mask.has i = false := fun hs => by
        rw [← Bool.not_eq_true]
        exact fun hhas => hi (hs.lt_of_has hhas)
      rw [hout h.sound, hout h'.sound]

/-- **Assignments to different properties are independent.**  Take a contract that compiles, does
not notify, and has no setter hooks for its mutable properties, any entity of it that can be
reached, and two sequences of attempts to assign its properties in which the attempts about each
name are the same in the same order.  Made from that entity, both sequences end with the same slots
and the same mask, answer each attempt alike, faults included, and the same changes are reported
afterwards, in the same order. -/
theorem assignments_independent {catalog : Catalog} {settings : Settings} {contract : Contract}
    (h : catalog.compile settings contract = .ok t) (hquiet : t.schema.needsNotification = false)
    (hunhooked : ∀ p ∈ t.schema.mutable, p.extension.bind (·.setter) = none)
    {e : EntityState} (he : t.Reachable e) {xs ys : List Attempt}
    (hknown : ∀ a ∈ xs, a.IsKnown t.schema)
    (hsame : ∀ name, Attempt.about name xs = Attempt.about name ys) (run : Runner)
    (handlers : Table String HandlerSpec) (past : List Event) (serial : ℕ) :
    ∃ answers answers' m m',
      Attempt.performAll run (t.scene handlers) xs ⟨e, past, serial⟩ = (answers, m) ∧
      Attempt.performAll run (t.scene handlers) ys ⟨e, past, serial⟩ = (answers', m') ∧
      m.entity.slots = m'.entity.slots ∧ m.entity.mask = m'.entity.mask ∧
      answers.length = xs.length ∧ answers'.length = ys.length ∧
      (∀ name, Attempt.answersAbout name xs answers = Attempt.answersAbout name ys answers') ∧
      ∃ changes, ((t.scene handlers).changes run).run m = (.ok changes, m) ∧
        ((t.scene handlers).changes run).run m' = (.ok changes, m') := by
  have ht := aligned_of_compile h
  have hs := he.sound ht
  have htracks := hs.tracks_tracker ht
  rw [hs.handlers_eq_nil hquiet] at htracks
  have hrec : ∀ hd ∈ ([] : List Handler), hd.OnlyRecords run :=
    fun _ hd => absurd hd List.not_mem_nil
  have hknown' : ∀ a ∈ ys, a.IsKnown t.schema := by
    intro a ha
    have hmem : a ∈ Attempt.about a.name ys := List.mem_filter.2 ⟨ha, by simp⟩
    rw [← hsame] at hmem
    exact hknown a (List.mem_filter.1 hmem).1
  obtain ⟨m, hm, hx, -⟩ := Tracks.attemptAll_of_unhooked (m := ⟨e, past, serial⟩) ht hunhooked
    hrec htracks handlers hknown
  obtain ⟨m', hm', hy, -⟩ := Tracks.attemptAll_of_unhooked (m := ⟨e, past, serial⟩) ht hunhooked
    hrec htracks handlers hknown'
  have hindependent := Tracker.attemptAll_independent t.schema e.className [] (t.tracker e) hsame
  obtain ⟨hslots, hmask⟩ := hx.determined hy fun name => (hindependent name).2
  have hlength := Attempt.length_performAll run (t.scene handlers) xs ⟨e, past, serial⟩
  have hlength' := Attempt.length_performAll run (t.scene handlers) ys ⟨e, past, serial⟩
  rw [hm] at hlength
  rw [hm'] at hlength'
  refine ⟨_, _, m, m', hm, hm', hslots, hmask, hlength, hlength',
    fun name => (hindependent name).1, _, run_changes ht hx.sound, ?_⟩
  rw [run_changes ht hy.sound, reported, reported, hslots, hmask]

end CompiledType

namespace Sample

/-- A contract of a width and a height whose entities do not notify. -/
def panel : ClassDef :=
  { shape with name := "IPanel", qualname := "IPanel", bases := [.protocol] }

/-- The catalog of the contract, with a hook for reading the height. -/
def panels : Catalog where
  classes := ⟨[panel]⟩
  hooks := [("hooks", { heightHooks with
    members :=
      [("get_height", .callable ⟨[⟨"entity", .positional, false⟩], none, .get "width"⟩)] })]

theorem isSome_compile_panel :
    (panels.compile .default (.ofClass (.declared 0))).toOption.isSome = true := by rfl

/-- The type that the contract compiles to. -/
def panelType : CompiledType :=
  (panels.compile .default (.ofClass (.declared 0))).toOption.get isSome_compile_panel

/-- A value that cannot be compared. -/
def incomparable : Value := .comparer (.made 0) "odd" (.raises .value "no")

/-- A panel of which the width was assigned. -/
def widePanel : EntityState := ⟨"Panel", [.int 5, .int 0], .scalar 1, none, some []⟩

/-- It is reached from a new one. -/
theorem reachable_widePanel : panelType.Reachable widePanel := by
  have hnew : panelType.newEntity = .ok ⟨"Panel", [.int 0, .int 0], .scalar 0, none, some []⟩ := rfl
  exact .worked (.new hnew) (Scene.admits_run (panelType.scene []) 3) (.set "width" (.int 5))
    ⟨[], 0⟩

end Sample

open Sample in
/-- Two attempts about the width, of which the second one fails, around one about the height, and
the same with the height first. -/
theorem CompiledType.assignments_independent_panel :
    ∃ m m', Attempt.performAll ((panelType.scene []).run 3) (panelType.scene [])
        [.set "width" (.int 1), .trySet "height" (.int 2), .set "width" incomparable]
        ⟨widePanel, [], 0⟩ = ([.ok true, .ok true, .error (.fault (.raised .value "no"))], m) ∧
      Attempt.performAll ((panelType.scene []).run 3) (panelType.scene [])
        [.trySet "height" (.int 2), .set "width" (.int 1), .set "width" incomparable]
        ⟨widePanel, [], 0⟩ = ([.ok true, .ok true, .error (.fault (.raised .value "no"))], m') ∧
      m.entity.slots = m'.entity.slots ∧ m.entity.mask = m'.entity.mask := by
  have hcompile : panels.compile .default (.ofClass (.declared 0)) = .ok panelType := rfl
  have hunhooked : ∀ p ∈ panelType.schema.mutable, p.extension.bind (·.setter) = none := by
    intro p hp
    rcases List.mem_cons.1 hp with rfl | hp
    · rfl
    · rcases List.mem_singleton.1 hp with rfl
      rfl
  have hknown : ∀ a ∈ [Attempt.set "width" (.int 1), .trySet "height" (.int 2),
      .set "width" incomparable], a.IsKnown panelType.schema := by
    intro a ha
    rcases List.mem_cons.1 ha with rfl | ha
    · exact ⟨_, List.mem_cons_self, rfl⟩
    · rcases List.mem_cons.1 ha with rfl | ha
      · trivial
      · rcases List.mem_singleton.1 ha with rfl
        exact ⟨_, List.mem_cons_self, rfl⟩
  have hsame : ∀ name,
      Attempt.about name [.set "width" (.int 1), .trySet "height" (.int 2),
        .set "width" incomparable] =
      Attempt.about name [.trySet "height" (.int 2), .set "width" (.int 1),
        .set "width" incomparable] := by
    intro name
    by_cases hname : "height" = name
    · subst hname
      rfl
    · simp [Attempt.about, Attempt.name, List.filter_cons, hname]
  obtain ⟨answers, answers', m, m', hm, hm', hslots, hmask, -⟩ :=
    assignments_independent hcompile rfl hunhooked reachable_widePanel hknown hsame
      ((panelType.scene []).run 3) [] [] 0
  have hanswers : answers = [.ok true, .ok true, .error (.fault (.raised .value "no"))] :=
    (congrArg Prod.fst hm).symm
  have hanswers' : answers' = [.ok true, .ok true, .error (.fault (.raised .value "no"))] :=
    (congrArg Prod.fst hm').symm
  subst hanswers hanswers'
  exact ⟨m, m', hm, hm', hslots, hmask⟩

end TrackedEntity
