import Mathlib.Data.Finset.Card
import TrackedEntity.Lock.Basic
import TrackedEntity.Proofs.Cache.Sections
import TrackedEntity.Proofs.Contract.Extension
import TrackedEntity.Proofs.Entity.Invariant

/-!
# Caches make no difference

A `SoleCache` is a cache with its lock, used by one caller: it asks for compiled types or makers of
entities, asks what is there, and clears.  Every use takes the lock for its sections and gives it
back, whatever comes of them.  A compilation makes a class, which stands behind the others from then
on and may itself be given as a contract.

`SoleCache.Ran` says which uses may have led to a state.  A request does one of three things
(`SoleCache.request_cases`), and so the table holds exactly what was given since it was last cleared
(`SoleCache.Kept`).  As the classes that come do not change what the others compile to
(`Catalog.ExtendedBy.compileClass_eq`), whoever asks the cache gets what compiling alone would give.
-/

namespace TrackedEntity

/-! ### Uses of a cache -/

/-- What can be asked of a cache. -/
inductive CacheUse where
  | compiled (contract : ClassRef)
  /-- The maker of entities of a contract: the class that carries its compiled type. -/
  | creator (contract : ClassRef)
  | contains (contract : ClassRef)
  | size
  | clear

/-- The contract whose compiled type is asked for. -/
def CacheUse.requested? : CacheUse → Option ClassRef
  | .compiled c | .creator c => some c
  | .contains _ | .size | .clear => none

/-- What a cache replies. -/
inductive CacheReply where
  | made (outcome : Except Fault CachedType)
  | truth (answer : Except Fault Bool)
  | count (n : ℕ)
  | nothing

/-- A cache with its lock, and the classes that there are. -/
structure SoleCache where
  catalog : Catalog
  cache : Cache
  lock : Lock

namespace SoleCache

/-- A new cache. -/
def start (catalog : Catalog) (settings : Settings) : SoleCache := ⟨catalog, .empty settings, .free⟩

/-- What is done in a section: the lock is taken before, and given back after it, whatever comes of
it.  Where the caller would have to wait it gets no further. -/
def within (w : SoleCache) (a : Access) (work : Catalog → Cache → α × Catalog × Cache) :
    Option (α × SoleCache) :=
  let asked := w.lock.arrive a
  if asked.admits a then
    let (result, catalog, cache) := work w.catalog w.cache
    some (result, ⟨catalog, cache, (asked.enter a).leave a⟩)
  else none

/-- What the exclusive section of a request does; a compilation that succeeds makes a class. -/
def compileMissing (contract : ClassRef) (catalog : Catalog) (cache : Cache) :
    Except Fault CachedType × Catalog × Cache :=
  let (outcome, cache') := (Cache.compileMissing catalog (.ofClass contract)).run.run cache
  let catalog' :=
    match outcome with
    | .ok made => if cache.types.has contract then catalog else catalog.withCompiled made.type
    | .error _ => catalog
  (outcome, catalog', cache')

/-- A request: a look-up in a shared section and, if there was nothing, an exclusive section. -/
def request (w : SoleCache) (contract : ClassRef) :
    Option (Except Fault CachedType × SoleCache) := do
  let (found, w) ← w.within .shared fun catalog cache =>
    (cache.find (.ofClass contract), catalog, cache)
  match found with
  | .error f => return (.error f, w)
  | .ok (some made) => return (.ok made, w)
  | .ok none => w.within .exclusive (compileMissing contract)

/-- Uses a cache. -/
def perform (w : SoleCache) : CacheUse → Option (CacheReply × SoleCache)
  | .compiled c | .creator c => (w.request c).map fun (outcome, w) => (.made outcome, w)
  | .contains c => w.within .shared fun catalog cache =>
    (.truth (cache.contains (.ofClass c)), catalog, cache)
  | .size => w.within .shared fun catalog cache => (.count cache.size, catalog, cache)
  | .clear => w.within .exclusive fun catalog cache => (.nothing, catalog, cache.clear)

end SoleCache

/-! ### Requests to the cache alone -/

theorem Catalog.contract_of_compileClass {catalog : Catalog} {settings : Settings} {c : ClassRef}
    {type : CompiledType} (h : catalog.compileClass settings c = .ok type) :
    c = type.schema.contract := by
  have hcompile : catalog.compile settings (.ofClass c) = .ok type := h
  exact Contract.ofClass.inj (contract_of_compile hcompile)

namespace Cache

variable {catalog : Catalog} {contract : Contract} {cache : Cache} {others : StateM Cache Unit}

theorem run_requestAmong_of_error {f : Fault} (h : cache.find contract = .error f) :
    (requestAmong catalog contract others).run.run cache = (.error f, cache) := by
  show (ExceptT.run (liftM (cache.find contract) >>= _ : Request CachedType)).run cache = _
  rw [h]
  rfl

theorem run_requestAmong_of_found {found : CachedType}
    (h : cache.find contract = .ok (some found)) :
    (requestAmong catalog contract others).run.run cache = (.ok found, cache) := by
  show (ExceptT.run (liftM (cache.find contract) >>= _ : Request CachedType)).run cache = _
  rw [h]
  rfl

/-- Where nothing is found, the others come before the compilation. -/
theorem run_requestAmong_of_missing (h : cache.find contract = .ok none) :
    (requestAmong catalog contract others).run.run cache =
      (compileMissing catalog contract).run.run (others.run cache).2 := by
  show (ExceptT.run (liftM (cache.find contract) >>= _ : Request CachedType)).run cache = _
  rw [h]
  rfl

theorem run_request_of_found {found : CachedType} (h : cache.find contract = .ok (some found)) :
    (request catalog contract).run.run cache = (.ok found, cache) :=
  run_requestAmong_of_found h

/-- Where nothing is found, a request is left to the exclusive section. -/
theorem run_request_of_missing (h : cache.find contract = .ok none) :
    (request catalog contract).run.run cache =
      (compileMissing catalog contract).run.run cache :=
  run_requestAmong_of_missing h

end Cache

/-! ### Sections -/

namespace SoleCache

variable {w w' : SoleCache} {c : ClassRef}

/-- Who finds a free lock leaves a free lock. -/
theorem within_of_free (hfree : w.lock = .free) (a : Access)
    (work : Catalog → Cache → α × Catalog × Cache) :
    w.within a work = some ((work w.catalog w.cache).1,
      ⟨(work w.catalog w.cache).2.1, (work w.catalog w.cache).2.2, .free⟩) := by
  rw [within, hfree]
  cases a <;> rfl

theorem eta_of_free (hfree : w.lock = .free) : (⟨w.catalog, w.cache, .free⟩ : SoleCache) = w := by
  rw [← hfree]

theorem request_of_found (hfree : w.lock = .free) {made : CachedType}
    (h : w.cache.types.get? c = some made) : w.request c = some (.ok made, w) := by
  have hfind : w.cache.find (.ofClass c) = .ok (some made) := congrArg Except.ok h
  rw [request, within_of_free hfree, hfind, eta_of_free hfree]
  rfl

/-- A compilation that fails leaves everything as it was. -/
theorem request_of_fail (hfree : w.lock = .free) (h : w.cache.types.get? c = none) {f : Fault}
    (hcompile : w.catalog.compileClass w.cache.settings c = .error f) :
    w.request c = some (.error f, w) := by
  have hfind : w.cache.find (.ofClass c) = .ok none := congrArg Except.ok h
  have hrun := Cache.run_compileMissing_of_fail hfind hcompile
  rw [request, within_of_free hfree, hfind, eta_of_free hfree]
  show w.within .exclusive (compileMissing c) = _
  rw [within_of_free hfree, compileMissing, hrun, eta_of_free hfree]

/-- A compilation that succeeds is stored, and its class comes to the others. -/
theorem request_of_compile (hfree : w.lock = .free) (h : w.cache.types.get? c = none)
    {type : CompiledType} (hcompile : w.catalog.compileClass w.cache.settings c = .ok type) :
    w.request c = some (.ok (w.cache.store c type).1,
      ⟨w.catalog.withCompiled type, (w.cache.store c type).2, .free⟩) := by
  have hfind : w.cache.find (.ofClass c) = .ok none := congrArg Except.ok h
  have hrun := Cache.run_compileMissing_of_compile hfind hcompile
  obtain rfl := Catalog.contract_of_compileClass hcompile
  have hnew : w.cache.types.has type.schema.contract = false := by
    rw [← Bool.not_eq_true, Table.has_iff, ← Table.get?_eq_none_iff]
    exact h
  rw [request, within_of_free hfree, hfind, eta_of_free hfree]
  show w.within .exclusive (compileMissing type.schema.contract) = _
  rw [within_of_free hfree, compileMissing, hrun]
  simp only [hnew, Bool.false_eq_true, if_false]
  rfl

/-- **What a request does**: it gives what is stored, fails as compiling does, or stores what
compiling gives. -/
theorem request_cases (hfree : w.lock = .free) (c : ClassRef) :
    (∃ made, w.cache.types.get? c = some made ∧ w.request c = some (.ok made, w)) ∨
    (∃ f, w.cache.types.get? c = none ∧
      w.catalog.compileClass w.cache.settings c = .error f ∧ w.request c = some (.error f, w)) ∨
    ∃ type, w.cache.types.get? c = none ∧
      w.catalog.compileClass w.cache.settings c = .ok type ∧
      w.request c = some (.ok (w.cache.store c type).1,
        ⟨w.catalog.withCompiled type, (w.cache.store c type).2, .free⟩) := by
  cases hstored : w.cache.types.get? c with
  | some made => exact .inl ⟨made, rfl, request_of_found hfree hstored⟩
  | none =>
    cases hcompile : w.catalog.compileClass w.cache.settings c with
    | error f => exact .inr (.inl ⟨f, rfl, rfl, request_of_fail hfree hstored hcompile⟩)
    | ok type => exact .inr (.inr ⟨type, rfl, rfl, request_of_compile hfree hstored hcompile⟩)

/-- As far as the cache is concerned, a request is one to the cache alone. -/
theorem run_request_of_request (hfree : w.lock = .free) {outcome : Except Fault CachedType}
    (h : w.request c = some (outcome, w')) :
    (Cache.request w.catalog (.ofClass c)).run.run w.cache = (outcome, w'.cache) := by
  have hmissing : w.cache.types.get? c = none → w.cache.find (.ofClass c) = .ok none :=
    fun h => congrArg Except.ok h
  rcases request_cases hfree c with ⟨made, hstored, hrequest⟩ |
    ⟨f, hnone, hcompile, hrequest⟩ | ⟨type, hnone, hcompile, hrequest⟩
  · obtain ⟨rfl, rfl⟩ := Prod.mk.inj (Option.some.inj (hrequest.symm.trans h))
    exact Cache.run_request_of_found (congrArg Except.ok hstored)
  · obtain ⟨rfl, rfl⟩ := Prod.mk.inj (Option.some.inj (hrequest.symm.trans h))
    rw [Cache.run_request_of_missing (hmissing hnone)]
    exact Cache.run_compileMissing_of_fail (hmissing hnone) hcompile
  · obtain ⟨rfl, rfl⟩ := Prod.mk.inj (Option.some.inj (hrequest.symm.trans h))
    obtain rfl := Catalog.contract_of_compileClass hcompile
    rw [Cache.run_request_of_missing (hmissing hnone)]
    exact Cache.run_compileMissing_of_compile (hmissing hnone) hcompile

theorem perform_of_requested {use : CacheUse} (huse : use.requested? = some c) (w : SoleCache) :
    w.perform use = (w.request c).map fun (outcome, w) => (.made outcome, w) := by
  cases use with
  | compiled c' | creator c' =>
    obtain rfl := Option.some.inj huse
    rfl
  | contains | size | clear => cases huse

theorem perform_contains (hfree : w.lock = .free) (c : ClassRef) :
    w.perform (.contains c) = some (.truth (.ok (w.cache.types.get? c).isSome), w) := by
  rw [perform, within_of_free hfree, eta_of_free hfree]
  rfl

theorem perform_size (hfree : w.lock = .free) :
    w.perform .size = some (.count w.cache.size, w) := by
  rw [perform, within_of_free hfree, eta_of_free hfree]

theorem perform_clear (hfree : w.lock = .free) :
    w.perform .clear = some (.nothing, ⟨w.catalog, w.cache.clear, .free⟩) := by
  rw [perform, within_of_free hfree]

end SoleCache

/-! ### What was asked and given -/

/-- A use of a cache, with the state that it began in and its reply. -/
structure CacheStep where
  before : SoleCache
  use : CacheUse
  reply : CacheReply

namespace CacheStep

/-- Whether a step gave a compiled type for a contract. -/
def Gives (s : CacheStep) (c : ClassRef) (made : CachedType) : Prop :=
  s.use.requested? = some c ∧ s.reply = .made (.ok made)

/-- Whether a step asked for a contract that had no entry, and succeeded. -/
def compiles (s : CacheStep) : Bool :=
  match s.use.requested?, s.reply with
  | some c, .made (.ok _) => !s.before.cache.types.has c
  | _, _ => false

/-- Whether a compiled type was given for a contract, and the cache was not cleared since. -/
def GivenSinceClear (steps : List CacheStep) (c : ClassRef) (made : CachedType) : Prop :=
  ∃ before s after, steps = before ++ s :: after ∧ s.Gives c made ∧
    ∀ later ∈ after, later.use ≠ .clear

variable {steps : List CacheStep} {s : CacheStep} {c : ClassRef} {made : CachedType}

theorem compiles_iff :
    s.compiles = true ↔ ∃ c made, s.Gives c made ∧ s.before.cache.types.get? c = none := by
  rw [compiles]
  split
  · next c made huse hreply =>
    rw [Bool.not_eq_true', ← Bool.not_eq_true, Table.has_iff, ← Table.get?_eq_none_iff]
    constructor
    · exact fun hnone => ⟨c, made, ⟨huse, hreply⟩, hnone⟩
    · rintro ⟨c', made', ⟨huse', -⟩, hnone⟩
      rwa [Option.some.inj (huse.symm.trans huse')]
  · next hother =>
    refine iff_of_false Bool.false_ne_true ?_
    rintro ⟨c, made, ⟨huse, hreply⟩, -⟩
    exact hother c made huse hreply

theorem not_givenSinceClear_nil : ¬ GivenSinceClear [] c made := by
  rintro ⟨before, s, after, h, -⟩
  exact List.cons_ne_nil _ _ (List.append_eq_nil_iff.1 h.symm).2

theorem givenSinceClear_concat :
    GivenSinceClear (steps ++ [s]) c made ↔
      s.Gives c made ∨ s.use ≠ .clear ∧ GivenSinceClear steps c made := by
  constructor
  · rintro ⟨before, given, after, hsteps, hgives, hafter⟩
    -- it was given in the last step, or in one before that
    rcases List.eq_nil_or_concat after with rfl | ⟨after, last, rfl⟩
    · obtain ⟨-, h⟩ := List.append_inj' hsteps rfl
      obtain rfl := (List.cons.inj h).1
      exact .inl hgives
    · rw [List.concat_eq_append, ← List.cons_append, ← List.append_assoc] at hsteps
      obtain ⟨rfl, h⟩ := List.append_inj' hsteps rfl
      obtain rfl := (List.cons.inj h).1
      rw [List.concat_eq_append] at hafter
      exact .inr ⟨hafter s (by simp), before, given, after, rfl, hgives,
        fun later hlater => hafter later (List.mem_append_left _ hlater)⟩
  · rintro (hgives | ⟨hclear, before, given, after, rfl, hgives, hafter⟩)
    · exact ⟨steps, s, [], rfl, hgives, fun later hlater => nomatch hlater⟩
    · refine ⟨before, given, after ++ [s], by simp, hgives, fun later hlater => ?_⟩
      rcases List.mem_append.1 hlater with hlater | hlater
      · exact hafter later hlater
      · rwa [List.mem_singleton.1 hlater]

end CacheStep

namespace SoleCache

open CacheStep

/-- The states that uses of a new cache lead to, with the uses.  What is asked for is one of the
classes that there are at that time. -/
inductive Ran (catalog : Catalog) (settings : Settings) : List CacheStep → SoleCache → Prop
  | start : Ran catalog settings [] (.start catalog settings)
  | use {steps : List CacheStep} {w w' : SoleCache} {use : CacheUse} {reply : CacheReply}
      (h : Ran catalog settings steps w)
      (hrefs : ∀ c, use.requested? = some c → c ∈ w.catalog.classes.refs)
      (hperform : w.perform use = some (reply, w')) :
      Ran catalog settings (steps ++ [⟨w, use, reply⟩]) w'

/-- **What uses keep**: the lock is free, the classes are those of the start and others after them,
the table has what was given since it was last cleared, and that is what compiling gives. -/
structure Kept (catalog : Catalog) (settings : Settings) (steps : List CacheStep) (w : SoleCache) :
    Prop where
  free : w.lock = .free
  settings_eq : w.cache.settings = settings
  closed : w.catalog.classes.Closed
  extendedBy : catalog.ExtendedBy w.catalog
  before : ∀ s ∈ steps, s.before.catalog.classes.Closed ∧ s.before.catalog.ExtendedBy w.catalog
  nodup : w.cache.types.keys.Nodup
  table_iff : ∀ c made, w.cache.types.get? c = some made ↔ GivenSinceClear steps c made
  compiled : ∀ c made, w.cache.types.get? c = some made →
    c ∈ w.catalog.classes.refs ∧ w.catalog.compileClass settings c = .ok made.type
  count_eq : w.cache.compilations = steps.countP CacheStep.compiles

namespace Kept

variable {catalog : Catalog} {settings : Settings} {steps : List CacheStep} {w : SoleCache}
  {use : CacheUse} {c : ClassRef}

theorem init (hclosed : catalog.classes.Closed) : Kept catalog settings [] (.start catalog settings)
    where
  free := rfl
  settings_eq := rfl
  closed := hclosed
  extendedBy := .refl catalog
  before := fun _ hs => nomatch hs
  nodup := List.nodup_nil
  table_iff := fun _ _ => iff_of_false (fun h => nomatch h) not_givenSinceClear_nil
  compiled := fun _ _ h => nomatch h
  count_eq := rfl

theorem before_concat (h : Kept catalog settings steps w) {catalog' : Catalog}
    (hext : w.catalog.ExtendedBy catalog') {reply : CacheReply} :
    ∀ s ∈ steps ++ [⟨w, use, reply⟩],
      s.before.catalog.classes.Closed ∧ s.before.catalog.ExtendedBy catalog' := by
  intro s hs
  rcases List.mem_append.1 hs with hs | hs
  · exact ⟨(h.before s hs).1, (h.before s hs).2.trans hext⟩
  · obtain rfl := List.mem_singleton.1 hs
    exact ⟨h.closed, hext⟩

/-- A use that changes nothing gives at most what is stored. -/
theorem unchanged (h : Kept catalog settings steps w) {reply : CacheReply} (hclear : use ≠ .clear)
    (hstored : ∀ c made, (⟨w, use, reply⟩ : CacheStep).Gives c made →
      w.cache.types.get? c = some made) :
    Kept catalog settings (steps ++ [⟨w, use, reply⟩]) w where
  free := h.free
  settings_eq := h.settings_eq
  closed := h.closed
  extendedBy := h.extendedBy
  before := h.before_concat (.refl _)
  nodup := h.nodup
  table_iff := by
    intro c made
    rw [givenSinceClear_concat, ← h.table_iff]
    exact ⟨fun hget => .inr ⟨hclear, hget⟩, fun hgiven => hgiven.elim (hstored c made) And.right⟩
  compiled := h.compiled
  count_eq := by
    have hnone : CacheStep.compiles ⟨w, use, reply⟩ = false := by
      rw [← Bool.not_eq_true, compiles_iff]
      rintro ⟨c, made, hgives, hmissing⟩
      rw [hstored c made hgives] at hmissing
      cases hmissing
    rw [List.countP_append, List.countP_singleton, hnone, h.count_eq]
    rfl

/-- A compilation stores one type more, and makes one class more. -/
theorem compile (h : Kept catalog settings steps w) (huse : use.requested? = some c)
    (hc : c ∈ w.catalog.classes.refs) (hmissing : w.cache.types.get? c = none)
    {type : CompiledType} (hcompile : w.catalog.compileClass w.cache.settings c = .ok type) :
    Kept catalog settings (steps ++ [⟨w, use, .made (.ok (w.cache.store c type).1)⟩])
      ⟨w.catalog.withCompiled type, (w.cache.store c type).2, .free⟩ := by
  obtain rfl := Catalog.contract_of_compileClass hcompile
  rw [h.settings_eq] at hcompile
  have hext := Catalog.extendedBy_withCompiled w.catalog type
  have hsame : ∀ c ∈ w.catalog.classes.refs,
      (w.catalog.withCompiled type).compileClass settings c = w.catalog.compileClass settings c :=
    fun c hc => hext.compileClass_eq settings h.closed hc
  let made : CachedType := ⟨w.cache.compilations, type⟩
  have hgives : (⟨w, use, .made (.ok made)⟩ : CacheStep).Gives type.schema.contract made :=
    ⟨huse, rfl⟩
  have hnew : type.schema.contract ∉ w.cache.types.keys := Table.get?_eq_none_iff.1 hmissing
  -- the table has the new type for its contract, and for others what it had
  have htypes : ∀ c found, (w.cache.types.put type.schema.contract made).get? c = some found ↔
      (⟨w, use, .made (.ok made)⟩ : CacheStep).Gives c found ∨
        w.cache.types.get? c = some found := by
    intro c found
    by_cases hne : c = type.schema.contract
    · subst hne
      rw [Table.get?_put_self, hmissing]
      constructor
      · rintro ⟨⟩
        exact .inl hgives
      · rintro (⟨-, hreply⟩ | hfound)
        · cases hreply
          rfl
        · cases hfound
    · rw [Table.get?_put_of_ne hne]
      refine ⟨.inr, fun hgiven => hgiven.resolve_left fun hgives' => hne ?_⟩
      exact Option.some.inj (hgives'.1.symm.trans huse)
  exact {
    free := rfl
    settings_eq := h.settings_eq
    closed := Catalog.closed_withCompiled h.closed hc
    extendedBy := h.extendedBy.trans hext
    before := h.before_concat hext
    nodup := by
      show (w.cache.types.put type.schema.contract made).keys.Nodup
      rw [Table.put_of_not_mem hnew, Table.keys, List.map_append]
      exact h.nodup.append (List.nodup_singleton _) (List.disjoint_singleton.2 hnew)
    table_iff := by
      intro c found
      have hclear : use ≠ .clear := fun hclear => by
        rw [hclear] at huse
        cases huse
      rw [givenSinceClear_concat, ← h.table_iff]
      exact (htypes c found).trans (or_congr_right (and_iff_right hclear).symm)
    compiled := by
      intro c found hget
      rcases (htypes c found).1 hget with ⟨huse', hreply⟩ | hfound
      · obtain rfl := Option.some.inj (huse'.symm.trans huse)
        cases hreply
        exact ⟨hext.classes.mem_refs hc, (hsame _ hc).trans hcompile⟩
      · obtain ⟨hc, hfound⟩ := h.compiled c found hfound
        exact ⟨hext.classes.mem_refs hc, (hsame c hc).trans hfound⟩
    count_eq := by
      have hcompiles : (⟨w, use, .made (.ok made)⟩ : CacheStep).compiles = true :=
        compiles_iff.2 ⟨type.schema.contract, made, hgives, hmissing⟩
      show w.cache.compilations + 1 =
        (steps ++ [(⟨w, use, .made (.ok made)⟩ : CacheStep)]).countP compiles
      rw [List.countP_append, List.countP_singleton, hcompiles, h.count_eq]
      rfl }

/-- Clearing leaves nothing of what was given. -/
theorem clear (h : Kept catalog settings steps w) :
    Kept catalog settings (steps ++ [⟨w, .clear, .nothing⟩])
      ⟨w.catalog, w.cache.clear, .free⟩ where
  free := rfl
  settings_eq := h.settings_eq
  closed := h.closed
  extendedBy := h.extendedBy
  before := h.before_concat (.refl _)
  nodup := List.nodup_nil
  table_iff := by
    intro c made
    rw [givenSinceClear_concat]
    refine iff_of_false (fun hget => nomatch hget) ?_
    rintro (⟨hnone, -⟩ | ⟨hclear, -⟩)
    · cases hnone
    · exact hclear rfl
  compiled := fun _ _ hget => nomatch hget
  count_eq := by
    rw [List.countP_append, List.countP_singleton]
    exact h.count_eq

end Kept

variable {catalog : Catalog} {settings : Settings} {steps : List CacheStep} {w w' : SoleCache}

/-- A request keeps what uses keep. -/
theorem Kept.request (h : Kept catalog settings steps w) {use : CacheUse} {c : ClassRef}
    (huse : use.requested? = some c) (hc : c ∈ w.catalog.classes.refs)
    {outcome : Except Fault CachedType} (hrequest : w.request c = some (outcome, w')) :
    Kept catalog settings (steps ++ [⟨w, use, .made outcome⟩]) w' := by
  have hclear : use ≠ .clear := fun hclear => by
    rw [hclear] at huse
    cases huse
  rcases request_cases h.free c with ⟨made, hstored, hdone⟩ | ⟨f, hmissing, hcompile, hdone⟩ |
    ⟨type, hmissing, hcompile, hdone⟩
  · obtain ⟨rfl, rfl⟩ := Prod.mk.inj (Option.some.inj (hrequest.symm.trans hdone))
    refine h.unchanged hclear ?_
    rintro c' found ⟨huse', hreply⟩
    obtain rfl := Option.some.inj (huse'.symm.trans huse)
    cases hreply
    exact hstored
  · obtain ⟨rfl, rfl⟩ := Prod.mk.inj (Option.some.inj (hrequest.symm.trans hdone))
    refine h.unchanged hclear ?_
    rintro c' found ⟨-, hreply⟩
    cases hreply
  · obtain ⟨rfl, rfl⟩ := Prod.mk.inj (Option.some.inj (hrequest.symm.trans hdone))
    exact h.compile huse hc hmissing hcompile

/-- A use of a cache keeps what uses keep. -/
theorem Kept.use (h : Kept catalog settings steps w) {use : CacheUse} {reply : CacheReply}
    (hrefs : ∀ c, use.requested? = some c → c ∈ w.catalog.classes.refs)
    (hperform : w.perform use = some (reply, w')) :
    Kept catalog settings (steps ++ [⟨w, use, reply⟩]) w' := by
  have hrequest : ∀ c, use.requested? = some c →
      Kept catalog settings (steps ++ [⟨w, use, reply⟩]) w' := by
    intro c huse
    rw [perform_of_requested huse] at hperform
    obtain ⟨⟨outcome, w''⟩, hrequest, heq⟩ := Option.map_eq_some_iff.1 hperform
    obtain ⟨rfl, rfl⟩ := Prod.mk.inj heq
    exact h.request huse (hrefs c huse) hrequest
  cases use with
  | compiled c | creator c => exact hrequest c rfl
  | contains c =>
    rw [perform_contains h.free] at hperform
    obtain ⟨rfl, rfl⟩ := Prod.mk.inj (Option.some.inj hperform)
    exact h.unchanged (fun hclear => nomatch hclear) fun c made hgives => nomatch hgives.1
  | size =>
    rw [perform_size h.free] at hperform
    obtain ⟨rfl, rfl⟩ := Prod.mk.inj (Option.some.inj hperform)
    exact h.unchanged (fun hclear => nomatch hclear) fun c made hgives => nomatch hgives.1
  | clear =>
    rw [perform_clear h.free] at hperform
    obtain ⟨rfl, rfl⟩ := Prod.mk.inj (Option.some.inj hperform)
    exact h.clear

theorem Ran.kept (hclosed : catalog.classes.Closed) (h : Ran catalog settings steps w) :
    Kept catalog settings steps w := by
  induction h with
  | start => exact .init hclosed
  | use _ hrefs hperform ih => exact ih.use hrefs hperform

/-! ### Whoever asks -/

/-- A request gets what compiling alone gives, and if that fails it changes nothing. -/
theorem Kept.exists_request (h : Kept catalog settings steps w) (c : ClassRef) :
    ∃ outcome w', w.request c = some (outcome, w') ∧
      outcome.map (·.type) = w.catalog.compileClass settings c ∧
      (∀ f, outcome = .error f → w' = w) ∧
      ∀ made, GivenSinceClear steps c made → outcome = .ok made := by
  simp only [← h.table_iff]
  rcases request_cases h.free c with ⟨made, hstored, hdone⟩ | ⟨f, hmissing, hcompile, hdone⟩ |
    ⟨type, hmissing, hcompile, hdone⟩
  · refine ⟨_, _, hdone, (h.compiled c made hstored).2.symm, fun _ _ => rfl, ?_⟩
    intro made' hmade'
    exact congrArg Except.ok (Option.some.inj (hstored.symm.trans hmade'))
  · rw [h.settings_eq] at hcompile
    refine ⟨_, _, hdone, hcompile.symm, fun _ _ => rfl, fun made hmade => ?_⟩
    cases hmissing.symm.trans hmade
  · rw [h.settings_eq] at hcompile
    refine ⟨_, _, hdone, hcompile.symm, fun f hf => ?_, fun made hmade => ?_⟩
    · cases hf
    · cases hmissing.symm.trans hmade

/-- **A cache makes no difference but that it keeps what it gave.**

After any uses of a new cache, whether they succeeded or failed, all classes compile as they did at
the start, and as they did before each of the uses.  Whoever asks for a compiled type or a maker of
entities gets what compiling alone would give: if the contract was asked for with success since the
cache was last cleared, the very type that was given then, and if compiling fails, the fault of it,
with everything left as it was.  The cache contains the contracts that were asked for with success
since it was last cleared, and its size is the number of them.  The counter is the number of
requests that found nothing and succeeded.  Nobody ever waits. -/
theorem Ran.transparent (hclosed : catalog.classes.Closed) (h : Ran catalog settings steps w) :
    (∀ c ∈ catalog.classes.refs,
      w.catalog.compileClass settings c = catalog.compileClass settings c) ∧
    (∀ s ∈ steps, ∀ c ∈ s.before.catalog.classes.refs,
      w.catalog.compileClass settings c = s.before.catalog.compileClass settings c) ∧
    (∀ use c, use.requested? = some c →
      ∃ outcome w', w.perform use = some (.made outcome, w') ∧
        (Cache.request w.catalog (.ofClass c)).run.run w.cache = (outcome, w'.cache) ∧
        outcome.map (·.type) = w.catalog.compileClass settings c ∧
        (∀ f, outcome = .error f → w' = w) ∧
        ∀ made, GivenSinceClear steps c made → outcome = .ok made) ∧
    (∀ c, ∃ answer, w.perform (.contains c) = some (.truth (.ok answer), w) ∧
      (answer = true ↔ ∃ made, GivenSinceClear steps c made)) ∧
    (∃ contracts : Finset ClassRef, w.perform .size = some (.count contracts.card, w) ∧
      ∀ c, c ∈ contracts ↔ ∃ made, GivenSinceClear steps c made) ∧
    w.cache.compilations = steps.countP CacheStep.compiles ∧
    w.lock = .free ∧ (w.perform .clear).isSome = true := by
  have hkept := h.kept hclosed
  have hgiven : ∀ c, (∃ made, GivenSinceClear steps c made) ↔ c ∈ w.cache.types.keys := by
    intro c
    rw [← not_iff_not, ← Table.get?_eq_none_iff, Option.eq_none_iff_forall_ne_some]
    simp only [← hkept.table_iff, not_exists, ne_eq]
  refine ⟨fun c hc => hkept.extendedBy.compileClass_eq settings hclosed hc, fun s hs c hc => ?_,
    fun use c huse => ?_, fun c => ⟨_, perform_contains hkept.free c, ?_⟩,
    ⟨w.cache.types.keys.toFinset, ?_, fun c => by rw [List.mem_toFinset, hgiven]⟩,
    hkept.count_eq, hkept.free, ?_⟩
  · exact (hkept.before s hs).2.compileClass_eq settings (hkept.before s hs).1 hc
  · obtain ⟨outcome, w', hrequest, hrest⟩ := hkept.exists_request c
    refine ⟨outcome, w', ?_, run_request_of_request hkept.free hrequest, hrest⟩
    rw [perform_of_requested huse, hrequest, Option.map_some]
  · simp only [Option.isSome_iff_exists, hkept.table_iff]
  · rw [perform_size hkept.free, List.toFinset_card_of_nodup hkept.nodup, Cache.size,
      Table.keys, List.length_map]
  · rw [perform_clear hkept.free]
    rfl

end SoleCache

namespace Sample

theorem closed_shapes : shapes.classes.Closed := by decide

/-- A cache that compiled the contract of a width and a height. -/
def shapeCache : SoleCache where
  catalog := shapes.withCompiled shapeType
  cache := ⟨.default, [(.declared 0, ⟨0, shapeType⟩)], 1⟩
  lock := .free

/-- The request that led to it. -/
def shapeRequest : CacheStep :=
  ⟨.start shapes .default, .compiled (.declared 0), .made (.ok ⟨0, shapeType⟩)⟩

theorem perform_shapeRequest :
    (SoleCache.start shapes .default).perform (.compiled (.declared 0)) =
      some (.made (.ok ⟨0, shapeType⟩), shapeCache) := by
  have hrequest := SoleCache.request_of_compile (w := .start shapes .default) rfl rfl compile_shape
  rw [SoleCache.perform_of_requested rfl, hrequest]
  rfl

theorem ran_shapeCache : SoleCache.Ran shapes .default [shapeRequest] shapeCache := by
  refine .use .start (fun c hc => ?_) perform_shapeRequest
  obtain rfl := Option.some.inj hc
  decide

theorem givenSinceClear_shapeRequest {c : ClassRef} {made : CachedType} :
    CacheStep.GivenSinceClear [shapeRequest] c made ↔
      c = .declared 0 ∧ made = ⟨0, shapeType⟩ := by
  rw [← List.nil_append [shapeRequest], CacheStep.givenSinceClear_concat]
  constructor
  · rintro (⟨hc, hmade⟩ | ⟨-, hnone⟩)
    · cases hc
      cases hmade
      exact ⟨rfl, rfl⟩
    · exact absurd hnone CacheStep.not_givenSinceClear_nil
  · rintro ⟨rfl, rfl⟩
    exact .inl ⟨rfl, rfl⟩

end Sample

open Sample in
/-- A contract that was compiled is in the cache, compiles as it did before, and who asks for it
again gets the same type; the class that was compiled from it is no contract, and who asks for that
leaves the cache as it was. -/
theorem SoleCache.Ran.transparent_shape :
    shapeCache.catalog.compileClass .default (.declared 0) =
      shapes.compileClass .default (.declared 0) ∧
    (∃ w, shapeCache.perform (.creator (.declared 0)) = some (.made (.ok ⟨0, shapeType⟩), w)) ∧
    (∃ f, shapeCache.perform (.compiled (.declared 1)) = some (.made (.error f), shapeCache)) ∧
    shapeCache.perform .size = some (.count 1, shapeCache) ∧
    shapeCache.cache.compilations = 1 := by
  obtain ⟨hsame, -, hrequests, -, ⟨contracts, hsize, hcontracts⟩, hcount, -⟩ :=
    transparent closed_shapes ran_shapeCache
  refine ⟨hsame _ (by decide), ?_, ?_, ?_, hcount⟩
  · obtain ⟨outcome, w, hperform, -, -, -, hagain⟩ := hrequests (.creator (.declared 0)) _ rfl
    exact ⟨w, hagain _ (givenSinceClear_shapeRequest.2 ⟨rfl, rfl⟩) ▸ hperform⟩
  · obtain ⟨outcome, w, hperform, -, halone, hfails, -⟩ := hrequests (.compiled (.declared 1)) _ rfl
    have hcompiled : shapeCache.catalog.compileClass .default (.declared 1) =
        .error (.alreadyCompiled "Shape") := rfl
    rw [hcompiled] at halone
    cases outcome with
    | ok made => cases halone
    | error f => exact ⟨f, hfails f rfl ▸ hperform⟩
  · have hone : contracts = {.declared 0} := by
      ext c
      rw [hcontracts, Finset.mem_singleton]
      simp [givenSinceClear_shapeRequest]
    rwa [hone] at hsize

end TrackedEntity
