import TrackedEntity.Proofs.Cache.Transparency
import TrackedEntity.Proofs.Outcome
import TrackedEntity.Session.Step

/-!
# What the caches of a session hold

A session works with several caches and a set of classes that grows: whoever mentions the class that
was compiled from another adds one.  What a cache holds was given by compiling, with the settings of
the cache and the hooks that there were at that time (`Cache.Current`).  Classes that come later do
not change what the others compile to; so it is what compiling gives now, unless hook directories
are patched behind the back of the cache.  A session whose caches are all like that is
`Session.Fresh`.

A request goes as `Cache.gives` says: it fails for what cannot be a key, gives what is held, and
otherwise goes as compiling does (`Cache.serves_request`).

The computations of a session are looked at in two ways: most of them are `Aside`, they touch
neither classes nor caches; the others are mentions (`run_contract`) and requests (`run_request`),
with one equation for each.  `Session.Reached` says which sessions steps may have led to, and every
one of them is fresh (`Session.Reached.fresh`), as every step keeps it so (`Session.Fresh.perform`).
-/

namespace TrackedEntity

open Outcome

/-! ### Arguments -/

namespace Contract

/-- The class that is given as a contract. -/
def class? : Contract → Option ClassRef
  | .ofClass ref => some ref
  | .ofValue _ => none

/-- Refuses what cannot be a key. Every class can. -/
def requireKey : Contract → Except Fault Unit
  | .ofClass _ => .ok ()
  | .ofValue v => v.requireHashable

/-- Whether a contract, if it is a class at all, is one of a graph. -/
def Known (contract : Contract) (g : ClassGraph) : Prop :=
  ∀ ref, contract.class? = some ref → ref ∈ g.refs

end Contract

/-- Whether a mention is about a class of a graph, if it is about a class at all. -/
def Mention.Known (g : ClassGraph) : Mention → Prop
  | .ofClass ref | .compiledFrom ref => ref ∈ g.refs
  | .ofValue _ => True

/-! ### Requests -/

namespace Cache

variable {catalog catalog' : Catalog} {contract : Contract} {cache : Cache} {patched : Bool}

/-- What a request for a contract comes to: what is held for it, or what compiling gives. -/
def gives (cache : Cache) (catalog : Catalog) (contract : Contract) :
    Except Fault CompiledType := do
  match ← cache.find contract with
  | some made => return made.type
  | none => catalog.compile cache.settings contract

theorem find_of_key (h : contract.requireKey = .ok ()) :
    cache.find contract = .ok (contract.class?.bind cache.types.get?) := by
  cases contract with
  | ofClass ref => rfl
  | ofValue v =>
    show (do v.requireHashable; return none) = _
    have hkey : v.requireHashable = .ok () := h
    rw [hkey]
    rfl

theorem find_of_not_key {f : Fault} (h : contract.requireKey = .error f) :
    cache.find contract = .error f := by
  cases contract with
  | ofClass ref => cases h
  | ofValue v =>
    show (do v.requireHashable; return none) = _
    have hkey : v.requireHashable = .error f := h
    rw [hkey]
    rfl

section Gives

variable {found : CachedType} {f : Fault}

theorem gives_of_error (h : cache.find contract = .error f) :
    cache.gives catalog contract = .error f := by
  rw [gives, h]
  rfl

theorem gives_of_found (h : cache.find contract = .ok (some found)) :
    cache.gives catalog contract = .ok found.type := by
  rw [gives, h]
  rfl

theorem gives_of_missing (h : cache.find contract = .ok none) :
    cache.gives catalog contract = catalog.compile cache.settings contract := by
  rw [gives, h]
  rfl

end Gives

theorem find_store (cache : Cache) (ref : ClassRef) (type : CompiledType) :
    (cache.store ref type).2.find (.ofClass ref) = .ok (some (cache.store ref type).1) :=
  congrArg Except.ok (Table.get?_put_self _ _ _)

/-- Whether all that a cache holds was given by compiling a class, with its settings and some hooks:
those that there are, unless directories may have been patched. -/
def Current (cache : Cache) (catalog : Catalog) (patched : Bool) : Prop :=
  ∀ ref made, cache.types.get? ref = some made → ref ∈ catalog.classes.refs ∧
    ∃ hooks, (patched = false → hooks = catalog.hooks) ∧
      { catalog with hooks }.compileClass cache.settings ref = .ok made.type

namespace Current

theorem of_types_eq_nil (h : cache.types = []) : cache.Current catalog patched :=
  fun ref made hmade => by
    rw [h] at hmade
    cases hmade

theorem extend (h : cache.Current catalog patched) (hclosed : catalog.classes.Closed)
    (hext : catalog.ExtendedBy catalog') : cache.Current catalog' patched := by
  intro ref made hmade
  obtain ⟨href, hooks, hsame, hcompile⟩ := h ref made hmade
  refine ⟨hext.classes.mem_refs href, hooks, fun hpatched => ?_, ?_⟩
  · rw [hsame hpatched, hext.hooks]
  · have hext' : Catalog.ExtendedBy { catalog with hooks } { catalog' with hooks } :=
      ⟨rfl, hext.classes⟩
    rw [hext'.compileClass_eq cache.settings hclosed href, hcompile]

/-- Hooks that are patched do not matter where they may be. -/
theorem patch (h : cache.Current catalog true) (hclasses : catalog'.classes = catalog.classes) :
    cache.Current catalog' true := by
  intro ref made hmade
  obtain ⟨href, hooks, -, hcompile⟩ := h ref made hmade
  rw [hclasses]
  exact ⟨href, hooks, Bool.noConfusion, hcompile⟩

theorem store (h : cache.Current catalog patched) {ref : ClassRef}
    (href : ref ∈ catalog.classes.refs) {type : CompiledType}
    (hcompile : catalog.compileClass cache.settings ref = .ok type) :
    (cache.store ref type).2.Current catalog patched := by
  intro c made hmade
  have hmade : (cache.types.put ref ⟨cache.compilations, type⟩).get? c = some made := hmade
  by_cases hc : c = ref
  · subst hc
    rw [Table.get?_put_self] at hmade
    obtain rfl := Option.some.inj hmade
    exact ⟨href, catalog.hooks, fun _ => rfl, hcompile⟩
  · rw [Table.get?_put_of_ne hc] at hmade
    exact h c made hmade

/-- What is given was compiled. -/
theorem exists_hooks_of_gives (h : cache.Current catalog patched) {t : CompiledType}
    (hgives : cache.gives catalog contract = .ok t) :
    ∃ hooks, (patched = false → hooks = catalog.hooks) ∧
      { catalog with hooks }.compile cache.settings contract = .ok t := by
  cases hfind : cache.find contract with
  | error f =>
    rw [gives_of_error hfind] at hgives
    cases hgives
  | ok found =>
    cases found with
    | none =>
      rw [gives_of_missing hfind] at hgives
      exact ⟨catalog.hooks, fun _ => rfl, hgives⟩
    | some found =>
      rw [gives_of_found hfind] at hgives
      obtain rfl := Except.ok.inj hgives
      cases contract with
      | ofClass ref => exact (h ref found (Except.ok.inj hfind)).2
      | ofValue v =>
        obtain ⟨_, _, hnone⟩ := bind_eq_ok.1 hfind
        cases hnone

end Current

/-- Whether an outcome, with the cache afterwards, is what a request for a contract comes to: it
changes nothing if it fails, and leaves a current cache current. -/
structure Serves (catalog : Catalog) (contract : Contract) (cache : Cache)
    (done : Except Fault CachedType × Cache) : Prop where
  type_eq : done.1.map (·.type) = cache.gives catalog contract
  unchanged : ∀ f, done.1 = .error f → done.2 = cache
  current : ∀ patched, cache.Current catalog patched → contract.Known catalog.classes →
    done.2.Current catalog patched

namespace Serves

theorem of_error {f : Fault} (h : cache.find contract = .error f) :
    Serves catalog contract cache (.error f, cache) :=
  ⟨(gives_of_error h).symm, fun _ _ => rfl, fun _ hcurrent _ => hcurrent⟩

theorem of_found {found : CachedType} (h : cache.find contract = .ok (some found)) :
    Serves catalog contract cache (.ok found, cache) :=
  ⟨(gives_of_found h).symm, fun _ _ => rfl, fun _ hcurrent _ => hcurrent⟩

end Serves

variable (catalog contract cache)

theorem serves_compileMissing :
    Serves catalog contract cache ((compileMissing catalog contract).run.run cache) := by
  cases hfind : cache.find contract with
  | error f =>
    rw [run_compileMissing_of_error hfind]
    exact .of_error hfind
  | ok found =>
    cases found with
    | some found =>
      rw [run_compileMissing_of_found hfind]
      exact .of_found hfind
    | none =>
      have hgives : cache.gives catalog contract = _ := gives_of_missing hfind
      cases hcompile : catalog.compile cache.settings contract with
      | error f =>
        rw [run_compileMissing_of_fail hfind hcompile]
        exact ⟨(hgives.trans hcompile).symm, fun _ _ => rfl, fun _ h _ => h⟩
      | ok type =>
        rw [run_compileMissing_of_compile hfind hcompile]
        obtain rfl := Catalog.contract_of_compile hcompile
        exact ⟨(hgives.trans hcompile).symm, fun f hf => (nomatch hf),
          fun _ h hknown => h.store (hknown _ rfl) hcompile⟩

/-- **What a request comes to.** -/
theorem serves_request :
    Serves catalog contract cache ((request catalog contract).run.run cache) := by
  cases hfind : cache.find contract with
  | error f =>
    rw [request, run_requestAmong_of_error hfind]
    exact .of_error hfind
  | ok found =>
    cases found with
    | some found =>
      rw [run_request_of_found hfind]
      exact .of_found hfind
    | none =>
      rw [run_request_of_missing hfind]
      exact serves_compileMissing catalog contract cache

/-- Another caller that asks for the same between the look-up and the compilation makes no
difference. -/
theorem serves_requestRaced :
    Serves catalog contract cache ((requestRaced catalog contract).run.run cache) := by
  cases hfind : cache.find contract with
  | error f =>
    rw [requestRaced, run_requestAmong_of_error hfind]
    exact .of_error hfind
  | ok found =>
    cases found with
    | some found =>
      rw [requestRaced, run_requestAmong_of_found hfind]
      exact .of_found hfind
    | none =>
      have hother : (request catalog contract).run.run cache = _ := run_request_of_missing hfind
      rw [requestRaced, run_requestAmong_of_missing hfind]
      show Serves catalog contract cache ((compileMissing catalog contract).run.run
        ((request catalog contract).run.run cache).2)
      rw [hother]
      cases hcompile : catalog.compile cache.settings contract with
      | error f =>
        -- the other caller failed too, and left the cache as it was
        rw [run_compileMissing_of_fail hfind hcompile]
        exact serves_compileMissing catalog contract cache
      | ok type =>
        -- the other caller compiled it, and the type is found now
        rw [run_compileMissing_of_compile hfind hcompile]
        obtain rfl := Catalog.contract_of_compile hcompile
        rw [run_compileMissing_of_found (find_store cache _ type)]
        have hserves := serves_compileMissing catalog (.ofClass type.schema.contract) cache
        rwa [run_compileMissing_of_compile hfind hcompile] at hserves

end Cache

/-! ### Mentions -/

theorem Value.Making.run_ofExcept (x : Except Fault α) (next : ℕ) :
    (Value.Making.ofExcept x).run next = (x, next) := by
  cases x <;> rfl

namespace Catalog

open Value.Making (run_ofExcept)

variable {catalog catalog' : Catalog} {m : Mention} {contract : Contract}

/-- The contract that a mention stands for is one of the classes, if it is a class at all, and the
classes that there were stay as they are. -/
theorem resolveMention_of_ok (hclosed : catalog.classes.Closed) (hm : m.Known catalog.classes)
    {settings : Except Fault Settings} {next next' : ℕ}
    (h : (catalog.resolveMention settings m).run next = (.ok (contract, catalog'), next')) :
    catalog'.classes.Closed ∧ catalog.ExtendedBy catalog' ∧ contract.Known catalog'.classes := by
  cases m with
  | ofClass ref =>
    cases h
    refine ⟨hclosed, .refl _, fun ref' href' => ?_⟩
    obtain rfl := Option.some.inj href'
    exact hm
  | ofValue v =>
    rw [resolveMention, run_bind] at h
    split at h
    · cases h
      exact ⟨hclosed, .refl _, fun ref href => nomatch href⟩
    · cases h
  | compiledFrom ref =>
    rw [resolveMention, run_bind, run_ofExcept] at h
    cases hadd : (do catalog.addCompiled (← settings) ref : Except Fault _) with
    | error f =>
      rw [hadd] at h
      cases h
    | ok added =>
      rw [hadd] at h
      cases h
      obtain ⟨given, -, hadd⟩ := bind_eq_ok.1 hadd
      obtain ⟨type, hcompile, hadded⟩ := bind_eq_ok.1 hadd
      obtain rfl := Except.ok.inj hadded
      obtain rfl := contract_of_compileClass hcompile
      refine ⟨closed_withCompiled hclosed hm, extendedBy_withCompiled catalog type, ?_⟩
      intro ref href
      obtain rfl := Option.some.inj href
      show _ ∈ (catalog.withCompiled type).classes.refs
      rw [refs_withCompiled]
      exact List.mem_append_right _ List.mem_cons_self

end Catalog

/-! ### Computations of a session -/

namespace Session

/-- The cache that a request by a name meets: where there is none, one is made with the settings
that the environment gives. -/
def cacheFor (s : Session) (name : CacheName) : Except Fault Cache :=
  match s.caches.get? name with
  | some c => .ok c
  | none => (Settings.load { given := [], environment := s.environment, file := "" }).map .empty

/-- The session with a cache stored. -/
def withCache (s : Session) (name : CacheName) (c : Cache) : Session :=
  { s with caches := s.caches.put name c }

theorem withCache_withCache (s : Session) (name : CacheName) (c c' : Cache) :
    (s.withCache name c).withCache name c' = s.withCache name c' := by
  rw [withCache, withCache, withCache, Table.put_put]

/-- The session after objects were made. -/
def withSerial (s : Session) (next : ℕ) : Session :=
  { s with traces := { s.traces with nextSerial := next } }

namespace Effect

variable {α β : Type} (s : Session)

theorem run_ofExcept (x : Except Fault α) : (ofExcept x).run s = (x.mapError .fault, s) := by
  cases x <;> rfl

theorem run_get : (get : Effect Session).run s = (.ok s, s) := rfl

theorem run_leaving (x : StateM Traces α) :
    (leaving x).run s = (.ok (x.run s.traces).1, { s with traces := (x.run s.traces).2 }) := rfl

theorem run_making (x : Value.Making α) :
    (making x).run s = ((x.run s.traces.nextSerial).1.mapError .fault,
      s.withSerial (x.run s.traces.nextSerial).2) := by
  rw [making, run_bind_ok (run_leaving s _), run_ofExcept]
  rfl

theorem run_setCache (name : CacheName) (c : Cache) :
    (setCache name c).run s = (.ok (), s.withCache name c) := rfl

theorem run_cache (name : CacheName) :
    (cache name).run s = match s.cacheFor name with
      | .ok c => (.ok c, s.withCache name c)
      | .error f => (.error (.fault f), s) := by
  rw [cache, run_bind_ok (run_get s), cacheFor]
  cases hname : s.caches.get? name with
  | some c =>
    show (Except.ok c, s) = (Except.ok c, s.withCache name c)
    rw [withCache, Table.put_of_get? hname]
  | none =>
    have hsettings : (settings []).run s = (.ok (Settings.load ⟨[], s.environment, ""⟩), s) := rfl
    rw [run_bind_ok hsettings, run_bind, run_ofExcept]
    cases Settings.load ⟨[], s.environment, ""⟩ with
    | error f => rfl
    | ok settings => rfl

variable {s} in
/-- A request works on the cache that it meets, and stores it. -/
theorem run_request {name : CacheName} {c : Cache} (h : s.cacheFor name = .ok c)
    (r : Cache.Request α) :
    (request name r).run s =
      ((r.run.run c).1.mapError .fault, s.withCache name (r.run.run c).2) := by
  have hcache : (cache name).run s = (.ok c, s.withCache name c) := by rw [run_cache, h]
  rw [request, run_bind_ok hcache]
  show ((setCache name (r.run.run c).2 >>= fun () => ofExcept (r.run.run c).1) : Effect α).run _ = _
  rw [run_bind_ok (run_setCache _ name _), run_ofExcept, withCache_withCache]

variable {s} in
theorem run_request_of_error {name : CacheName} {f : Fault} (h : s.cacheFor name = .error f)
    (r : Cache.Request α) : (request name r).run s = (.error (.fault f), s) := by
  have hcache : (cache name).run s = (.error (.fault f), s) := by rw [run_cache, h]
  rw [request, run_bind_error hcache]

theorem run_contract (m : Mention) :
    (contract m).run s =
      match (s.catalog.resolveMention (Settings.load ⟨[], s.environment, ""⟩) m).run
          s.traces.nextSerial with
      | (.ok (contract, catalog), next) => (.ok contract, { s.withSerial next with catalog })
      | (.error f, next) => (.error (.fault f), s.withSerial next) := by
  rw [contract, run_bind_ok (run_get s)]
  have hsettings : (settings []).run s = (.ok (Settings.load ⟨[], s.environment, ""⟩), s) := rfl
  rw [run_bind_ok hsettings, run_bind, run_making]
  cases (s.catalog.resolveMention (Settings.load ⟨[], s.environment, ""⟩) m).run
    s.traces.nextSerial with
  | mk r next => cases r <;> rfl

/-- Whether a computation leaves the classes and the caches alone. -/
def Aside (x : Effect α) : Prop :=
  ∀ s : Session, (x.run s).2.catalog = s.catalog ∧ (x.run s).2.caches = s.caches

namespace Aside

variable {α β : Type}

theorem pure (a : α) : Aside (Pure.pure a) := fun _ => ⟨rfl, rfl⟩

theorem throw (h : Halt) : Aside (MonadExcept.throw h : Effect α) := fun _ => ⟨rfl, rfl⟩

theorem get : Aside (MonadState.get : Effect Session) := fun _ => ⟨rfl, rfl⟩

theorem modifying {f : Session → Session} (hcatalog : ∀ s, (f s).catalog = s.catalog)
    (hcaches : ∀ s, (f s).caches = s.caches) : Aside (modify f : Effect PUnit) :=
  fun s => ⟨hcatalog s, hcaches s⟩

theorem bind {x : Effect α} {f : α → Effect β} (hx : Aside x) (hf : ∀ a, Aside (f a)) :
    Aside (x >>= f) := by
  intro s
  obtain ⟨hcatalog, hcaches⟩ := hx s
  rw [run_bind]
  cases hrun : x.run s with
  | mk r s' =>
    rw [hrun] at hcatalog hcaches
    cases r with
    | error h => exact ⟨hcatalog, hcaches⟩
    | ok a => exact ⟨(hf a s').1.trans hcatalog, (hf a s').2.trans hcaches⟩

theorem ofExcept (x : Except Fault α) : Aside (Effect.ofExcept x) := by
  intro s
  rw [run_ofExcept]
  exact ⟨rfl, rfl⟩

theorem leaving (x : StateM Traces α) : Aside (Effect.leaving x) := fun _ => ⟨rfl, rfl⟩

theorem making (x : Value.Making α) : Aside (Effect.making x) :=
  (leaving _).bind ofExcept

theorem forM {as : List β} {f : β → Effect PUnit} (hf : ∀ b, Aside (f b)) : Aside (as.forM f) := by
  induction as with
  | nil => exact pure _
  | cons b as ih => exact (hf b).bind fun _ => ih

theorem present (name : CacheName) (made : CachedType) : Aside (Session.present name made) := by
  refine bind (fun s => ?_) fun n => pure _
  rw [appearance, run_bind_ok (run_get s)]
  cases s.shown.idxOf? (name, made.number) with
  | some n => exact ⟨rfl, rfl⟩
  | none => exact ⟨rfl, rfl⟩

theorem setEntity (name : String) (e : Entity) : Aside (Effect.setEntity name e) :=
  modifying (fun _ => rfl) fun _ => rfl

theorem create (name : String) (type : CompiledType) (made : Except Fault EntityState) :
    Aside (Effect.create name type made) :=
  (ofExcept made).bind fun _ => (setEntity _ _).bind fun _ => pure _

theorem sceneOf (type : CompiledType) : Aside (Effect.sceneOf type) := get.bind fun _ => pure _

theorem onEntity (name : String) (work : Runner → Scene → Exec α) :
    Aside (Effect.onEntity name work) := by
  refine get.bind fun s => ?_
  cases s.entities.get? name with
  | none => exact throw _
  | some e =>
    refine (sceneOf e.type).bind fun scene => (leaving _).bind fun (result, state) =>
      (setEntity _ _).bind fun _ => ?_
    cases result with
    | ok a => exact pure a
    | error h => exact throw h

theorem draw (batch entity : String) : Aside (Effect.draw batch entity) := by
  refine get.bind fun s => ?_
  cases s.batches.get? batch with
  | none => exact throw _
  | some b =>
    refine (sceneOf b.type).bind fun scene => (leaving _).bind fun (drawn, b) => ?_
    refine bind (x := modify _) (modifying (fun _ => rfl) fun _ => rfl) fun _ => ?_
    cases drawn with
    | exhausted => exact pure _
    | halted h => exact throw h
    | entity e => exact (setEntity _ _).bind fun _ => pure _

theorem environment (changes : List (String × Option String)) :
    Aside (perform (.environment changes)) := by
  refine (forM fun (name, v) => ?_).bind fun _ => pure _
  exact get.bind fun s => (ofExcept _).bind fun e => modifying (fun _ => rfl) fun _ => rfl

end Aside

end Effect

/-! ### Fresh sessions -/

/-- **What the steps keep**: the bases of all classes are there, and what the caches hold was given
by compiling. -/
structure Fresh (s : Session) (patched : Bool) : Prop where
  closed : s.catalog.classes.Closed
  current : ∀ name c, s.caches.get? name = some c → c.Current s.catalog patched

namespace Fresh

open Effect

variable {α β : Type} {s s' : Session} {patched : Bool} {name : CacheName} {c : Cache}

theorem congr (h : s.Fresh patched) (hcatalog : s'.catalog = s.catalog)
    (hcaches : s'.caches = s.caches) : s'.Fresh patched := by
  refine ⟨hcatalog ▸ h.closed, fun name c hc => ?_⟩
  rw [hcaches] at hc
  rw [hcatalog]
  exact h.current name c hc

theorem of_aside (h : s.Fresh patched) {x : Effect α} (hx : x.Aside) : (x.run s).2.Fresh patched :=
  h.congr (hx s).1 (hx s).2

theorem current_of_cacheFor (h : s.Fresh patched) (hc : s.cacheFor name = .ok c) :
    c.Current s.catalog patched := by
  rw [cacheFor] at hc
  cases hname : s.caches.get? name with
  | some c' =>
    rw [hname] at hc
    obtain rfl := Except.ok.inj hc
    exact h.current name c' hname
  | none =>
    rw [hname] at hc
    cases hload : Settings.load ⟨[], s.environment, ""⟩ with
    | error f =>
      rw [hload] at hc
      cases hc
    | ok settings =>
      rw [hload] at hc
      obtain rfl := Except.ok.inj hc
      exact .of_types_eq_nil rfl

theorem withCache (h : s.Fresh patched) (name : CacheName) (hc : c.Current s.catalog patched) :
    (s.withCache name c).Fresh patched := by
  refine ⟨h.closed, fun name' c' hc' => ?_⟩
  have hc' : (s.caches.put name c).get? name' = some c' := hc'
  by_cases hname : name' = name
  · subst hname
    rw [Table.get?_put_self] at hc'
    obtain rfl := Option.some.inj hc'
    exact hc
  · rw [Table.get?_put_of_ne hname] at hc'
    exact h.current name' c' hc'

/-- What one computation keeps and the next one keeps. -/
theorem bind {x : Effect α} {f : α → Effect β} (hx : (x.run s).2.Fresh patched)
    (hf : ∀ a s', x.run s = (.ok a, s') → s'.Fresh patched → ((f a).run s').2.Fresh patched) :
    ((x >>= f).run s).2.Fresh patched := by
  rw [run_bind]
  cases hrun : x.run s with
  | mk r s' =>
    rw [hrun] at hx
    cases r with
    | error h => exact hx
    | ok a => exact hf a s' hrun hx

theorem bind_aside (h : s.Fresh patched) {x : Effect α} (hx : x.Aside) {f : α → Effect β}
    (hf : ∀ a s', s'.Fresh patched → s'.catalog = s.catalog → ((f a).run s').2.Fresh patched) :
    ((x >>= f).run s).2.Fresh patched := by
  refine bind (h.of_aside hx) fun a s' hrun hs' => hf a s' hs' ?_
  have hcatalog := (hx s).1
  rwa [hrun] at hcatalog

theorem cache (h : s.Fresh patched) (name : CacheName) :
    ((Effect.cache name).run s).2.Fresh patched := by
  rw [run_cache]
  cases hc : s.cacheFor name with
  | error f => exact h
  | ok c => exact h.withCache name (h.current_of_cacheFor hc)

/-- A request for a contract among the classes. -/
theorem request (h : s.Fresh patched) {contract : Contract}
    (hknown : contract.Known s.catalog.classes) (name : CacheName) {r : Cache.Request CachedType}
    (hr : ∀ c, Cache.Serves s.catalog contract c (r.run.run c)) :
    ((Effect.request name r).run s).2.Fresh patched := by
  cases hc : s.cacheFor name with
  | error f =>
    rw [run_request_of_error hc]
    exact h
  | ok c =>
    rw [run_request hc]
    exact h.withCache name ((hr c).current patched (h.current_of_cacheFor hc) hknown)

end Fresh

/-! ### Mentions in a session -/

section Mentions

variable {s s' : Session} {patched : Bool} {m : Mention}

open Effect

/-- Mentioning a contract touches no cache. -/
theorem caches_run_contract (s : Session) (m : Mention) :
    ((Effect.contract m).run s).2.caches = s.caches ∧
      ((Effect.contract m).run s).2.environment = s.environment := by
  rw [run_contract]
  cases (s.catalog.resolveMention (Settings.load ⟨[], s.environment, ""⟩) m).run
    s.traces.nextSerial with
  | mk r next => cases r <;> exact ⟨rfl, rfl⟩

theorem cacheFor_of_contract {r : Except Halt Contract}
    (hrun : (Effect.contract m).run s = (r, s')) : s'.cacheFor = s.cacheFor := by
  obtain ⟨hcaches, henvironment⟩ := caches_run_contract s m
  rw [hrun] at hcaches henvironment
  funext name
  rw [cacheFor, cacheFor, hcaches, henvironment]

namespace Fresh

/-- A mention that stands for a contract leaves a fresh session, with the contract among its
classes. -/
theorem contract (h : s.Fresh patched) (hm : m.Known s.catalog.classes) {contract : Contract}
    (hrun : (Effect.contract m).run s = (.ok contract, s')) :
    s'.Fresh patched ∧ contract.Known s'.catalog.classes := by
  rw [run_contract] at hrun
  split at hrun
  · next hresolve =>
    obtain ⟨hclosed, hext, hknown⟩ := Catalog.resolveMention_of_ok h.closed hm hresolve
    cases hrun
    exact ⟨⟨hclosed, fun name c hc => (h.current name c hc).extend h.closed hext⟩, hknown⟩
  · cases hrun

theorem contract_of_any (h : s.Fresh patched) (hm : m.Known s.catalog.classes) :
    ((Effect.contract m).run s).2.Fresh patched := by
  cases hrun : (Effect.contract m).run s with
  | mk r s' =>
    cases r with
    | ok contract => exact (h.contract hm hrun).1
    | error e =>
      rw [run_contract] at hrun
      split at hrun
      · cases hrun
      · cases hrun
        exact h.congr rfl rfl

/-- What comes after a mention starts with a contract among the classes. -/
theorem bind_contract (h : s.Fresh patched) (hm : m.Known s.catalog.classes)
    {f : Contract → Effect α} (hf : ∀ contract s', s'.Fresh patched →
      contract.Known s'.catalog.classes → ((f contract).run s').2.Fresh patched) :
    (((Effect.contract m) >>= f).run s).2.Fresh patched :=
  bind (h.contract_of_any hm) fun contract s' hrun hs' =>
    hf contract s' hs' (h.contract hm hrun).2

theorem compiled (h : s.Fresh patched) (hm : m.Known s.catalog.classes) (name : CacheName) :
    ((Effect.compiled name m).run s).2.Fresh patched := by
  refine h.bind_contract hm fun contract s' hs' hknown => ?_
  rw [run_bind_ok (run_get s')]
  exact hs'.request hknown name (Cache.serves_request _ contract)

end Fresh

end Mentions

end Session

/-! ### Steps -/

/-- The mention of a contract in a step. -/
def Step.mention? : Step → Option Mention
  | .contains _ m | .compiled _ m | .raced _ m | .build _ m _ | .buildDerived _ m _ _
  | .buildMany _ m _ _ _ | .direct m _ _ => some m
  | .size _ | .clear _ | .settings _ | .next _ _ | .environment _ | .patch _ _ _ | .bare
  | .entity _ _ => none

namespace Session

/-- Whether all caches of a session are without types. -/
def Uncached (s : Session) : Prop := ∀ name c, s.caches.get? name = some c → c.types = []

/-- Whether a step is about classes that there are, and leaves the hook directories alone while
anything is cached, unless these may be patched. -/
structure Allows (s : Session) (patched : Bool) (step : Step) : Prop where
  known : ∀ m, step.mention? = some m → m.Known s.catalog.classes
  uncached : patched = false → ∀ directory name member, step = .patch directory name member →
    s.Uncached

section Steps

variable {s : Session} {patched : Bool}

open Effect

theorem Uncached.fresh (h : s.Uncached) (hclosed : s.catalog.classes.Closed) : s.Fresh patched :=
  ⟨hclosed, fun name c hc => .of_types_eq_nil (h name c hc)⟩

/-- A change of a hook directory leaves everything else alone. -/
theorem run_patch (s : Session) (directory name : String) (member : HookMember) :
    ((perform (.patch directory name member)).run s).2.catalog.classes = s.catalog.classes ∧
      ((perform (.patch directory name member)).run s).2.caches = s.caches := by
  rw [perform, run_bind, run_making]
  cases (member.make.run s.traces.nextSerial).1 with
  | error f => exact ⟨rfl, rfl⟩
  | ok made =>
    have hget := run_get (s.withSerial (member.make.run s.traces.nextSerial).2)
    simp only [Except.mapError, run_bind_ok hget]
    rw [run_bind, run_ofExcept]
    cases HookCatalog.patch _ directory name made with
    | error f => exact ⟨rfl, rfl⟩
    | ok hooks => exact ⟨rfl, rfl⟩

/-- **Every step keeps a session fresh.** -/
theorem Fresh.perform (h : s.Fresh patched) {step : Step} (hallows : s.Allows patched step) :
    ((Session.perform step).run s).2.Fresh patched := by
  cases step with
  | size name | settings name =>
    exact bind (h.cache name) fun _ _ _ hs' => hs'.of_aside (.pure _)
  | clear name =>
    refine bind (h.cache name) fun c s' _ hs' => ?_
    exact bind (hs'.withCache name (.of_types_eq_nil rfl)) fun _ _ _ hs' => hs'.of_aside (.pure _)
  | contains name m =>
    refine h.bind_contract (hallows.known m rfl) fun contract s' hs' _ => ?_
    exact bind (hs'.cache name) fun _ _ _ hs' => hs'.of_aside (.bind (.ofExcept _) fun _ => .pure _)
  | compiled name m =>
    exact bind (h.compiled (hallows.known m rfl) name) fun made _ _ hs' =>
      hs'.of_aside (.present name made)
  | raced name m =>
    refine h.bind_contract (hallows.known m rfl) fun contract s' hs' hknown => ?_
    rw [run_bind_ok (run_get s')]
    exact bind (hs'.request hknown name (Cache.serves_requestRaced _ contract)) fun made _ _ hs' =>
      hs'.of_aside (.present name made)
  | build name m entity | buildDerived name m className entity =>
    exact bind (h.compiled (hallows.known m rfl) name) fun _ _ _ hs' =>
      hs'.of_aside (.bind (.create _ _ _) fun _ => .pure _)
  | buildMany name m count initializer batch =>
    refine h.bind_contract (hallows.known m rfl) fun contract s' hs' hknown => ?_
    refine hs'.bind_aside (.making _) fun count s₁ hs₁ hcatalog => ?_
    refine hs₁.bind_aside (.ofExcept _) fun _ s₂ hs₂ hcatalog' => ?_
    -- making and checking the count left the classes as they were
    rw [← hcatalog, ← hcatalog'] at hknown
    rw [run_bind_ok (run_get s₂)]
    refine bind (hs₂.request hknown name (Cache.serves_request _ contract)) fun made s₃ _ hs₃ => ?_
    exact hs₃.of_aside (.bind (x := modify _) (.modifying (fun _ => rfl) fun _ => rfl)
      fun _ => .pure _)
  | next batch entity =>
    refine h.of_aside (.bind (.draw batch entity) fun drawn => ?_)
    cases drawn with
    | none => exact .pure _
    | some className => exact .pure _
  | direct m given entity =>
    refine h.bind_contract (hallows.known m rfl) fun contract s' hs' _ => ?_
    refine hs'.bind_aside (.bind .get fun _ => .pure _) fun loaded s₁ hs₁ _ => ?_
    refine hs₁.of_aside (.bind (.ofExcept _) fun settings => .bind .get fun s₂ =>
      .bind (.ofExcept _) fun type => .bind (.create _ _ _) fun _ => .pure _)
  | environment changes => exact h.of_aside (.environment changes)
  | patch directory name member =>
    obtain ⟨hclasses, hcaches⟩ := run_patch s directory name member
    refine ⟨hclasses ▸ h.closed, fun name c hc => ?_⟩
    rw [hcaches] at hc
    cases patched with
    | true => exact (h.current name c hc).patch hclasses
    | false => exact .of_types_eq_nil (hallows.uncached rfl directory _ member rfl name c hc)
  | bare => exact h.of_aside (.bind .get fun _ => .throw _)
  | entity name work =>
    rw [Session.perform]
    exact h.of_aside (.onEntity name _)

/-- Writing the report touches nothing but the log. -/
theorem Fresh.advance (h : s.Fresh patched) {step : Step} (hallows : s.Allows patched step) :
    (advance s step).2.Fresh patched := by
  have hcleared : ({ s with traces.history := [] } : Session).Fresh patched := h.congr rfl rfl
  exact hcleared.perform ⟨hallows.known, hallows.uncached⟩

end Steps

/-- The sessions that steps lead to, from one without compiled types.  The steps are about classes
that there are at that time; unless hook directories may be patched, they are changed only while
nothing is cached. -/
inductive Reached (patched : Bool) : Session → Prop
  | start {s : Session} (hclosed : s.catalog.classes.Closed) (h : s.Uncached) : Reached patched s
  | advance {s : Session} {step : Step} (h : Reached patched s) (hallows : s.Allows patched step) :
      Reached patched (advance s step).2

theorem Reached.fresh {patched : Bool} {s : Session} (h : Reached patched s) :
    s.Fresh patched := by
  induction h with
  | start hclosed h => exact h.fresh hclosed
  | advance _ hallows ih => exact ih.advance hallows

end Session

end TrackedEntity
