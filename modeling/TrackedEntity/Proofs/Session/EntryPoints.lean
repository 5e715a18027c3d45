import TrackedEntity.Proofs.Compiled.Tables
import TrackedEntity.Proofs.Session.Freshness

/-!
# Ways to get a contract compiled

A contract can be compiled in several ways: without a cache, or by asking a cache for the compiled
type, for one entity or for a batch of them (`EntryPoint`).  Each of them comes down to compiling
or, in a cache, to what the cache gives (`EntryPoint.alone`).  A computation `GoesAs` such an
outcome if it fails with the fault of it and leaves the caches as they were, or succeeds where it
does; every way goes as what it comes down to (`Session.goesAs_entry`).

The two differ for what is neither a class nor a key, and for contracts that a cache has held since
before their hooks were patched.  Everything else is accepted or rejected alike, whichever way is
taken and whatever the session did before (`Session.Reached.entryPoints_agree`).
-/

namespace TrackedEntity

open Outcome

/-! ### The ways -/

/-- A way to get a contract compiled. -/
inductive EntryPoint where
  /-- Without a cache, with settings given outright. -/
  | direct (given : Table String Value) (entity : String)
  | compiled
  /-- While another caller asks for the same. -/
  | raced
  /-- By asking for the maker of entities, which is then used once. -/
  | build (entity : String)
  | buildDerived (className entity : String)
  | buildMany (count : Value) (initializer : Option Expr) (batch : String)

namespace EntryPoint

/-- The step that goes this way. -/
def step (name : CacheName) (m : Mention) : EntryPoint → Step
  | .direct given entity => .direct m given entity
  | .compiled => .compiled name m
  | .raced => .raced name m
  | .build entity => .build name m entity
  | .buildDerived className entity => .buildDerived name m className entity
  | .buildMany count initializer batch => .buildMany name m count initializer batch

/-- Whether a way leads through a cache. -/
def cached : EntryPoint → Bool
  | .direct _ _ => false
  | _ => true

/-- Whether an entity is made at once of what was compiled. -/
def makesEntity : EntryPoint → Bool
  | .direct _ _ | .build _ | .buildDerived _ _ => true
  | .compiled | .raced | .buildMany _ _ _ => false

/-- Whether a way leads to the compiler, with such settings: those given outright are these, and a
batch has at least one entity. -/
def Ready (s : Session) (settings : Settings) : EntryPoint → Prop
  | .direct given _ => Settings.load ⟨given, s.environment, ""⟩ = .ok settings
  | .buildMany count _ _ => requireCount count = .ok ()
  | _ => True

/-- What a way comes down to: what the cache gives, or what compiling does with its settings. -/
def alone (e : EntryPoint) (catalog : Catalog) (cache : Cache) (contract : Contract) :
    Except Fault CompiledType :=
  if e.cached then cache.gives catalog contract else catalog.compile cache.settings contract

variable {e : EntryPoint} {contract : Contract} (catalog : Catalog) (cache : Cache)

/-- For what can be a key, a way comes down to compiling, or to what the cache holds. -/
theorem alone_cases (h : contract.requireKey = .ok () ∨ e.cached = false) :
    (e.cached = true → cache.find contract = .ok none) ∧
      e.alone catalog cache contract = catalog.compile cache.settings contract ∨
    e.cached = true ∧ ∃ made, cache.find contract = .ok (some made) ∧
      e.alone catalog cache contract = .ok made.type := by
  rw [alone]
  cases hcached : e.cached with
  | false => exact .inl ⟨Bool.noConfusion, if_neg Bool.false_ne_true⟩
  | true =>
    have hfind : cache.find contract = _ := Cache.find_of_key (h.resolve_right (by simp [hcached]))
    rw [if_pos rfl]
    cases hheld : contract.class?.bind cache.types.get? with
    | none =>
      rw [hheld] at hfind
      exact .inl ⟨fun _ => hfind, Cache.gives_of_missing hfind⟩
    | some made =>
      rw [hheld] at hfind
      exact .inr ⟨rfl, made, hfind, Cache.gives_of_found hfind⟩

/-- What is no key is found out by the look-up. -/
theorem alone_of_not_key {f : Fault} (h : contract.requireKey = .error f)
    (hcached : e.cached = true) : e.alone catalog cache contract = .error f := by
  rw [alone, if_pos hcached, Cache.gives_of_error (Cache.find_of_not_key h)]

end EntryPoint

/-- A compiled type has entities, if there is room for their masks in memory. -/
theorem CompiledType.exists_newEntity {catalog : Catalog} {settings : Settings}
    {contract : Contract} {t : CompiledType} (h : catalog.compile settings contract = .ok t)
    (hroom : (t.schema.mutableCount + 7) / 8 < Mask.leastTooLarge) :
    ∃ e, t.newEntity = .ok e := by
  obtain ⟨mask, hmask⟩ := Layout.exists_new (aligned_of_compile h).layout_eq hroom
  exact ⟨_, bind_eq_ok.2 ⟨mask, hmask, rfl⟩⟩

/-- What can be the count of a batch is made into one that can. -/
theorem Value.make_of_requireCount {count : Value} (h : requireCount count = .ok ()) (next : ℕ) :
    ∃ made next', count.make.run next = (.ok made, next') ∧ requireCount made = .ok () := by
  cases count with
  | int n | bool b => exact ⟨_, next, rfl, h⟩
  | float id x =>
    cases id with
    | written => exact ⟨.float (.made next) x, next + 1, rfl, h⟩
    | made serial => exact ⟨.float (.made serial) x, next, rfl, h⟩
  | _ => cases h

/-! ### Going as compiling -/

namespace Session

namespace Effect

variable {α β : Type} {s s' : Session}

/-- Whether a computation goes as an outcome of compiling: it fails with the same fault and leaves
all caches as they were, or succeeds as well. -/
inductive GoesAs (s : Session) (x : Effect α) (P : CompiledType → α → Prop) :
    Except Fault CompiledType → Prop
  | fails {f : Fault} {s' : Session} (hrun : x.run s = (.error (.fault f), s'))
      (hcaches : s'.cacheFor = s.cacheFor) : GoesAs s x P (.error f)
  | succeeds {t : CompiledType} {a : α} {s' : Session} (hrun : x.run s = (.ok a, s'))
      (hresult : P t a) : GoesAs s x P (.ok t)

namespace GoesAs

variable {x : Effect α} {alone : Except Fault CompiledType} {P : CompiledType → α → Prop}

theorem succeeds_iff (h : GoesAs s x P alone) :
    (∃ a s', x.run s = (.ok a, s')) ↔ ∃ t, alone = .ok t := by
  cases h with
  | fails hrun =>
    refine iff_of_false ?_ fun ⟨t, ht⟩ => nomatch ht
    rintro ⟨a, s', hrun'⟩
    cases hrun.symm.trans hrun'
  | succeeds hrun => exact iff_of_true ⟨_, _, hrun⟩ ⟨_, rfl⟩

theorem fails_with (h : GoesAs s x P alone) {halt : Halt} (hrun : x.run s = (.error halt, s')) :
    (∃ f, halt = .fault f ∧ alone = .error f) ∧ s'.cacheFor = s.cacheFor := by
  cases h with
  | fails hrun' hcaches =>
    cases hrun.symm.trans hrun'
    exact ⟨⟨_, rfl, rfl⟩, hcaches⟩
  | succeeds hrun' => cases hrun.symm.trans hrun'

theorem exists_fails {f : Fault} (h : GoesAs s x P (.error f)) :
    ∃ s', x.run s = (.error (.fault f), s') ∧ s'.cacheFor = s.cacheFor := by
  cases h with
  | fails hrun hcaches => exact ⟨_, hrun, hcaches⟩

/-- What comes first and touches no cache makes no difference. -/
theorem after {y : Effect β} {b : β} {f : β → Effect α} (hrun : y.run s = (.ok b, s'))
    (hcaches : s'.cacheFor = s.cacheFor) (h : GoesAs s' (f b) P alone) :
    GoesAs s (y >>= f) P alone := by
  cases h with
  | fails hrun' hcaches' =>
    exact .fails ((run_bind_ok hrun).trans hrun') (hcaches'.trans hcaches)
  | succeeds hrun' hresult => exact .succeeds ((run_bind_ok hrun).trans hrun') hresult

/-- What comes afterwards makes no difference where it succeeds. -/
theorem bind {f : α → Effect β} (h : GoesAs s x P alone)
    (hf : ∀ t a s', alone = .ok t → P t a → ∃ b s'', (f a).run s' = (.ok b, s'')) :
    GoesAs s (x >>= f) (fun _ _ => True) alone := by
  cases h with
  | fails hrun hcaches => exact .fails (run_bind_error hrun) hcaches
  | succeeds hrun hresult =>
    obtain ⟨b, s'', hrun'⟩ := hf _ _ _ rfl hresult
    exact .succeeds ((run_bind_ok hrun).trans hrun') trivial

end GoesAs

variable {name : CacheName} {c : Cache}

theorem run_present (s : Session) (name : CacheName) (made : CachedType) :
    ∃ a s', (present name made).run s = (.ok a, s') := by
  rw [present, run_bind, appearance, run_bind_ok (run_get s)]
  cases s.shown.idxOf? (name, made.number) with
  | some n => exact ⟨_, _, rfl⟩
  | none => exact ⟨_, _, rfl⟩

/-- An entity that could be made is stored. -/
theorem run_create_of_ok (s : Session) (name : String) (t : CompiledType)
    {made : Except Fault EntityState} {e : EntityState} (he : made = .ok e) :
    ∃ a s', (do return Answer.text (← create name t made) : Effect Answer).run s = (.ok a, s') := by
  subst he
  exact ⟨_, _, rfl⟩

theorem goesAs_ofExcept (s : Session) (x : Except Fault CompiledType) :
    GoesAs s (ofExcept x) (fun t a => a = t) x := by
  cases x with
  | error f => exact .fails rfl rfl
  | ok t => exact .succeeds rfl rfl

end Effect

open Effect

variable {s s₁ : Session} {name : CacheName} {c : Cache} {contract : Contract} {m : Mention}

/-- Storing the cache that a request would meet makes no difference. -/
theorem cacheFor_withCache (h : s.cacheFor name = .ok c) :
    (s.withCache name c).cacheFor = s.cacheFor := by
  funext other
  by_cases hother : other = name
  · subst hother
    rw [h, cacheFor, withCache, Table.get?_put_self]
  · rw [cacheFor, cacheFor, withCache, Table.get?_put_of_ne hother]

/-- A request goes as what the cache gives. -/
theorem goesAs_request (h : s.cacheFor name = .ok c) {r : Cache.Request CachedType}
    (hserves : Cache.Serves s.catalog contract c (r.run.run c)) :
    GoesAs s (request name r) (fun t made => made.type = t) (c.gives s.catalog contract) := by
  have hrun := run_request h r
  rw [← hserves.type_eq]
  cases hdone : (r.run.run c).1 with
  | error f =>
    rw [hdone, hserves.unchanged f hdone] at hrun
    exact .fails hrun (cacheFor_withCache h)
  | ok made =>
    rw [hdone] at hrun
    exact .succeeds hrun rfl

/-- What is compiled without a cache goes as compiling does, and so does making an entity of it. -/
theorem goesAs_direct (hcontract : (Effect.contract m).run s = (.ok contract, s₁))
    {given : Table String Value} {settings : Settings}
    (hgiven : Settings.load ⟨given, s.environment, ""⟩ = .ok settings)
    (hmakes : ∀ t, s₁.catalog.compile settings contract = .ok t → ∃ e, t.newEntity = .ok e)
    (entity : String) :
    GoesAs s (perform (.direct m given entity)) (fun _ _ => True)
      (s₁.catalog.compile settings contract) := by
  have henvironment : s₁.environment = s.environment := by
    have henvironment := (caches_run_contract s m).2
    rwa [hcontract] at henvironment
  have hsettings : (Effect.settings given).run s₁ = (.ok (.ok settings), s₁) := by
    rw [← hgiven, ← henvironment]
    rfl
  have hloaded : (Effect.ofExcept (.ok settings)).run s₁ = (.ok settings, s₁) := rfl
  refine .after hcontract (cacheFor_of_contract hcontract) (.after hsettings rfl
    (.after hloaded rfl (.after (run_get s₁) rfl ?_)))
  refine (goesAs_ofExcept s₁ _).bind fun t made s' hcompile htype => ?_
  subst htype
  obtain ⟨e, he⟩ := hmakes _ hcompile
  exact run_create_of_ok s' entity made he

/-- A batch is started after the count was made and checked, which touches no cache. -/
theorem goesAs_buildMany (hcontract : (Effect.contract m).run s = (.ok contract, s₁))
    (hcache : s₁.cacheFor name = .ok c) {count : Value} (hcount : requireCount count = .ok ())
    (initializer : Option Expr) (batch : String) :
    GoesAs s (perform (.buildMany name m count initializer batch)) (fun _ _ => True)
      (c.gives s₁.catalog contract) := by
  obtain ⟨value, next, hmake, hvalue⟩ := Value.make_of_requireCount hcount s₁.traces.nextSerial
  have hmade : (Effect.make count).run s₁ = (.ok value, s₁.withSerial next) := by
    rw [Effect.make, run_making, hmake]
    rfl
  have haccepted : (Effect.ofExcept (requireCount value)).run (s₁.withSerial next) =
      (.ok (), s₁.withSerial next) := by
    rw [hvalue]
    rfl
  have hcache' : (s₁.withSerial next).cacheFor name = .ok c := hcache
  refine .after hcontract (cacheFor_of_contract hcontract) (.after hmade rfl
    (.after haccepted rfl (.after (run_get _) rfl ?_)))
  exact (goesAs_request hcache' (Cache.serves_request _ _ _)).bind fun t made s' _ _ => ⟨_, _, rfl⟩

/-- **Every way goes as what it comes down to**, whatever the session is. -/
theorem goesAs_entry (hcache : s.cacheFor name = .ok c)
    (hcontract : (Effect.contract m).run s = (.ok contract, s₁)) {e : EntryPoint}
    (hready : e.Ready s c.settings)
    (hmakes : ∀ t, e.alone s₁.catalog c contract = .ok t → e.makesEntity = true →
      ∃ entity, t.newEntity = .ok entity) :
    GoesAs s (perform (e.step name m)) (fun _ _ => True) (e.alone s₁.catalog c contract) := by
  have hsame := cacheFor_of_contract hcontract
  have hcache₁ : s₁.cacheFor name = .ok c := hsame ▸ hcache
  have hcompiled : GoesAs s (compiled name m) (fun t made => made.type = t)
      (c.gives s₁.catalog contract) :=
    .after hcontract hsame
      (.after (run_get s₁) rfl (goesAs_request hcache₁ (Cache.serves_request _ _ _)))
  cases e with
  | direct given entity =>
    exact goesAs_direct hcontract hready (fun t ht => hmakes t ht rfl) entity
  | compiled => exact hcompiled.bind fun t made s' _ _ => run_present s' name made
  | raced =>
    have hraced := goesAs_request hcache₁ (Cache.serves_requestRaced s₁.catalog contract c)
    refine .after hcontract hsame (.after (run_get s₁) rfl ?_)
    exact hraced.bind fun t made s' _ _ => run_present s' name made
  | build entity =>
    refine hcompiled.bind fun t made s' halone htype => ?_
    subst htype
    obtain ⟨e, he⟩ := hmakes _ halone rfl
    exact run_create_of_ok s' entity made.type he
  | buildDerived className entity =>
    refine hcompiled.bind fun t made s' halone htype => ?_
    subst htype
    obtain ⟨e, he⟩ := hmakes _ halone rfl
    exact run_create_of_ok s' entity made.type (bind_eq_ok.2 ⟨e, he, rfl⟩)
  | buildMany count initializer batch =>
    exact goesAs_buildMany hcontract hcache₁ hready initializer batch

/-- What a way comes down to in a session that steps may have led to makes entities, if there is
room for their masks. -/
theorem Fresh.exists_newEntity_of_alone {patched : Bool} (h : s.Fresh patched)
    (hcache : s.cacheFor name = .ok c) {e : EntryPoint} {t : CompiledType}
    (halone : e.alone s.catalog c contract = .ok t)
    (hroom : (t.schema.mutableCount + 7) / 8 < Mask.leastTooLarge) :
    ∃ entity, t.newEntity = .ok entity := by
  rw [EntryPoint.alone] at halone
  split at halone
  · obtain ⟨hooks, -, hcompile⟩ := (h.current_of_cacheFor hcache).exists_hooks_of_gives halone
    exact CompiledType.exists_newEntity hcompile hroom
  · exact CompiledType.exists_newEntity halone hroom

/-- **All ways accept and reject the same contracts in the same way, as far as these can be keys.**

In every session that steps may have led to, for every argument that a mention stands for and every
cache that is there or is made for the request, a way through this cache, or the direct one with its
settings, succeeds exactly if compiling does, or if the cache has held the contract since before
hook directories were patched.  Otherwise it fails with the fault of the compilation, and every name
leads to the cache that it led to before, with its types and its counter.  What is no class is
rejected by compiling with a schema fault.  What is moreover no key, as it has a part of an
unhashable type, never comes to that on a way through a cache: the request fails as the look-up
does, and leaves the caches as they were as well. -/
theorem Reached.entryPoints_agree {patched : Bool} (h : Reached patched s)
    (hm : m.Known s.catalog.classes) (hcache : s.cacheFor name = .ok c)
    (hcontract : (Effect.contract m).run s = (.ok contract, s₁))
    {e : EntryPoint} (hready : e.Ready s c.settings)
    (hroom : ∀ t, e.alone s₁.catalog c contract = .ok t → e.makesEntity = true →
      (t.schema.mutableCount + 7) / 8 < Mask.leastTooLarge) :
    (contract.requireKey = .ok () ∨ e.cached = false →
      ((∃ a s', (perform (e.step name m)).run s = (.ok a, s')) ↔
        (∃ t, s₁.catalog.compile c.settings contract = .ok t) ∨
          patched = true ∧ e.cached = true ∧ ∃ made, c.find contract = .ok (some made)) ∧
      ∀ halt s', (perform (e.step name m)).run s = (.error halt, s') →
        (∃ f, halt = .fault f ∧ s₁.catalog.compile c.settings contract = .error f) ∧
        s'.cacheFor = s.cacheFor) ∧
    (∀ v, contract = .ofValue v →
      s₁.catalog.compile c.settings contract = .error (.notAClass v.describe) ∧
      (Fault.notAClass v.describe).kind = .schema) ∧
    ∀ v typeName, contract = .ofValue v → v.unhashablePart? = some typeName → e.cached = true →
      ∃ s', (perform (e.step name m)).run s = (.error (.fault (.unhashable typeName)), s') ∧
        s'.cacheFor = s.cacheFor := by
  have hs₁ := (h.fresh.contract hm hcontract).1
  have hcache₁ : s₁.cacheFor name = .ok c := cacheFor_of_contract hcontract ▸ hcache
  have hgoes := goesAs_entry hcache hcontract hready fun t ht he =>
    hs₁.exists_newEntity_of_alone hcache₁ ht (hroom t ht he)
  refine ⟨fun hkey => ?_, fun v hv => ?_, fun v typeName hv hpart hcached => ?_⟩
  · rcases EntryPoint.alone_cases s₁.catalog c hkey with
      ⟨hmissing, halone⟩ | ⟨hcached, made, hfound, halone⟩
    · rw [halone] at hgoes
      refine ⟨hgoes.succeeds_iff.trans ⟨.inl, ?_⟩, fun halt s' => hgoes.fails_with⟩
      rintro (hcompile | ⟨-, hcached, made, hfound⟩)
      · exact hcompile
      · cases (hmissing hcached).symm.trans hfound
    · rw [halone] at hgoes
      refine ⟨hgoes.succeeds_iff.trans (iff_of_true ⟨_, rfl⟩ ?_), fun halt s' hrun => ?_⟩
      · cases patched with
        | true => exact .inr ⟨rfl, hcached, made, hfound⟩
        | false =>
          -- what is held was compiled with the hooks that there are
          obtain ⟨hooks, hsame, hcompile⟩ :=
            (hs₁.current_of_cacheFor hcache₁).exists_hooks_of_gives (Cache.gives_of_found hfound)
          obtain rfl := hsame rfl
          exact .inl ⟨made.type, hcompile⟩
      · obtain ⟨⟨f, -, hf⟩, -⟩ := hgoes.fails_with hrun
        cases hf
  · subst hv
    exact ⟨rfl, rfl⟩
  · subst hv
    have hkey : (Contract.ofValue v).requireKey = .error (.unhashable typeName) := by
      rw [Contract.requireKey, Value.requireHashable, hpart]
    rw [EntryPoint.alone_of_not_key _ _ hkey hcached] at hgoes
    exact hgoes.exists_fails

end Session

namespace Sample

/-- A session with shapes and a cache for them. -/
def shapeSession : Session where
  catalog := shapes
  handlers := []
  environment := []
  caches := [(.named "shapes", .empty .default)]
  entities := []
  batches := []
  shown := []
  traces := ⟨[], 0⟩

/-- The session after the contract was compiled. -/
def shapesCompiled : Session :=
  (Session.advance shapeSession (.compiled (.named "shapes") (.ofClass (.declared 0)))).2

theorem mem_refs_shapes : ClassRef.declared 0 ∈ shapes.classes.refs := by decide

theorem reached_shapesCompiled : Session.Reached false shapesCompiled := by
  refine .advance (.start closed_shapes fun name c hc => ?_)
    ⟨fun m hm => ?_, fun _ _ _ _ hpatch => ?_⟩
  · obtain ⟨rfl, rfl⟩ : name = .named "shapes" ∧ c = .empty .default := by
      simpa [shapeSession] using Table.mem_of_get? hc
    rfl
  · obtain rfl := Option.some.inj hm
    exact mem_refs_shapes
  · cases hpatch

end Sample

open Sample in
/-- After a contract was compiled, entities of it are made; a mapping is no class, but a request for
it fails as it is no key. -/
theorem Session.Reached.entryPoints_agree_shapes :
    (∃ a s', (perform (.build (.named "shapes") (.ofClass (.declared 0)) "box")).run
      shapesCompiled = (.ok a, s')) ∧
    ∃ s', (perform (.buildMany (.named "shapes") (.ofValue (.dict .written [])) (.int 2) none
        "boxes")).run shapesCompiled = (.error (.fault (.unhashable "dict")), s') ∧
      s'.cacheFor = shapesCompiled.cacheFor := by
  have hcache : shapesCompiled.cacheFor (.named "shapes") = .ok shapeCache.cache := rfl
  constructor
  · have halone : (EntryPoint.build "box").alone shapesCompiled.catalog shapeCache.cache
        (.ofClass (.declared 0)) = .ok shapeType := rfl
    have hbuild := entryPoints_agree reached_shapesCompiled (m := .ofClass (.declared 0))
      mem_refs_shapes hcache rfl (e := .build "box") trivial fun t ht _ => by
        obtain rfl : shapeType = t := Except.ok.inj (halone.symm.trans ht)
        decide
    exact (hbuild.1 (.inl rfl)).1.2 (.inl ⟨shapeType, compile_shape⟩)
  · have hmany := entryPoints_agree reached_shapesCompiled (m := .ofValue (.dict .written []))
      trivial hcache rfl (e := .buildMany (.int 2) none "boxes") (by rfl) fun _ h => nomatch h
    exact hmany.2.2 _ "dict" rfl rfl rfl

open Sample in
/-- **A mapping is rejected as a key before it is looked at as a contract.**  Compiling it fails
with the schema fault; a cache with the same settings fails with a fault of another family. -/
theorem Session.mapping_rejected_as_key :
    (∃ s₁, (Effect.contract (.ofValue (.dict .written []))).run shapeSession =
        (.ok (.ofValue (.dict (.made 0) [])), s₁) ∧
      s₁.catalog.compile .default (.ofValue (.dict (.made 0) [])) =
        .error (.notAClass "\x7b\x7d")) ∧
    ((perform (.compiled (.named "shapes") (.ofValue (.dict .written [])))).run shapeSession).1 =
      .error (.fault (.unhashable "dict")) ∧
    (Fault.notAClass "\x7b\x7d").kind = .schema ∧ (Fault.unhashable "dict").kind = .type :=
  ⟨⟨_, rfl, rfl⟩, rfl, rfl, rfl⟩

end TrackedEntity
