import ProductGraph.Package.Session
import ProductGraph.Proofs.Schema.Loading

namespace ProductGraph

/-!
# Sessions with a cache of schemas

In a session the files of a directory change while a cache over the directory is used.  The cache loads at the first
use at which all schemas can be had, and what it loaded then is what every later use sees, whatever becomes of the
files.  A use before that fails, says why in terms of the files as they are, and leaves no trace.

A step that only changes files never touches the cache.  So what the cache holds is told by the uses alone, and by the
files at the first of them that could succeed.  This is so for files kept in any way, and for any compiler of schemas.
-/

namespace SessionStep

/-- Whether a step asks the cache for schemas. -/
def asks : SessionStep → Bool
  | write .. | delete _ => false
  | get | validate .. | importText .. => true

/-- What a step comes to with some schemas. -/
def answerWith (schemas : Schemas) : SessionStep → SessionAnswer
  | write .. | delete _ => .done
  | get => .schemas (.ok schemas)
  | validate kind value => .complaint (.ok (schemas.validator kind value))
  | importText checks options format text => .package (Package.ofText schemas.validator checks options format text)

/-- What a step comes to where schemas cannot be had. -/
def failure (e : SchemaError) : SessionStep → SessionAnswer
  | write .. | delete _ => .done
  | get => .schemas (.error e)
  | validate .. => .complaint (.error e)
  | importText .. => .package (.error (.schema e))

end SessionStep

namespace SchemaSession

open Schemas (AreIn FirstFault ofSource_eq_ok ofSource_eq_error)

/-- A place of a run is its beginning or a place further on. -/
theorem exists_place_cons {P : List SessionStep → SessionStep → Prop} {step : SessionStep} {rest : List SessionStep} :
    (∃ earlier ask later, step :: rest = earlier ++ ask :: later ∧ P earlier ask) ↔
      P [] step ∨ ∃ earlier ask later, rest = earlier ++ ask :: later ∧ P (step :: earlier) ask := by
  constructor
  · rintro ⟨earlier, ask, later, split, holds⟩
    cases earlier with
    | nil =>
        cases split
        exact .inl holds
    | cons _ earlier =>
        cases split
        exact .inr ⟨earlier, ask, later, rfl, holds⟩
  · rintro (holds | ⟨earlier, ask, later, rfl, holds⟩)
    · exact ⟨[], step, rest, rfl, holds⟩
    · exact ⟨step :: earlier, ask, later, rfl, holds⟩

section Runs

variable {σ : Type} [FileStore σ] [SchemaCompiler] {base : String} {session : SchemaSession σ} {step : SessionStep}

/-! ## One step -/

/-- What a step of a session over a directory does. -/
inductive Takes (base : String) (session : SchemaSession σ) (step : SessionStep) :
    SchemaSession σ × SessionAnswer → Prop
  | changes (silent : step.asks = false) (files : σ) : Takes base session step ({ session with files }, .done)
  | kept {schemas : Schemas} (asks : step.asks = true) (loaded : session.cache.loaded = some schemas) :
      Takes base session step (session, step.answerWith schemas)
  | loads {schemas : Schemas} (asks : step.asks = true) (unloaded : session.cache.loaded = none)
      (complete : AreIn base session.reader schemas) :
      Takes base session step
        ({ session with cache := { session.cache with loaded := some schemas } }, step.answerWith schemas)
  | fails {e : SchemaError} (asks : step.asks = true) (unloaded : session.cache.loaded = none)
      (fault : FirstFault base session.reader e) : Takes base session step (session, step.failure e)

/-- What asking the cache comes to is all that a step that asks depends on. -/
theorem take_eq_of_get {cache : SchemaCache} {result : Except SchemaError Schemas} (asks : step.asks = true)
    (given : session.cache.get session.reader = (cache, result)) :
    session.take step = ({ session with cache }, match result with
      | .ok schemas => step.answerWith schemas
      | .error e => step.failure e) := by
  cases step with
  | write | delete => cases asks
  | get => cases result <;> simp [take, given, SessionStep.answerWith, SessionStep.failure]
  | validate kind value =>
      cases result <;>
        simp [take, SchemaCache.validate, given, Except.map, SessionStep.answerWith, SessionStep.failure]
  | importText checks options format text =>
      cases result <;>
        simp [take, Package.ofTextCached, given, Except.mapError, Except.bind, SessionStep.answerWith,
          SessionStep.failure]

/-- With schemas in the cache, a step that asks comes to what they say. -/
theorem take_of_loaded {schemas : Schemas} (loaded : session.cache.loaded = some schemas) (asks : step.asks = true) :
    session.take step = (session, step.answerWith schemas) := by
  have given : session.cache.get session.reader = (session.cache, .ok schemas) := by
    simp only [SchemaCache.get, loaded]
  exact take_eq_of_get asks given

/-- A step that asks while all schemas can be had loads them, if the cache is still empty. -/
theorem take_of_areIn (source : session.cache.source = .directory base) (unloaded : session.cache.loaded = none)
    {schemas : Schemas} (complete : AreIn base session.reader schemas) (asks : step.asks = true) :
    session.take step =
      ({ session with cache := { session.cache with loaded := some schemas } }, step.answerWith schemas) := by
  have given : session.cache.get session.reader =
      ({ session.cache with loaded := some schemas }, .ok schemas) := by
    simp only [SchemaCache.get, unloaded, source, ofSource_eq_ok.mpr complete]
  exact take_eq_of_get asks given

/-- A step that asks in vain changes nothing. -/
theorem take_of_fault (source : session.cache.source = .directory base) (unloaded : session.cache.loaded = none)
    {e : SchemaError} (fault : FirstFault base session.reader e) (asks : step.asks = true) :
    session.take step = (session, step.failure e) := by
  have given : session.cache.get session.reader = (session.cache, .error e) := by
    simp only [SchemaCache.get, unloaded, source, ofSource_eq_error.mpr fault]
  exact take_eq_of_get asks given

theorem takes_take (source : session.cache.source = .directory base) (step : SessionStep) :
    Takes base session step (session.take step) := by
  by_cases asks : step.asks = true
  · cases loaded : session.cache.loaded with
    | some schemas =>
        rw [take_of_loaded loaded asks]
        exact .kept asks loaded
    | none =>
        rcases Schemas.areIn_or_firstFault base session.reader with ⟨schemas, complete⟩ | ⟨e, fault⟩
        · rw [take_of_areIn source loaded complete asks]
          exact .loads asks loaded complete
        · rw [take_of_fault source loaded fault asks]
          exact .fails asks loaded fault
  · cases step with
    | write | delete => exact .changes rfl _
    | _ => exact absurd rfl asks

/-! ## Runs -/

theorem after_append (session : SchemaSession σ) (steps more : List SessionStep) :
    session.after (steps ++ more) = (session.after steps).after more := by
  induction steps generalizing session with
  | nil => rfl
  | cons step rest ih => exact ih (session.take step).1

theorem source_take (source : session.cache.source = .directory base) (step : SessionStep) :
    (session.take step).1.cache.source = .directory base := by
  have takes := takes_take source step
  generalize session.take step = result at takes
  cases takes with
  | changes | kept | loads | fails => exact source

theorem source_after (source : session.cache.source = .directory base) (steps : List SessionStep) :
    (session.after steps).cache.source = .directory base := by
  induction steps generalizing session with
  | nil => exact source
  | cons step rest ih => exact ih (source_take source step)

theorem loaded_take (source : session.cache.source = .directory base) {schemas : Schemas}
    (loaded : session.cache.loaded = some schemas) (step : SessionStep) :
    (session.take step).1.cache.loaded = some schemas := by
  have takes := takes_take source step
  generalize session.take step = result at takes
  cases takes with
  | changes | kept => exact loaded
  | loads _ unloaded | fails _ unloaded =>
      rw [loaded] at unloaded
      cases unloaded

/-- What the cache holds once stays. -/
theorem loaded_after (source : session.cache.source = .directory base) {schemas : Schemas}
    (loaded : session.cache.loaded = some schemas) (steps : List SessionStep) :
    (session.after steps).cache.loaded = some schemas := by
  induction steps generalizing session with
  | nil => exact loaded
  | cons step rest ih => exact ih (source_take source step) (loaded_take source loaded step)

/-- After some steps of a session, the next one asks for schemas and all of them can be had. -/
def CanLoad (base : String) (start : SchemaSession σ) (earlier : List SessionStep) (ask : SessionStep) : Prop :=
  ask.asks = true ∧ ∃ schemas, AreIn base (start.after earlier).reader schemas

/-- The cache is loaded exactly if it could be at some step before. -/
theorem isLoaded_after_iff {start : SchemaSession σ} (source : start.cache.source = .directory base)
    (unloaded : start.cache.loaded = none) (steps : List SessionStep) :
    (start.after steps).cache.isLoaded = true ↔
      ∃ earlier ask later, steps = earlier ++ ask :: later ∧ CanLoad base start earlier ask := by
  -- By induction from the front: as long as nothing could be loaded, the session goes on like a new one.
  induction steps generalizing start with
  | nil => simp [after, SchemaCache.isLoaded, unloaded]
  | cons step rest ih =>
      rw [exists_place_cons]
      by_cases here : CanLoad base start [] step
      · rcases id here with ⟨asks, schemas, complete⟩
        have loaded : (start.take step).1.cache.loaded = some schemas := by
          rw [take_of_areIn source unloaded complete asks]
        refine iff_of_true ?_ (.inl here)
        rw [after, SchemaCache.isLoaded, loaded_after (source_take source step) loaded rest]
        rfl
      · have still : (start.take step).1.cache.loaded = none := by
          have takes := takes_take source step
          generalize start.take step = result at takes
          cases takes with
          | changes | kept | fails => exact unloaded
          | loads asks _ complete => exact absurd ⟨asks, _, complete⟩ here
        rw [or_iff_right here, after, ih (source_take source step) still]
        rfl

/-- A cache over a directory loads at most once and keeps no failure, whatever becomes of the files.  It is loaded from
the first step on that asks while all schemas can be had.  A step that asks before says which document is at fault and
changes nothing.  From the step that loads on, every step that asks comes to what the schemas of that moment say. -/
theorem cache_loads_once (base : String) (files : σ) :
    let start : SchemaSession σ := ⟨files, .fresh (.directory base)⟩
    (∀ steps, (start.after steps).cache.isLoaded = true ↔
        ∃ earlier ask later, steps = earlier ++ ask :: later ∧ CanLoad base start earlier ask) ∧
      (∀ steps ask, ask.asks = true → (start.after steps).cache.isLoaded = false → ¬CanLoad base start steps ask →
        ∃ e, FirstFault base (start.after steps).reader e ∧
          (start.after steps).take ask = (start.after steps, ask.failure e)) ∧
      ∀ earlier ask schemas, ask.asks = true → (start.after earlier).cache.isLoaded = false →
        AreIn base (start.after earlier).reader schemas →
          ((start.after earlier).take ask).2 = ask.answerWith schemas ∧
            ∀ later next, next.asks = true →
              ((start.after (earlier ++ ask :: later)).take next).2 = next.answerWith schemas := by
  intro start
  have source : start.cache.source = .directory base := rfl
  have empty : ∀ {session : SchemaSession σ}, session.cache.isLoaded = false → session.cache.loaded = none :=
    fun unloaded => Option.isNone_iff_eq_none.mp (Option.isSome_eq_false_iff.mp unloaded)
  refine ⟨isLoaded_after_iff source rfl, ?_, ?_⟩
  · intro steps ask asks unloaded cannot
    rcases Schemas.areIn_or_firstFault base (start.after steps).reader with complete | ⟨e, fault⟩
    · exact absurd ⟨asks, complete⟩ cannot
    · exact ⟨e, fault, take_of_fault (source_after source steps) (empty unloaded) fault asks⟩
  · intro earlier ask schemas asks unloaded complete
    have takes := take_of_areIn (source_after source earlier) (empty unloaded) complete asks
    refine ⟨congrArg Prod.snd takes, fun later next alsoAsks => ?_⟩
    have loaded : ((start.after earlier).take ask).1.cache.loaded = some schemas := by rw [takes]
    have kept := loaded_after (source_take (source_after source earlier) ask) loaded later
    rw [after_append, after, take_of_loaded kept alsoAsks]

end Runs

/-- A use that fails, and then a document for each kind that allows everything. -/
def opening : List SessionStep :=
  .get :: Kind.all.map fun kind => .write (Path.ofText (SchemaSource.path "schemas" kind)) "true"

/-- The schemas are asked for in vain, then written, loaded and deleted; a value is validated all the same. -/
theorem cache_loads_once_opening :
    let start : Session := ⟨[], .fresh (.directory "schemas")⟩
    let deletion : SessionStep := .delete (Path.ofText (SchemaSource.path "schemas" .package))
    (∃ e, FirstFault "schemas" start.reader e ∧ start.take .get = (start, .schemas (.error e))) ∧
      (start.after opening).cache.isLoaded = false ∧ CanLoad "schemas" start opening .get ∧
      (start.after (opening ++ [.get, deletion])).cache.isLoaded = true ∧
      ((start.after (opening ++ [.get, deletion])).take (.validate .package .null)).2 = .complaint (.ok none) := by
  intro start deletion
  rcases cache_loads_once "schemas" ([] : FileTree) with ⟨loaded, fails, answers⟩
  have unread : start.reader (SchemaSource.path "schemas" .package) = .error .notFound := by decide +kernel
  have cannot : ¬CanLoad "schemas" start [] .get := by
    rintro ⟨_, _, _, _, each⟩
    rcases each .package with ⟨_, ⟨text, read, _⟩, _⟩
    cases unread.symm.trans read
  have empty : (start.after opening).cache.isLoaded = false := by decide +kernel
  have complete : AreIn "schemas" (start.after opening).reader
      (Kind.all.map fun kind => (kind, CompiledSchema.faults ⟨.anything, [], 1⟩)) := by
    have each : ∀ kind ∈ Kind.all,
        (start.after opening).reader (SchemaSource.path "schemas" kind) = .ok "true" := by decide +kernel
    exact ⟨fun _ => CompiledSchema.faults ⟨.anything, [], 1⟩, rfl,
      fun kind => ⟨.bool true, ⟨"true", each kind kind.mem_all, rfl⟩, rfl⟩⟩
  refine ⟨fails [] .get rfl rfl cannot, empty, ⟨rfl, _, complete⟩, ?_, ?_⟩
  · exact (loaded _).mpr ⟨opening, .get, [deletion], rfl, rfl, _, complete⟩
  · exact (answers opening .get _ rfl empty complete).2 [deletion] (.validate .package .null) rfl

end SchemaSession
end ProductGraph
