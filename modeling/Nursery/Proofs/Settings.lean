import Mathlib.Data.List.Basic
import Nursery.Settings
import Nursery.Proofs.Text

/-!
# Where settings come from

A builder holds each setting twice, the explicit value and the one beneath it.  A call overrides
one of the two or leaves it, so what it holds in the end is told by the calls, setting by setting
and layer by layer.

* `Builder.Field` : a setting, where a builder holds it, and what overrides it.
* `Builder.Field.value_after` : **the last explicit value comes first, then what the last
  environment says that speaks of the setting.**
* `Environment.Refused` : what an environment is refused for.
* `Builder.make_eq_ok`, `Builder.make_eq_error` : which calls are carried out.
* `Builder.make_fromEnvironment_comm` : on which side of an explicit value an environment is read
  does not matter.
* `Builder.precedence` : the layers, the refusals and the checks together.
-/

namespace Nursery

/-! ### Reading an environment -/

namespace Environment

variable {env : Environment} {name value : String} {n : Nat} {e : BuildError}

/-- The count that an environment gives a variable. -/
def count? (env : Environment) (name : String) : Option Nat :=
  (env.text? name).bind fun value => Text.readWhole? (Text.trim value.toList)

/-- The variable is set to a text that is not a count, with blanks around it or without. -/
def Garbled (env : Environment) (name value : String) : Prop :=
  env.text? name = some value ∧ ∀ n, ¬ Text.Counts value.toList n

/-- **What an environment is refused for**: the first of the two variables for counts that holds
something else, and its text as it stands. -/
def Refused (env : Environment) (e : BuildError) : Prop :=
  (∃ value, env.Garbled workersVariable value ∧ e = .invalidVariable workersVariable value) ∨
    (∀ value, ¬ env.Garbled workersVariable value) ∧
      ∃ value, env.Garbled batchVariable value ∧ e = .invalidVariable batchVariable value

theorem count?_eq_some : env.count? name = some n ↔
    ∃ value, env.text? name = some value ∧ Text.Counts value.toList n := by
  simp only [count?, Option.bind_eq_some_iff, Text.readWhole?_trim_eq_some]

theorem readCount_cases (env : Environment) (name : String) :
    (Settings.readCount env name = .ok (env.count? name) ∧ ∀ value, ¬ env.Garbled name value) ∨
      ∃ value, env.Garbled name value ∧
        Settings.readCount env name = .error (.invalidVariable name value) := by
  rw [Settings.readCount, count?]
  cases text : env.text? name with
  | none => exact .inl ⟨rfl, fun value garbled => by cases text.symm.trans garbled.1⟩
  | some value =>
    dsimp only [Option.bind_some]
    cases read : Text.readWhole? (Text.trim value.toList) with
    | none =>
      refine .inr ⟨value, ⟨text, fun n counts => ?_⟩, rfl⟩
      cases read.symm.trans (Text.readWhole?_trim_eq_some.2 counts)
    | some n =>
      refine .inl ⟨rfl, fun value' garbled => ?_⟩
      obtain rfl : value = value' := Option.some.inj (text.symm.trans garbled.1)
      exact garbled.2 n (Text.readWhole?_trim_eq_some.1 read)

/-- A variable has one text. -/
theorem Garbled.unique {value' : String} (h : env.Garbled name value)
    (h' : env.Garbled name value') : value = value' :=
  Option.some.inj (h.1.symm.trans h'.1)

theorem Refused.unique {e' : BuildError} (h : env.Refused e) (h' : env.Refused e') : e = e' := by
  rcases h with ⟨value, garbled, rfl⟩ | ⟨clear, value, garbled, rfl⟩ <;>
    rcases h' with ⟨value', garbled', rfl⟩ | ⟨clear', value', garbled', rfl⟩
  · rw [garbled.unique garbled']
  · exact absurd garbled (clear' value)
  · exact absurd garbled' (clear value')
  · rw [garbled.unique garbled']

end Environment

namespace Settings

theorem overriddenBy_cases (s : Settings) (env : Environment) :
    (s.overriddenBy env = .ok
        { workers := env.count? workersVariable <|> s.workers
          threadStem := (env.text? threadStemVariable).getD s.threadStem
          batch := (env.count? batchVariable).getD s.batch } ∧ ∀ e, ¬ env.Refused e) ∨
      ∃ e, env.Refused e ∧ s.overriddenBy env = .error e := by
  rw [overriddenBy]
  rcases env.readCount_cases workersVariable with ⟨read, clear⟩ | ⟨value, garbled, read⟩
  · rcases env.readCount_cases batchVariable with ⟨read', clear'⟩ | ⟨value, garbled, read'⟩
    · refine .inl ⟨by rw [read, read']; rfl, ?_⟩
      rintro e (⟨value, garbled, -⟩ | ⟨-, value, garbled, -⟩)
      · exact clear value garbled
      · exact clear' value garbled
    · exact .inr ⟨_, .inr ⟨clear, value, garbled, rfl⟩, by rw [read, read']; rfl⟩
  · exact .inr ⟨_, .inl ⟨value, garbled, rfl⟩, by rw [read]; rfl⟩

end Settings

namespace Builder

variable {α : Type} {b b' : Builder} {env : Environment} {call : BuilderCall} {e : BuildError}
  {calls : List (Environment × BuilderCall)}

/-! ### One call -/

/-- The builder after calls that are made one after the other, each in an environment of its own;
the first error ends it. -/
def make (b : Builder) (calls : List (Environment × BuilderCall)) : Except BuildError Builder :=
  calls.foldlM (fun b call => b.apply call.1 call.2) b

theorem applyAll_eq_make (calls : List BuilderCall) :
    applyAll env b calls = b.make (calls.map (env, ·)) := by
  rw [applyAll, make, List.foldlM_map]

theorem make_cons (call : Environment × BuilderCall) :
    b.make (call :: calls) = (b.apply call.1 call.2 >>= (·.make calls)) :=
  List.foldlM_cons

theorem make_append (before after : List (Environment × BuilderCall)) :
    b.make (before ++ after) = (b.make before >>= (·.make after)) :=
  List.foldlM_append

/-- The environment that the call reads, if it reads one, is refused for nothing. -/
def Granted (call : Environment × BuilderCall) : Prop :=
  call.2 = .fromEnvironment → ∀ e, ¬ call.1.Refused e

theorem apply_cases (b : Builder) (env : Environment) (call : BuilderCall) :
    (∃ b', b.apply env call = .ok b' ∧ Granted (env, call)) ∨
      ∃ e, call = .fromEnvironment ∧ env.Refused e ∧ b.apply env call = .error e := by
  cases call with
  | fromEnvironment =>
    rw [apply]
    rcases b.base.overriddenBy_cases env with ⟨read, clear⟩ | ⟨e, refused, read⟩
    · exact .inl ⟨_, by rw [read]; rfl, fun _ => clear⟩
    · exact .inr ⟨e, rfl, refused, by rw [read]; rfl⟩
  | _ => exact .inl ⟨_, rfl, nofun⟩

/-- **Reading the environment fails exactly if a count is not one.** -/
theorem fromEnvironment_eq_error : b.apply env .fromEnvironment = .error e ↔ env.Refused e := by
  rcases b.apply_cases env .fromEnvironment with ⟨b', read, granted⟩ | ⟨e', -, refused, read⟩
  · rw [read]
    exact iff_of_false nofun (granted rfl e)
  · rw [read, Except.error.injEq]
    exact ⟨fun same => same ▸ refused, refused.unique⟩

theorem apply_comm (setter : call ≠ .fromEnvironment) (env' : Environment) :
    (b.apply env .fromEnvironment >>= (·.apply env' call)) =
      (b.apply env' call >>= (·.apply env .fromEnvironment)) := by
  cases call with
  | fromEnvironment => exact absurd rfl setter
  | _ =>
    change (b.base.overriddenBy env >>= _ >>= _) = (b.base.overriddenBy env >>= _)
    cases b.base.overriddenBy env <;> rfl

/-! ### Calls in a row -/

/-- **The calls are carried out unless an environment is refused.** -/
theorem make_eq_ok : (∃ b', b.make calls = .ok b') ↔ ∀ call ∈ calls, Granted call := by
  induction calls generalizing b with
  | nil => exact iff_of_true ⟨b, rfl⟩ nofun
  | cons call calls ih =>
    rw [make_cons, List.forall_mem_cons]
    rcases b.apply_cases call.1 call.2 with ⟨b', once, granted⟩ | ⟨e, reads, refused, once⟩
    · rw [once]
      exact ih.trans (and_iff_right granted).symm
    · rw [once]
      exact iff_of_false nofun fun h => h.1 reads e refused

/-- **They fail for the first environment that is refused.** -/
theorem make_eq_error : b.make calls = .error e ↔ ∃ before env after,
    calls = before ++ (env, .fromEnvironment) :: after ∧ (∀ call ∈ before, Granted call) ∧
      env.Refused e := by
  induction calls generalizing b with
  | nil =>
    refine iff_of_false nofun ?_
    rintro ⟨before, env, after, same, -⟩
    exact List.append_ne_nil_of_right_ne_nil before (List.cons_ne_nil _ _) same.symm
  | cons call calls ih =>
    rw [make_cons]
    rcases b.apply_cases call.1 call.2 with ⟨b', once, granted⟩ | ⟨e', reads, refused, once⟩
    · rw [once]
      refine ih.trans ⟨?_, ?_⟩
      · rintro ⟨before, env, after, rfl, clear, refused⟩
        exact ⟨call :: before, env, after, rfl, List.forall_mem_cons.2 ⟨granted, clear⟩, refused⟩
      · rintro ⟨before, env, after, same, clear, refused⟩
        cases before with
        | nil =>
          obtain ⟨rfl, -⟩ := List.cons.inj same
          exact absurd refused (granted rfl e)
        | cons first before =>
          obtain ⟨rfl, rfl⟩ := List.cons.inj same
          exact ⟨before, env, after, rfl, (List.forall_mem_cons.1 clear).2, refused⟩
    · rw [once]
      constructor
      · intro same
        cases same
        exact ⟨[], call.1, calls, by rw [← reads]; rfl, nofun, refused⟩
      · rintro ⟨before, env, after, same, clear, refused'⟩
        cases before with
        | nil =>
          obtain ⟨rfl, -⟩ := List.cons.inj same
          exact congrArg _ (refused.unique refused')
        | cons first before =>
          obtain ⟨rfl, -⟩ := List.cons.inj same
          exact absurd refused ((List.forall_mem_cons.1 clear).1 reads e')

/-- **Reading the environment can be moved past calls that do not.** -/
theorem make_fromEnvironment_comm {setters : List (Environment × BuilderCall)}
    (plain : ∀ call ∈ setters, call.2 ≠ .fromEnvironment)
    (before after : List (Environment × BuilderCall)) :
    b.make (before ++ (env, .fromEnvironment) :: (setters ++ after)) =
      b.make (before ++ (setters ++ (env, .fromEnvironment) :: after)) := by
  induction setters generalizing before with
  | nil => rfl
  | cons call setters ih =>
    obtain ⟨setter, plain⟩ := List.forall_mem_cons.1 plain
    have swap : b.make (before ++ (env, .fromEnvironment) :: call :: (setters ++ after)) =
        b.make (before ++ call :: (env, .fromEnvironment) :: (setters ++ after)) := by
      rw [make_append, make_append]
      refine congrArg _ (funext fun b => ?_)
      have two := congrArg (· >>= fun b => b.make (setters ++ after))
        (@apply_comm b env call.2 setter call.1)
      simpa only [make_cons, bind_assoc] using two
    have rest := ih plain (before ++ [call])
    rw [List.append_assoc, List.append_assoc] at rest
    exact swap.trans rest

/-! ### One setting -/

/-- A setting: where a builder holds its explicit value and the value beneath it, what a call sets
the one to and an environment the other. -/
structure Field (α : Type) where
  /-- The explicit value. -/
  own : Builder → Option α
  /-- The value beneath it. -/
  base : Builder → Option α
  /-- What a call sets the setting to explicitly. -/
  set : BuilderCall → Option α
  /-- What an environment that is read sets the setting to. -/
  said : Environment → Option α
  /-- A call overrides the explicit value or leaves it. -/
  own_apply : ∀ {b b' env call}, apply env b call = .ok b' → own b' = (set call <|> own b)
  /-- A call overrides the value beneath or leaves it. -/
  base_apply : ∀ {b b' env call}, apply env b call = .ok b' →
    base b' = ((if call = .fromEnvironment then said env else none) <|> base b)

namespace Field

/-- What the last call said that set the setting explicitly. -/
def asked (f : Field α) (calls : List (Environment × BuilderCall)) : Option α :=
  (calls.filterMap fun call => f.set call.2).getLast?

/-- What the last environment said that was read and speaks of the setting. -/
def told (f : Field α) (calls : List (Environment × BuilderCall)) : Option α :=
  (calls.filterMap fun call => if call.2 = .fromEnvironment then f.said call.1 else none).getLast?

/-- **What calls make of a setting**: the last explicit value, or else what the last environment
says. -/
def value (f : Field α) (calls : List (Environment × BuilderCall)) : Option α :=
  f.asked calls <|> f.told calls

end Field

theorem last_override {hold : Builder → Option α} {writes : Environment × BuilderCall → Option α}
    (step : ∀ {b b' call}, apply call.1 b call.2 = .ok b' → hold b' = (writes call <|> hold b))
    (made : b.make calls = .ok b') : hold b' = ((calls.filterMap writes).getLast? <|> hold b) := by
  induction calls generalizing b with
  | nil => cases made; rfl
  | cons call calls ih =>
    rw [make_cons] at made
    cases once : apply call.1 b call.2 with
    | error e => rw [once] at made; cases made
    | ok next =>
      rw [once] at made
      rw [ih made, step once, List.filterMap_cons]
      cases writes call with
      | none => rfl
      | some v =>
        rw [List.getLast?_cons]
        cases (calls.filterMap writes).getLast? <;> rfl

/-- **The last explicit value comes first**, then what the last environment says that speaks of the
setting, then what the builder began with. -/
theorem Field.value_after (f : Field α) (made : b.make calls = .ok b') (unset : f.own b = none) :
    (f.own b' <|> f.base b') = (f.value calls <|> f.base b) := by
  rw [last_override f.own_apply made, last_override f.base_apply made, unset, Field.value, asked,
    told]
  cases (calls.filterMap fun call => f.set call.2).getLast? <;> rfl

/-! ### The three settings -/

theorem apply_fromEnvironment (read : b.apply env .fromEnvironment = .ok b') :
    b' = { b with base := {
      workers := env.count? workersVariable <|> b.base.workers
      threadStem := (env.text? threadStemVariable).getD b.base.threadStem
      batch := (env.count? batchVariable).getD b.base.batch } } := by
  rw [apply] at read
  rcases b.base.overriddenBy_cases env with ⟨same, -⟩ | ⟨e, -, failed⟩
  · rw [same] at read
    cases read
    rfl
  · rw [failed] at read
    cases read

namespace Field

/-- The number of workers. -/
def workers : Field Nat where
  own b := b.workers
  base b := b.base.workers
  set | .workers n => some n
      | _ => none
  said env := env.count? workersVariable
  own_apply {_ _ _ call} done := by
    cases call with
    | fromEnvironment => cases apply_fromEnvironment done; rfl
    | _ => cases done; rfl
  base_apply {_ _ _ call} done := by
    cases call with
    | fromEnvironment => cases apply_fromEnvironment done; rfl
    | _ => cases done; rfl

/-- The stem of the thread names. -/
def threadStem : Field String where
  own b := b.threadStem
  base b := some b.base.threadStem
  set | .threadStem stem => some stem
      | _ => none
  said env := env.text? threadStemVariable
  own_apply {_ _ _ call} done := by
    cases call with
    | fromEnvironment => cases apply_fromEnvironment done; rfl
    | _ => cases done; rfl
  base_apply {_ _ env call} done := by
    cases call with
    | fromEnvironment =>
      cases apply_fromEnvironment done
      cases env.text? threadStemVariable <;> rfl
    | _ => cases done; rfl

/-- The number of messages an actor handles at a time. -/
def batch : Field Nat where
  own b := b.batch
  base b := some b.base.batch
  set | .batch n => some n
      | _ => none
  said env := env.count? batchVariable
  own_apply {_ _ _ call} done := by
    cases call with
    | fromEnvironment => cases apply_fromEnvironment done; rfl
    | _ => cases done; rfl
  base_apply {_ _ env call} done := by
    cases call with
    | fromEnvironment =>
      cases apply_fromEnvironment done
      cases env.count? batchVariable <;> rfl
    | _ => cases done; rfl

end Field

/-- **The settings that calls come to**, setting by setting. -/
theorem settings_after (made : make {} calls = .ok b) : b.settings =
    { workers := Field.workers.value calls
      threadStem := (Field.threadStem.value calls).getD "weft-worker"
      batch := (Field.batch.value calls).getD 64 } := by
  have workers := Field.workers.value_after made rfl
  have stem := congrArg (·.getD "weft-worker") (Field.threadStem.value_after made rfl)
  have batch := congrArg (·.getD 64) (Field.batch.value_after made rfl)
  rw [settings, Settings.mk.injEq]
  refine ⟨workers.trans ?_, Eq.trans ?_ (stem.trans ?_), Eq.trans ?_ (batch.trans ?_)⟩
  · cases Field.workers.value calls <;> rfl
  · show b.threadStem.getD _ = (b.threadStem <|> some b.base.threadStem).getD _
    cases b.threadStem <;> rfl
  · cases Field.threadStem.value calls <;> rfl
  · show b.batch.getD _ = (b.batch <|> some b.base.batch).getD _
    cases b.batch <;> rfl
  · cases Field.batch.value calls <;> rfl

theorem check?_after (made : make {} calls = .ok b) :
    (b.settings.check? = some .zeroWorkers ↔ Field.workers.value calls = some 0) ∧
    (b.settings.check? = some .zeroBatch ↔
      Field.workers.value calls ≠ some 0 ∧ Field.batch.value calls = some 0) ∧
    (b.settings.check? = none ↔
      Field.workers.value calls ≠ some 0 ∧ Field.batch.value calls ≠ some 0) := by
  have zero : (Field.batch.value calls).getD 64 = 0 ↔ Field.batch.value calls = some 0 := by
    cases Field.batch.value calls <;> simp
  rw [settings_after made, Settings.check?]
  by_cases workers : Field.workers.value calls = some 0 <;>
    by_cases batch : Field.batch.value calls = some 0 <;> simp [workers, batch, zero]

/-- **Where settings come from.**  In calls that are carried out, each setting is what the last call
said that set it explicitly, or else what the last environment said that was read and speaks of it,
or else the default; so it does not matter on which side of such a call an environment is read.  An
environment is refused exactly if the number of workers or else the number of messages at a time is
set to a text that is not a count with blanks around it, for the first of them and with its text as
it stands.  No worker is refused before no message at a time, wherever they come from, and nothing
else is refused. -/
theorem precedence (calls : List (Environment × BuilderCall)) :
    (∀ b, make {} calls = .ok b →
      b.settings =
        { workers := Field.workers.value calls
          threadStem := (Field.threadStem.value calls).getD "weft-worker"
          batch := (Field.batch.value calls).getD 64 } ∧
      (b.settings.check? = some .zeroWorkers ↔ Field.workers.value calls = some 0) ∧
      (b.settings.check? = some .zeroBatch ↔
        Field.workers.value calls ≠ some 0 ∧ Field.batch.value calls = some 0) ∧
      (b.settings.check? = none ↔
        Field.workers.value calls ≠ some 0 ∧ Field.batch.value calls ≠ some 0)) ∧
    ((∃ b, make {} calls = .ok b) ↔ ∀ call ∈ calls, Granted call) ∧
    (∀ e, make {} calls = .error e ↔ ∃ before env after,
      calls = before ++ (env, .fromEnvironment) :: after ∧ (∀ call ∈ before, Granted call) ∧
        env.Refused e) ∧
    (∀ before env setters after, calls = before ++ (env, .fromEnvironment) :: (setters ++ after) →
      (∀ call ∈ setters, call.2 ≠ .fromEnvironment) →
        make {} calls = make {} (before ++ (setters ++ (env, .fromEnvironment) :: after))) ∧
    (∀ env b e, apply env b .fromEnvironment = .error e ↔ env.Refused e) ∧
    (∀ (env : Environment) name n, env.count? name = some n ↔
      ∃ value, env.text? name = some value ∧ Text.Counts value.toList n) ∧
    ∀ env cs, applyAll env {} cs = make {} (cs.map (env, ·)) := by
  refine ⟨fun b made => ⟨settings_after made, check?_after made⟩, make_eq_ok,
    fun e => make_eq_error, ?_, fun env b e => fromEnvironment_eq_error,
    fun env name n => Environment.count?_eq_some, fun env cs => applyAll_eq_make cs⟩
  rintro before env setters after rfl plain
  exact make_fromEnvironment_comm plain before after

/-- Two environments are read, and in between no message at a time is asked for. -/
def zeroBatchCalls : List (Environment × BuilderCall) :=
  [([(workersVariable, .text " 4 "), (batchVariable, .text "16")], .fromEnvironment),
    ([], .batch 0),
    ([(batchVariable, .text "+3"), (threadStemVariable, .text "w")], .fromEnvironment)]

/-- The explicit zero hides what both environments say, and is refused. -/
theorem precedence_zeroBatch : ∃ b, make {} zeroBatchCalls = .ok b ∧
    b.settings = { workers := some 4, threadStem := "w", batch := 0 } ∧
    b.settings.check? = some .zeroBatch := by
  obtain ⟨b, made⟩ : ∃ b, make {} zeroBatchCalls = .ok b := ⟨_, rfl⟩
  obtain ⟨same, -, zero, -⟩ := (precedence zeroBatchCalls).1 b made
  exact ⟨b, made, same.trans (by decide), zero.2 (by decide)⟩

end Builder

end Nursery
