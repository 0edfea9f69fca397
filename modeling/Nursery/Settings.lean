import Nursery.Text.Quoted
import Nursery.Text.Blank
import Nursery.Text.Whole

/-!
# Settings of a runtime

A runtime needs a number of workers, a stem for the names of their threads and the number of
messages an actor may handle before it gives its worker back.  Each comes from the first of three
layers that speaks of it: what was set explicitly, what the environment says, the default.  The
builder keeps the first layer apart from the other two, so the order of the calls does not
matter.

* `Settings` : the three values, and `Settings.check?`, the reason why they cannot start a runtime.
* `Settings.namingPanic?` : the panic over a name that no thread can carry.
* `Environment` : the variables that can be read, and `Settings.overriddenBy`.
* `Builder` : the layers, its calls, and `Builder.settings`.
-/

namespace Nursery

/-- Why a runtime cannot be built. -/
inductive BuildError where
  /-- No worker was asked for. -/
  | zeroWorkers
  /-- Actors were to handle no message at a time. -/
  | zeroBatch
  /-- A variable of the environment does not hold a count. -/
  | invalidVariable (name : String) (value : String)
deriving DecidableEq, Repr

namespace BuildError

/-- The wording of a refusal. -/
def message : BuildError → String
  | zeroWorkers => "worker_threads must be > 0"
  | zeroBatch => "actor_batch must be > 0"
  | invalidVariable name value => "invalid value " ++ Text.quoted value ++ " for " ++ name

/-- The word for the kind of a refusal. -/
def kind : BuildError → String
  | zeroWorkers => "ZeroWorkers"
  | zeroBatch => "ZeroActorBatch"
  | invalidVariable _ _ => "InvalidEnv"

/-- The written form of a refusal. -/
def describe : BuildError → String
  | invalidVariable name value =>
    "InvalidEnv \x7b var: " ++ Text.quoted name ++ ", value: " ++ Text.quoted value ++ " \x7d"
  | e => e.kind

end BuildError

/-- The value of a variable: text, or bytes that are no text and count as not set. -/
inductive EnvironmentValue where
  /-- A value that is text. -/
  | text (value : String)
  /-- A value that is no text. -/
  | undecodable
deriving DecidableEq, Repr

/-- The variables that are set, each at most once. -/
abbrev Environment := List (String × EnvironmentValue)

namespace Environment

/-- The text a variable is set to, if it is set to text. -/
def text? (env : Environment) (name : String) : Option String :=
  match env.find? (·.1 = name) with
  | some (_, .text value) => some value
  | _ => none

end Environment

/-- The variable that holds the number of workers. -/
def workersVariable : String := "WEFT_WORKER_THREADS"

/-- The variable that holds the stem of the thread names. -/
def threadStemVariable : String := "WEFT_THREAD_NAME_PREFIX"

/-- The variable that holds the number of messages an actor handles at a time. -/
def batchVariable : String := "WEFT_ACTOR_BATCH"

/-- What a runtime is started with. -/
structure Settings where
  /-- The number of workers; without one there is a worker for each processor. -/
  workers : Option Nat := none
  /-- Worker `n` runs on the thread named by this stem, a dash and `n`. -/
  threadStem : String := "weft-worker"
  /-- How many messages an actor handles before it gives its worker back. -/
  batch : Nat := 64
deriving DecidableEq, Repr

namespace Settings

instance : Inhabited Settings := ⟨{}⟩

/-- Why the settings cannot start a runtime; the workers are looked at first. -/
def check? (s : Settings) : Option BuildError :=
  if s.workers = some 0 then some .zeroWorkers
  else if s.batch = 0 then some .zeroBatch
  else none

/-- The name of the thread of a worker. -/
def threadName (s : Settings) (worker : Nat) : String :=
  s.threadStem ++ "-" ++ toString worker

/-- What starting a thread under a name panics with: a name may hold no null byte, and the index of
the first one is told along with all the bytes of the name. -/
def threadPanic? (name : String) : Option String :=
  let bytes := name.toList.flatMap String.utf8EncodeChar
  (bytes.findIdx? (· = 0)).map fun index =>
    "thread name may not contain interior null bytes: NulError(" ++ toString index ++ ", [" ++
      ", ".intercalate (bytes.map fun b => toString b.toNat) ++ "])"

/-- What starting a runtime panics with.  Worker `0` is started first, and a stem that keeps it from
being named keeps every worker from being named. -/
def namingPanic? (s : Settings) : Option String :=
  threadPanic? (s.threadName 0)

/-- The written form of settings with a known number of workers. -/
def describe (s : Settings) (workers : Nat) : String :=
  "RuntimeConfig \x7b worker_threads: " ++ toString workers ++ ", thread_name_prefix: " ++
    Text.quoted s.threadStem ++ ", actor_batch: " ++ toString s.batch ++ " \x7d"

/-- The written form of a runtime with these settings. -/
def describeRuntime (s : Settings) (workers : Nat) : String :=
  "Runtime \x7b config: " ++ s.describe workers ++ ", .. \x7d"

/-- The count a variable holds, if it is set; blanks around it do not matter. -/
def readCount (env : Environment) (name : String) : Except BuildError (Option Nat) :=
  match env.text? name with
  | none => .ok none
  | some value =>
    match Text.readWhole? (Text.trim value.toList) with
    | some n => .ok (some n)
    | none => .error (.invalidVariable name value)

/-- The settings after the environment had its say. -/
def overriddenBy (s : Settings) (env : Environment) : Except BuildError Settings := do
  let workers ← readCount env workersVariable
  let batch ← readCount env batchVariable
  return {
    workers := workers <|> s.workers
    threadStem := (env.text? threadStemVariable).getD s.threadStem
    batch := batch.getD s.batch }

end Settings

/-- Settings in the making. -/
structure Builder where
  /-- The defaults, with what the environment said so far. -/
  base : Settings := {}
  /-- The number of workers that was set explicitly. -/
  workers : Option Nat := none
  /-- The stem of the thread names that was set explicitly. -/
  threadStem : Option String := none
  /-- The number of messages at a time that was set explicitly. -/
  batch : Option Nat := none
deriving DecidableEq, Repr

/-- A call on a builder. -/
inductive BuilderCall where
  /-- Set the number of workers. -/
  | workers (n : Nat)
  /-- Set the stem of the thread names. -/
  | threadStem (stem : String)
  /-- Set the number of messages an actor handles at a time. -/
  | batch (n : Nat)
  /-- Go on with a copy. -/
  | copy
  /-- Read the environment. -/
  | fromEnvironment
deriving DecidableEq, Repr

namespace Builder

/-- The builder after one call in an environment. -/
def apply (env : Environment) (b : Builder) : BuilderCall → Except BuildError Builder
  | .workers n => .ok { b with workers := some n }
  | .threadStem stem => .ok { b with threadStem := some stem }
  | .batch n => .ok { b with batch := some n }
  | .copy => .ok b
  | .fromEnvironment => do
    let base ← b.base.overriddenBy env
    return { b with base := base }

/-- The builder after a sequence of calls; the first error ends it. -/
def applyAll (env : Environment) (b : Builder) (calls : List BuilderCall) :
    Except BuildError Builder :=
  calls.foldlM (apply env) b

/-- The settings that a builder stands for: what was set explicitly comes first. -/
def settings (b : Builder) : Settings where
  workers := b.workers <|> b.base.workers
  threadStem := b.threadStem.getD b.base.threadStem
  batch := b.batch.getD b.base.batch

end Builder

end Nursery
