import Nursery.Machine.Session

/-!
# Programs whose answer does not depend on the schedule

Four programs for a pool of workers have one answer whatever the order of their slices: tasks
awaited in the order in which they were spawned, increments sent to one actor, a group whose
results are sorted, and a tree of tasks that all wait for their cancellation.  The machine runs
them on a runtime with one worker, as root tasks on which the main thread blocks, and the answer
is read off what the root tells.

* `collatzSteps` : the steps of the Collatz walk from a word to one.
* `Job.body` : the root task of a program.
* `Job.told`, `Job.answer` : what the root tells, and the answer read off that.
-/

namespace Nursery

namespace Pool

/-- One step of the Collatz walk. -/
def collatzNext (x : UInt64) : UInt64 :=
  if x % 2 = 0 then x / 2 else 3 * x + 1

/-- The steps from a word to one, if there are fewer than the given number of them. -/
def collatzSteps? : Nat → UInt64 → Option Nat
  | 0, _ => none
  | limit + 1, x => if x ≤ 1 then some 0 else (collatzSteps? limit (collatzNext x)).map (· + 1)

/-- The steps from a word to one; a walk longer than there are words would never end. -/
def collatzSteps (x : UInt64) : Nat :=
  (collatzSteps? UInt64.size x).getD 0

/-! ### Lines -/

/-- A line that tells nothing. -/
def quietly (word : String) (target? binding? : Option String) (act : Act) : Line :=
  .mk ⟨word, target?, binding?, true⟩ act

/-- A line that tells its result under a word. -/
def aloud (word : String) (act : Act) : Line :=
  .mk { word := word } act

/-- The name of the task at a place. -/
def taskName (place : Nat) : String :=
  String.ofList (List.replicate place 't')

/-- A task that gives a value. -/
def giving (value : Int64) : List Line :=
  [quietly "ret" none none (.ret (some value) none)]

/-- Tasks that each give a value are spawned, named by their places. -/
def spawnAll : Nat → List Int64 → List Line
  | _, [] => []
  | place, value :: rest =>
    quietly "spawn" none (some (taskName place)) (.spawn none false (giving value)) ::
      spawnAll (place + 1) rest

/-- Tasks that were spawned so are waited for, from a place on. -/
def awaitAll : Nat → Nat → List Line
  | _, 0 => []
  | place, left + 1 =>
    .mk { word := "task", target? := some (taskName place) } (.await false .raise) ::
      awaitAll (place + 1) left

/-- A call of an actor is made and waited for. -/
def ask (actor : String) (handler : List Line) (told : Line) : List Line :=
  [quietly "call" (some actor) (some "reply") (.call handler), told]

/-- An actor that counts is asked to count one more. -/
def countOne : List Line :=
  ask "counter" [quietly "inc" none none (.increment 1)]
    (quietly "await" (some "reply") none (.await false .raise))

/-- An actor that counts is made. -/
def makeCounter : Line :=
  quietly "actor" none (some "counter") (.actor [0] none)

/-- The actor is asked how far it has counted. -/
def readCounter : List Line :=
  ask "counter" [quietly "ret" none none (.ret none (some .top))]
    (.mk { word := "count", target? := some "reply" } (.await false .raise))

/-- A tree of tasks: each one spawns those below it, waits until it is cancelled, counts itself
and ends as cancelled.  It gives way as often as it takes the others to begin. -/
def tree (width patience : Nat) : Nat → List Line
  | 0 => [quietly "spin" none none (.spin patience)] ++ countOne ++
    [quietly "check" none none .check]
  | depth + 1 =>
    quietly "repeat" none none (.loop width
        [quietly "spawn" none (some "child") (.spawn none false (tree width patience depth))]) ::
      [quietly "spin" none none (.spin patience)] ++ countOne ++ [quietly "check" none none .check]

/-! ### Programs -/

/-- A program for several workers. -/
inductive Job where
  /-- One task for each word, giving the steps of its Collatz walk. -/
  | collatz (xs : List UInt64)
  /-- A group of tasks that each send a number of increments to one actor. -/
  | counter (tasks : Nat) (increments : Nat)
  /-- A group with one task for each word, giving its square. -/
  | squares (xs : List UInt64)
  /-- A tree of tasks that wait for the cancellation of its root. -/
  | cancelTree (depth : Nat) (width : Nat)

/-- What a program answers. -/
inductive Answer where
  /-- Numbers in a fixed order. -/
  | numbers (xs : List Nat)
  /-- The tasks that ended and the final count. -/
  | counted (tasks : Nat) (total : Nat)
  /-- How the root ended and how many tasks saw their cancellation. -/
  | cancelled (root : TaskError) (seen : Nat)

namespace Job

/-- The root task of a program. -/
def body : Job → List Line
  | collatz xs =>
    let values := xs.map fun x => .ofNat (collatzSteps x)
    spawnAll 0 values ++ (awaitAll 0 values.length ++ [quietly "ret" none none (.ret none none)])
  | counter tasks increments =>
    let child := [quietly "repeat" none none (.loop increments countOne)]
    makeCounter :: aloud "group" (.withGroup (.replicate tasks (.add none child)) .raise) ::
      readCounter
  | squares xs =>
    [aloud "group" (.withGroup (xs.map fun x => .add none (giving (x * x).toInt64)) .raise)]
  | cancelTree depth width =>
    makeCounter ::
      [quietly "spawn" none (some "root") (.spawn none false (tree width (depth + 2) depth)),
        quietly "yield" none none (.yieldTimes (depth + 1)),
        quietly "cancel" (some "root") none .cancel,
        .mk { word := "root", target? := some "root" } (.await false .report)] ++
      readCounter

/-- The words of what a root tells besides the results of its lines. -/
def asides : List String :=
  ["begin", "add", "end"]

/-- What the lines of the root of a program tell. -/
def told (job : Job) : List Report :=
  let answers := Session.play none [.build 0 none none, .blockOn 0 job.body]
  (answers.flatMap Session.Step.events).filterMap fun
    | .told (.task ⟨0⟩) label report => if label ∈ asides then none else some report
    | _ => none

/-- The answer of a program. -/
def answer (job : Job) : Answer :=
  let number? : Report → Option Nat
    | .value n => some n.toUInt64.toNat
    | _ => none
  match job, job.told with
  | counter .., [.values values, .value total] => .counted values.length total.toUInt64.toNat
  | squares _, [.values values] => .numbers ((values.map fun n => n.toUInt64.toNat).mergeSort)
  | cancelTree .., [.taskError e, .value seen] => .cancelled e seen.toUInt64.toNat
  | _, reports => .numbers (reports.filterMap number?)

end Job

end Pool

end Nursery
