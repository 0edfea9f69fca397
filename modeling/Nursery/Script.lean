import Nursery.Priority

/-!
# Scripts

A script drives runtimes from the main thread, one command after the other.  Tasks and actors run
lines of the same language: most lines do one thing that is allowed everywhere, some only make
sense in the body of a task, some only in the handler of an actor.  A line carries a tag with the
words that its event is labelled with.

* `Line`, `Act` : a line and what it does.
* `Command` : what the main thread is told to do.
* `Line.weight`, `Script.weight` : how much there is to do at most, repetitions counted.
-/

namespace Nursery

/-- Data that a script only passes on. -/
inductive Datum where
  /-- No value. -/
  | null
  /-- A truth value. -/
  | flag (value : Bool)
  /-- A number. -/
  | number (value : Int)
  /-- A text. -/
  | text (value : String)
  /-- A list. -/
  | list (values : List Datum)
  /-- Named values. -/
  | record (fields : List (String × Datum))
deriving Inhabited

/-- What a panic carries. -/
inductive Payload where
  /-- A text of the script's own. -/
  | owned (text : String)
  /-- A text that is the same for all. -/
  | fixed
  /-- Something that is no text. -/
  | number

/-- What is made known of a panic. -/
def Payload.message : Payload → String
  | owned text => text
  | fixed => "static text"
  | number => "non-string panic payload"

/-- What happens when the result of a line is an error. -/
inductive Attempt where
  /-- It is only reported. -/
  | report
  /-- The body ends with the error as the cause of its failure. -/
  | wrap
  /-- The body ends with the error itself. -/
  | raise
deriving DecidableEq, Repr

/-- What a handler may return of the state of its actor. -/
inductive Measure where
  /-- The number of elements. -/
  | length
  /-- The last element. -/
  | top
  /-- The sum of the elements. -/
  | sum
deriving DecidableEq, Repr

/-- The words a line is labelled with. -/
structure Tag where
  /-- The word of the instruction. -/
  word : String
  /-- The name it looks up. -/
  target? : Option String := none
  /-- The name it binds. -/
  binding? : Option String := none
  /-- The line has no event of its own. -/
  quiet : Bool := false

namespace Tag

/-- The label of the line's event: the word and the name looked up, else the name bound. -/
def label (t : Tag) : String :=
  match t.target? <|> t.binding? with
  | some name => t.word ++ " " ++ name
  | none => t.word

/-- The name that the line looks up. -/
def target (t : Tag) : String :=
  t.target?.getD ""

/-- The name that the line binds. -/
def binding (t : Tag) : String :=
  t.binding?.getD ""

end Tag

mutual

/-- A line of a body or of a handler. -/
inductive Line where
  /-- What the line does, under its tag. -/
  | mk (tag : Tag) (act : Act)

/-- What a line does.  Names that it looks up or binds stand in its tag. -/
inductive Act where
  /-- Pass a value on. -/
  | note (value : Datum)
  /-- The task that runs the line. -/
  | currentTask
  /-- Whether that task was cancelled. -/
  | isCancelled
  /-- The thread that runs the line. -/
  | thread
  /-- Panic. -/
  | panic (payload : Payload)
  /-- Pause the worker in the middle of the slice. -/
  | hold
  /-- Spawn a task, as a child of the current one unless detached. -/
  | spawn (priority : Option Priority) (detached : Bool) (body : List Line)
  /-- Spawn a root task on a runtime. -/
  | spawnOn (runtime : Nat) (priority : Option Priority) (body : List Line)
  /-- Block on a runtime from inside. -/
  | blockInside (runtime : Nat)
  /-- The phase of a task. -/
  | phase
  /-- Whether that phase is final. -/
  | isTerminal
  /-- Whether a task is finished. -/
  | isFinished
  /-- Whether the task of a handle was cancelled. -/
  | handleCancelled
  /-- The name of the task of a handle. -/
  | handleTask
  /-- Cancel a task. -/
  | cancel
  /-- The written form of a handle or a call. -/
  | describe
  /-- Drop a handle, a group or a call. -/
  | drop
  /-- Move a handle, a group or a call to the shared table. -/
  | share
  /-- Make a group. -/
  | group
  /-- Add a child to a group. -/
  | add (priority : Option Priority) (body : List Line)
  /-- How many children of a group are not collected yet. -/
  | groupSize
  /-- Cancel a group. -/
  | cancelGroup
  /-- Whether a group was cancelled. -/
  | groupCancelled
  /-- The phase of a child of a group. -/
  | childPhase (child : String)
  /-- Make an actor. -/
  | actor (init : List Int64) (priority : Option Priority)
  /-- The written form of an actor. -/
  | describeActor
  /-- How many messages wait for an actor. -/
  | pending
  /-- Call an actor. -/
  | call (handler : List Line)
  /-- Send a message to an actor. -/
  | send (handler : List Line)
  /-- Wake whoever parked under a name. -/
  | wake
  /-- Append an element to the actor's state. -/
  | push (value : Int64)
  /-- Remove the last element of the actor's state. -/
  | pop
  /-- Double the last element of the actor's state. -/
  | double
  /-- Raise the last element of the actor's state. -/
  | increment (value : Int64)
  /-- The actor's state. -/
  | get
  /-- End the body or the handler with a value. -/
  | ret (value : Option Int64) (measure : Option Measure)
  /-- Run lines several times. -/
  | loop (times : Nat) (body : List Line)
  /-- End the body with an error. -/
  | fail (message : String) (cause : Option String)
  /-- End the body as cancelled. -/
  | raiseCancelled
  /-- End the body with the error of a panic. -/
  | raisePanicked (message : String)
  /-- End the body as cancelled if its task was. -/
  | check
  /-- Give way a number of times. -/
  | yieldTimes (times : Nat)
  /-- Give way until cancelled, but at most a number of times. -/
  | spin (limit : Nat)
  /-- Suspend until woken. -/
  | park
  /-- Wake oneself a number of times. -/
  | wakeSelf (times : Nat)
  /-- Run one of two lists of lines. -/
  | ifCancelled (yes : List Line) (no : List Line)
  /-- Wait for a handle or a call. -/
  | await (keep : Bool) (attempt : Attempt)
  /-- Look whether a handle or a call is ready. -/
  | poll (keep : Bool) (attempt : Attempt)
  /-- Wait for the first of several handles. -/
  | any (names : List String) (attempt : Attempt)
  /-- Wait for the next child of a group. -/
  | next (attempt : Attempt)
  /-- Wait for all children of a group. -/
  | all (attempt : Attempt)
  /-- Make a group, fill it and wait for all its children. -/
  | withGroup (plan : List PlanItem) (attempt : Attempt)
  /-- A word that means nothing. -/
  | unknown

/-- What is done to a group while it is filled. -/
inductive PlanItem where
  /-- Add a child. -/
  | add (priority : Option Priority) (body : List Line)
  /-- Cancel the group. -/
  | cancelAll
  /-- Panic. -/
  | panic (payload : Payload)
  /-- Look at the size of the group. -/
  | look

end

instance : Inhabited Act := ⟨.unknown⟩

instance : Inhabited Line := ⟨.mk ⟨"", none, none, false⟩ .unknown⟩

instance : Inhabited PlanItem := ⟨.look⟩

/-- What the main thread is told to do.  Runtimes stand in numbered places. -/
inductive Command where
  /-- Build a runtime. -/
  | build (place : Nat) (batch : Option Nat) (threadStem : Option String)
  /-- Let the worker go on, for a number of rounds of a marker or until nothing is queued. -/
  | run (place : Nat) (rounds : Nat) (band : Priority)
  /-- Run a body to its end while the main thread waits. -/
  | blockOn (place : Nat) (body : List Line)
  /-- Drop a runtime. -/
  | dropRuntime (place : Nat)
  /-- The written form of a runtime. -/
  | describeRuntime (place : Nat)
  /-- Ask for cancellation outside of any task. -/
  | check
  /-- Run a line on the main thread. -/
  | line (line : Line)

/-- A script: commands in order. -/
abbrev Script := List Command

mutual

/-- How much a line can give to do, repetitions counted. -/
def Line.weight : Line → Nat
  | .mk _ act => act.weight

/-- How much an act can give to do, repetitions counted. -/
def Act.weight : Act → Nat
  | .spawn _ _ body => 1 + linesWeight body
  | .spawnOn _ _ body => 1 + linesWeight body
  | .add _ body => 1 + linesWeight body
  | .call handler => 1 + linesWeight handler
  | .send handler => 1 + linesWeight handler
  | .loop times body => 1 + times * (1 + linesWeight body)
  | .yieldTimes times => 1 + times
  | .spin limit => 1 + limit
  | .wakeSelf times => 1 + times
  | .ifCancelled yes no => 1 + linesWeight yes + linesWeight no
  | .any names _ => 1 + names.length
  | .withGroup plan _ => 1 + planWeight plan
  | _ => 1

/-- How much a list of lines can give to do. -/
def linesWeight : List Line → Nat
  | [] => 0
  | line :: rest => line.weight + linesWeight rest

/-- How much one item of a plan can give to do. -/
def PlanItem.weight : PlanItem → Nat
  | .add _ body => 1 + linesWeight body
  | _ => 1

/-- How much a plan can give to do. -/
def planWeight : List PlanItem → Nat
  | [] => 0
  | item :: rest => item.weight + planWeight rest

end

/-- How much a command can give to do. -/
def Command.weight : Command → Nat
  | .run _ rounds _ => 1 + rounds
  | .blockOn _ body => 1 + linesWeight body
  | .line l => l.weight
  | _ => 1

/-- How much a script can give to do. -/
def Script.weight (script : Script) : Nat :=
  (script.map Command.weight).foldr (· + ·) 0

end Nursery
