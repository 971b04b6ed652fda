import FighterCheck.Log.Directive

/-!
# Which events are shown

A filter is a list of directives. An event is shown if the directive that speaks best of its part of
the program lets it through, or if a directive watches one of the activities it stands in and lets it
through. The best directive is the one with the longest target; of two with the same target the one
that asks for a field comes first, and of two that ask for the same the later one counts.

Activities are shown on the line of an event as summaries are: where a directive for their part lets
summaries through, where a directive watches them, and inside others whose directives let summaries
through.
-/

namespace FighterCheck.Log

/-- Directives, the later taking precedence over the earlier of the same scope. -/
abbrev Filter := List Directive

namespace Filter

/-- The directives in a text, with commas between them; nothing if one of them cannot be read. -/
def read? (text : String) : Option Filter :=
  ((Text.split ',' text.toList).filter (· ≠ [])).mapM Directive.read?

/-- The directives in words, with commas between them. -/
def text (f : Filter) : String := ",".intercalate (f.map Directive.text)

/-- The rank of the lowest of some thresholds. -/
def lowest (ts : List Threshold) : Nat := (ts.map thresholdRank).foldl max 0

/-- How far down the filter reaches at most. Where the value of a field is asked for, all activities
have to be looked at. -/
def reach (f : Filter) : Nat :=
  if f.any fun d => d.field.any (·.value.isSome) then Level.trace.rank
  else lowest (f.map Directive.threshold)

/-! ## Parts of the program -/

/-- The first directive speaks better of what both concern. -/
def speaksBetter (a b : Directive) : Bool :=
  if a.target.length ≠ b.target.length then b.target.length < a.target.length
  else match a.field, b.field with
    | some x, some y => decide (y.name < x.name)
    | some _, none => true
    | _, _ => false

/-- Of two directives, the one that speaks better, or the second. -/
def better (best : Option Directive) (d : Directive) : Option Directive :=
  match best with
  | none => some d
  | some b => if speaksBetter b d then some b else some d

/-- The directive that speaks best of a part, among the general ones that pass a test. -/
def bestFor (f : Filter) (target : String) (passes : Directive → Bool) : Option Directive :=
  (f.filter fun d => d.isGeneral && d.concerns target && passes d).foldl better none

/-- The rank down to which an event's part is shown. A field that a directive asks for has to be one
of the event's; its message is one of them. -/
def eventRank (f : Filter) (e : Event) : Nat :=
  let fields := ("message", .bare e.message) :: e.fields
  thresholdRank ((f.bestFor e.target fun d => d.field.all (·.isAmong fields)).bind (·.threshold))

/-- The rank down to which an activity's part is shown, whatever its fields. -/
def spanRank (f : Filter) (s : Span) : Nat :=
  thresholdRank ((f.bestFor s.target fun _ => true).bind (·.threshold))

/-! ## Activities -/

/-- The directives without those whose place a later one takes. -/
def lasting : Filter → Filter
  | [] => []
  | d :: ds => if ds.any (·.sameScope d) then lasting ds else d :: lasting ds

/-- The directives that watch an activity. -/
def watching (f : Filter) (s : Span) : Filter := f.lasting.filter (·.watches s)

/-- The rank down to which events in an activity are shown, of those directives that watch it whose
field has the value asked for. -/
def watchedRank (f : Filter) (s : Span) : Nat :=
  lowest (((f.watching s).filter fun d => d.field.all (·.accepts s.fields)).map (·.threshold))

/-- The activities shown so far and the rank down to which events in them are shown. -/
structure Scope where
  /-- the activities, the outermost first -/
  spans : List Span
  /-- the rank -/
  rank : Nat
  deriving Repr, DecidableEq

/-- The scope with one more activity inside it, if that one is shown. -/
def enter (f : Filter) (scope : Scope) (s : Span) : Scope :=
  let info := Level.info.rank
  if info ≤ scope.rank ∨ info ≤ f.spanRank s ∨ f.watching s ≠ [] ∧ info ≤ f.reach then
    ⟨scope.spans ++ [s], max scope.rank (f.watchedRank s)⟩
  else scope

/-- The event with those of its activities that are shown, if it is shown. -/
def show? (f : Filter) (e : Event) : Option Event :=
  let scope := e.spans.foldl f.enter ⟨[], 0⟩
  if e.level.rank ≤ max (f.eventRank e) scope.rank then some { e with spans := scope.spans }
  else none

/-- The events that are shown, each with those of its activities that are. -/
def select (f : Filter) (es : List Event) : List Event := es.filterMap f.show?

end Filter

/-- The parts of the program, by the names that events come under. -/
def parts : List String :=
  ["mugen", "mugen_cli", "mugen_ini", "mugen_project", "mugen_sff", "mugen_standards",
    "mugen_validate"]

/-- The filter that shows the events of the program down to a threshold, and warnings of all else. -/
def Filter.ofThreshold (t : Threshold) : Filter :=
  .ofTarget "" (some .warn) :: parts.map (.ofTarget · t)

end FighterCheck.Log
