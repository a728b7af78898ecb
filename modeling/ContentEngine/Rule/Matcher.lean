import ContentEngine.Change
import ContentEngine.Log
import ContentEngine.Rule.Job

/-!
# Matching events

The matcher maps the paths of a change event to work items. Each path is tried with each rule, in
the order of the paths and then of the rules; within a rule the first expression that matches
decides. A match whose output is no path gives no work but a warning.
-/

namespace ContentEngine

/-- A rule together with the processor to which it is bound. -/
structure BoundRule (π : Type) where
  rule : ProcessorRule
  processor : π

/-- The rules in the order in which they are tried. -/
abbrev RuleMatcher (π : Type) := List (BoundRule π)

namespace RuleMatcher

variable {π : Type}

/-- What comes of one path and one rule that match: a work item, or a warning. -/
inductive Match (π : Type) where
  | work (w : WorkItem π)
  | warning (line : LogLine)

/-- The match of a path of an event with a rule. -/
def match? (event : ChangeEvent) (path : NodePath) (bound : BoundRule π) : Option (Match π) :=
  (bound.rule.firstMatch? path).map fun (expression, groups) =>
    let template := bound.rule.templateFor expression
    match Expression.substitute groups template with
    | .ok output =>
      .work ⟨⟨⟨event.source, path⟩, ⟨event.source, output⟩, bound.rule, event.sequence⟩,
        bound.processor⟩
    | .error e =>
      .warning ⟨.warning, "Rule '" ++ bound.rule.name ++ "' matched " ++ path.text ++
        " but output template '" ++ template ++ "' is not a valid path: " ++ e.message⟩

/-- The matches of an event, in the order of its paths and then of the rules. -/
def matchesOf (matcher : RuleMatcher π) (event : ChangeEvent) : List (Match π) :=
  event.paths.flatMap fun path => matcher.filterMap (match? event path)

/-- The work item of a match. -/
def Match.work? : Match π → Option (WorkItem π)
  | .work w => some w
  | .warning _ => none

/-- The warning of a match. -/
def Match.warning? : Match π → Option LogLine
  | .work _ => none
  | .warning line => some line

/-- The work that an event calls for. -/
def workFor (matcher : RuleMatcher π) (event : ChangeEvent) : List (WorkItem π) :=
  (matchesOf matcher event).filterMap Match.work?

/-- The warnings about matches of an event without a usable output. -/
def warningsFor (matcher : RuleMatcher π) (event : ChangeEvent) : List LogLine :=
  (matchesOf matcher event).filterMap Match.warning?

end RuleMatcher

end ContentEngine
