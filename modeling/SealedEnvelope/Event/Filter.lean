import SealedEnvelope.Event.Directive

/-!
Which reports are shown.

A filter is a list of directives. Of those that apply to a report the most specific one decides
about it; a report that none applies to is not shown.
-/

namespace SealedEnvelope

/-- Directives in the order in which they were given. -/
abbrev Filter := List Directive

namespace Filter

/-- Reports of any source up to a level. -/
def upTo (level : Level) : Filter := [{ level? := some level }]

/-- The filter that a text writes: directives with commas between them. The first that is not read
decides why there is none. Without any directive, errors are shown. -/
def parse (text : String) : Except Directive.Fault Filter :=
  match (text.toList.splitOn ',').filter (· ≠ []) with
  | [] => pure (upTo .error)
  | directives => directives.mapM fun directive => Directive.parse (String.ofList directive)

/-- The directive that decides about a report. -/
def deciding? (filter : Filter) (event : Event) : Option Directive :=
  match filter.filter (Directive.covers · event) with
  | [] => none
  | first :: rest => some (rest.foldl Directive.moreSpecific first)

/-- Whether a report is shown. -/
def shows (filter : Filter) (event : Event) : Bool :=
  match (filter.deciding? event).bind Directive.level? with
  | some level => event.level.rank ≤ level.rank
  | none => false

/-- The lines of the reports that are shown. -/
def render (filter : Filter) (events : List Event) : String :=
  String.join ((events.filter filter.shows).map Event.line)

end Filter

end SealedEnvelope
