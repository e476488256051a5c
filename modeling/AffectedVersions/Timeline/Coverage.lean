import AffectedVersions.Layout
import AffectedVersions.Span.Basic

/-! The spans and the default status that describe a timeline. -/
namespace AffectedVersions

/-- Consecutive elements two by two; a last one without a partner is dropped. -/
def pairUp {α : Type} : List α → List (α × α)
  | a :: b :: rest => (a, b) :: pairUp rest
  | _ => []

namespace Layout

def span (l : Layout) (introduced fixed : Text) : Span where
  introduced := introduced
  fixed := fixed
  status := some l.spanStatus

/-- One span for each two events. A last event without a partner is covered by the default. -/
def spans (l : Layout) (t : Timeline) : List Span :=
  (pairUp t).map fun (first, last) => l.span first.version last.version

end Layout

namespace Timeline

def layout (t : Timeline) : Layout := .ofLastKind (t.getLast?.map Event.kind)

/-- The events are paired in the order given, versions are not compared. When the first event
opens no span, the span that it ends begins before every version. -/
def spans (t : Timeline) : List Span :=
  match t.normalized with
  | [] => []
  | first :: rest =>
    if first.kind = t.layout.openingKind then t.layout.spans (first :: rest)
    else t.layout.span Version.genesis first.version :: t.layout.spans rest

/-- A module without events is affected in all its versions. -/
def toCoverage (t : Timeline) : Coverage where
  spans := t.spans
  default := if t = [] then .affected else t.layout.defaultStatus

end Timeline

end AffectedVersions
