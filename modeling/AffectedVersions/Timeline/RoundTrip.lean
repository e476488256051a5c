import AffectedVersions.History
import AffectedVersions.Span.Timeline
import AffectedVersions.Timeline.Coverage
import AffectedVersions.Timeline.Lint

/-! From histories to advisory entries and back, and what is lost on the way. -/
namespace AffectedVersions

namespace History

def toEntry (h : History) : Entry where
  module := h.module
  spans := h.events.toCoverage.spans
  default := some h.events.toCoverage.default
  packages := h.packages

end History

def Entry.defaultOr (e : Entry) (assumed : Status) : Status := e.default.getD assumed

def Entry.reading (e : Entry) (assumed : Status) : Reading :=
  .ofSpans e.spans (some (e.defaultOr assumed))

def Entry.toHistory (e : Entry) (assumed : Status) : History where
  module := e.module
  events := (e.reading assumed).events
  packages := e.packages
  complete := (e.reading assumed).complete

/-- A timeline, its coverage, and the timeline read back from that. -/
structure RoundTrip where
  module : Text
  original : Timeline
  reconstructed : Timeline
  coverage : Coverage
  issues : List Issue
  deriving DecidableEq

namespace RoundTrip

/-- The timeline that came back is the one that was converted, less each leading "v". -/
def isMatch (r : RoundTrip) : Bool := r.original.normalized == r.reconstructed

def ok (r : RoundTrip) : Bool := r.isMatch && r.issues.isEmpty

end RoundTrip

/-- The round trip of a history, with the issues of its timeline when `lint` is on. -/
def History.check (lint : Bool) (h : History) : RoundTrip where
  module := h.module
  original := h.events
  reconstructed := h.events.toCoverage.read.events
  coverage := h.events.toCoverage
  issues := (if lint then h.events.lint else []) ++
    if h.events.toCoverage.read.complete then [] else [.notRepresentable]

end AffectedVersions
