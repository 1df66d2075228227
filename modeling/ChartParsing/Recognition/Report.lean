import ChartParsing.Recognition.Recognizer

/-!
# Reports of a recognition

The events of a recognition can be listed, logged, or counted: `Event.display` names each
event, `Event.logLines` gives its lines in a log, and `Recognition.statistics` adds them up.
-/

set_option autoImplicit false

namespace ChartParsing

/-! ## Listing events -/

/-- The printed event; the edges of a finished position are all listed. -/
def Event.display : Event → String
  | .started position token => "started " ++ toString position ++ " " ++ token
  | .popped e left => "popped " ++ e.display ++ " " ++ toString left
  | .duplicated e => "duplicated " ++ e.display
  | .added e => "added " ++ e.display
  | .predicted e => "predicted " ++ e.display
  | .completed e => "completed " ++ e.display
  | .finished position edges =>
    "finished " ++ toString position ++ " " ++ (EdgeSet.listing edges).inline

/-! ## Logging -/

/-- How important a line of the log is. -/
inductive LogLevel where
  | debug
  | trace
deriving DecidableEq

def LogLevel.display : LogLevel → String
  | .debug => "DEBUG"
  | .trace => "TRACE"

/-- **A line of a log.** -/
structure LogLine where
  level : LogLevel
  message : String
deriving DecidableEq

def LogLine.display (line : LogLine) : String := line.level.display ++ " " ++ line.message

/-- The lines of the log for an event. An addition is not logged, since the edge was logged
when it was taken from the agenda; the end of a position has two lines. -/
def Event.logLines : Event → List LogLine
  | .started position token => [⟨.debug, "word " ++ toString position ++ ": " ++ token⟩]
  | .popped e left =>
    [⟨.trace, "edge = " ++ e.display ++ " (" ++ toString left ++ " left on agenda)"⟩]
  | .duplicated e => [⟨.trace, "already in edge set: " ++ e.display⟩]
  | .added _ => []
  | .predicted e => [⟨.trace, "predict " ++ e.display⟩]
  | .completed e => [⟨.trace, "complete " ++ e.display⟩]
  | .finished position edges =>
    [⟨.debug, "position " ++ toString position ++ ": " ++ toString edges.size ++ " edges (" ++
        toString (EdgeSet.passive edges).length ++ " passive)"⟩,
     ⟨.trace, "finished position " ++ toString position ++ " with " ++ toString edges.size ++
        " edges"⟩]

def Recognition.log (r : Recognition) : List LogLine := r.events.flatMap Event.logLines

/-! ## Counting -/

/-- **How much work a recognition was.** -/
@[ext]
structure Statistics where
  /-- Edges taken from an agenda. -/
  edgesPopped : Nat := 0
  /-- Edges added to a position. -/
  edgesAdded : Nat := 0
  /-- Edges that were known when they were taken. -/
  duplicates : Nat := 0
  predictions : Nat := 0
  completions : Nat := 0
  /-- The number of edges of each finished position. -/
  positionSizes : List Nat := []
deriving DecidableEq

namespace Statistics

/-- The statistics after one more event. -/
def record (stats : Statistics) : Event → Statistics
  | .started _ _ => stats
  | .popped _ _ => { stats with edgesPopped := stats.edgesPopped + 1 }
  | .duplicated _ => { stats with duplicates := stats.duplicates + 1 }
  | .added _ => { stats with edgesAdded := stats.edgesAdded + 1 }
  | .predicted _ => { stats with predictions := stats.predictions + 1 }
  | .completed _ => { stats with completions := stats.completions + 1 }
  | .finished _ edges => { stats with positionSizes := stats.positionSizes ++ [edges.size] }

def display (stats : Statistics) : String :=
  (Listing.record "RecognizeStats"
    [("edges_popped", .atom (toString stats.edgesPopped)),
     ("edges_added", .atom (toString stats.edgesAdded)),
     ("duplicates", .atom (toString stats.duplicates)),
     ("predictions", .atom (toString stats.predictions)),
     ("completions", .atom (toString stats.completions)),
     ("position_sizes", .sequence (stats.positionSizes.map fun n => .atom (toString n)))]).inline

end Statistics

/-- **The statistics of a recognition.** -/
def Recognition.statistics (r : Recognition) : Statistics := r.events.foldl Statistics.record {}

end ChartParsing
