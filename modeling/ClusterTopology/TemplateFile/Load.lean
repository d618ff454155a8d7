import ClusterTopology.TemplateFile.Line
import ClusterTopology.Template.Store

/-!
Loading a template file into a store. Every line is taken by itself: it is
ignored, or its record is accepted, or it is rejected with a reason and its
number; a rejected line changes nothing and the load goes on. A tag that
disagrees with its record is pointed out, and the record is believed.
-/

namespace ClusterTopology.TemplateFile

/-- How a load went. -/
structure LoadReport where
  /-- How many records were accepted. -/
  records : Nat := 0
  /-- One error per rejected line, in order. -/
  rejected : List Error := []
  deriving DecidableEq, Repr

/-- Nothing was rejected. -/
def LoadReport.isClean (report : LoadReport) : Bool := report.rejected.isEmpty

/-- What a line amounts to for a store. -/
inductive Verdict where
  /-- There is nothing to take in. -/
  | ignored
  /-- The line is dropped. -/
  | rejected (error : Error)
  /-- The record of the line is taken in. -/
  | accepted (tag : String) (addition : Store.Addition)

/-- Judge the line of that number. -/
def judge (store : Store) (number : Nat) (raw : List Char) : Verdict :=
  match Line.parse number raw with
  | .error error => .rejected error
  | .ok .ignored => .ignored
  | .ok (.record tag record) =>
    match store.add record with
    | .error error => .rejected (.malformedLine number error.message)
    | .ok addition => .accepted tag addition

/-- What came of loading lines: the store with the records in it, the account of
the lines, and the notices given on the way. -/
structure Load where
  store : Store
  report : LoadReport := {}
  notices : List Notice := []

namespace Load

/-- A load before which a line was rejected. -/
def rejecting (error : Error) (load : Load) : Load :=
  { load with
    report := { load.report with rejected := error :: load.report.rejected }
    notices := .lineRejected error :: load.notices }

/-- A load before which the record of a line was accepted. -/
def accepting (number : Nat) (tag : String) (addition : Store.Addition) (load : Load) : Load :=
  { load with
    report := { load.report with records := load.report.records + 1 }
    notices := addition.notices ++
      (if tag = addition.kind.name then [] else [.tagDisagrees number tag addition.kind]) ++
      load.notices }

end Load

/-- Load lines in order, the first of which has that number. -/
def loadLines (store : Store) (number : Nat) : List (List Char) → Load
  | [] => { store }
  | raw :: rest =>
    match judge store number raw with
    | .ignored => loadLines store (number + 1) rest
    | .rejected error => (loadLines store (number + 1) rest).rejecting error
    | .accepted tag addition =>
      (loadLines addition.store (number + 1) rest).accepting number tag addition

/-- Load a text into a store. Lines are numbered from one. -/
def load (store : Store) (text : String) : Load := loadLines store 1 (Text.lines text.toList)

end ClusterTopology.TemplateFile
