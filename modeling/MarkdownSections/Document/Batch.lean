import MarkdownSections.Document.Elements
import MarkdownSections.Document.File
import MarkdownSections.Settings.Basic

/-!
# Batches of documents

One step is done with every document under a path. A structural fault fails only its own document:
it is collected when faults are skipped, and ends the batch otherwise. Every other error ends the
batch.
-/

set_option autoImplicit false

namespace MarkdownSections

/-- A document that failed: its name, and the fault. -/
structure FailedDocument where
  source : String
  fault : StructuralFault
deriving DecidableEq, Repr

namespace FailedDocument

/-- The error that a failed document stands for. -/
def error (d : FailedDocument) : DocumentError :=
  .structural d.source d.fault

/-- The wording of the warning about a failed document. -/
def warning (d : FailedDocument) : String :=
  "Skipping " ++ d.source ++ ": " ++ d.fault.message

end FailedDocument

/-- What a batch gives: the results with the paths of their documents, and the failed documents,
both in the order of the paths. -/
structure Batch (α : Type) where
  results : List (Path × α) := []
  failures : List FailedDocument := []
deriving Repr

namespace Batch

variable {α : Type}

/-- Does a step with every path of a list. -/
def collect (step : Path → Except DocumentError α) (skip : Bool) :
    List Path → Except DocumentError (Batch α)
  | [] => .ok {}
  | p :: ps =>
    match step p with
    | .ok a => do
      let rest ← collect step skip ps
      return { rest with results := (p, a) :: rest.results }
    | .error (.structural source fault) =>
      if skip then do
        let rest ← collect step skip ps
        return { rest with failures := ⟨source, fault⟩ :: rest.failures }
      else .error (.structural source fault)
    | .error e => .error e

/-- The warnings about the failed documents. -/
def warnings (b : Batch α) : List String :=
  b.failures.map FailedDocument.warning

end Batch

namespace Files

/-- Does a step with every document under a path; there must be at least one. -/
def eachDocument {α : Type} (f : Files) (path : String) (settings : Settings)
    (step : Document → Except DocumentError α) (skip : Bool) : Except DocumentError (Batch α) :=
  match f.documentPaths (Path.ofText path) with
  | [] => .error (.noFiles path)
  | paths => Batch.collect (fun p => do step (← Document.ofFile f p settings.preset)) skip paths

/-- The section rows of every document under a path. -/
def sectionsUnder (f : Files) (path : String) (settings : Settings) (skip : Bool := true) :
    Except DocumentError (Batch (List Section)) :=
  f.eachDocument path settings (·.sections settings.sectionOptions) skip

/-- The elements of every document under a path. -/
def elementsUnder (f : Files) (path : String) (settings : Settings) (skip : Bool := true) :
    Except DocumentError (Batch (List Element)) :=
  f.eachDocument path settings (·.elements .lenient) skip

end Files

end MarkdownSections
