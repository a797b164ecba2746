import CloudBilling.Files.Tree
import CloudBilling.Proofs.Document
import CloudBilling.Proofs.Merging
import CloudBilling.Proofs.Output

/-!
# A run from its documents to its output

Once the settings are loaded and the log file is open, a run only reads until it has its output.  So
every document is loaded in the state in which the log file was opened, and what the documents come
to decides whether something is printed, and what.
-/

namespace CloudBilling

/-! ## Documents -/

namespace Integration.Document

variable {source : Source} {entries : List Entry}

end Integration.Document

/-! ## Entries -/

namespace Entry

end Entry

/-! ## File systems that have a state -/

variable {σ : Type}

/-- What comes second is run in the state that what comes first has left. -/
theorem run_bind {α β : Type} (former : StateM σ α) (next : α → StateM σ β) (state : σ) :
    (former >>= next).run state = (next (former.run state).1).run (former.run state).2 := rfl

namespace Program

variable {files : FileSystem (StateM σ)} {state start opened : σ} {file : SourceFile}
  {documents : List SourceFile} {arguments : List String} {request : CommandLine.Request}
  {settings : Settings}

/-! ## Loading -/

namespace SetUp

end SetUp

/-! ## The document of the command line -/

variable {configured : List (List Entry)} {extra : Option (List Entry)}

end Program

end CloudBilling
