import DogRegistry.Main
import DogRegistry.Files.Directory
import DogRegistry.Proofs.Index.Descent
import DogRegistry.Proofs.Index.WellFormed
import DogRegistry.Proofs.Index.Insertion
import DogRegistry.Proofs.Index.Contents
import DogRegistry.Proofs.Index.Check
import DogRegistry.Proofs.Engine.Submission
import DogRegistry.Proofs.RowId
import DogRegistry.Proofs.Engine.Numbering
import DogRegistry.Proofs.Engine.Search
import DogRegistry.Proofs.Text.LowerCase
import DogRegistry.Proofs.Table
import DogRegistry.Proofs.Statement.Tuples
import DogRegistry.Proofs.Engine.Account
import DogRegistry.Proofs.Engine.Assignment
import DogRegistry.Proofs.Engine.Uniqueness
import DogRegistry.Proofs.Engine.Reopening
import DogRegistry.Proofs.Statement.Separator
import DogRegistry.Proofs.Text.Word
import DogRegistry.Proofs.Statement.Written
import DogRegistry.Proofs.Engine.Composition
import DogRegistry.Proofs.Index.Occupancy
import DogRegistry.Proofs.Files.Directory
import DogRegistry.Proofs.Json.StringMap
import DogRegistry.Proofs.Shell.Snapshot
import DogRegistry.Proofs.Engine.TableText
import DogRegistry.Proofs.Engine.Settings
import DogRegistry.Proofs.Shell.Line
import DogRegistry.Proofs.Shell.Run
import DogRegistry.Proofs.Engine.Independence
import DogRegistry.Proofs.Index.Separators
import DogRegistry.Proofs.Index.RootOnly
import DogRegistry.Proofs.Index.Trace
import DogRegistry.Proofs.Engine.Resubmission
import DogRegistry.Proofs.Statement.Groups
import DogRegistry.Proofs.Statement.Quoted
import DogRegistry.Proofs.Statement.RoundTrip
import DogRegistry.Proofs.Statement.Token
import DogRegistry.Proofs.Statement.Header
import DogRegistry.Proofs.Store
import DogRegistry.Proofs.Index.Searchable
import DogRegistry.Proofs.Report.Csv
