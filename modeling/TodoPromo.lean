import TodoPromo.Files.Faults
import TodoPromo.Files.Tree
import TodoPromo.Launch.Program
import TodoPromo.Promo.Router
import TodoPromo.Proofs.Config.SameSettings
import TodoPromo.Proofs.Config.Sources
import TodoPromo.Proofs.Decimal.Leading
import TodoPromo.Proofs.Files.Archive
import TodoPromo.Proofs.Files.InStep
import TodoPromo.Proofs.Files.MapFiles
import TodoPromo.Proofs.Files.TwoHandles
import TodoPromo.Proofs.Files.Writable
import TodoPromo.Proofs.Http.Answers
import TodoPromo.Proofs.Http.Orderly
import TodoPromo.Proofs.Json.NumberRange
import TodoPromo.Proofs.Json.Records
import TodoPromo.Proofs.Launch.Hosts
import TodoPromo.Proofs.Launch.Threads
import TodoPromo.Proofs.Launch.Usable
import TodoPromo.Proofs.Promo.Batches
import TodoPromo.Proofs.Promo.ConsecutiveBatches
import TodoPromo.Proofs.Promo.GeneratedWindows
import TodoPromo.Proofs.Promo.LifeCycle
import TodoPromo.Proofs.Promo.Lossless
import TodoPromo.Proofs.Promo.Once
import TodoPromo.Proofs.Promo.Operations
import TodoPromo.Proofs.Promo.Presented
import TodoPromo.Proofs.Promo.Redeemed
import TodoPromo.Proofs.Promo.SeededWindows
import TodoPromo.Proofs.Promo.Spellings
import TodoPromo.Proofs.Promo.WindowDates
import TodoPromo.Proofs.Services.Calls
import TodoPromo.Proofs.Services.Concealment
import TodoPromo.Proofs.Services.Independence
import TodoPromo.Proofs.Services.Refusals
import TodoPromo.Proofs.Services.Separation
import TodoPromo.Proofs.Store.Agreement
import TodoPromo.Proofs.Store.Recorded
import TodoPromo.Proofs.Store.Transactions
import TodoPromo.Proofs.Text.Ascii
import TodoPromo.Proofs.Text.SmallLetters
import TodoPromo.Proofs.Text.Trimming
import TodoPromo.Proofs.Time.Calendar
import TodoPromo.Proofs.Time.Instants
import TodoPromo.Proofs.Time.Months
import TodoPromo.Proofs.Time.WrittenInstants
import TodoPromo.Proofs.Todo.History
import TodoPromo.Proofs.Todo.Operations
import TodoPromo.Proofs.Todo.PlainList
import TodoPromo.Proofs.Todo.Requests
import TodoPromo.Random.Scripted
import TodoPromo.Random.Seeded
import TodoPromo.Store.Faults
import TodoPromo.Todo.Router
