import TrackedEntity.Accessor.Access
import TrackedEntity.Accessor.Token
import TrackedEntity.Batch.Basic
import TrackedEntity.Cache.Basic
import TrackedEntity.Channel.Basic
import TrackedEntity.Channel.Exchange
import TrackedEntity.Channel.Standalone
import TrackedEntity.Compiled.Basic
import TrackedEntity.Compiled.ClassName
import TrackedEntity.Compiled.Mention
import TrackedEntity.Contract.ClassGraph
import TrackedEntity.Contract.Declaration
import TrackedEntity.Contract.DeclaredType
import TrackedEntity.Contract.Lineage
import TrackedEntity.Contract.Schema
import TrackedEntity.Contract.Walk
import TrackedEntity.Entity.Handler
import TrackedEntity.Entity.State
import TrackedEntity.Entity.Views
import TrackedEntity.Fault
import TrackedEntity.Hook.Directory
import TrackedEntity.Hook.Resolution
import TrackedEntity.Hook.Signature
import TrackedEntity.Lock.Basic
import TrackedEntity.Lock.Contention
import TrackedEntity.Mask.Basic
import TrackedEntity.Mask.Layout
import TrackedEntity.Number.Binary64
import TrackedEntity.Number.Exact
import TrackedEntity.Number.Powers
import TrackedEntity.Number.Reading
import TrackedEntity.Number.Rounding
import TrackedEntity.Number.Shortest
import TrackedEntity.Number.Text
import TrackedEntity.Position
import TrackedEntity.Program.Eval
import TrackedEntity.Program.Expr
import TrackedEntity.Session.Basic
import TrackedEntity.Session.Step
import TrackedEntity.Settings.Basic
import TrackedEntity.Settings.Environment
import TrackedEntity.Settings.EnvironmentFile
import TrackedEntity.Settings.Source
import TrackedEntity.Table
import TrackedEntity.Text.Blank
import TrackedEntity.Text.Hexadecimal
import TrackedEntity.Text.Normal
import TrackedEntity.Text.NormalTables
import TrackedEntity.Text.Printable
import TrackedEntity.Text.Quoted
import TrackedEntity.Text.UpperCase
import TrackedEntity.Value.Basic
import TrackedEntity.Value.Description
import TrackedEntity.Value.Equality
import TrackedEntity.Value.Making
import TrackedEntity.Value.Operations
import TrackedEntity.Value.Truth
import TrackedEntity.Proofs.Compiled.Tables
import TrackedEntity.Proofs.Exec.Composition
import TrackedEntity.Proofs.Entity.Invariant
import TrackedEntity.Proofs.Entity.Reports
import TrackedEntity.Proofs.Entity.History
import TrackedEntity.Proofs.Entity.Reentrancy
import TrackedEntity.Proofs.Entity.Tracker
import TrackedEntity.Proofs.Entity.Reassignment
import TrackedEntity.Proofs.Entity.Resemblance
import TrackedEntity.Proofs.Channel.Edits
import TrackedEntity.Proofs.Channel.Linearization
import TrackedEntity.Proofs.Lock.Wakeups
import TrackedEntity.Proofs.Cache.SingleCompile
import TrackedEntity.Proofs.Contract.Acceptance
import TrackedEntity.Proofs.Contract.BreadthFirst
import TrackedEntity.Proofs.Contract.Flattening
import TrackedEntity.Proofs.Contract.Overriding
import TrackedEntity.Proofs.Contract.Discovery
import TrackedEntity.Proofs.Contract.EmptyContract
import TrackedEntity.Proofs.Hook.Binding
import TrackedEntity.Proofs.Value.Comparison
import TrackedEntity.Proofs.Value.Reflexivity
import TrackedEntity.Proofs.Value.Renaming
import TrackedEntity.Proofs.Exec.Renaming
import TrackedEntity.Proofs.Exec.RenamedWork
import TrackedEntity.Proofs.Exec.Calls
import TrackedEntity.Proofs.Entity.HookCalls
import TrackedEntity.Proofs.Contract.Extension
import TrackedEntity.Proofs.Contract.Descent
import TrackedEntity.Proofs.Cache.Transparency
import TrackedEntity.Proofs.Compiled.Correspondence
import TrackedEntity.Proofs.Entity.Agreement
import TrackedEntity.Proofs.Entity.Emission
import TrackedEntity.Proofs.Entity.Faults
import TrackedEntity.Proofs.Value.Description
import TrackedEntity.Proofs.Exec.Nesting
import TrackedEntity.Proofs.Entity.Independence
import TrackedEntity.Proofs.Contract.AnnotatedContract
import TrackedEntity.Proofs.Contract.Rejection
import TrackedEntity.Proofs.Session.EntryPoints
import TrackedEntity.Proofs.Contract.Defaults
import TrackedEntity.Proofs.Channel.Attempts
import TrackedEntity.Proofs.Lock.Interruption
import TrackedEntity.Proofs.Lock.Precedence
import TrackedEntity.Proofs.Channel.Subscribers
import TrackedEntity.Proofs.Mask.Sets
import TrackedEntity.Proofs.Mask.Enumeration
import TrackedEntity.Proofs.Number.Rounding
import TrackedEntity.Proofs.Contract.Guard
import TrackedEntity.Proofs.Session.Requests
import TrackedEntity.Proofs.Session.Batches
