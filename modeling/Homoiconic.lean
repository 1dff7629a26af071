import Homoiconic.Arity
import Homoiconic.Catalogue.Native
import Homoiconic.Catalogue.Primitive
import Homoiconic.Catalogue.Word
import Homoiconic.Environment
import Homoiconic.Error
import Homoiconic.Evaluation.Apply
import Homoiconic.Evaluation.Engine
import Homoiconic.Evaluation.Eval
import Homoiconic.Evaluation.Forms
import Homoiconic.Evaluation.Natives
import Homoiconic.Evaluation.Params
import Homoiconic.Evaluation.Primitives
import Homoiconic.Folding.Fold
import Homoiconic.Folding.Library
import Homoiconic.Folding.Trace
import Homoiconic.Folding.Words
import Homoiconic.Heap
import Homoiconic.Interpreter
import Homoiconic.Json.Basic
import Homoiconic.Json.Conversion
import Homoiconic.Json.Reader
import Homoiconic.Json.Writer
import Homoiconic.Keywords
import Homoiconic.Native
import Homoiconic.Number.Shortest
import Homoiconic.Registry
import Homoiconic.Signature
import Homoiconic.SortedEntries
import Homoiconic.Stack.Basic
import Homoiconic.Stack.Cursor
import Homoiconic.Stack.Lemmas
import Homoiconic.State
import Homoiconic.Text.Case
import Homoiconic.Text.CaseTables
import Homoiconic.Text.Quoted
import Homoiconic.Text.Ranges
import Homoiconic.Text.Visibility
import Homoiconic.Value.Basic
import Homoiconic.Value.Equality
import Homoiconic.Value.Extract
import Homoiconic.Value.Inspect
import Homoiconic.Value.Kind
import Homoiconic.Value.Render
import Homoiconic.Value.Sharing
import Homoiconic.Value.Slice
import Homoiconic.Proofs.Coupling.Basic
import Homoiconic.Proofs.Coupling.Natives
import Homoiconic.Proofs.Bindings
import Homoiconic.Proofs.Coupling.Application
import Homoiconic.Proofs.Coupling.Expansion
import Homoiconic.Proofs.Coupling.Evaluation
import Homoiconic.Proofs.Coupling.Stacks
import Homoiconic.Proofs.Coupling.Folding
import Homoiconic.Proofs.Coupling.Interpreter
import Homoiconic.Proofs.Scopes
import Homoiconic.Proofs.ScopeNames
import Homoiconic.Proofs.DepthLimits
import Homoiconic.Proofs.Reachability
import Homoiconic.Proofs.StackLocality
import Homoiconic.Proofs.Termination
import Homoiconic.Proofs.Coupling.Depths
import Homoiconic.Proofs.Listings
import Homoiconic.Proofs.Stores
import Homoiconic.Proofs.Requests
import Homoiconic.Proofs.NameResolution
import Homoiconic.Proofs.Separation
import Homoiconic.Proofs.Folds
import Homoiconic.Proofs.Tracing
import Homoiconic.Proofs.Splicing
import Homoiconic.Proofs.Equality
import Homoiconic.Proofs.JsonData
import Homoiconic.Proofs.Calls
import Homoiconic.Proofs.Sessions
import Homoiconic.Proofs.CallTargets
import Homoiconic.Proofs.FormMeanings
import Homoiconic.Proofs.ParameterLists
import Homoiconic.Proofs.ArgumentBinding
import Homoiconic.Proofs.ArgumentCounts
import Homoiconic.Proofs.ImmediateActions
import Homoiconic.Proofs.DepthBoundary
import Homoiconic.Proofs.Composition
import Homoiconic.Proofs.WordEffects
import Homoiconic.Proofs.WordIdentities
import Homoiconic.Proofs.Loops
import Homoiconic.Proofs.InnerStacks
import Homoiconic.Proofs.Conversions
import Homoiconic.Proofs.Reification
import Homoiconic.Proofs.Threading
import Homoiconic.Proofs.Assignments
import Homoiconic.Proofs.DefiningForms
import Homoiconic.Proofs.TypedFunctions
import Homoiconic.Proofs.Numbers
import Homoiconic.Proofs.DeclaredArities
import Homoiconic.Proofs.EqualArguments
import Homoiconic.Proofs.LinkedStacks
import Homoiconic.Proofs.KeywordHistories
import Homoiconic.Proofs.StepwiseActions
import Homoiconic.Proofs.GeneratedSymbols
import Homoiconic.Proofs.JsonBindings
