import ViewGlue.Code.Fragment
import ViewGlue.Code.Imports
import ViewGlue.Code.Reserved
import ViewGlue.Datum
import ViewGlue.Declaration
import ViewGlue.Diagnostic
import ViewGlue.Discovery
import ViewGlue.Foreign.Artifacts
import ViewGlue.Foreign.BridgedView
import ViewGlue.Foreign.File
import ViewGlue.Foreign.Sources
import ViewGlue.Foreign.Statement
import ViewGlue.Foreign.Syntax
import ViewGlue.Foreign.TypeMap
import ViewGlue.Host.CallSite
import ViewGlue.Host.Compositions
import ViewGlue.Host.Delegate
import ViewGlue.Host.Draft
import ViewGlue.Host.Factory
import ViewGlue.Host.File
import ViewGlue.Host.Scope
import ViewGlue.Host.Sources
import ViewGlue.Host.Statement
import ViewGlue.Host.Symbols
import ViewGlue.Host.Syntax
import ViewGlue.Lint
import ViewGlue.Main
import ViewGlue.Manifest.Basic
import ViewGlue.Manifest.Document
import ViewGlue.Manifest.Error
import ViewGlue.Manifest.Lowering
import ViewGlue.Manifest.Moment
import ViewGlue.Manifest.Number
import ViewGlue.Manifest.Schema
import ViewGlue.Manifest.Token
import ViewGlue.Naming
import ViewGlue.Options
import ViewGlue.Output.FileTree
import ViewGlue.Output.Path
import ViewGlue.Output.Registry
import ViewGlue.Output.Written
import ViewGlue.Platform
import ViewGlue.Project
import ViewGlue.Proofs.AnnotationTexts
import ViewGlue.Proofs.ArtifactAgreement
import ViewGlue.Proofs.BareTargets
import ViewGlue.Proofs.BindingCapture
import ViewGlue.Proofs.BlamedParameters
import ViewGlue.Proofs.BridgeableTypes
import ViewGlue.Proofs.Bridging
import ViewGlue.Proofs.CallSiteCapture
import ViewGlue.Proofs.CheckedRuns
import ViewGlue.Proofs.ContainedPaths
import ViewGlue.Proofs.Contributions
import ViewGlue.Proofs.Coverage
import ViewGlue.Proofs.CursorMoves
import ViewGlue.Proofs.DerivedNames
import ViewGlue.Proofs.DocumentTexts
import ViewGlue.Proofs.DottedNames
import ViewGlue.Proofs.FactoryTypes
import ViewGlue.Proofs.FileTrees
import ViewGlue.Proofs.GeneratedFiles
import ViewGlue.Proofs.Grouping
import ViewGlue.Proofs.Homonyms
import ViewGlue.Proofs.ImportAgreement
import ViewGlue.Proofs.ImportOrder
import ViewGlue.Proofs.ImportSets
import ViewGlue.Proofs.KeptFiles
import ViewGlue.Proofs.ManifestNames
import ViewGlue.Proofs.MethodClashes
import ViewGlue.Proofs.NameDots
import ViewGlue.Proofs.OutputPlaces
import ViewGlue.Proofs.PathCollisions
import ViewGlue.Proofs.QuotedTexts
import ViewGlue.Proofs.Referents
import ViewGlue.Proofs.Regeneration
import ViewGlue.Proofs.Registration
import ViewGlue.Proofs.RepeatedNames
import ViewGlue.Proofs.ReservedNames
import ViewGlue.Proofs.RoundOrder
import ViewGlue.Proofs.Slots
import ViewGlue.Proofs.SourcePaths
import ViewGlue.Proofs.SurfaceAgreement
import ViewGlue.Proofs.TargetAgreement
import ViewGlue.Proofs.TypeBytes
import ViewGlue.Proofs.TypeGrammar
import ViewGlue.Proofs.TypeParsing
import ViewGlue.Proofs.TypePlaces
import ViewGlue.Proofs.TypePrinting
import ViewGlue.Proofs.TypeReaders
import ViewGlue.Proofs.TypeSpans
import ViewGlue.Proofs.TypeSpelling
import ViewGlue.Proofs.TypeTexts
import ViewGlue.Proofs.UpdateMethods
import ViewGlue.Proofs.Verdicts
import ViewGlue.Proofs.ViewRemoval
import ViewGlue.Proofs.WrittenLines
import ViewGlue.QualifiedName
import ViewGlue.Reading
import ViewGlue.Record
import ViewGlue.Run.Arguments
import ViewGlue.Run.Check
import ViewGlue.Run.Console
import ViewGlue.Run.Execution
import ViewGlue.Run.Generate
import ViewGlue.Text.Blank
import ViewGlue.Text.Identifier
import ViewGlue.Text.LetterCase
import ViewGlue.Text.Order
import ViewGlue.Text.Rest
import ViewGlue.Text.Split
import ViewGlue.TypeExpr.Basic
import ViewGlue.TypeExpr.Cursor
import ViewGlue.TypeExpr.Parser
import ViewGlue.TypeExpr.Token
import ViewGlue.View
import ViewGlue.View.Sketch
