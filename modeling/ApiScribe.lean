import ApiScribe.Artifact
import ApiScribe.CommandLine.Session
import ApiScribe.Document.Scrape
import ApiScribe.FileTree.Change
import ApiScribe.FileTree.Operation
import ApiScribe.Generation.Output
import ApiScribe.Generation.Resolve
import ApiScribe.Generation.TemplateSet
import ApiScribe.Loading
import ApiScribe.Main
import ApiScribe.Model.Consistency
import ApiScribe.Outcome
import ApiScribe.Proofs.CommandLine.Ending
import ApiScribe.Proofs.Document.Written
import ApiScribe.Proofs.Optionality
import ApiScribe.Proofs.Output.Failure
import ApiScribe.Proofs.Registration
import ApiScribe.Proofs.Renaming
import ApiScribe.Proofs.Resolution.Result
import ApiScribe.Proofs.StoredModel
import ApiScribe.Text.Base64
import ApiScribe.Proofs.FileTree.Aside
import ApiScribe.Proofs.Json.Characters
import ApiScribe.Proofs.Utf8
import ApiScribe.Proofs.Output.Aside
import ApiScribe.Proofs.CommandLine.Reading
import ApiScribe.Proofs.CommandLine.StoredModel
import ApiScribe.Proofs.Closed.Basic
import ApiScribe.Proofs.Closed.Values
import ApiScribe.Proofs.Closed.Operators
import ApiScribe.Proofs.Closed.Methods
import ApiScribe.Proofs.Closed.Filters
import ApiScribe.Proofs.Closed.Execution
import ApiScribe.Proofs.Closed.Rendering
import ApiScribe.Proofs.WithoutRegistry
import ApiScribe.Proofs.CommandLine.Generation
import ApiScribe.Proofs.CommandLine.Verdict
import ApiScribe.Proofs.Resolution.References
import ApiScribe.Proofs.ConfigurationText
import ApiScribe.Proofs.TypeGrammar
import ApiScribe.Proofs.TargetFiles.InPlace
import ApiScribe.Proofs.Resolution.Collisions
import ApiScribe.Proofs.Resolution.Calls
import ApiScribe.Proofs.Resolution.Merging
import ApiScribe.Proofs.Document.Presentation
import ApiScribe.Proofs.StoredTexts
import ApiScribe.Proofs.Resolution.UsedNames
import ApiScribe.Proofs.Resolution.UsedReferences
import ApiScribe.Proofs.Output.Filenames
import ApiScribe.Proofs.TypeText
import ApiScribe.Proofs.Lookups.Settled
import ApiScribe.Proofs.Lookups.Checked
import ApiScribe.Proofs.Lookups.Alike
import ApiScribe.Proofs.WrapperNames
import ApiScribe.Proofs.Findings
import ApiScribe.Proofs.Document.Tables
import ApiScribe.Proofs.CaseVariants
import ApiScribe.Proofs.Resolution.SpelledFilenames
