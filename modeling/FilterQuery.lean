import FilterQuery.Main
import FilterQuery.Proofs.Meaning
import FilterQuery.Proofs.History
import FilterQuery.Request.Encoder
import FilterQuery.Proofs.Entries
import FilterQuery.Proofs.Composition
import FilterQuery.Proofs.PatternReports
import FilterQuery.Proofs.Grammar
import FilterQuery.Proofs.OutputLanguage
import FilterQuery.Proofs.Records
import FilterQuery.Proofs.VersionAgreement
import FilterQuery.Proofs.Origins
import FilterQuery.Proofs.Elements
import FilterQuery.Proofs.RecordOrder
import FilterQuery.Proofs.Presentation
import FilterQuery.Proofs.WholeFloats
import FilterQuery.Proofs.CanonicalValues
import FilterQuery.Proofs.CanonicalRequests
import FilterQuery.Proofs.Reencoding
import FilterQuery.Proofs.Accounting
import FilterQuery.Proofs.Skipping
import FilterQuery.Proofs.Losses
import FilterQuery.Proofs.Reordering
import FilterQuery.Proofs.Completeness
import FilterQuery.Proofs.Legibility
import FilterQuery.Proofs.Rendering
import FilterQuery.Proofs.Attribution
import FilterQuery.Proofs.RecordFields
import FilterQuery.Proofs.LegacyOutput
import FilterQuery.Proofs.Isolation
import FilterQuery.Proofs.Merging
import FilterQuery.Proofs.CleanCoercion
import FilterQuery.Proofs.Commands
import FilterQuery.Proofs.OperandLists
import FilterQuery.Proofs.Relocation
import FilterQuery.Proofs.DistinctNames
import FilterQuery.Proofs.PassThrough
import FilterQuery.Proofs.ListedValues
import FilterQuery.Proofs.SortFields
import FilterQuery.Proofs.ByteOrder
import FilterQuery.Proofs.CanonicalRendering
import FilterQuery.Proofs.Search
import FilterQuery.Proofs.Pieces
import FilterQuery.Proofs.EngineLaws
import FilterQuery.Proofs.PlainPatterns
