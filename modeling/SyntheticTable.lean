import SyntheticTable.Build.Column
import SyntheticTable.Build.Error
import SyntheticTable.Build.Params
import SyntheticTable.Build.Runs
import SyntheticTable.Build.StringColumn
import SyntheticTable.Column
import SyntheticTable.Command.Arguments
import SyntheticTable.Command.Error
import SyntheticTable.Command.Folder
import SyntheticTable.Command.Outcome
import SyntheticTable.Command.Report
import SyntheticTable.Command.Request
import SyntheticTable.Generate
import SyntheticTable.Json
import SyntheticTable.Main
import SyntheticTable.NullBitmap
import SyntheticTable.Number.BinaryFormat
import SyntheticTable.Number.Decimal
import SyntheticTable.Number.Layout
import SyntheticTable.Number.Numeral
import SyntheticTable.Number.Power
import SyntheticTable.Number.Shortest
import SyntheticTable.Number.Single
import SyntheticTable.Proofs.BitmapRows
import SyntheticTable.Proofs.BuiltColumn
import SyntheticTable.Proofs.ChunkTiling
import SyntheticTable.Proofs.Drawing
import SyntheticTable.Proofs.Generators
import SyntheticTable.Proofs.DrawnCells
import SyntheticTable.Proofs.Failure
import SyntheticTable.Proofs.GeneratedTable
import SyntheticTable.Proofs.HandOff
import SyntheticTable.Proofs.HeldRows
import SyntheticTable.Proofs.Outlining
import SyntheticTable.Proofs.Pooling
import SyntheticTable.Proofs.RunDrawing
import SyntheticTable.Proofs.SequentialBuild
import SyntheticTable.Proofs.StringLayout
import SyntheticTable.Proofs.Summaries
import SyntheticTable.Proofs.TaskOrder
import SyntheticTable.Proofs.TextLayout
import SyntheticTable.Proofs.Truncation
import SyntheticTable.Proofs.WorkerIndependence
import SyntheticTable.Random.Distribution
import SyntheticTable.Random.Engine
import SyntheticTable.Random.Gamma
import SyntheticTable.Random.Geometric
import SyntheticTable.Random.Keystream
import SyntheticTable.Random.Normal
import SyntheticTable.Random.NormalLayers
import SyntheticTable.Random.Poisson
import SyntheticTable.Random.Uniform
import SyntheticTable.SemanticType
import SyntheticTable.Store
import SyntheticTable.Summary
import SyntheticTable.TableSpec
import SyntheticTable.TableSpec.Decode
import SyntheticTable.TableSpec.Render
import SyntheticTable.Temporal
import SyntheticTable.Text.Blank
import SyntheticTable.Text.Hidden
import SyntheticTable.Text.Quoted
import SyntheticTable.Value
import SyntheticTable.Value.Draw
import SyntheticTable.Value.Generator
import SyntheticTable.Yaml.Cursor
import SyntheticTable.Yaml.Node
import SyntheticTable.Yaml.Scalar
import SyntheticTable.Yaml.Tag
import SyntheticTable.Yaml.Token
import SyntheticTable.Yaml.Value
import SyntheticTable.Proofs.ColumnIndependence
import SyntheticTable.Proofs.StoreRuns
import SyntheticTable.Proofs.ValidatedColumn
import SyntheticTable.Proofs.NumberRange
import SyntheticTable.Proofs.PlainWords
import SyntheticTable.Proofs.WrittenDecimals
import SyntheticTable.Proofs.WrittenScalars
import SyntheticTable.Proofs.WrittenLines
import SyntheticTable.Proofs.AssembledNodes
import SyntheticTable.Proofs.WrittenSpec
import SyntheticTable.Proofs.SpecRoundTrip
import SyntheticTable.Proofs.MaximalRuns
import SyntheticTable.Proofs.ReportedRuns
import SyntheticTable.Proofs.NullChance
import SyntheticTable.Proofs.WellFormedColumns
import SyntheticTable.Proofs.RowBudget
import SyntheticTable.Proofs.Refusals
import SyntheticTable.Proofs.KeptBudget
import SyntheticTable.Proofs.RunLengths
import SyntheticTable.Proofs.SummaryCounts
import SyntheticTable.Proofs.SuccessiveValues
import SyntheticTable.Proofs.TemporalColumns
import SyntheticTable.Proofs.ClearedRows
import SyntheticTable.Proofs.ChunkCover
import SyntheticTable.Proofs.RefusedTables
import SyntheticTable.Proofs.FlippedValidity
import SyntheticTable.Proofs.ExactSpans
import SyntheticTable.Proofs.BudgetInRounds
import SyntheticTable.Proofs.NullRows
import SyntheticTable.Proofs.TypeNames
import SyntheticTable.Proofs.Reservations
import SyntheticTable.Proofs.SettledRequests
import SyntheticTable.Proofs.FieldValues
import SyntheticTable.Proofs.DecodedFields
import SyntheticTable.Proofs.DecodedDocuments
import SyntheticTable.Proofs.RearrangedFields
import SyntheticTable.Proofs.FractionGaps
import SyntheticTable.Proofs.MidpointGaps
import SyntheticTable.Proofs.RoundedNumbers
import SyntheticTable.Proofs.ShortestDecimals
import SyntheticTable.Proofs.TwiceRounded
import SyntheticTable.Proofs.KeptFrequencies
import SyntheticTable.Proofs.AppendedRecords
import SyntheticTable.Proofs.FillPasses
import SyntheticTable.Proofs.RowFilling
import SyntheticTable.Proofs.FilledValues
import SyntheticTable.Proofs.FilledTexts
import SyntheticTable.Proofs.FillProgress
