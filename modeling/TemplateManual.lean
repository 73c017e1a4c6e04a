import TemplateManual.Main
import TemplateManual.Sample
import TemplateManual.Proofs.Extraction
import TemplateManual.Proofs.Secrecy
import TemplateManual.Proofs.TableRows
import TemplateManual.Proofs.TableReading
import TemplateManual.Proofs.LineEndings
import TemplateManual.Proofs.CodeDelimiters
import TemplateManual.Proofs.Json.Reading
import TemplateManual.Proofs.Json.Faithful
import TemplateManual.Proofs.Json.Record
import TemplateManual.Proofs.Json.Tagged
import TemplateManual.Proofs.Snapshot
import TemplateManual.Proofs.ImportNames
import TemplateManual.Proofs.Consistency
import TemplateManual.Proofs.Accounting
import TemplateManual.Proofs.Reordering
import TemplateManual.Proofs.Insertion
import TemplateManual.Proofs.UsageValues
import TemplateManual.Proofs.ManualText
import TemplateManual.Proofs.DocsRun
import TemplateManual.Proofs.EffectiveBounds
import TemplateManual.Proofs.TypeShape
import TemplateManual.Proofs.SpelledTypes
import TemplateManual.Proofs.TypeText
import TemplateManual.Proofs.Json.Acceptance
import TemplateManual.Proofs.Json.Room
import TemplateManual.Proofs.Json.Respelling
import TemplateManual.Proofs.SnapshotSpelling
import TemplateManual.Proofs.DecoratorWords
import TemplateManual.Proofs.Nullability
import TemplateManual.Proofs.Uniformity
import TemplateManual.Proofs.Outline
import TemplateManual.Proofs.ArgumentGrammar
import TemplateManual.Proofs.LongDefaults
import TemplateManual.Proofs.BlockSeparation
import TemplateManual.Proofs.ConstraintText
import TemplateManual.Proofs.Nesting
