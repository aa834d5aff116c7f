import StyleDoc.Main
import StyleDoc.Proofs.Bodies
import StyleDoc.Proofs.Extent
import StyleDoc.Proofs.LineEndings.Comment
import StyleDoc.Proofs.LineRanges
import StyleDoc.Proofs.OutputFiles
import StyleDoc.Proofs.Prepended
import StyleDoc.Proofs.Schemas
import StyleDoc.Proofs.Serialization
import StyleDoc.Proofs.Written
import StyleDoc.Proofs.Strings
import StyleDoc.Proofs.Spans
import StyleDoc.Proofs.Headers
import StyleDoc.Proofs.Variables
import StyleDoc.Proofs.Sections
import StyleDoc.Proofs.Terminators
import StyleDoc.Proofs.Wording
import StyleDoc.Proofs.Accounts
import StyleDoc.Proofs.FieldTexts
import StyleDoc.Proofs.Samples
import StyleDoc.Proofs.Aliases
import StyleDoc.Proofs.History
import StyleDoc.Proofs.Indentation
import StyleDoc.Proofs.LineTable
import StyleDoc.Proofs.InputFiles
