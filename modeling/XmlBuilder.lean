import XmlBuilder.Main
import XmlBuilder.Proofs.Table
import XmlBuilder.Proofs.Builder.Namespaces
import XmlBuilder.Proofs.Builder.Recomposition
import XmlBuilder.Proofs.Bindings
import XmlBuilder.Proofs.Builder.Layout
import XmlBuilder.Proofs.Builder.Decoding
import XmlBuilder.Proofs.Generation
import XmlBuilder.Proofs.CommandLine
import XmlBuilder.Proofs.Entity.Expansion
import XmlBuilder.Proofs.Entity.Numerals
import XmlBuilder.Proofs.Entity.Nesting
import XmlBuilder.Proofs.Entity.Origins
import XmlBuilder.Proofs.Measures
import XmlBuilder.Proofs.Text.LineFeeds
import XmlBuilder.Proofs.Text.Boundaries
import XmlBuilder.Proofs.LineEnds
import XmlBuilder.Proofs.Markup.Grammar
import XmlBuilder.Proofs.Markup.Scanning
import XmlBuilder.Proofs.Markup.Tags
import XmlBuilder.Proofs.Markup.Content
import XmlBuilder.Proofs.Markup.Subset
import XmlBuilder.Proofs.Markup.Document
import XmlBuilder.Proofs.Markup.Values
import XmlBuilder.Proofs.Markup.Refusal
import XmlBuilder.Proofs.Markup.Depth
import XmlBuilder.Proofs.Markup.Stops
import XmlBuilder.Proofs.Markup.Declarations
import XmlBuilder.Proofs.Markup.Entities
import XmlBuilder.Proofs.Reading
import XmlBuilder.Proofs.Places
import XmlBuilder.Proofs.Cursor
import XmlBuilder.Proofs.Escaping
import XmlBuilder.Proofs.Serialisation
import XmlBuilder.Proofs.Limits
import XmlBuilder.Proofs.WellFormed
import XmlBuilder.Proofs.Census
import XmlBuilder.Proofs.Continuation
import XmlBuilder.Proofs.Layout
import XmlBuilder.Proofs.Markup.Gaps
import XmlBuilder.Proofs.Calls
import XmlBuilder.Proofs.Unread
import XmlBuilder.Proofs.AttributeSpaces
import XmlBuilder.Proofs.Diagnostics
