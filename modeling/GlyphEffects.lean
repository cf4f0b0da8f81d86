import GlyphEffects.Effect.Recipe
import GlyphEffects.Proofs.Boundaries
import GlyphEffects.Proofs.Coherence
import GlyphEffects.Proofs.Composition
import GlyphEffects.Proofs.Grammar
import GlyphEffects.Proofs.LiteralValues
import GlyphEffects.Proofs.Padding
import GlyphEffects.Proofs.Parts
import GlyphEffects.Proofs.Projection
import GlyphEffects.Proofs.Reference
import GlyphEffects.Proofs.Segments
import GlyphEffects.Proofs.SinkContents
import GlyphEffects.Proofs.Spelling
import GlyphEffects.Proofs.TagReading
import GlyphEffects.Proofs.TokensRead
import GlyphEffects.Session
import GlyphEffects.Snapshot
import GlyphEffects.Proofs.ScopeHistory
import GlyphEffects.Proofs.Registration
import GlyphEffects.Proofs.Agreement
import GlyphEffects.Proofs.Installation
import GlyphEffects.Proofs.Shapes
import GlyphEffects.Proofs.Enclosing
import GlyphEffects.Proofs.ClusterRules
import GlyphEffects.Proofs.Cells
import GlyphEffects.Proofs.UpdateLog
import GlyphEffects.Proofs.Shakes
import GlyphEffects.Proofs.ArgumentHistory
import GlyphEffects.Proofs.LogLines
