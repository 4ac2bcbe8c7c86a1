import Diorama.Main
import Diorama.Command.Execution
import Diorama.Proofs.Registry.Consistency
import Diorama.Proofs.Session.Patch
import Diorama.Proofs.Stage.Sending
import Diorama.Proofs.Registry.Commit
import Diorama.Proofs.Session.Frame
import Diorama.Proofs.Stage.Front
import Diorama.Proofs.Registry.Building
import Diorama.Proofs.Session.Loading
import Diorama.Proofs.Session.Agreement
import Diorama.Proofs.Stage.Updates
import Diorama.Proofs.Session.Recovery
import Diorama.Proofs.Registry.Casting
import Diorama.Proofs.Session.Calls
import Diorama.Proofs.Playback.Progress
import Diorama.Proofs.Terminal.Difference
import Diorama.Proofs.Number.Comparison
import Diorama.Proofs.Stage.Watching
import Diorama.Proofs.Stage.Record
import Diorama.Proofs.Registry.Release
import Diorama.Proofs.Session.Cleanup
import Diorama.Proofs.Playback.Timekeeping
import Diorama.Proofs.Playback.Redraw
import Diorama.Proofs.Number.Likeness
import Diorama.Proofs.Session.Likeness
import Diorama.Proofs.Session.Course
import Diorama.Proofs.Session.Repetition
import Diorama.Proofs.Session.Selection
import Diorama.Proofs.Session.Isolation
import Diorama.Proofs.Session.Pruning
import Diorama.Proofs.Playback.Periodicity
import Diorama.Proofs.Json.Bare
import Diorama.Proofs.Json.Parts
import Diorama.Proofs.Document.Places
import Diorama.Proofs.Document.Envelope
import Diorama.Proofs.Document.Success
import Diorama.Proofs.Document.Acceptance
import Diorama.Proofs.Session.Opening
import Diorama.Proofs.Terminal.Mirroring
import Diorama.Proofs.Document.Source
import Diorama.Proofs.Document.Revision
import Diorama.Proofs.Document.Absence
import Diorama.Proofs.Document.Components
import Diorama.Proofs.Document.Rules
import Diorama.Proofs.Document.Finiteness
import Diorama.Proofs.Session.Permanence
import Diorama.Proofs.Playback.Rest
import Diorama.Proofs.Terminal.Lettering
import Diorama.Proofs.Stage.Keeping
import Diorama.Proofs.Text.Printable
import Diorama.Proofs.Canvas.Strokes
import Diorama.Proofs.Terminal.Glyphs
import Diorama.Proofs.Playback.Writing
import Diorama.Proofs.Playback.Bars
import Diorama.Proofs.Number.Rounding
import Diorama.Proofs.Number.Addition
import Diorama.Proofs.Session.LastWriter
import Diorama.Proofs.Document.Spelling
import Diorama.Proofs.Terminal.Surface
import Diorama.Proofs.Playback.Freshness
import Diorama.Proofs.Playback.Sampling
import Diorama.Proofs.Session.Changes
import Diorama.Proofs.Playback.Tracing
import Diorama.Proofs.Number.Ceiling
import Diorama.Proofs.Playback.Counting
import Diorama.Proofs.Playback.Layout
import Diorama.Proofs.Canvas.Clipping
import Diorama.Proofs.Number.Rational
import Diorama.Proofs.Canvas.Lines
import Diorama.Proofs.Number.TotalOrder
import Diorama.Proofs.Terminal.Layers
import Diorama.Proofs.Playback.Splitting
import Diorama.Proofs.Text.Offsets
import Diorama.Proofs.Terminal.Brackets
import Diorama.Proofs.Color.Spelling
import Diorama.Proofs.Document.Vectors
import Diorama.Proofs.Easing.Curves
