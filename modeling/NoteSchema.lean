import NoteSchema.Main
import NoteSchema.Proofs.Json.Members
import NoteSchema.Proofs.Json.Order
import NoteSchema.Proofs.Json.Pointer
import NoteSchema.Proofs.Corpus.Walk
import NoteSchema.Proofs.Corpus.Frame
import NoteSchema.Proofs.Corpus.Termination
import NoteSchema.Proofs.Corpus.Registered
import NoteSchema.Proofs.Corpus.Agreement
import NoteSchema.Proofs.Sample.Dereferenced
import NoteSchema.Proofs.Corpus.Addressed
import NoteSchema.Proofs.Hint.Composed
import NoteSchema.Proofs.Artifact.Gathered
import NoteSchema.Proofs.Hint.Indentation
import NoteSchema.Proofs.Sample.Sound
import NoteSchema.Proofs.Schema.Requested
import NoteSchema.Proofs.Schema.Metadata
import NoteSchema.Proofs.Schema.Independent
import NoteSchema.Proofs.Command.Once
import NoteSchema.Proofs.Command.Within
import NoteSchema.Proofs.Command.Isolated
import NoteSchema.Proofs.Reference.Identity
import NoteSchema.Proofs.Artifact.Storage
import NoteSchema.Proofs.File.Journal
import NoteSchema.Proofs.Corpus.Loading
import NoteSchema.Proofs.Corpus.Stored
import NoteSchema.Proofs.Hint.Keyed
import NoteSchema.Proofs.Hint.Listed
import NoteSchema.Proofs.Schema.Distinct
import NoteSchema.Proofs.Schema.Shown
import NoteSchema.Proofs.Schema.Missing
import NoteSchema.Proofs.Schema.Origins
import NoteSchema.Proofs.Schema.Formed
import NoteSchema.Proofs.Schema.Sifted
import NoteSchema.Proofs.Artifact.Flushed
import NoteSchema.Proofs.Corpus.Loaded
import NoteSchema.Proofs.Command.Idempotent
import NoteSchema.Proofs.Corpus.Spelling
import NoteSchema.Proofs.Corpus.Unordered
import NoteSchema.Proofs.Command.Reloaded
import NoteSchema.Proofs.Sample.Deeper
import NoteSchema.Proofs.Hint.Remarks
import NoteSchema.Proofs.Hint.Spelled
import NoteSchema.Proofs.Hint.ListDirective
import NoteSchema.Proofs.Hint.Bulleted
import NoteSchema.Proofs.Hint.Returned
import NoteSchema.Proofs.Schema.Referable
import NoteSchema.Proofs.Json.Addressing
import NoteSchema.Proofs.Reference.Navigation
import NoteSchema.Proofs.Corpus.Unreferring
import NoteSchema.Proofs.Corpus.Outcome
import NoteSchema.Proofs.Reference.Normalized
import NoteSchema.Proofs.Hint.Cursor
import NoteSchema.Proofs.Schema.Literal
