import CallEffects.Activation
import CallEffects.Emulation.Library
import CallEffects.Summary
import CallEffects.Value.Text
import CallEffects.Proofs.Accounting
import CallEffects.Proofs.Caution
import CallEffects.Proofs.Classification
import CallEffects.Proofs.Commutation
import CallEffects.Proofs.Construction
import CallEffects.Proofs.Deferral
import CallEffects.Proofs.Encodings
import CallEffects.Proofs.HandlerHistory
import CallEffects.Proofs.LastWrites
import CallEffects.Proofs.Nesting
import CallEffects.Proofs.Numerals
import CallEffects.Proofs.Refusals
import CallEffects.Proofs.Repetition
import CallEffects.Proofs.RoundTrip
import CallEffects.Proofs.Sessions
import CallEffects.Proofs.Splitting
