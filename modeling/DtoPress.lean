import DtoPress.CommandLine.Command
import DtoPress.Generation.Run
import DtoPress.Main
import DtoPress.Proofs.Bindings
import DtoPress.Proofs.Confinement
import DtoPress.Proofs.DryRun
import DtoPress.Proofs.ExitCodes
import DtoPress.Proofs.Failures
import DtoPress.Proofs.Independence
import DtoPress.Proofs.Layers
import DtoPress.Proofs.Linking
import DtoPress.Proofs.Ownership
import DtoPress.Proofs.Registrations
import DtoPress.Proofs.Reloading
import DtoPress.Proofs.Shadowing
import DtoPress.Proofs.Uncommented
import DtoPress.Proofs.Untouched
import DtoPress.Template.Given
import DtoPress.Proofs.Descriptions
import DtoPress.Proofs.Coherence
import DtoPress.Proofs.InPlace
import DtoPress.Proofs.Precedence
import DtoPress.Proofs.Legibility
import DtoPress.Proofs.Identifiers
import DtoPress.Proofs.Places
import DtoPress.Proofs.Warnings
import DtoPress.Proofs.Refusals
import DtoPress.Proofs.Barrels
import DtoPress.Proofs.Merging
import DtoPress.Proofs.EnumFiles
import DtoPress.Proofs.Repetition
import DtoPress.Proofs.Indentation
import DtoPress.Proofs.Enclosure
import DtoPress.Proofs.Quotation
import DtoPress.Proofs.Wording
