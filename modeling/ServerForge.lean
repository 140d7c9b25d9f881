import ServerForge.Command.Recording
import ServerForge.Main
import ServerForge.SharedRegistry
import ServerForge.Proofs.Framing
import ServerForge.Proofs.IdentifierRanges
import ServerForge.Proofs.OfflineAgreement
import ServerForge.Proofs.RegistryHistory
import ServerForge.Proofs.RegistryClients
import ServerForge.Proofs.SourceReadback
import ServerForge.Proofs.ScriptIdentifiers
import ServerForge.Proofs.ScriptStrings
import ServerForge.Proofs.ConstructorLine
import ServerForge.Proofs.ManifestReading
import ServerForge.Proofs.DeclaredNames
import ServerForge.Proofs.Packages
import ServerForge.Proofs.PathPieces
import ServerForge.Proofs.TreeChanges
import ServerForge.Proofs.Confinement
import ServerForge.Proofs.SaveRoundTrip
import ServerForge.Proofs.ToolAnswers
import ServerForge.Proofs.RecordValues
import ServerForge.Proofs.SchemaReading
import ServerForge.Proofs.HandlerCollisions
import ServerForge.Proofs.SynthesisFailures
import ServerForge.Proofs.CategoryKeys
import ServerForge.Proofs.ServingStreams
import ServerForge.Proofs.Separators
import ServerForge.Proofs.CapitalizedNames
import ServerForge.Proofs.Indentation
import ServerForge.Proofs.SplicedLiterals
import ServerForge.Proofs.ManifestEntries
import ServerForge.Proofs.Directories
import ServerForge.Proofs.ProjectFiles
import ServerForge.Proofs.WriteOrder
import ServerForge.Proofs.Regeneration
import ServerForge.Proofs.KeptDefaults
import ServerForge.Proofs.Previews
import ServerForge.Proofs.ReadmeSections
import ServerForge.Proofs.ListedTexts
import ServerForge.Proofs.SettingsDocuments
import ServerForge.Proofs.SavedMessages
import ServerForge.Proofs.RequirementsRoundTrip
