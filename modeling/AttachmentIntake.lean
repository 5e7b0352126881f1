import AttachmentIntake.CommandLine.Network
import AttachmentIntake.CommandLine.Run
import AttachmentIntake.Main
import AttachmentIntake.Pipeline
import AttachmentIntake.Scan.Service
import AttachmentIntake.Proofs.Acceptance
import AttachmentIntake.Proofs.Arguments
import AttachmentIntake.Proofs.Declarations
import AttachmentIntake.Proofs.FinalName
import AttachmentIntake.Proofs.ManifestText
import AttachmentIntake.Proofs.NamePolicy
import AttachmentIntake.Proofs.Preparation
import AttachmentIntake.Proofs.Schedule
import AttachmentIntake.Proofs.Report
import AttachmentIntake.Proofs.UploadOrder
import AttachmentIntake.Proofs.ScanCalls
import AttachmentIntake.Proofs.ScanService
import AttachmentIntake.Proofs.ErrorPriority
import AttachmentIntake.Proofs.IdentifierClash
import AttachmentIntake.Proofs.Signature
import AttachmentIntake.Proofs.Protection
import AttachmentIntake.Proofs.BaseName
import AttachmentIntake.Proofs.Command
import AttachmentIntake.Proofs.Diagnostics
import AttachmentIntake.Proofs.TextProbe
import AttachmentIntake.Proofs.Directory
import AttachmentIntake.Proofs.OneName
import AttachmentIntake.Proofs.PartName
import AttachmentIntake.Proofs.ScanBody
import AttachmentIntake.Proofs.ScheduledBatch
