import CloudBilling.Client.Session
import CloudBilling.Files.Tree
import CloudBilling.Json.Typed
import CloudBilling.Main
import CloudBilling.Proofs.Aws.Cleanness
import CloudBilling.Proofs.Aws.Nesting
import CloudBilling.Proofs.ByteOrder
import CloudBilling.Proofs.Document
import CloudBilling.Proofs.Merging
import CloudBilling.Proofs.MergeOrder
import CloudBilling.Proofs.MergeEvents
import CloudBilling.Proofs.Aws.Redacted
import CloudBilling.Proofs.Aws.Opening
import CloudBilling.Proofs.Aws.Replacing
import CloudBilling.Proofs.Aws.Levels
import CloudBilling.Proofs.Idempotence
import CloudBilling.Proofs.Output
import CloudBilling.Proofs.Transit
import CloudBilling.Proofs.Printed
import CloudBilling.Proofs.Resources
import CloudBilling.Proofs.Aws.Enveloped
import CloudBilling.Proofs.Record
import CloudBilling.Proofs.Acceptance
import CloudBilling.Proofs.Validation
import CloudBilling.Proofs.Equality
import CloudBilling.Proofs.Routes
import CloudBilling.Proofs.Aws.Degrading
import CloudBilling.Proofs.Degrading
import CloudBilling.Proofs.Veil
import CloudBilling.Proofs.VeiledCredentials
import CloudBilling.Proofs.VeiledRecords
import CloudBilling.Proofs.VeiledDocuments
import CloudBilling.Proofs.Client.Lookups
import CloudBilling.Proofs.Client.Aws
import CloudBilling.Proofs.Client.Families
import CloudBilling.Proofs.Run
import CloudBilling.Proofs.Aws.Mending
import CloudBilling.Proofs.ForeignTags
import CloudBilling.Proofs.LegacyRecords
import CloudBilling.Proofs.Base64
import CloudBilling.Proofs.Client.Azure
import CloudBilling.Proofs.Client.Gcp
import CloudBilling.Proofs.Inspection
import CloudBilling.Proofs.RedactionEffect
import CloudBilling.Proofs.JsonReading
import CloudBilling.Proofs.Inspect
import CloudBilling.Proofs.Placeholders
import CloudBilling.Proofs.Resolution
import CloudBilling.Proofs.KeyFile
import CloudBilling.Proofs.Contexts
