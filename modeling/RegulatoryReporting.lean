import RegulatoryReporting.Main
import RegulatoryReporting.Files.Tree
import RegulatoryReporting.Pattern.Compilation
import RegulatoryReporting.Proofs.LookupsAhead
import RegulatoryReporting.Proofs.BatchHistory
import RegulatoryReporting.Proofs.BatchIndependence
import RegulatoryReporting.Proofs.UniquenessKeys
import RegulatoryReporting.Proofs.ReadValues
import RegulatoryReporting.Proofs.Evaluation
import RegulatoryReporting.Proofs.ReadPaths
import RegulatoryReporting.Proofs.ScopedReading
import RegulatoryReporting.Proofs.VerifiedPackage
import RegulatoryReporting.Proofs.FieldFindings
import RegulatoryReporting.Proofs.FieldReports
import RegulatoryReporting.Proofs.Verdict
import RegulatoryReporting.Proofs.BooleanReading
import RegulatoryReporting.Proofs.FailedConditions
import RegulatoryReporting.Proofs.ConditionDrafts
import RegulatoryReporting.Proofs.ConditionWire
import RegulatoryReporting.Proofs.CodeCase
import RegulatoryReporting.Proofs.DeclaredTypes
import RegulatoryReporting.Proofs.RequiredValues
import RegulatoryReporting.Proofs.PackageWire
import RegulatoryReporting.Proofs.LoadedConditions
import RegulatoryReporting.Proofs.DuplicateCounts
import RegulatoryReporting.Proofs.KnownCodes
import RegulatoryReporting.Proofs.FirstViolation
import RegulatoryReporting.Proofs.ExecutedRules
import RegulatoryReporting.Proofs.IntegerOrder
import RegulatoryReporting.Proofs.OperatorLaws
import RegulatoryReporting.Proofs.WrittenPaths
import RegulatoryReporting.Proofs.ListedValues
import RegulatoryReporting.Proofs.OffendingValues
import RegulatoryReporting.Proofs.RecordOutcomes
import RegulatoryReporting.Proofs.StampOrder
import RegulatoryReporting.Proofs.JoinedPaths
import RegulatoryReporting.Proofs.EntityIdentifiers
import RegulatoryReporting.Proofs.SecuritiesNumbers
import RegulatoryReporting.Proofs.SharedPatterns
import RegulatoryReporting.Proofs.CapitalForms
import RegulatoryReporting.Proofs.ReadBack
import RegulatoryReporting.Proofs.GivenCodes
import RegulatoryReporting.Proofs.Keywords
