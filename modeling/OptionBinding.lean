import OptionBinding.Main
import OptionBinding.Binding.DebugForm
import OptionBinding.Derivation.Expansion
import OptionBinding.Log.FilterHandle
import OptionBinding.Proofs.Locality
import OptionBinding.Proofs.Completeness
import OptionBinding.Proofs.WholeCollections
import OptionBinding.Proofs.RoundTrip
import OptionBinding.Proofs.Precedence
import OptionBinding.Proofs.FailedScans
import OptionBinding.Proofs.DefaultChains
import OptionBinding.Proofs.ErrorCauses
import OptionBinding.Proofs.GivenDefaults
import OptionBinding.Proofs.Termination
import OptionBinding.Proofs.Comparison
import OptionBinding.Proofs.Offers
import OptionBinding.Proofs.PriorContents
import OptionBinding.Proofs.HostAccounts
import OptionBinding.Proofs.ComposedLines
import OptionBinding.Proofs.RememberedChecks
import OptionBinding.Proofs.TokenForms
import OptionBinding.Proofs.RepeatedComposites
import OptionBinding.Proofs.BareComposites
import OptionBinding.Proofs.DefaultsPass
import OptionBinding.Proofs.GivenValues
import OptionBinding.Proofs.ScalarRuns
import OptionBinding.Proofs.SchemaChecks
import OptionBinding.Proofs.DelimiterPattern
import OptionBinding.Proofs.Registrations
import OptionBinding.Proofs.UsageText
import OptionBinding.Proofs.AnnotationLiterals
import OptionBinding.Proofs.AnchoredPatterns
import OptionBinding.Proofs.Integers
import OptionBinding.Proofs.PatternMeaning
import OptionBinding.Proofs.PatternSearch
import OptionBinding.Proofs.WholeNames
import OptionBinding.Proofs.NamespaceRules
import OptionBinding.Proofs.OptionNames
import OptionBinding.Proofs.DerivedOptions
