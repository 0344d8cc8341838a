import TemporalTagger.Main
import TemporalTagger.Repository
import TemporalTagger.Proofs.Alignment
import TemporalTagger.Proofs.Calendar.Succession
import TemporalTagger.Proofs.Context.Chains
import TemporalTagger.Proofs.Context.Dates
import TemporalTagger.Proofs.Context.Current
import TemporalTagger.Proofs.Context.BareMonths
import TemporalTagger.Proofs.Context.Plans
import TemporalTagger.Proofs.Gluing
import TemporalTagger.Proofs.Increments
import TemporalTagger.Proofs.Language.Bundled
import TemporalTagger.Proofs.Rule.Constraints
import TemporalTagger.Proofs.Rule.Spaces
import TemporalTagger.Proofs.Spacing
import TemporalTagger.Proofs.Context.Dependence
import TemporalTagger.Proofs.Metrics
import TemporalTagger.Proofs.Supply
import TemporalTagger.Proofs.Relocation
import TemporalTagger.Proofs.Sums
import TemporalTagger.Proofs.Categories
import TemporalTagger.Proofs.Repository
import TemporalTagger.Proofs.CommandLine
import TemporalTagger.Proofs.Resource.Normalization
import TemporalTagger.Proofs.Resource.Variables
