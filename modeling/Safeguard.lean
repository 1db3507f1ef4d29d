import Safeguard.Number.Reading
import Safeguard.Text.Blank
import Safeguard.Text.Alphanumeric
import Safeguard.Breaker.Session
import Safeguard.Bulkhead
import Safeguard.Signal.Sample
import Safeguard.Fixture.Flaky
import Safeguard.Fixture.Occupancy
import Safeguard.Activity
import Safeguard.Registry.Directory
import Safeguard.World
import Safeguard.Script
import Safeguard.Orchestrator
import Safeguard.Floor.History
import Safeguard.Document.Spans
import Safeguard.Site
import Safeguard.Proofs.BreakerCooldown
import Safeguard.Proofs.BreakerSimulation
import Safeguard.Proofs.BreakerProbes
import Safeguard.Proofs.BreakerSignals
import Safeguard.Proofs.BreakerRecovery
import Safeguard.Proofs.BreakerRenewal
import Safeguard.Proofs.BreakerTotals
import Safeguard.Proofs.RetryCorrect
import Safeguard.Proofs.FloorMoments
import Safeguard.Proofs.BulkheadPermit
import Safeguard.Proofs.PermitBalance
import Safeguard.Proofs.LayerResolution
import Safeguard.Proofs.WorldLasting
import Safeguard.Proofs.CallProgress
import Safeguard.Proofs.OrchestratedResult
import Safeguard.Proofs.ConcurrencyCap
import Safeguard.Proofs.RetryAgreement
import Safeguard.Proofs.CallStory
import Safeguard.Proofs.CutShortCall
import Safeguard.Proofs.RefusedCall
import Safeguard.Proofs.CallLatency
import Safeguard.Proofs.CallMirror
import Safeguard.Proofs.NameIsolation
import Safeguard.Proofs.BinaryPower
import Safeguard.Proofs.BackoffGrowth
import Safeguard.Proofs.BackoffFormula
import Safeguard.Proofs.NoInitialDelay
import Safeguard.Proofs.SettingsPolicies
import Safeguard.Proofs.DeadlineModes
import Safeguard.Proofs.RetryCutOff
import Safeguard.Proofs.RetriedBreaker
import Safeguard.Proofs.RegistryHistory
import Safeguard.Proofs.FaultCauses
import Safeguard.Proofs.PredicateLayers
import Safeguard.Proofs.SettingsAgreement
import Safeguard.Proofs.SettingsSaved
import Safeguard.Proofs.SettingsPrecedence
import Safeguard.Proofs.FaultyEnvFile
import Safeguard.Proofs.BreakersReset
